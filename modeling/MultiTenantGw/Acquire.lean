import MultiTenantGw.Registry

/-! # Concurrent `GetUserBackend` calls on one user

    `GetUserBackend` is two critical sections: a lookup under the read lock and,
    on a miss, `createUserBackend` under the write lock, which looks again before
    building.  Each call is a thread with a program counter (`Pc`); a schedule
    picks which thread takes its next atomic step, and the world it meets.  The
    ghost log `built` records the outcome of every construction
    (`createBackendByType` run for the user).

    The second look catches a handle a racing caller stored, but not a failure:
    a failed construction stores no handle, so every caller that was waiting on
    the lock builds again, and two callers can end with an error and a handle
    (`acquire_retry_after_failure`).  What the double check does guarantee, over
    every interleaving and every outcome (`acquire_single_success`): no
    construction follows a successful one, and every caller that gets a handle
    gets the same one.

    **Linearizability** (`acquire_linearizable`): each call takes effect at one
    atomic step, a lookup that hits or the locked `createUserBackend`, and
    `createUserBackend` is the whole of `GetUserBackend`, since it looks again
    first.  So every run is a sequential one: the calls that have returned, in the
    order of those steps and with the worlds they met there, run one after another
    from the first registry, get the answers they got and leave the registry the
    run leaves. -/

namespace Registry

open Tenant

/-- Where one `GetUserBackend` call is. -/
inductive Pc where
  /-- About to look up the handle under the read lock. -/
  | lookup
  /-- Missed; about to run `createUserBackend` under the write lock. -/
  | create
  /-- Returned. -/
  | done (r : Except String Backend)

/-- Concurrent callers of `GetUserBackend` for one user. -/
structure Acquirers where
  dm : DynamicBackendManager
  threads : List Pc
  built : List (Except String Backend)

/-- Whether `createUserBackend` gets as far as running the constructor. -/
def constructs (dm : DynamicBackendManager) (u : String) : Bool :=
  (dm.userBackends u).isNone && (dm.userStorageConfig u).1.toBool

namespace Acquirers

/-- Thread `i` takes one atomic step, meeting the world `env`. -/
def step (u : String) (s : Acquirers) (i : Nat) (env : Env) : Acquirers :=
  match s.threads[i]? with
  | some .lookup =>
      match s.dm.userBackends u with
      | some b => { s with threads := s.threads.set i (.done (.ok b)) }
      | none => { s with threads := s.threads.set i .create }
  | some .create =>
      let res := s.dm.createUserBackend env u
      { dm := res.2
        threads := s.threads.set i (.done res.1)
        built := if constructs s.dm u then s.built ++ [res.1] else s.built }
  | _ => s

/-- A schedule run from a state. -/
def run (u : String) (s : Acquirers) (sched : List (Nat × Env)) : Acquirers :=
  sched.foldl (fun s p => s.step u p.1 p.2) s

/-- `n` calls that have all begun, over the registry `dm`. -/
def init (dm : DynamicBackendManager) (n : Nat) : Acquirers := ⟨dm, List.replicate n .lookup, []⟩

end Acquirers

/-- No outcome follows a successful one. -/
def OkLast (l : List (Except String Backend)) : Prop :=
  ∀ pre r post, l = pre ++ r :: post → r.toBool = true → post = []

theorem okLast_append {l : List (Except String Backend)} (h : ∀ r ∈ l, r.toBool = false)
    (x : Except String Backend) : OkLast (l ++ [x]) := by
  intro pre r post hl hr
  rcases List.eq_nil_or_concat post with rfl | ⟨post', y, rfl⟩
  · rfl
  · have hl' : l ++ [x] = (pre ++ r :: post') ++ [y] := by simpa using hl
    have hmem : r ∈ l := by rw [(List.append_inj' hl' rfl).1]; simp
    simp [h r hmem] at hr

/-- The invariant of concurrent acquisition: every handle a caller returned and
    every successful construction is the stored handle, and no construction
    follows a successful one. -/
structure AcqInv (u : String) (s : Acquirers) : Prop where
  threads_ok : ∀ b, Pc.done (.ok b) ∈ s.threads → s.dm.userBackends u = some b
  built_ok : ∀ b, .ok b ∈ s.built → s.dm.userBackends u = some b
  ok_last : OkLast s.built

/-- Without a stored handle nothing has succeeded yet. -/
theorem AcqInv.none_ok {u : String} {s : Acquirers} (h : AcqInv u s) (hn : s.dm.userBackends u = none) :
    (∀ b, Pc.done (.ok b) ∉ s.threads) ∧ ∀ r ∈ s.built, r.toBool = false := by
  refine ⟨fun b hb => by simpa [hn] using h.threads_ok b hb, fun r hr => ?_⟩
  rcases r with e | b
  · rfl
  · simpa [hn] using h.built_ok b hr

/-- Setting one thread's counter keeps every returned handle the stored one, when
    the new counter's handle is. -/
theorem threads_ok_set {u : String} {dm : DynamicBackendManager} {threads : List Pc}
    (h : ∀ b, Pc.done (.ok b) ∈ threads → dm.userBackends u = some b) (i : Nat) {p : Pc}
    (hp : ∀ b, p = .done (.ok b) → dm.userBackends u = some b) :
    ∀ b, Pc.done (.ok b) ∈ threads.set i p → dm.userBackends u = some b := fun b hb =>
  (List.mem_or_eq_of_mem_set hb).elim (h b) (fun e => hp b e.symm)

theorem AcqInv.step {u : String} {s : Acquirers} (h : AcqInv u s) (i : Nat) (env : Env) :
    AcqInv u (s.step u i env) := by
  unfold Acquirers.step
  split
  · split
    · rename_i b hb
      exact ⟨threads_ok_set h.threads_ok i (fun _ e => by cases e; exact hb), h.built_ok, h.ok_last⟩
    · exact ⟨threads_ok_set h.threads_ok i (fun _ e => by cases e), h.built_ok, h.ok_last⟩
  · rcases hb : s.dm.userBackends u with _ | b
    · obtain ⟨hthreads, hbuilt⟩ := h.none_ok hb
      have hstore := s.dm.createUserBackend_userBackends hb env
      have hnot : ∀ b', Except.ok b' ∉ s.built := fun b' hm => absurd (hbuilt _ hm) (by simp [Except.toBool])
      refine ⟨threads_ok_set (fun b' hb' => absurd hb' (hthreads b')) i (fun b' e => ?_), fun b' hb' => ?_, ?_⟩
      · show (s.dm.createUserBackend env u).2.userBackends u = some b'
        rw [hstore, Pc.done.inj e]; rfl
      · show (s.dm.createUserBackend env u).2.userBackends u = some b'
        by_cases hc : constructs s.dm u
        · simp only [hc, if_true] at hb'
          rcases List.mem_append.mp hb' with hb' | hb'
          · exact absurd hb' (hnot b')
          · rw [hstore, ← List.mem_singleton.mp hb']; rfl
        · simp only [hc] at hb'
          exact absurd hb' (hnot b')
      · show OkLast (if constructs s.dm u then _ else _)
        split
        · exact okLast_append hbuilt _
        · exact h.ok_last
    · have hhit := s.dm.createUserBackend_hit hb env
      have hc : constructs s.dm u = false := by simp [constructs, hb]
      show AcqInv u ⟨(s.dm.createUserBackend env u).2, s.threads.set i (.done (s.dm.createUserBackend env u).1),
        if constructs s.dm u then _ else s.built⟩
      simp only [hhit, hc]
      exact ⟨threads_ok_set h.threads_ok i (fun _ e => by cases e; exact hb), h.built_ok, h.ok_last⟩
  · exact h

theorem AcqInv.run {u : String} {s : Acquirers} (h : AcqInv u s) (sched : List (Nat × Env)) :
    AcqInv u (s.run u sched) := by
  induction sched generalizing s with
  | nil => exact h
  | cons p sched ih => exact ih (h.step p.1 p.2)

/-- **ONE SUCCESS**: over every interleaving of `n` concurrent `GetUserBackend(u)`
    calls and every outcome of the mounts and constructors, no construction
    follows a successful one, and every call that returned a handle returned the
    same handle. -/
theorem acquire_single_success (dm : DynamicBackendManager) (n : Nat) (u : String)
    (sched : List (Nat × Env)) :
    OkLast ((Acquirers.init dm n).run u sched).built ∧
      ∀ b b', Pc.done (.ok b) ∈ ((Acquirers.init dm n).run u sched).threads →
        Pc.done (.ok b') ∈ ((Acquirers.init dm n).run u sched).threads → b = b' := by
  have h : AcqInv u (Acquirers.init dm n) :=
    ⟨fun b hb => by simp [Acquirers.init] at hb, fun b hb => by simp [Acquirers.init] at hb,
      fun pre r post hl => by simp [Acquirers.init] at hl⟩
  have hr := h.run sched
  refine ⟨hr.ok_last, fun b b' hb hb' => ?_⟩
  have := (hr.threads_ok b hb).symm.trans (hr.threads_ok b' hb')
  exact Option.some.inj this

/-- A world where every call succeeds; `posix.New` returns handle `7`. -/
def okEnv : Env := ⟨fun _ => .ok (), fun _ => .ok (), fun _ => .ok 7, fun _ => .ok 8⟩

/-- A world where `os.MkdirAll` fails. -/
def mkdirFailEnv : Env :=
  ⟨fun _ => .error "mkdir: read-only file system", fun _ => .ok (), fun _ => .ok 7, fun _ => .ok 8⟩

/-- Two callers miss; the first construction fails, so the second caller builds
    again and succeeds: two constructions, one error and one handle. -/
theorem acquire_retry_after_failure :
    (((Acquirers.init (newDynamicBackendManager ⟨"/mnt", "posix", GoMap.empty⟩
        (newMultiTenantManager ⟨true, "posix", "/mnt", 0⟩)) 2).run "alice"
        [(0, okEnv), (1, okEnv), (0, mkdirFailEnv), (1, okEnv)]).built.map Except.toBool = [false, true]) ∧
      ((Acquirers.init (newDynamicBackendManager ⟨"/mnt", "posix", GoMap.empty⟩
        (newMultiTenantManager ⟨true, "posix", "/mnt", 0⟩)) 2).run "alice"
        [(0, okEnv), (1, okEnv), (0, mkdirFailEnv), (1, okEnv)]).threads =
        [.done (.error ("failed to create backend for user alice: failed to create mount point: " ++
          "mkdir: read-only file system")), .done (.ok (.posix 7 "/mnt/users/alice/storage"))] :=
  ⟨rfl, rfl⟩

-- ── linearizability ───────────────────────────────────────────────────────

/-- `GetUserBackend(u)` calls run one after another from `dm`, each meeting its
    world: the registry at the end and the answers in order. -/
def replay (u : String) : DynamicBackendManager → List Env → DynamicBackendManager × List (Except String Backend)
  | dm, [] => (dm, [])
  | dm, env :: envs =>
      let r := dm.getUserBackend env u
      let rest := replay u r.2 envs
      (rest.1, r.1 :: rest.2)

theorem replay_append (u : String) (dm : DynamicBackendManager) (envs : List Env) (env : Env) :
    replay u dm (envs ++ [env]) =
      (((replay u dm envs).1.getUserBackend env u).2,
        (replay u dm envs).2 ++ [((replay u dm envs).1.getUserBackend env u).1]) := by
  induction envs generalizing dm with
  | nil => rfl
  | cons e envs ih => simp [replay, ih]

/-- `createUserBackend` is the whole of `GetUserBackend`: it looks again first. -/
theorem createUserBackend_eq_getUserBackend (dm : DynamicBackendManager) (env : Env) (u : String) :
    dm.createUserBackend env u = dm.getUserBackend env u := by
  unfold DynamicBackendManager.getUserBackend
  split
  · exact dm.createUserBackend_hit ‹_› env
  · rfl

theorem getElem?_set_of_some {l : List Pc} {i j : Nat} {p q : Pc} (hi : l[i]? = some q) :
    (l.set i p)[j]? = if j = i then some p else l[j]? := by
  obtain ⟨hlt, -⟩ := List.getElem?_eq_some_iff.1 hi
  rw [List.getElem?_set]
  by_cases hj : j = i
  · subst hj
    simp [hlt]
  · simp [hj, Ne.symm hj]

/-- The calls that have returned, each with the world it met at the step where it took
    effect and its answer, in the order of those steps: run one after another from
    `dm0`, they give those answers and leave the registry `s` holds. -/
structure Lin (u : String) (dm0 : DynamicBackendManager) (s : Acquirers)
    (hist : List (Nat × Env × Except String Backend)) : Prop where
  nodup : (hist.map Prod.fst).Nodup
  sequential : replay u dm0 (hist.map (·.2.1)) = (s.dm, hist.map (·.2.2))
  returned : ∀ i r, s.threads[i]? = some (.done r) ↔ (i, r) ∈ hist.map fun x => (x.1, x.2.2)

namespace Lin

variable {u : String} {dm0 : DynamicBackendManager} {s : Acquirers}
  {hist : List (Nat × Env × Except String Backend)}

/-- A call that has not returned has taken no effect. -/
theorem not_mem (h : Lin u dm0 s hist) {i : Nat} {p : Pc} (hi : s.threads[i]? = some p)
    (hp : ∀ r, p ≠ .done r) : ∀ r, (i, r) ∉ hist.map fun x => (x.1, x.2.2) := by
  intro r hm
  have := (h.returned i r).2 hm
  rw [hi] at this
  exact hp r (Option.some.inj this)

/-- A call moves on without returning: the history stays. -/
theorem wait (h : Lin u dm0 s hist) {i : Nat} {p : Pc} (hi : s.threads[i]? = some p) (hp : ∀ r, p ≠ .done r)
    {q : Pc} (hq : ∀ r, q ≠ .done r) : Lin u dm0 { s with threads := s.threads.set i q } hist := by
  refine ⟨h.nodup, h.sequential, fun j r => ?_⟩
  simp only [getElem?_set_of_some hi]
  split
  · subst_vars
    exact ⟨fun e => absurd (Option.some.inj e) (hq r), fun hm => absurd hm (h.not_mem hi hp r)⟩
  · exact h.returned j r

/-- A call returns what a sequential `GetUserBackend` on the current registry returns,
    and leaves the registry that call leaves: the history gains it. -/
theorem call (h : Lin u dm0 s hist) {i : Nat} {p : Pc} (hi : s.threads[i]? = some p) (hp : ∀ r, p ≠ .done r)
    (env : Env) (built : List (Except String Backend)) :
    Lin u dm0 ⟨(s.dm.getUserBackend env u).2, s.threads.set i (.done (s.dm.getUserBackend env u).1), built⟩
      (hist ++ [(i, env, (s.dm.getUserBackend env u).1)]) := by
  have hnot : i ∉ hist.map Prod.fst := fun hm => by
    obtain ⟨x, hx, rfl⟩ := List.mem_map.1 hm
    exact h.not_mem hi hp x.2.2 (List.mem_map.2 ⟨x, hx, rfl⟩)
  refine ⟨?_, ?_, fun j r => ?_⟩
  · simp only [List.map_append, List.map_cons, List.map_nil]
    refine List.pairwise_append.2 ⟨h.nodup, List.pairwise_singleton _ _, fun a ha b hb => ?_⟩
    rw [List.mem_singleton.1 hb]
    exact fun e => hnot (e ▸ ha)
  · simp only [List.map_append, List.map_cons, List.map_nil]
    rw [replay_append, h.sequential]
  · simp only [getElem?_set_of_some hi, List.map_append, List.mem_append, List.map_cons, List.map_nil,
      List.mem_singleton, Prod.mk.injEq]
    split
    · subst_vars
      refine ⟨fun e => .inr ⟨rfl, (Pc.done.inj (Option.some.inj e)).symm⟩, ?_⟩
      rintro (hm | ⟨-, rfl⟩)
      · exact absurd hm (h.not_mem hi hp r)
      · rfl
    · rw [h.returned j r]
      simp [*]

theorem step (h : Lin u dm0 s hist) (i : Nat) (env : Env) : ∃ hist', Lin u dm0 (s.step u i env) hist' := by
  unfold Acquirers.step
  split
  · rename_i hi
    split
    · -- a lookup that hits is a sequential call that changes nothing
      rename_i b hb
      have hg : s.dm.getUserBackend env u = (.ok b, s.dm) := by simp [DynamicBackendManager.getUserBackend, hb]
      have := h.call hi nofun env s.built
      rw [hg] at this
      exact ⟨_, this⟩
    · exact ⟨hist, h.wait hi nofun nofun⟩
  · rename_i hi
    have := h.call hi nofun env
      (if constructs s.dm u then s.built ++ [(s.dm.createUserBackend env u).1] else s.built)
    rw [← createUserBackend_eq_getUserBackend] at this
    exact ⟨_, this⟩
  · exact ⟨hist, h⟩

theorem run (h : Lin u dm0 s hist) (sched : List (Nat × Env)) : ∃ hist', Lin u dm0 (s.run u sched) hist' := by
  induction sched generalizing s hist with
  | nil => exact ⟨hist, h⟩
  | cons p sched ih =>
      obtain ⟨hist', h'⟩ := h.step p.1 p.2
      exact ih h'

end Lin

/-- **LINEARIZABLE**: for every number of concurrent `GetUserBackend(u)` calls, every
    schedule and every answer of the world at each step, the run is a sequential one.
    The calls that have returned, each at the step where it took effect with the world
    it met there, called one after another from the first registry, get the answers
    they got and leave the registry the run leaves; the calls still running have taken
    no effect. -/
theorem acquire_linearizable (dm : DynamicBackendManager) (n : Nat) (u : String) (sched : List (Nat × Env)) :
    ∃ hist : List (Nat × Env × Except String Backend), (hist.map Prod.fst).Nodup ∧
      replay u dm (hist.map (·.2.1)) = (((Acquirers.init dm n).run u sched).dm, hist.map (·.2.2)) ∧
      ∀ i r, ((Acquirers.init dm n).run u sched).threads[i]? = some (.done r) ↔
        (i, r) ∈ hist.map fun x => (x.1, x.2.2) := by
  have h0 : Lin u dm (Acquirers.init dm n) [] :=
    ⟨List.nodup_nil, rfl, fun i r => by simp [Acquirers.init, List.getElem?_replicate]⟩
  obtain ⟨hist, h⟩ := h0.run sched
  exact ⟨hist, h.nodup, h.sequential, h.returned⟩

end Registry
