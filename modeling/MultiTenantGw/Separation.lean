import MultiTenantGw.Gateway
import MultiTenantGw.RegistryInvariant
import MultiTenantGw.TenantRecords

/-! # Tenants are separate

    Every call of the record-level tenant manager and of the backend registry is made
    for one user.  It reads and writes only that user's entries of the maps the
    managers keep, beside the configuration all users share, which no call changes.
    A state's `view` of a user is those entries and that configuration, and the
    argument has two halves (`Separates`):

    1. **Frame.**  A call for `u` leaves every other user's view as it was.
    2. **Locality.**  A call for `u` made on two states with the same view of `u`
       returns the same answer and leaves them with the same view of `u`.

    From the two, by one induction over the calls (`Separates.run`): in every
    interleaving of every user's calls, each user's view at the end, and each
    answer a user gets, are those of the run of that user's calls alone
    (`records_separate`).  The manager of the source keeps pointers, which two users
    may share; `Tenant.Heap` carries the separation over to it for callers that
    allocate the record they pass.

    The frame half also gives the registry's cache of handles: once `GetUserBackend`
    has returned a handle for `u`, no call but an `UnmountUserBackend` for `u` drops
    it, so every later `GetUserBackend` for `u` is a hit that returns the same handle
    and changes nothing (`getUserBackend_cached`). -/

namespace Tenant

-- ── a state machine whose calls are each for one user ─────────────────────

section Separation

variable {S O A V : Type} (step : S → O → S) (answer : S → O → A) (user : O → String)
  (view : S → String → V)

/-- The answers of a run, one per call. -/
def answers (s : S) : List O → List A
  | [] => []
  | o :: os => answer s o :: answers (step s o) os

/-- Each call reads and writes only its user's view. -/
structure Separates : Prop where
  frame : ∀ s o v, v ≠ user o → view (step s o) v = view s v
  locality : ∀ s t o, view s (user o) = view t (user o) →
    answer s o = answer t o ∧ view (step s o) (user o) = view (step t o) (user o)

variable {step answer user view}

/-- Runs from two states with the same view of `k`: the run of every call, and the
    run of `k`'s calls alone, end with the same view of `k`, and give `k`'s calls
    the same answers. -/
theorem Separates.run (h : Separates step answer user view) (k : String) :
    ∀ (ops : List O) {s t : S}, view s k = view t k →
      view (ops.foldl step s) k = view ((ops.filter (user · == k)).foldl step t) k ∧
        ((ops.zip (answers step answer s ops)).filter (user ·.1 == k)).map Prod.snd =
          answers step answer t (ops.filter (user · == k))
  | [], _, _, hst => ⟨hst, rfl⟩
  | o :: ops, s, t, hst => by
      by_cases ho : user o = k
      · subst ho
        obtain ⟨ha, hs⟩ := h.locality s t o hst
        obtain ⟨hv, hans⟩ := h.run (user o) ops hs
        simp only [List.filter_cons, beq_self_eq_true, ↓reduceIte, List.foldl_cons, answers, List.zip_cons_cons,
          List.map_cons, ha]
        exact ⟨hv, congrArg _ hans⟩
      · obtain ⟨hv, hans⟩ := h.run k ops ((h.frame s o k (Ne.symm ho)).trans hst)
        simpa [List.filter_cons, ho, answers] using ⟨hv, hans⟩

end Separation

-- ── the tenant manager ────────────────────────────────────────────────────

/-- What the tenant manager holds for one user, with the configuration all users
    share. -/
structure UserView where
  record : Option UserStorageConfig
  config : MultiTenantConfig

/-- The manager's view of `u`. -/
def DefaultMultiTenantManager.view (m : DefaultMultiTenantManager) (u : String) : UserView :=
  ⟨m.userConfigs u, m.config⟩

variable {m m' m1 m2 : DefaultMultiTenantManager} {op : Op} {r : Except String Unit}

theorem Effect.frame (he : Effect m op r m') {v : String} (hv : v ≠ op.user) : m'.view v = m.view v := by
  cases he <;> simp_all [DefaultMultiTenantManager.view, Op.user]

/-- A record written for `u` on managers of the same configuration. -/
theorem view_store (hc : m1.config = m2.config) (u : String) (c : UserStorageConfig) :
    (m1.store u c).view u = (m2.store u c).view u := by
  simp [DefaultMultiTenantManager.view, hc]

theorem view_erase (hc : m1.config = m2.config) (u : String) : (m1.erase u).view u = (m2.erase u).view u := by
  simp [DefaultMultiTenantManager.view, hc]

theorem getUserStorageConfig_view {u : String} (h : m1.view u = m2.view u) :
    m1.getUserStorageConfig u = m2.getUserStorageConfig u := by
  have hr : m1.userConfigs u = m2.userConfigs u := congrArg UserView.record h
  simp only [DefaultMultiTenantManager.getUserStorageConfig, hr]

theorem view_apply_ne (m : DefaultMultiTenantManager) (op : Op) {v : String} (hv : v ≠ op.user) :
    (apply m op).2.view v = m.view v :=
  (apply_effect m op).frame hv

/-- `UnmountUserStorage` reads the caller's record, and nothing else. -/
theorem unmountUserStorage_locality {u : String} (h : m1.view u = m2.view u) :
    (m1.unmountUserStorage u).1 = (m2.unmountUserStorage u).1 ∧
      (m1.unmountUserStorage u).2.view u = (m2.unmountUserStorage u).2.view u := by
  have hr : m1.userConfigs u = m2.userConfigs u := congrArg UserView.record h
  simp only [DefaultMultiTenantManager.unmountUserStorage, DefaultMultiTenantManager.getUserStorageConfig, hr]
  repeat' split
  all_goals first | exact ⟨rfl, h⟩ | exact ⟨rfl, view_store (congrArg UserView.config h) _ _⟩

/-- `DeleteUserNamespace` answers what its `UnmountUserStorage` answers, and then
    drops the record. -/
theorem deleteUserNamespace_locality {u : String} (h : m1.view u = m2.view u) :
    (m1.deleteUserNamespace u).1 = (m2.deleteUserNamespace u).1 ∧
      (m1.deleteUserNamespace u).2.view u = (m2.deleteUserNamespace u).2.view u := by
  open DefaultMultiTenantManager in
  refine ⟨?_, by simp only [deleteUserNamespace_snd]; exact view_erase (congrArg UserView.config h) u⟩
  have h1 := (unmountUserStorage_locality h).1
  unfold deleteUserNamespace
  revert h1
  rcases m1.unmountUserStorage u with ⟨_ | _, _⟩ <;> rcases m2.unmountUserStorage u with ⟨_ | _, _⟩ <;> simp
  exact congrArg _

/-- Each operation reads the caller's record and the configuration, and nothing else. -/
theorem apply_locality (op : Op) (h : m1.view op.user = m2.view op.user) :
    (apply m1 op).1 = (apply m2 op).1 ∧ (apply m1 op).2.view op.user = (apply m2 op).2.view op.user := by
  open DefaultMultiTenantManager in
  have hr : m1.userConfigs op.user = m2.userConfigs op.user := congrArg UserView.record h
  have hc : m1.config = m2.config := congrArg UserView.config h
  cases op with
  | deleteUserNamespace u => exact deleteUserNamespace_locality h
  | unmountUserStorage u => exact unmountUserStorage_locality h
  | _ =>
      simp only [Op.user] at hr h ⊢
      simp only [apply, setUserStorageConfig, createUserNamespace, namespaceRecord, defaultRecord, getUserBasePath,
        mountUserStorage, checkQuota, updateUsedSpace, getUserStorageConfig, hr, hc]
      repeat' split
      all_goals first | exact ⟨rfl, h⟩ | exact ⟨rfl, view_store hc _ _⟩ | trivial

theorem tenantManager_separates : Separates step (fun m op => (apply m op).1) Op.user DefaultMultiTenantManager.view :=
  ⟨fun m op _ hv => view_apply_ne m op hv, fun _ _ op h => apply_locality op h⟩

/-- **SEPARATION OF RECORDS**: in every interleaving of calls of every user, each
    user's record at the end, and each answer that user's calls get, are those of the
    run of that user's calls alone. -/
theorem records_separate (m : DefaultMultiTenantManager) (ops : List Op) (u : String) :
    (run m ops).userConfigs u = (run m (ops.filter (·.user == u))).userConfigs u ∧
      ((ops.zip (answers step (fun m op => (apply m op).1) m ops)).filter (·.1.user == u)).map Prod.snd =
        answers step (fun m op => (apply m op).1) m (ops.filter (·.user == u)) :=
  have h := tenantManager_separates.run u ops (rfl : m.view u = m.view u)
  ⟨congrArg UserView.record h.1, h.2⟩

end Tenant

-- ── the registry ──────────────────────────────────────────────────────────

namespace Registry

/-- What the registry and its tenant manager hold for one user, with the
    configuration all users share. -/
structure UserView where
  backend : Option Backend
  record : Option UserBackendConfig
  mountPoint : Option String
  tenant : Tenant.UserView
  baseConfig : DynamicBackendConfig

namespace DynamicBackendManager

/-- The registry's view of `u`. -/
def view (dm : DynamicBackendManager) (u : String) : UserView :=
  ⟨dm.userBackends u, dm.userConfigs u, dm.mountPoints u, dm.multiTenantManager.view u, dm.baseConfig⟩

/-- A registry call for `u`: it changes no other user's view, and on two registries
    with the same view of `u` it returns the same and leaves the same view of `u`. -/
structure Local {α : Type} (u : String) (f : DynamicBackendManager → α × DynamicBackendManager) : Prop where
  frame : ∀ dm v, v ≠ u → (f dm).2.view v = dm.view v
  locality : ∀ dm dm', dm.view u = dm'.view u → (f dm).1 = (f dm').1 ∧ (f dm).2.view u = (f dm').2.view u

theorem view_eq {dm dm' : DynamicBackendManager} {u : String} (h : dm.view u = dm'.view u) :
    dm.userBackends u = dm'.userBackends u ∧ dm.userConfigs u = dm'.userConfigs u ∧
      dm.mountPoints u = dm'.mountPoints u ∧ dm.multiTenantManager.view u = dm'.multiTenantManager.view u ∧
        dm.baseConfig = dm'.baseConfig := by
  simpa [view] using h

/-- The constructors answer the same on every registry, and on every registry either
    leave it as it is or record the mount point. -/
theorem createBackendByType_agree (env : Env) (config : UserBackendConfig) (dm dm' : DynamicBackendManager) :
    ∃ r, ∃ b : Bool,
      dm.createBackendByType env config = (r, if b then dm.recordMount config.userID config.mountPoint else dm) ∧
        dm'.createBackendByType env config =
          (r, if b then dm'.recordMount config.userID config.mountPoint else dm') := by
  have hm : ∀ {α : Type} (kind : String) (zero : α) mount build, ∃ r, ∃ b : Bool,
      dm.createMountedBackend env config kind zero mount build =
          (r, if b then dm.recordMount config.userID config.mountPoint else dm) ∧
        dm'.createMountedBackend env config kind zero mount build =
          (r, if b then dm'.recordMount config.userID config.mountPoint else dm') := by
    intro α kind zero mount build
    unfold createMountedBackend mapToStruct
    dsimp only
    split
    · exact ⟨_, false, rfl, rfl⟩
    · exact ⟨_, true, rfl, rfl⟩
  unfold createBackendByType
  split <;> first | exact ⟨_, false, rfl, rfl⟩ | exact hm _ _ _ _

theorem local_createDefaultUserConfig (u : String) : Local u (·.createDefaultUserConfig u) := by
  constructor
  · intro dm v hv
    unfold createDefaultUserConfig
    split
    · rfl
    · simpa [view] using Tenant.view_apply_ne dm.multiTenantManager (.setUserStorageConfig u _) hv
  · intro dm dm' h
    obtain ⟨hb, hr, hm, ht, hc⟩ := view_eq h
    have hcfg : dm.multiTenantManager.config = dm'.multiTenantManager.config := congrArg Tenant.UserView.config ht
    unfold createDefaultUserConfig
    simp only [Tenant.DefaultMultiTenantManager.getUserBasePath, hcfg, hc]
    split
    · exact ⟨rfl, h⟩
    · obtain ⟨h1, h2⟩ := Tenant.apply_locality (.setUserStorageConfig u (some _)) ht
      exact ⟨h1, by simpa [view, hb, hr, hm, hc] using h2⟩

theorem Local.agree {α : Type} {u : String} {f : DynamicBackendManager → α × DynamicBackendManager}
    (hf : Local u f) {dm dm' : DynamicBackendManager} (h : dm.view u = dm'.view u) :
    ∃ r d d', f dm = (r, d) ∧ f dm' = (r, d') ∧ d.view u = d'.view u :=
  ⟨_, _, _, rfl, by rw [(hf.locality dm dm' h).1], (hf.locality dm dm' h).2⟩

theorem local_userStorageConfig (u : String) : Local u (·.userStorageConfig u) := by
  constructor
  · intro dm v hv
    have hd := (local_createDefaultUserConfig u).frame dm v hv
    unfold userStorageConfig
    split
    · rfl
    · revert hd
      rcases dm.createDefaultUserConfig u with ⟨_ | _, dm'⟩ <;> intro hd
      · exact hd
      · dsimp only; split <;> exact hd
  · intro dm dm' h
    obtain ⟨r, d, d', e, e', hv⟩ := (local_createDefaultUserConfig u).agree h
    unfold userStorageConfig
    rw [Tenant.getUserStorageConfig_view (view_eq h).2.2.2.1, e, e']
    split
    · exact ⟨rfl, h⟩
    · rcases r with _ | _
      · exact ⟨rfl, hv⟩
      · dsimp only
        rw [Tenant.getUserStorageConfig_view (view_eq hv).2.2.2.1]
        split <;> exact ⟨rfl, hv⟩

theorem local_buildUserBackend (env : Env) (u : String) (sc : Tenant.UserStorageConfig) :
    Local u (·.buildUserBackend env u sc) := by
  constructor
  · intro dm v hv
    obtain ⟨r, b, e, -⟩ := createBackendByType_agree env (pendingConfig u sc)
      { dm with userConfigs := Function.update dm.userConfigs u (some (pendingConfig u sc)) } dm
    unfold buildUserBackend
    dsimp only
    rw [e]
    cases r <;> cases b <;> simp [view, hv, pendingConfig, Function.update_apply]
  · intro dm dm' h
    obtain ⟨hb, hr, hm, ht, hc⟩ := view_eq h
    obtain ⟨r, b, e, e'⟩ := createBackendByType_agree env (pendingConfig u sc)
      { dm with userConfigs := Function.update dm.userConfigs u (some (pendingConfig u sc)) }
      { dm' with userConfigs := Function.update dm'.userConfigs u (some (pendingConfig u sc)) }
    unfold buildUserBackend
    dsimp only
    rw [e, e']
    cases r <;> cases b <;> simp [view, hb, hm, ht, hc, pendingConfig]

theorem local_createUserBackend (env : Env) (u : String) : Local u (·.createUserBackend env u) := by
  constructor
  · intro dm v hv
    have hd := (local_userStorageConfig u).frame dm v hv
    unfold createUserBackend
    split
    · rfl
    · revert hd
      rcases dm.userStorageConfig u with ⟨_ | sc, dm'⟩ <;> intro hd
      · exact hd
      · exact ((local_buildUserBackend env u sc).frame dm' v hv).trans hd
  · intro dm dm' h
    obtain ⟨r, d, d', e, e', hv⟩ := (local_userStorageConfig u).agree h
    unfold createUserBackend
    rw [(view_eq h).1, e, e']
    split
    · exact ⟨rfl, h⟩
    · rcases r with _ | sc
      · exact ⟨rfl, hv⟩
      · exact (local_buildUserBackend env u sc).locality d d' hv

theorem local_getUserBackend (env : Env) (u : String) : Local u (·.getUserBackend env u) := by
  constructor
  · intro dm v hv
    unfold getUserBackend
    split
    · rfl
    · exact (local_createUserBackend env u).frame dm v hv
  · intro dm dm' h
    unfold getUserBackend
    rw [(view_eq h).1]
    split
    · exact ⟨rfl, h⟩
    · exact (local_createUserBackend env u).locality dm dm' h

theorem local_unmountUserBackend (env : Env) (u : String) : Local u (·.unmountUserBackend env u) := by
  constructor
  · intro dm v hv
    unfold unmountUserBackend
    split
    · rfl
    · dsimp only
      repeat' split
      all_goals simp [view, hv]
  · intro dm dm' h
    obtain ⟨hb, hr, hm, ht, hc⟩ := view_eq h
    unfold unmountUserBackend
    rw [hm]
    split
    · exact ⟨rfl, h⟩
    · dsimp only
      repeat' split
      all_goals simp [view, hb, hr, hm, ht, hc]

/-- A call of the tenant manager, made through the registry's reference to it. -/
theorem local_tenant (op : Tenant.Op) :
    Local op.user fun dm =>
      ((Tenant.apply dm.multiTenantManager op).1,
        { dm with multiTenantManager := (Tenant.apply dm.multiTenantManager op).2 }) := by
  constructor
  · intro dm v hv
    simpa [view] using Tenant.view_apply_ne dm.multiTenantManager op hv
  · intro dm dm' h
    obtain ⟨hb, hr, hm, ht, hc⟩ := view_eq h
    obtain ⟨h1, h2⟩ := Tenant.apply_locality op ht
    exact ⟨h1, by simp [view, hb, hr, hm, hc, h2]⟩

end DynamicBackendManager

end Registry

-- ── the gateway ───────────────────────────────────────────────────────────

namespace Versitygw

open Registry Registry.DynamicBackendManager Os

/-- The user a gateway call is made for. -/
def Op.user : Op → String
  | .getUserBackend _ u | .unmountUserBackend _ u | .mountUserStorage u | .unmountUserStorage u
  | .deleteUserNamespace u => u

/-- What a gateway call returns: the handle `GetUserBackend` returns, nil for the
    others, or the error. -/
def answer (gw : Gateway) : Op → Except String (Option Backend)
  | .getUserBackend env u => (gw.dm.getUserBackend env u).1.map some
  | .unmountUserBackend env u => (gw.dm.unmountUserBackend env u).1.map fun _ => none
  | .mountUserStorage u => (gw.dm.multiTenantManager.mountUserStorage gw.factory u).1.map fun _ => none
  | .unmountUserStorage u => (gw.dm.multiTenantManager.unmountUserStorage u).1.map fun _ => none
  | .deleteUserNamespace u => (gw.dm.multiTenantManager.deleteUserNamespace u).1.map fun _ => none

/-- The gateway's view of `u`: the registry's, and the config manager the backend
    factory reads. -/
def Gateway.view (gw : Gateway) (u : String) : Registry.UserView × Config.ConfigManager := (gw.dm.view u, gw.cm)

/-- Each gateway call is a registry call local to its user, and answers a function of
    what that call returns; which call it is depends only on the config manager. -/
theorem step_local (cm : Config.ConfigManager) (op : Op) :
    ∃ (α : Type) (f : DynamicBackendManager → α × DynamicBackendManager) (g : α → Except String (Option Backend)),
      Local op.user f ∧ ∀ dm, step ⟨dm, cm⟩ op = ⟨(f dm).2, cm⟩ ∧ answer ⟨dm, cm⟩ op = g (f dm).1 := by
  cases op with
  | getUserBackend env u => exact ⟨_, _, Except.map some, local_getUserBackend env u, fun _ => ⟨rfl, rfl⟩⟩
  | unmountUserBackend env u =>
      exact ⟨_, _, Except.map fun _ => none, local_unmountUserBackend env u, fun _ => ⟨rfl, rfl⟩⟩
  | mountUserStorage u =>
      exact ⟨_, _, Except.map fun _ => none, local_tenant (.mountUserStorage (createBackend cm) u),
        fun _ => ⟨rfl, rfl⟩⟩
  | unmountUserStorage u =>
      exact ⟨_, _, Except.map fun _ => none, local_tenant (.unmountUserStorage u), fun _ => ⟨rfl, rfl⟩⟩
  | deleteUserNamespace u =>
      exact ⟨_, _, Except.map fun _ => none, local_tenant (.deleteUserNamespace u), fun _ => ⟨rfl, rfl⟩⟩

theorem gateway_separates : Tenant.Separates step answer Op.user Gateway.view := by
  constructor
  · rintro ⟨dm, cm⟩ op v hv
    obtain ⟨_, f, _, hf, he⟩ := step_local cm op
    rw [(he dm).1]
    exact Prod.ext (hf.frame dm v hv) rfl
  · rintro ⟨dm, cm⟩ ⟨dm', cm'⟩ op h
    obtain ⟨hd, rfl⟩ := Prod.mk.inj h
    obtain ⟨_, f, g, hf, he⟩ := step_local cm op
    obtain ⟨h1, h2⟩ := hf.locality dm dm' hd
    rw [(he dm).1, (he dm).2, (he dm').1, (he dm').2, h1]
    exact ⟨rfl, Prod.ext h2 rfl⟩

-- ── the handle cache ──────────────────────────────────────────────────────

/-- After a `GetUserBackend` for `u` that returned a handle, `u` holds that handle. -/
theorem getUserBackend_userBackends {dm : DynamicBackendManager} {env : Env} {u : String} {b : Backend}
    (h : (dm.getUserBackend env u).1 = .ok b) : (dm.getUserBackend env u).2.userBackends u = some b := by
  rcases hb : dm.userBackends u with _ | b'
  · rw [getUserBackend, hb] at h ⊢
    rw [createUserBackend_userBackends dm hb env, h]
    rfl
  · simp only [getUserBackend, hb] at h ⊢
    cases h
    rfl

/-- A call other than `UnmountUserBackend` for `u` keeps `u`'s handle. -/
theorem step_keeps_handle {gw : Gateway} {u : String} {b : Backend} (h : gw.dm.userBackends u = some b)
    {op : Op} (hop : ∀ e, op ≠ .unmountUserBackend e u) : (step gw op).dm.userBackends u = some b := by
  by_cases hu : op.user = u
  · cases op with
    | getUserBackend env v =>
        obtain rfl : v = u := hu
        simp [step, getUserBackend, h]
    | unmountUserBackend env v =>
        obtain rfl : v = u := hu
        exact absurd rfl (hop env)
    | mountUserStorage v | unmountUserStorage v | deleteUserNamespace v => exact h
  · rw [← h]
    exact congrArg (·.1.backend) (gateway_separates.frame gw op u (Ne.symm hu))

theorem run_keeps_handle {u : String} {b : Backend} :
    ∀ (ops : List Op) {gw : Gateway}, gw.dm.userBackends u = some b →
      (∀ op ∈ ops, ∀ e, op ≠ .unmountUserBackend e u) → (run gw ops).dm.userBackends u = some b
  | [], _, h, _ => h
  | op :: ops, _, h, hops =>
      run_keeps_handle ops (step_keeps_handle h (hops op (List.mem_cons_self _ _)))
        fun o ho => hops o (List.mem_cons_of_mem _ ho)

/-- **HANDLE CACHE**: once `GetUserBackend` has returned a handle for `u`, after any
    later calls of any users but an `UnmountUserBackend` for `u`, the next
    `GetUserBackend` for `u` returns the same handle and changes nothing, whatever the
    system would answer: it mounts and constructs nothing again. -/
theorem getUserBackend_cached (gw : Gateway) (env : Env) (u : String) (b : Backend)
    (h : (gw.dm.getUserBackend env u).1 = .ok b) (ops : List Op)
    (hops : ∀ op ∈ ops, ∀ e, op ≠ .unmountUserBackend e u) (env' : Env) :
    (run (step gw (.getUserBackend env u)) ops).dm.getUserBackend env' u =
      (.ok b, (run (step gw (.getUserBackend env u)) ops).dm) := by
  have hb := @run_keeps_handle u b ops (step gw (.getUserBackend env u)) (getUserBackend_userBackends h) hops
  simp [getUserBackend, hb]

/-- `getUserBackend_cached` on a first start: `alice`'s handle survives `bob`'s
    provisioning and the deletion of her own namespace, and a later call with
    failing commands still returns it. -/
theorem getUserBackend_cached_first_start :
    ∃ gw, (runMultiTenant allow {} FS.empty).1 = .ok gw ∧
      (gw.dm.getUserBackend commandsSucceed "alice").1 =
        .ok (.posix 1 "/var/lib/versitygw/mounts/users/alice/storage") ∧
      (∀ op ∈ [Op.getUserBackend commandsSucceed "bob", .deleteUserNamespace "alice"],
        ∀ e, op ≠ .unmountUserBackend e "alice") ∧
      (run (step gw (.getUserBackend commandsSucceed "alice"))
          [.getUserBackend commandsSucceed "bob", .deleteUserNamespace "alice"]).dm.getUserBackend umountBusy
          "alice" =
        (.ok (.posix 1 "/var/lib/versitygw/mounts/users/alice/storage"),
          (run (step gw (.getUserBackend commandsSucceed "alice"))
            [.getUserBackend commandsSucceed "bob", .deleteUserNamespace "alice"]).dm) := by
  obtain ⟨gw, hgw⟩ : ∃ gw, (runMultiTenant allow {} FS.empty).1 = .ok gw := ⟨_, rfl⟩
  have h : (gw.dm.getUserBackend commandsSucceed "alice").1 =
      .ok (.posix 1 "/var/lib/versitygw/mounts/users/alice/storage") := by
    cases hgw; rfl
  have hops : ∀ op ∈ [Op.getUserBackend commandsSucceed "bob", .deleteUserNamespace "alice"],
      ∀ e, op ≠ .unmountUserBackend e "alice" := by
    simp
  exact ⟨gw, hgw, h, hops, getUserBackend_cached gw _ _ _ h _ hops _⟩

end Versitygw
