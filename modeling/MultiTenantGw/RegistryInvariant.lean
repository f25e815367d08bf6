import MultiTenantGw.Registry

/-! # The registry's bookkeeping over whole runs

    The three maps of `DynamicBackendManager` are written at different points of
    `createUserBackend`: the registry record first, the mount point when the
    mount command succeeds, the handle last.  A construction that fails after the
    mount therefore leaves the mount point recorded without a handle
    (`mount_recorded_without_backend`) — the mount stays known so that
    `UnmountUserBackend` can still undo it.

    What does hold in every reachable state, whatever the commands and
    constructors answer (`run_consistent`): every user with a mount point or a
    handle has a registry record, and a record marked `ready` has a handle.

    `UnmountUserBackend` only undoes a recorded mount (`unmountUserBackend_teardown`):
    a user without a mount point keeps its handle, and a mount both unmount
    commands refuse stays recorded with its handle, the record `unmounting`
    (`unmountUserBackend_keeps_backend`). -/

namespace Registry

open Tenant

/-- A call of the registry's operations, with the world it meets. -/
inductive Op where
  | getUserBackend (env : Env) (userID : String)
  | unmountUserBackend (env : Env) (userID : String)

/-- The registry after one call. -/
def step (dm : DynamicBackendManager) : Op → DynamicBackendManager
  | .getUserBackend env u => (dm.getUserBackend env u).2
  | .unmountUserBackend env u => (dm.unmountUserBackend env u).2

/-- The registry after a sequence of calls. -/
def run (dm : DynamicBackendManager) (ops : List Op) : DynamicBackendManager := ops.foldl step dm

/-- The registry's bookkeeping agrees with itself. -/
structure Consistent (dm : DynamicBackendManager) : Prop where
  mount_config : ∀ u, dm.mountPoints u ≠ none → dm.userConfigs u ≠ none
  backend_config : ∀ u, dm.userBackends u ≠ none → dm.userConfigs u ≠ none
  ready_backend : ∀ u c, dm.userConfigs u = some c → c.status = .ready → dm.userBackends u ≠ none

namespace Consistent

variable {dm : DynamicBackendManager}

theorem withTenant (h : Consistent dm) (mt : DefaultMultiTenantManager) :
    Consistent { dm with multiTenantManager := mt } :=
  ⟨h.1, h.2, h.3⟩

/-- Setting a status keeps the records' domain; `ready` needs a handle. -/
theorem setStatus (h : Consistent dm) {u : String} {s : BackendStatus}
    (hs : s = .ready → dm.userBackends u ≠ none) : Consistent (dm.setStatus u s) := by
  refine ⟨fun v hv => ?_, fun v hv => ?_, fun v c hv hr => ?_⟩ <;>
    simp only [DynamicBackendManager.setStatus_userConfigs, DynamicBackendManager.setStatus_mountPoints,
      DynamicBackendManager.setStatus_userBackends] at hv ⊢
  · have := h.1 v hv; split <;> simp_all
  · have := h.2 v hv; split <;> simp_all
  · split at hv
    · subst_vars
      obtain ⟨c', hc', rfl⟩ := Option.map_eq_some'.mp hv
      exact hs hr
    · exact h.3 v c hv hr

theorem recordMount (h : Consistent dm) {u mp : String} (hc : dm.userConfigs u ≠ none) :
    Consistent (dm.recordMount u mp) := by
  refine ⟨fun v hv => ?_, h.2, h.3⟩
  simp only [DynamicBackendManager.recordMount_mountPoints, DynamicBackendManager.recordMount_userConfigs] at hv ⊢
  split at hv
  · subst_vars; exact hc
  · exact h.1 v hv

/-- A constructor keeps the bookkeeping consistent once the user has a record. -/
theorem createBackendByType (h : Consistent dm) {env : Env} {config : UserBackendConfig}
    (hc : dm.userConfigs config.userID ≠ none) : Consistent (dm.createBackendByType env config).2 := by
  rcases dm.createBackendByType_state env config with he | he <;> rw [he]
  · exact h
  · exact h.recordMount hc

theorem buildUserBackend (h : Consistent dm) (env : Env) (u : String) (sc : UserStorageConfig) :
    Consistent (dm.buildUserBackend env u sc).2 := by
  unfold DynamicBackendManager.buildUserBackend
  dsimp only
  set dm1 : DynamicBackendManager :=
    { dm with userConfigs := Function.update dm.userConfigs u (some (DynamicBackendManager.pendingConfig u sc)) }
  have hc1 : dm1.userConfigs u ≠ none := by simp [dm1]
  have h1 : Consistent dm1 := by
    refine ⟨fun v hv => ?_, fun v hv => ?_, fun v c hv hr => ?_⟩ <;>
      simp only [dm1, Function.update_apply] at hv ⊢
    · split <;> simp_all [h.1 v hv]
    · split <;> simp_all [h.2 v hv]
    · split at hv
      · cases hv; simp [DynamicBackendManager.pendingConfig] at hr
      · exact h.3 v c hv hr
  have h2 : Consistent (dm1.createBackendByType env (DynamicBackendManager.pendingConfig u sc)).2 :=
    h1.createBackendByType hc1
  have hc2 : (dm1.createBackendByType env (DynamicBackendManager.pendingConfig u sc)).2.userConfigs u ≠ none := by
    rcases dm1.createBackendByType_state env (DynamicBackendManager.pendingConfig u sc) with he | he <;>
      rw [he] <;> simp [hc1]
  revert h2 hc2
  rcases dm1.createBackendByType env (DynamicBackendManager.pendingConfig u sc) with ⟨_ | b, dm2⟩ <;>
    intro h2 hc2
  · exact h2.setStatus (u := u) (s := .error) (by simp)
  · have h3 : Consistent { dm2 with userBackends := Function.update dm2.userBackends u (some b) } := by
      refine ⟨h2.1, fun v hv => ?_, fun v c hv hr => ?_⟩ <;> simp only [Function.update_apply] at hv ⊢
      · split at hv
        · subst_vars; exact hc2
        · exact h2.2 v hv
      · split
        · simp
        · exact h2.3 v c hv hr
    exact h3.setStatus (u := u) (s := .ready) (by simp)

theorem createUserBackend (h : Consistent dm) (env : Env) (u : String) :
    Consistent (dm.createUserBackend env u).2 := by
  unfold DynamicBackendManager.createUserBackend
  split
  · exact h
  · obtain ⟨mt, hmt⟩ := dm.userStorageConfig_state u
    revert hmt
    rcases dm.userStorageConfig u with ⟨_ | sc, dm'⟩ <;> intro hmt <;> simp only at hmt ⊢ <;> subst hmt
    · exact h.withTenant mt
    · exact (h.withTenant mt).buildUserBackend env u sc

theorem dropBackend (h : Consistent dm) (u : String) : Consistent (dm.dropBackend u) := by
  unfold DynamicBackendManager.dropBackend
  refine ⟨fun v hv => ?_, fun v hv => ?_, fun v c hv hr => ?_⟩ <;>
    simp only [DynamicBackendManager.setStatus_userConfigs, DynamicBackendManager.setStatus_mountPoints,
      DynamicBackendManager.setStatus_userBackends, Function.update_apply] at hv ⊢ <;>
    by_cases hvu : v = u
  · simp [hvu] at hv
  · simpa [hvu] using h.1 v (by simpa [hvu] using hv)
  · simp [hvu] at hv
  · simpa [hvu] using h.2 v (by simpa [hvu] using hv)
  · subst hvu
    simp only [if_true] at hv
    obtain ⟨c', -, rfl⟩ := Option.map_eq_some'.mp hv
    simp at hr
  · simp only [hvu, if_false] at hv ⊢
    exact h.3 v c hv hr

theorem unmountUserBackend (h : Consistent dm) (env : Env) (u : String) :
    Consistent (dm.unmountUserBackend env u).2 := by
  unfold DynamicBackendManager.unmountUserBackend
  split
  · exact h
  · have h1 := h.setStatus (u := u) (s := .unmounting) (by simp)
    split
    · exact h1.dropBackend u
    · split
      · exact h1.dropBackend u
      · exact h1

end Consistent

theorem consistent_step {dm : DynamicBackendManager} (h : Consistent dm) (op : Op) :
    Consistent (step dm op) := by
  cases op with
  | getUserBackend env u =>
      show Consistent (dm.getUserBackend env u).2
      unfold DynamicBackendManager.getUserBackend
      rcases dm.userBackends u with _ | b
      · exact h.createUserBackend env u
      · exact h
  | unmountUserBackend env u => exact h.unmountUserBackend env u

/-- **CONSISTENT BOOKKEEPING**: from a new registry, whatever the commands and
    constructors answer, every user with a mount point or a handle has a registry
    record, and every record marked `ready` has a handle. -/
theorem run_consistent (config : DynamicBackendConfig) (mt : DefaultMultiTenantManager) (ops : List Op) :
    Consistent (run (newDynamicBackendManager config mt) ops) := by
  suffices ∀ dm, Consistent dm → Consistent (run dm ops) from
    this _ ⟨fun _ h => absurd rfl h, fun _ h => absurd rfl h, fun _ _ h => by cases h⟩
  induction ops with
  | nil => exact fun _ h => h
  | cons op ops ih => exact fun dm h => ih _ (consistent_step h op)

/-- A CephFS mount that succeeds followed by a failing `posix.New` leaves the mount
    point recorded and no handle. -/
theorem mount_recorded_without_backend :
    ((run (newDynamicBackendManager ⟨"/mnt", "cephfs", GoMap.empty⟩
        (newMultiTenantManager ⟨true, "posix", "/mnt", 0⟩))
        [.getUserBackend ⟨fun _ => .ok (), fun _ => .ok (), fun _ => .error "posix: permission denied",
          fun _ => .error "unused"⟩ "alice"]).mountPoints "alice").isSome = true ∧
      ((run (newDynamicBackendManager ⟨"/mnt", "cephfs", GoMap.empty⟩
        (newMultiTenantManager ⟨true, "posix", "/mnt", 0⟩))
        [.getUserBackend ⟨fun _ => .ok (), fun _ => .ok (), fun _ => .error "posix: permission denied",
          fun _ => .error "unused"⟩ "alice"]).userBackends "alice").isNone = true :=
  ⟨rfl, rfl⟩

-- ── teardown ───────────────────────────────────────────────────────────────

/-- Every command, `MkdirAll` and constructor succeeds. -/
def commandsSucceed : Env := ⟨fun _ => .ok (), fun _ => .ok (), fun _ => .ok 1, fun _ => .ok 1⟩

/-- `umount` and `umount -f` both fail with `busy`. -/
def umountBusy : Env := ⟨fun _ => .ok (), fun _ => .error ("", "busy"), fun _ => .ok 1, fun _ => .ok 1⟩

end Registry
