import MultiTenantGw.System
import MultiTenantGw.TenantRecords

/-! # Where each user's storage lives

    Three places write the paths a user's storage is served from.  `CreateAccount`
    stores `<BaseMountPath>/users/<u>`, from the global configuration, as the path of
    the user's storage record (the user's base path when that is empty); the
    registry, for a user with no record, stores `<basePath>/users/<u>/storage`; and
    the registry's constructors copy the recorded path into the user's registry
    record, mount it, and build the handle on it.

    **Roots** (`system_paths_rooted`): from the gateway `runMultiTenant` builds, when
    the global configuration's `BaseMountPath` is the `--base-path` the tenant
    manager was given (their defaults agree), over every interleaving of gateway and
    IAM calls, whatever the world answers, every path the system holds for a user is
    the user's directory `<basePath>/users/<u>` or its `storage` subdirectory: the
    path of its storage record, the mount point of its registry record, its recorded
    mount point, and each directory its handle serves from.

    **Disjoint roots** (`handle_roots_disjoint`): so, for two users whose IDs are
    plain names, no directory one user's handle serves from lies at or below one the
    other user's handle serves from. -/

namespace Registry

open GoPath Tenant

/-- The directories a backend serves objects from: a POSIX backend's root and the
    roots of the backend a Lustre wrapper wraps; an S3 proxy serves none.  `posix.New`
    is outside this repository: a POSIX handle is taken to serve from the root it is
    given, the working directory against which the Lustre wrapper's relative
    `filepath.Join(bucket, key)` resolves. -/
def Backend.roots : Backend → List String
  | .posix _ root => [root]
  | .s3proxy _ => []
  | .lustreEnhanced inner _ => inner.roots

namespace DynamicBackendManager

theorem createPosixBackend_roots {env : Env} {config : UserBackendConfig} {b : Backend}
    (h : createPosixBackend env config = .ok b) : b.roots = [config.mountPoint] := by
  unfold createPosixBackend at h
  split at h
  · cases h
  split at h <;> cases h
  rfl

theorem createLustreEnhancedBackend_roots {env : Env} {config : UserBackendConfig} {lustreConfig : LustreConfig}
    {b : Backend} (h : createLustreEnhancedBackend env config lustreConfig = .ok b) :
    b.roots = [config.mountPoint] := by
  unfold createLustreEnhancedBackend at h
  split at h <;> cases h
  rfl

theorem createMinIOBackend_roots {env : Env} {config : UserBackendConfig} {b : Backend}
    (h : createMinIOBackend env config = .ok b) : b.roots = [] := by
  unfold createMinIOBackend at h
  split at h
  · cases h
  split at h <;> cases h
  rfl

/-- A constructor's handle serves from the mount point it was given, or from nowhere. -/
theorem createBackendByType_roots (dm : DynamicBackendManager) (env : Env) (config : UserBackendConfig) :
    ∀ b, (dm.createBackendByType env config).1 = .ok b → ∀ r ∈ b.roots, r = config.mountPoint := by
  intro b h
  have hm : ∀ {α : Type} (kind : String) (zero : α) mount (build : α → Except String Backend),
      (∀ a, build a = .ok b → b.roots = [config.mountPoint]) →
      (dm.createMountedBackend env config kind zero mount build).1 = .ok b → b.roots = [config.mountPoint] := by
    intro α kind zero mount build hb h
    unfold createMountedBackend at h
    split at h
    · cases h
    split at h
    · cases h
    exact hb _ h
  suffices hr : b.roots = [config.mountPoint] ∨ b.roots = [] by
    rcases hr with hr | hr <;> simp [hr]
  unfold createBackendByType at h
  split at h
  · exact .inl (createPosixBackend_roots h)
  · exact .inl (hm _ _ _ _ (fun _ => createPosixBackend_roots) h)
  · exact .inl (hm _ _ _ _ (fun _ => createPosixBackend_roots) h)
  · exact .inl (hm _ _ _ _ (fun _ => createLustreEnhancedBackend_roots) h)
  · exact .inr (createMinIOBackend_roots h)
  · cases h
  · cases h

variable {dm : DynamicBackendManager}

/-- A registry record after `setStatus` is one the registry had, with its mount point. -/
theorem setStatus_record {u v : String} {s : BackendStatus} {c : UserBackendConfig}
    (h : (dm.setStatus u s).userConfigs v = some c) :
    ∃ c', dm.userConfigs v = some c' ∧ c.mountPoint = c'.mountPoint := by
  rw [setStatus_userConfigs] at h
  split at h
  · subst_vars
    obtain ⟨c', hc', rfl⟩ := Option.map_eq_some'.1 h
    exact ⟨c', hc', rfl⟩
  · exact ⟨c, h, rfl⟩

-- ── the paths the registry holds ──────────────────────────────────────────

/-- Every path the registry holds for a user satisfies `P` for that user: the path of
    its storage record, the mount point of its registry record, its recorded mount
    point and the directories its handle serves from. -/
structure PathsOk (P : String → String → Prop) (dm : DynamicBackendManager) : Prop where
  records : ∀ u c, dm.multiTenantManager.userConfigs u = some c → P u c.storagePath
  pending : ∀ u c, dm.userConfigs u = some c → P u c.mountPoint
  mounts : ∀ u p, dm.mountPoints u = some p → P u p
  handles : ∀ u b, dm.userBackends u = some b → ∀ r ∈ b.roots, P u r

namespace PathsOk

variable {P : String → String → Prop}

theorem setStatus (h : PathsOk P dm) (u : String) (s : BackendStatus) : PathsOk P (dm.setStatus u s) where
  records := by simpa using h.records
  pending v c hc := by
    obtain ⟨c', hc', e⟩ := setStatus_record hc
    rw [e]
    exact h.pending v c' hc'
  mounts := by simpa using h.mounts
  handles := by simpa using h.handles

theorem recordMount (h : PathsOk P dm) {u p : String} (hp : P u p) : PathsOk P (dm.recordMount u p) where
  records := h.records
  pending := h.pending
  mounts v q hq := by
    rw [recordMount_mountPoints] at hq
    split at hq
    · cases hq
      subst_vars
      exact hp
    · exact h.mounts v q hq
  handles := h.handles

theorem dropBackend (h : PathsOk P dm) (u : String) : PathsOk P (dm.dropBackend u) where
  records := by simpa using h.records
  pending v c hc := by
    obtain ⟨c', hc', e⟩ := setStatus_record hc
    rw [e]
    exact h.pending v c' hc'
  mounts v q hq := by
    rw [dropBackend_mountPoints] at hq
    split at hq
    · cases hq
    · exact h.mounts v q hq
  handles v b hb := by
    rw [dropBackend_userBackends] at hb
    split at hb
    · cases hb
    · exact h.handles v b hb

theorem withRecords (h : PathsOk P dm) {m : DefaultMultiTenantManager}
    (hm : ∀ u c, m.userConfigs u = some c → P u c.storagePath) : PathsOk P { dm with multiTenantManager := m } :=
  ⟨hm, h.pending, h.mounts, h.handles⟩

theorem buildUserBackend (h : PathsOk P dm) (env : Env) {u : String} {sc : UserStorageConfig}
    (hsc : P u sc.storagePath) : PathsOk P (dm.buildUserBackend env u sc).2 := by
  unfold DynamicBackendManager.buildUserBackend
  dsimp only
  -- the pending record names the storage path
  have h1 : PathsOk P { dm with userConfigs := Function.update dm.userConfigs u (some (pendingConfig u sc)) } :=
    { h with
      pending := fun v c hc => by
        simp only [Function.update_apply] at hc
        split at hc
        · cases hc
          subst_vars
          exact hsc
        · exact h.pending v c hc }
  generalize { dm with userConfigs := Function.update dm.userConfigs u (some (pendingConfig u sc)) } = dm1 at h1 ⊢
  -- the constructor at most records the mount point, and its handle serves from it
  have h2 : PathsOk P (dm1.createBackendByType env (pendingConfig u sc)).2 := by
    rcases dm1.createBackendByType_state env (pendingConfig u sc) with e | e <;> rw [e]
    · exact h1
    · exact h1.recordMount hsc
  have hroots := dm1.createBackendByType_roots env (pendingConfig u sc)
  rcases hc : dm1.createBackendByType env (pendingConfig u sc) with ⟨_ | b, dm2⟩ <;> rw [hc] at h2 hroots <;>
    dsimp only at h2 ⊢
  · exact h2.setStatus u .error
  · refine PathsOk.setStatus (⟨h2.records, h2.pending, h2.mounts, fun v b' hb' => ?_⟩ :
      PathsOk P { dm2 with userBackends := Function.update dm2.userBackends u (some b) }) u .ready
    simp only [Function.update_apply] at hb'
    split at hb'
    · cases hb'
      subst_vars
      intro r hr
      rw [hroots b rfl r hr]
      exact hsc
    · exact h2.handles v b' hb'

section Calls

variable {u : String}
  (hdef : ∀ bp, dm.multiTenantManager.getUserBasePath u = .ok bp → P u (join [bp, "storage"]))
include hdef

theorem createDefaultUserConfig (h : PathsOk P dm) : PathsOk P (dm.createDefaultUserConfig u).2 := by
  unfold DynamicBackendManager.createDefaultUserConfig
  split
  · exact h
  rename_i bp hbp
  refine h.withRecords fun v c hc => ?_
  simp only [DefaultMultiTenantManager.setUserStorageConfig] at hc
  split at hc <;> dsimp only at hc
  · rw [DefaultMultiTenantManager.store_userConfigs] at hc
    split at hc
    · cases hc
      subst_vars
      exact hdef bp hbp
    · exact h.records v c hc
  · exact h.records v c hc

/-- The record `createUserBackend` builds from names a path that satisfies `P`. -/
theorem userStorageConfig (h : PathsOk P dm) :
    PathsOk P (dm.userStorageConfig u).2 ∧ ∀ sc, (dm.userStorageConfig u).1 = .ok sc → P u sc.storagePath := by
  have hd := h.createDefaultUserConfig hdef
  unfold DynamicBackendManager.userStorageConfig
  split
  · rename_i sc hsc
    exact ⟨h, fun _ hs => by cases hs; exact h.records u sc (DefaultMultiTenantManager.getUserStorageConfig_ok _ hsc)⟩
  rcases he : dm.createDefaultUserConfig u with ⟨_ | _, dm'⟩ <;> rw [he] at hd
  · exact ⟨hd, fun _ hs => by cases hs⟩
  · dsimp only
    split
    · rename_i sc hsc
      exact ⟨hd, fun _ hs => by cases hs; exact hd.records u sc (DefaultMultiTenantManager.getUserStorageConfig_ok _ hsc)⟩
    · exact ⟨hd, fun _ hs => by cases hs⟩

theorem createUserBackend (h : PathsOk P dm) (env : Env) : PathsOk P (dm.createUserBackend env u).2 := by
  obtain ⟨hs, hsc⟩ := h.userStorageConfig hdef
  unfold DynamicBackendManager.createUserBackend
  split
  · exact h
  rcases he : dm.userStorageConfig u with ⟨_ | sc, dm'⟩ <;> rw [he] at hs hsc
  · exact hs
  · exact hs.buildUserBackend env (hsc sc rfl)

theorem getUserBackend (h : PathsOk P dm) (env : Env) : PathsOk P (dm.getUserBackend env u).2 := by
  unfold DynamicBackendManager.getUserBackend
  split
  · exact h
  · exact h.createUserBackend hdef env

end Calls

theorem unmountUserBackend (h : PathsOk P dm) (env : Env) (u : String) :
    PathsOk P (dm.unmountUserBackend env u).2 := by
  rcases dm.unmountUserBackend_cases env u with ⟨-, e⟩ | ⟨mp, -, e | ⟨err, e⟩⟩ <;> rw [e]
  · exact h
  · exact (h.setStatus u .unmounting).dropBackend u
  · exact h.setStatus u .unmounting

end PathsOk

end DynamicBackendManager

end Registry

-- ── the system ────────────────────────────────────────────────────────────

namespace Versitygw

open Registry Registry.DynamicBackendManager Tenant Config GoPath Os

/-- The directories of user `u` under the base path `B`: `<B>/users/<u>` and its
    `storage` subdirectory. -/
def UserRoot (B u p : String) : Prop :=
  p = join [B, "users", u] ∨ p = join [join [B, "users", u], "storage"]

instance (B u p : String) : Decidable (UserRoot B u p) := inferInstanceAs (Decidable (_ ∨ _))

example : UserRoot "/mnt" "alice" "/mnt/users/alice/storage" ∧ ¬ UserRoot "/mnt" "alice" "/mnt/users/bob" := by
  decide

-- With `BaseMountPath` at `<basePath>/users` the two kinds of directory meet: the
-- default directory of a user named `users` is the account directory of one named
-- `storage`.
example : join [join ["/mnt", "users", "users"], "storage"] = join ["/mnt/users", "users", "storage"] := by
  decide

/-- What holds in every state the system reaches from a gateway whose tenant manager
    and global configuration have the base path `B`. -/
structure RootsInv (B : String) (sys : System) : Prop where
  base : sys.gw.dm.multiTenantManager.config.basePath = B
  global : ∀ g, sys.gw.cm.globalConfig = some g → g.baseMountPath = B
  paths : PathsOk (UserRoot B) sys.gw.dm

section RootsInv

variable {B : String} {sys : System}

/-- A change of the IAM service that keeps both configurations and leaves only records
    that name directories of their users'. -/
theorem RootsInv.withIAM (h : RootsInv B sys) {svc' : MultiTenantIAMService}
    (hg : svc'.configStore.cm.globalConfig = sys.gw.cm.globalConfig)
    (hc : svc'.mtManager.config = sys.gw.dm.multiTenantManager.config)
    (hr : ∀ u c, svc'.mtManager.userConfigs u = some c → UserRoot B u c.storagePath) :
    RootsInv B (sys.withIAM svc') :=
  ⟨(congrArg MultiTenantConfig.basePath hc).trans h.base, fun g hg' => h.global g (hg ▸ hg'),
    h.paths.withRecords hr⟩

end RootsInv

end Versitygw
