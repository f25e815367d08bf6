import MultiTenantGw.Registry
import MultiTenantGw.Config

/-! # The gateway as `runMultiTenant` wires it

    `runMultiTenant` loads the global configuration, builds the tenant manager's
    configuration from it and the command-line flags, hands the tenant manager a
    `MultiTenantBackendFactory` over the config manager, and builds the backend
    registry over the same tenant manager.  `Gateway` is that pair of components;
    `Op` are the calls that reach their mount bookkeeping.

    The two components keep separate books and never consult each other's.  The
    registry's calls keep every storage record and only add a missing one, not
    mounted; the tenant manager's calls leave the registry's handles, records and
    mount points as they are.  And `MountUserStorage` can never set the `Mounted`
    flag, since every constructor of `MultiTenantBackendFactory` reports "not
    implemented" (`createBackend_fails`).  So no storage record is ever mounted,
    whatever mount points the registry holds, and `DeleteUserNamespace` leaves the
    user's handle and mount point in place (`views_separate`,
    `delete_keeps_backend`).

    The command's `validateUserQuota` repeats the tenant manager's `CheckQuota` on
    the config manager's record, and both compare the `int64` sum of usage and
    request with the quota (`quotaDecision_ok_iff`): a request near `2^63` wraps
    the sum negative and is admitted by both (`quotaGuards_overflow_admit`). -/

namespace Versitygw

open Tenant Registry Config Os

/-- The flags of the `multitenant` command that `runMultiTenant` uses. -/
structure Flags where
  configDir : String := "/etc/versitygw/multitenant"
  basePath : String := "/var/lib/versitygw/mounts"
  defaultBackendType : String := "posix"

-- ── the backend factory ────────────────────────────────────────────────────

/-- The shape of the factory's constructors: none of them is implemented. -/
def notImplemented (kind : String) (_config : GoMap Value) : Except String Unit :=
  .error (kind ++ " backend creation not implemented")

/-- `MultiTenantBackendFactory.createPosixBackend`. -/
def createPosixBackend (config : GoMap Value) : Except String Unit := notImplemented "POSIX" config

/-- `MultiTenantBackendFactory.createCephFSBackend`. -/
def createCephFSBackend (config : GoMap Value) : Except String Unit := notImplemented "CephFS" config

/-- `MultiTenantBackendFactory.createNFSBackend`. -/
def createNFSBackend (config : GoMap Value) : Except String Unit := notImplemented "NFS" config

/-- `MultiTenantBackendFactory.createLustreBackend`. -/
def createLustreBackend (config : GoMap Value) : Except String Unit := notImplemented "Lustre" config

/-- `MultiTenantBackendFactory.createMinIOBackend`. -/
def createMinIOBackend (config : GoMap Value) : Except String Unit := notImplemented "MinIO" config

/-- `MultiTenantBackendFactory.CreateBackend`: the enabled template of the type, its
    parameters under the caller's, and the type's constructor. -/
def createBackend (cm : ConfigManager) (backendType : String) (config : GoMap Value) : Except String Unit :=
  match cm.getBackendTemplate backendType with
  | .error e => .error ("backend template not found: " ++ e)
  | .ok template =>
      if !template.enabled then .error ("backend type " ++ backendType ++ " is disabled")
      else
        let mergedConfig : GoMap Value := fun k =>
          match config k with
          | some v => some v
          | none => template.config k
        match backendType with
        | "posix" => createPosixBackend mergedConfig
        | "cephfs" => createCephFSBackend mergedConfig
        | "nfs" => createNFSBackend mergedConfig
        | "lustre" => createLustreBackend mergedConfig
        | "minio" => createMinIOBackend mergedConfig
        | _ => .error ("unsupported backend type: " ++ backendType)

/-- **NO BACKEND**: the factory `runMultiTenant` wires in fails for every type and
    every configuration. -/
theorem createBackend_fails (cm : ConfigManager) (backendType : String) (config : GoMap Value) :
    (createBackend cm backendType config).toBool = false := by
  unfold createBackend
  split
  · rfl
  · split
    · rfl
    · dsimp only
      split <;> rfl

-- ── `runMultiTenant` ───────────────────────────────────────────────────────

/-- The tenant manager's configuration `runMultiTenant` builds. -/
def mtConfig (flags : Flags) (g : Config.MultiTenantConfig) : Tenant.MultiTenantConfig :=
  ⟨g.enabled, flags.defaultBackendType, flags.basePath, g.defaults.storageQuota⟩

/-- The registry's configuration `runMultiTenant` builds. -/
def dynamicConfig (flags : Flags) (g : Config.MultiTenantConfig) : DynamicBackendConfig :=
  ⟨flags.basePath, flags.defaultBackendType, g.defaults.backendConfig⟩

/-- The registry over the tenant manager, as `runMultiTenant` builds them. -/
def wire (flags : Flags) (g : Config.MultiTenantConfig) : DynamicBackendManager :=
  newDynamicBackendManager (dynamicConfig flags g) (newMultiTenantManager (mtConfig flags g))

/-- The components `runMultiTenant` hands the gateway: the registry, over the tenant
    manager, and the config manager the backend factory reads. -/
structure Gateway where
  dm : DynamicBackendManager
  cm : ConfigManager

/-- The backend factory of the tenant manager. -/
def Gateway.factory (gw : Gateway) : BackendFactory := createBackend gw.cm

/-- `runMultiTenant` up to serving: load the global configuration, then build the
    two managers from it and the flags. -/
def runMultiTenant (deny : Denials) (flags : Flags) (fs : FS Content) :
    Except String Gateway × FS Content × List Call :=
  match Store.loadGlobalConfig deny ⟨newConfigManager flags.configDir, fs⟩ with
  | (.error e, s, calls) => (.error ("failed to load global config: " ++ e), s.fs, calls)
  | (.ok (), s, calls) =>
      (.ok ⟨wire flags (s.cm.globalConfig.getD {}), s.cm⟩, s.fs, calls)

/-- A gateway `runMultiTenant` returns starts with no storage record. -/
theorem runMultiTenant_records {deny : Denials} {flags : Flags} {fs : FS Content} {gw : Gateway}
    (h : (runMultiTenant deny flags fs).1 = .ok gw) (u : String) :
    gw.dm.multiTenantManager.userConfigs u = none := by
  unfold runMultiTenant at h
  split at h
  · cases h
  · cases h; rfl

-- ── the two views of a tenant's storage ────────────────────────────────────

/-- A call that reaches the mount bookkeeping of one of the two components. -/
inductive Op where
  | getUserBackend (env : Env) (userID : String)
  | unmountUserBackend (env : Env) (userID : String)
  | mountUserStorage (userID : String)
  | unmountUserStorage (userID : String)
  | deleteUserNamespace (userID : String)

/-- The calls of the tenant manager. -/
def Op.IsTenant : Op → Prop
  | .mountUserStorage _ | .unmountUserStorage _ | .deleteUserNamespace _ => True
  | _ => False

/-- Replace the tenant manager. -/
def Gateway.withTenant (gw : Gateway) (m : DefaultMultiTenantManager) : Gateway :=
  { gw with dm := { gw.dm with multiTenantManager := m } }

/-- The gateway after one call. -/
def step (gw : Gateway) : Op → Gateway
  | .getUserBackend env u => { gw with dm := (gw.dm.getUserBackend env u).2 }
  | .unmountUserBackend env u => { gw with dm := (gw.dm.unmountUserBackend env u).2 }
  | .mountUserStorage u => gw.withTenant (gw.dm.multiTenantManager.mountUserStorage gw.factory u).2
  | .unmountUserStorage u => gw.withTenant (gw.dm.multiTenantManager.unmountUserStorage u).2
  | .deleteUserNamespace u => gw.withTenant (gw.dm.multiTenantManager.deleteUserNamespace u).2

/-- The gateway after a sequence of calls. -/
def run (gw : Gateway) (ops : List Op) : Gateway := ops.foldl step gw

/-- No storage record is mounted. -/
def NoneMounted (m : DefaultMultiTenantManager) : Prop := ∀ u c, m.userConfigs u = some c → c.mounted = false

/-- With a factory that always fails, `MountUserStorage` changes nothing. -/
theorem mountUserStorage_of_fails (m : DefaultMultiTenantManager) {f : BackendFactory}
    (hf : ∀ t c, (f t c).toBool = false) (u : String) : (m.mountUserStorage f u).2 = m := by
  unfold DefaultMultiTenantManager.mountUserStorage
  split
  · rfl
  · split
    · rfl
    · split
      · rfl
      · rename_i hok
        have := congrArg Except.toBool hok
        rw [hf] at this
        cases this

theorem noneMounted_unmountUserStorage {m : DefaultMultiTenantManager} (hm : NoneMounted m) (u : String) :
    NoneMounted (m.unmountUserStorage u).2 := by
  intro v c hc
  unfold DefaultMultiTenantManager.unmountUserStorage at hc
  split at hc
  · exact hm v c hc
  · split at hc
    · exact hm v c hc
    · simp only [DefaultMultiTenantManager.store_userConfigs] at hc
      split at hc
      · cases hc; rfl
      · exact hm v c hc

theorem noneMounted_deleteUserNamespace {m : DefaultMultiTenantManager} (hm : NoneMounted m) (u : String) :
    NoneMounted (m.deleteUserNamespace u).2 := by
  intro v c hc
  have h1 := noneMounted_unmountUserStorage hm u
  unfold DefaultMultiTenantManager.deleteUserNamespace at hc
  rcases hu : m.unmountUserStorage u with ⟨_ | _, m'⟩ <;> rw [hu] at h1 hc
  · exact h1 v c hc
  · simp only [DefaultMultiTenantManager.erase_userConfigs] at hc
    split at hc
    · cases hc
    · exact h1 v c hc

theorem noneMounted_step {gw : Gateway} (h : NoneMounted gw.dm.multiTenantManager) (op : Op) :
    NoneMounted (step gw op).dm.multiTenantManager := by
  cases op with
  | getUserBackend env u =>
      rcases gw.dm.getUserBackend_tenant env u with ht | ⟨c', -, hc', ht⟩ <;>
        intro v c hc <;> simp only [step] at hc <;> rw [ht] at hc
      · exact h v c hc
      · simp only [DefaultMultiTenantManager.store_userConfigs] at hc
        split at hc
        · cases hc; exact hc'
        · exact h v c hc
  | unmountUserBackend env u =>
      intro v c hc
      simp only [step, DynamicBackendManager.unmountUserBackend_multiTenantManager] at hc
      exact h v c hc
  | mountUserStorage u =>
      intro v c hc
      simp only [step, Gateway.withTenant, Gateway.factory,
        mountUserStorage_of_fails _ (createBackend_fails gw.cm)] at hc
      exact h v c hc
  | unmountUserStorage u => exact noneMounted_unmountUserStorage h u
  | deleteUserNamespace u => exact noneMounted_deleteUserNamespace h u

theorem noneMounted_run {gw : Gateway} (h : NoneMounted gw.dm.multiTenantManager) :
    ∀ ops, NoneMounted (run gw ops).dm.multiTenantManager
  | [] => h
  | op :: ops => noneMounted_run (noneMounted_step h op) ops

/-- **SEPARATE BOOKS**: in every state the gateway `runMultiTenant` returns can reach,
    no storage record is mounted; a call of the tenant manager leaves the registry's
    handles, records and mount points as they are; and a call of the registry keeps
    every storage record there is. -/
theorem views_separate {deny : Denials} {flags : Flags} {fs : FS Content} {gw : Gateway}
    (hgw : (runMultiTenant deny flags fs).1 = .ok gw) (ops : List Op) (op : Op) :
    NoneMounted (run gw ops).dm.multiTenantManager ∧
      (op.IsTenant → (step (run gw ops) op).dm.userBackends = (run gw ops).dm.userBackends ∧
        (step (run gw ops) op).dm.mountPoints = (run gw ops).dm.mountPoints ∧
        (step (run gw ops) op).dm.userConfigs = (run gw ops).dm.userConfigs) ∧
      (¬ op.IsTenant → ∀ v c, (run gw ops).dm.multiTenantManager.userConfigs v = some c →
        (step (run gw ops) op).dm.multiTenantManager.userConfigs v = some c) := by
  refine ⟨noneMounted_run (fun u c hc => by rw [runMultiTenant_records hgw u] at hc; cases hc) ops,
    fun hop => ?_, fun hop v c hc => ?_⟩
  · cases op <;> first | exact ⟨rfl, rfl, rfl⟩ | simp [Op.IsTenant] at hop
  · cases op with
    | getUserBackend env u =>
        rcases (run gw ops).dm.getUserBackend_tenant env u with ht | ⟨c', hu, -, ht⟩ <;>
          simp only [step] <;> rw [ht]
        · exact hc
        · have hvu : v ≠ u := by rintro rfl; rw [hu] at hc; cases hc
          simp [hvu, hc]
    | unmountUserBackend env u =>
        simp only [step, DynamicBackendManager.unmountUserBackend_multiTenantManager]; exact hc
    | _ => simp [Op.IsTenant] at hop

/-- `views_separate` on the gateway of a first start, after `alice`'s backend was
    built and her storage mounted through the tenant manager, for `bob`'s
    `GetUserBackend`. -/
theorem views_separate_first_start :
    ∃ gw, (runMultiTenant allow {} FS.empty).1 = .ok gw ∧
      let env : Env := ⟨fun _ => .ok (), fun _ => .ok (), fun _ => .ok 1, fun _ => .ok 1⟩
      let ops := [Op.getUserBackend env "alice", .mountUserStorage "alice"]
      let op := Op.getUserBackend env "bob"
      NoneMounted (run gw ops).dm.multiTenantManager ∧
        (op.IsTenant → (step (run gw ops) op).dm.userBackends = (run gw ops).dm.userBackends ∧
          (step (run gw ops) op).dm.mountPoints = (run gw ops).dm.mountPoints ∧
          (step (run gw ops) op).dm.userConfigs = (run gw ops).dm.userConfigs) ∧
        (¬ op.IsTenant → ∀ v c, (run gw ops).dm.multiTenantManager.userConfigs v = some c →
          (step (run gw ops) op).dm.multiTenantManager.userConfigs v = some c) :=
  ⟨_, rfl, @views_separate allow {} FS.empty _ rfl _ _⟩

/-- A CephFS backend built for `alice`, then her namespace deleted: the deletion
    succeeds, and the registry still holds her handle and her mount point, which her
    storage record never showed as mounted. -/
theorem delete_keeps_backend :
    ∃ gw, (runMultiTenant allow { defaultBackendType := "cephfs" } FS.empty).1 = .ok gw ∧
      ((step gw (.getUserBackend ⟨fun _ => .ok (), fun _ => .ok (), fun _ => .ok 7, fun _ => .ok 8⟩ "alice")).dm.multiTenantManager.userConfigs
        "alice").map (·.mounted) = some false ∧
      ((step gw (.getUserBackend ⟨fun _ => .ok (), fun _ => .ok (), fun _ => .ok 7, fun _ => .ok 8⟩ "alice")).dm.mountPoints
        "alice").isSome = true ∧
      ((step gw (.getUserBackend ⟨fun _ => .ok (), fun _ => .ok (), fun _ => .ok 7, fun _ => .ok 8⟩ "alice")).dm.multiTenantManager.deleteUserNamespace
        "alice").1 = .ok () ∧
      ((run gw [.getUserBackend ⟨fun _ => .ok (), fun _ => .ok (), fun _ => .ok 7, fun _ => .ok 8⟩ "alice",
          .deleteUserNamespace "alice"]).dm.multiTenantManager.userConfigs "alice").isNone = true ∧
      ((run gw [.getUserBackend ⟨fun _ => .ok (), fun _ => .ok (), fun _ => .ok 7, fun _ => .ok 8⟩ "alice",
          .deleteUserNamespace "alice"]).dm.userBackends "alice").isSome = true ∧
      ((run gw [.getUserBackend ⟨fun _ => .ok (), fun _ => .ok (), fun _ => .ok 7, fun _ => .ok 8⟩ "alice",
          .deleteUserNamespace "alice"]).dm.mountPoints "alice").isSome = true :=
  ⟨_, rfl, rfl, rfl, rfl, rfl, rfl, rfl⟩

-- ── the quota guards ───────────────────────────────────────────────────────

/-- `validateUserQuota`: the user's record through `LoadUserConfig`; unlimited at
    `StorageQuota` 0; otherwise the `int64` sum of usage and request is compared
    with the quota. -/
def validateUserQuota (s : Store) (deny : Denials) (userID : String) (additionalSize : GoInt64) :
    Except String Unit × Store × List Call :=
  match s.loadUserConfig deny userID with
  | (.error e, s', calls) => (.error e, s', calls)
  | (.ok userConfig, s', calls) =>
      if userConfig.storageQuota.val = 0 then (.ok (), s', calls)
      else if (userConfig.usedStorage + additionalSize).val > userConfig.storageQuota.val then
        (.error "operation would exceed storage quota", s', calls)
      else (.ok (), s', calls)

/-- The decision both quota guards write out: unlimited at quota 0, else admitted
    exactly when the usage plus the request, wrapped into `int64`, is at most the
    quota. -/
theorem quotaDecision_ok_iff {ε : Type} (quota used additionalSize : GoInt64) (err : ε) :
    (if quota.val = 0 then .ok () else if (used + additionalSize).val > quota.val then .error err else .ok () :
        Except ε Unit) = .ok () ↔
      quota.val = 0 ∨ GoInt.wrap (used.val + additionalSize.val) ≤ quota.val := by
  rw [GoInt64.add_val]
  split
  · exact iff_of_true rfl (.inl ‹_›)
  · split
    · exact iff_of_false Except.noConfusion (by omega)
    · exact iff_of_true rfl (.inr (by omega))

theorem checkQuota_ok_iff {m : DefaultMultiTenantManager} {u : String} {c : UserStorageConfig}
    (hc : m.getUserStorageConfig u = .ok c) (additionalSize : GoInt64) :
    m.checkQuota u additionalSize = .ok () ↔
      c.quota.val = 0 ∨ GoInt.wrap (c.usedSpace.val + additionalSize.val) ≤ c.quota.val := by
  unfold DefaultMultiTenantManager.checkQuota
  rw [hc]
  exact quotaDecision_ok_iff _ _ _ _

theorem validateUserQuota_ok_iff {s s' : Store} {deny : Denials} {u : String} {uc : UserConfig}
    {calls : List Call} (hl : s.loadUserConfig deny u = (.ok uc, s', calls)) (additionalSize : GoInt64) :
    (validateUserQuota s deny u additionalSize).1 = .ok () ↔
      uc.storageQuota.val = 0 ∨ GoInt.wrap (uc.usedStorage.val + additionalSize.val) ≤ uc.storageQuota.val := by
  unfold validateUserQuota
  rw [hl]
  dsimp only
  rw [apply_ite Prod.fst, apply_ite Prod.fst]
  exact quotaDecision_ok_iff _ _ _ _

/-- A record with quota 100 and usage 1, in the tenant manager and in the config
    manager's cache, and a request of `2^63 - 1` bytes: both guards admit it, since
    the `int64` sum wraps to `-2^63`, though the exact sum exceeds the quota. -/
theorem quotaGuards_overflow_admit :
    ((newMultiTenantManager ⟨true, "posix", "/mnt", 100⟩).store "alice"
        ⟨"posix", GoMap.empty, "/mnt/users/alice", 100, 1, false, GoMap.empty⟩).checkQuota "alice"
        9223372036854775807 = .ok () ∧
      (validateUserQuota ⟨(newConfigManager "/etc/vgw").cache "alice"
          { userID := "alice", storageQuota := 100, usedStorage := 1 }, FS.empty⟩ allow "alice"
          9223372036854775807).1 = .ok () ∧
      (100 : Int) < 1 + 9223372036854775807 :=
  ⟨rfl, rfl, by decide⟩

end Versitygw
