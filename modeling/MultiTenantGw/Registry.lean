import MultiTenantGw.Tenant

/-! # The backend registry of `backend/dynamic_backend.go`

    `DynamicBackendManager` keeps, per user, the live backend handle
    (`userBackends`), the registry's own record of the user's backend
    (`userConfigs`, with its `Status`) and the mount point it mounted
    (`mountPoints`).  `GetUserBackend` returns the handle or builds one:
    `createUserBackend` re-checks under the lock, reads (or lazily creates) the
    tenant manager's storage record, stores a `pending` record, and runs the
    type's constructor, which for CephFS, NFS and Lustre first mounts the file
    system and records the mount point.  `UnmountUserBackend` unmounts, retrying
    once with `umount -f`, and only on success drops the handle and mount point.

    Everything outside the process is an `Env`: the answers of `os.MkdirAll`, of
    a command line run to completion (`mount`, `umount`), and of the POSIX and
    S3-proxy constructors.  An operation takes the `Env` it meets, so "any
    outcome of the external commands" is a quantifier over `Env`s.  The
    registry's timestamps (`CreatedAt`, `LastAccessed`) and the timeouts that
    bound the commands are not modelled: nothing reads the former, and the
    latter only shape the command outcomes an `Env` gives. -/

namespace Registry

open Tenant GoPath

/-- `CephFSConfig`. -/
structure CephFSConfig where
  monitorAddresses : List String := []
  username : String := ""
  secretKey : String := ""
  fileSystem : String := ""
  path : String := ""
  options : List String := []
  deriving DecidableEq, Repr

/-- `NFSConfig`. -/
structure NFSConfig where
  serverAddress : String := ""
  exportPath : String := ""
  version : String := ""
  options : List String := []
  deriving DecidableEq, Repr

/-- `LustreConfig`. -/
structure LustreConfig where
  mgsNodes : List String := []
  fileSystem : String := ""
  stripeCount : Int := 0
  stripeSize : GoInt64 := 0
  options : List String := []
  deriving DecidableEq

/-- `MinIOConfig`. -/
structure MinIOConfig where
  endpoint : String := ""
  accessKey : String := ""
  secretKey : String := ""
  region : String := ""
  bucketPrefix : String := ""
  ssl : Bool := false
  usePathStyle : Bool := false
  deriving DecidableEq, Repr

/-- A backend handle as the registry holds it: a POSIX backend rooted at a
    directory, an S3 proxy, or the Lustre wrapper around a POSIX backend.  `id`
    tells apart the handles the constructors return. -/
inductive Backend where
  | posix (id : Nat) (root : String)
  | s3proxy (id : Nat)
  | lustreEnhanced (inner : Backend) (config : LustreConfig)
  deriving DecidableEq

/-- `BackendStatus`. -/
inductive BackendStatus where
  | pending | mounting | ready | error | unmounting | unmounted
  deriving DecidableEq, Repr

/-- `DynamicBackendConfig`, without the command timeouts and the two feature flags
    that nothing modelled reads. -/
structure DynamicBackendConfig where
  baseMountPath : String
  defaultBackend : String
  backendDefaults : GoMap Value

/-- `UserBackendConfig`, without its timestamps. -/
structure UserBackendConfig where
  userID : String
  backendType : String
  config : GoMap Value
  mountPoint : String
  quota : GoInt64
  usedSpace : GoInt64
  status : BackendStatus

/-- `DynamicBackendManager`, over the tenant manager `runMultiTenant` gives it. -/
structure DynamicBackendManager where
  userBackends : GoMap Backend
  userConfigs : GoMap UserBackendConfig
  mountPoints : GoMap String
  multiTenantManager : DefaultMultiTenantManager
  baseConfig : DynamicBackendConfig

/-- What the world outside the process answers during one registry operation. -/
structure Env where
  /-- `os.MkdirAll(path, 0755)`. -/
  mkdirAll : String → Except String Unit
  /-- A command line run to completion: on failure its combined output and error. -/
  exec : List String → Except (String × String) Unit
  /-- `posix.New(root, ...)`. -/
  posixNew : String → Except String Nat
  /-- `s3proxy.New(...)`, by its meta bucket. -/
  s3proxyNew : String → Except String Nat

/-- `NewDynamicBackendManager`. -/
def newDynamicBackendManager (config : DynamicBackendConfig) (mtManager : DefaultMultiTenantManager) :
    DynamicBackendManager :=
  ⟨GoMap.empty, GoMap.empty, GoMap.empty, mtManager, config⟩

/-- `mapToStruct`: returns nil and leaves the target as it is. -/
def mapToStruct {α : Type} (_m : GoMap Value) (target : α) : Except String α := .ok target

-- ── mount commands ─────────────────────────────────────────────────────────

/-- `executeMount`: run the command; a failure carries its output. -/
def executeMount (env : Env) (cmdArgs : List String) : Except String Unit :=
  match env.exec cmdArgs with
  | .error (output, err) => .error ("mount failed: " ++ output ++ ": " ++ err)
  | .ok () => .ok ()

/-- The argument list `mountCephFS` builds. -/
def cephFSArgs (config : CephFSConfig) (mountPoint : String) : List String :=
  let cmd := ["mount", "-t", "ceph"]
  let cmd := if config.monitorAddresses ≠ [] then
      cmd ++ [String.intercalate "," config.monitorAddresses ++ ":" ++ config.path] else cmd
  let cmd := cmd ++ [mountPoint]
  if config.options ≠ [] ∨ config.username ≠ "" then
    let opts := (if config.username ≠ "" then ["name=" ++ config.username] else []) ++
      (if config.secretKey ≠ "" then ["secret=" ++ config.secretKey] else []) ++ config.options
    if opts ≠ [] then cmd ++ ["-o", String.intercalate "," opts] else cmd
  else cmd

/-- The argument list `mountNFS` builds. -/
def nfsArgs (config : NFSConfig) (mountPoint : String) : List String :=
  let nfsType := if config.version = "nfs4" then "nfs4" else "nfs"
  let cmd := ["mount", "-t", nfsType, config.serverAddress ++ ":" ++ config.exportPath, mountPoint]
  if config.options ≠ [] then cmd ++ ["-o", String.intercalate "," config.options] else cmd

/-- The argument list `mountLustre` builds. -/
def lustreArgs (config : LustreConfig) (mountPoint : String) : List String :=
  let cmd := ["mount", "-t", "lustre"]
  let cmd := if config.mgsNodes ≠ [] then
      cmd ++ [String.intercalate "," config.mgsNodes ++ ":/" ++ config.fileSystem] else cmd
  let cmd := cmd ++ [mountPoint]
  if config.options ≠ [] then cmd ++ ["-o", String.intercalate "," config.options] else cmd

/-- `mountCephFS`, `mountNFS` and `mountLustre`: make the mount point, then run the
    mount command. -/
def mountWith (env : Env) (mountPoint : String) (cmd : List String) : Except String Unit :=
  match env.mkdirAll mountPoint with
  | .error e => .error e
  | .ok () => executeMount env cmd

/-- `mountCephFS`. -/
def mountCephFS (env : Env) (config : CephFSConfig) (mountPoint : String) : Except String Unit :=
  mountWith env mountPoint (cephFSArgs config mountPoint)

/-- `mountNFS`. -/
def mountNFS (env : Env) (config : NFSConfig) (mountPoint : String) : Except String Unit :=
  mountWith env mountPoint (nfsArgs config mountPoint)

/-- `mountLustre`. -/
def mountLustre (env : Env) (config : LustreConfig) (mountPoint : String) : Except String Unit :=
  mountWith env mountPoint (lustreArgs config mountPoint)

-- ── constructors ───────────────────────────────────────────────────────────

namespace DynamicBackendManager

variable (dm : DynamicBackendManager)

/-- Record `userID`'s mount point. -/
def recordMount (userID mountPoint : String) : DynamicBackendManager :=
  { dm with mountPoints := Function.update dm.mountPoints userID (some mountPoint) }

/-- Set the status of `userID`'s registry record, if there is one. -/
def setStatus (userID : String) (status : BackendStatus) : DynamicBackendManager :=
  match dm.userConfigs userID with
  | none => dm
  | some c => { dm with userConfigs := Function.update dm.userConfigs userID (some { c with status := status }) }

/-- `createPosixBackend`. -/
def createPosixBackend (env : Env) (config : UserBackendConfig) : Except String Backend :=
  match env.mkdirAll config.mountPoint with
  | .error e => .error ("failed to create mount point: " ++ e)
  | .ok () =>
      match env.posixNew config.mountPoint with
      | .error e => .error e
      | .ok id => .ok (.posix id config.mountPoint)

/-- `createLustreEnhancedBackend`. -/
def createLustreEnhancedBackend (env : Env) (config : UserBackendConfig) (lustreConfig : LustreConfig) :
    Except String Backend :=
  match env.posixNew config.mountPoint with
  | .error e => .error e
  | .ok id => .ok (.lustreEnhanced (.posix id config.mountPoint) lustreConfig)

/-- The shared shape of `createCephFSBackend`, `createNFSBackend` and
    `createLustreBackend`: decode the parameters, mount, record the mount point,
    build the backend on it. -/
def createMountedBackend {α : Type} (env : Env) (config : UserBackendConfig) (kind : String) (zero : α)
    (mount : Env → α → String → Except String Unit)
    (build : α → Except String Backend) : Except String Backend × DynamicBackendManager :=
  match mapToStruct config.config zero with
  | .error e => (.error ("invalid " ++ kind ++ " config: " ++ e), dm)
  | .ok fsConfig =>
      match mount env fsConfig config.mountPoint with
      | .error e => (.error ("failed to mount " ++ kind ++ ": " ++ e), dm)
      | .ok () => (build fsConfig, dm.recordMount config.userID config.mountPoint)

/-- `createCephFSBackend`. -/
def createCephFSBackend (env : Env) (config : UserBackendConfig) : Except String Backend × DynamicBackendManager :=
  dm.createMountedBackend env config "CephFS" ({} : CephFSConfig) mountCephFS
    (fun _ => createPosixBackend env config)

/-- `createNFSBackend`. -/
def createNFSBackend (env : Env) (config : UserBackendConfig) : Except String Backend × DynamicBackendManager :=
  dm.createMountedBackend env config "NFS" ({} : NFSConfig) mountNFS
    (fun _ => createPosixBackend env config)

/-- `createLustreBackend`. -/
def createLustreBackend (env : Env) (config : UserBackendConfig) : Except String Backend × DynamicBackendManager :=
  dm.createMountedBackend env config "Lustre" ({} : LustreConfig) mountLustre
    (createLustreEnhancedBackend env config)

/-- `createMinIOBackend`: an S3 proxy with the user's meta bucket. -/
def createMinIOBackend (env : Env) (config : UserBackendConfig) : Except String Backend :=
  match mapToStruct config.config ({} : MinIOConfig) with
  | .error e => .error ("invalid MinIO config: " ++ e)
  | .ok minioConfig =>
      match env.s3proxyNew (minioConfig.bucketPrefix ++ "-meta-" ++ config.userID) with
      | .error e => .error e
      | .ok id => .ok (.s3proxy id)

/-- `createBackendByType`. -/
def createBackendByType (env : Env) (config : UserBackendConfig) : Except String Backend × DynamicBackendManager :=
  match config.backendType with
  | "posix" => (createPosixBackend env config, dm)
  | "cephfs" => dm.createCephFSBackend env config
  | "nfs" => dm.createNFSBackend env config
  | "lustre" => dm.createLustreBackend env config
  | "minio" => (createMinIOBackend env config, dm)
  | "rustfs" => (.error "RustFS backend not implemented yet", dm)
  | t => (.error ("unsupported backend type: " ++ t), dm)

-- ── the registry's operations ──────────────────────────────────────────────

/-- `createDefaultUserConfig`: a record of the default backend type under
    `<user base>/storage`, with no quota, given to `SetUserStorageConfig`. -/
def createDefaultUserConfig (userID : String) : Except String Unit × DynamicBackendManager :=
  match dm.multiTenantManager.getUserBasePath userID with
  | .error e => (.error e, dm)
  | .ok basePath =>
      let defaultConfig : UserStorageConfig :=
        { backendType := dm.baseConfig.defaultBackend
          backendConfig := dm.baseConfig.backendDefaults
          storagePath := join [basePath, "storage"]
          quota := 0
          usedSpace := 0
          mounted := false
          metadata := GoMap.empty }
      let res := dm.multiTenantManager.setUserStorageConfig userID (some defaultConfig)
      (res.1, { dm with multiTenantManager := res.2 })

/-- The storage record `createUserBackend` builds from: the tenant manager's, or
    the default one created for the user.  (Re-reading a record just stored cannot
    fail; Go would dereference nil there.) -/
def userStorageConfig (userID : String) : Except String UserStorageConfig × DynamicBackendManager :=
  match dm.multiTenantManager.getUserStorageConfig userID with
  | .ok storageConfig => (.ok storageConfig, dm)
  | .error _ =>
      match dm.createDefaultUserConfig userID with
      | (.error e, dm') =>
          (.error ("failed to create default config for user " ++ userID ++ ": " ++ e), dm')
      | (.ok (), dm') =>
          match dm'.multiTenantManager.getUserStorageConfig userID with
          | .ok storageConfig => (.ok storageConfig, dm')
          | .error e => (.error e, dm')

/-- The registry record `createUserBackend` stores before construction. -/
def pendingConfig (userID : String) (storageConfig : UserStorageConfig) : UserBackendConfig where
  userID := userID
  backendType := storageConfig.backendType
  config := storageConfig.backendConfig
  mountPoint := storageConfig.storagePath
  quota := storageConfig.quota
  usedSpace := storageConfig.usedSpace
  status := .pending

/-- The construction part of `createUserBackend`: store the pending record, run
    the constructor, and record the handle as ready or the record as failed. -/
def buildUserBackend (env : Env) (userID : String) (storageConfig : UserStorageConfig) :
    Except String Backend × DynamicBackendManager :=
  let userConfig := pendingConfig userID storageConfig
  let dm := { dm with userConfigs := Function.update dm.userConfigs userID (some userConfig) }
  match dm.createBackendByType env userConfig with
  | (.error e, dm') =>
      (.error ("failed to create backend for user " ++ userID ++ ": " ++ e), dm'.setStatus userID .error)
  | (.ok backend, dm') =>
      (.ok backend,
        ({ dm' with userBackends := Function.update dm'.userBackends userID (some backend) }).setStatus
          userID .ready)

/-- `createUserBackend`: the body run under the registry's write lock. -/
def createUserBackend (env : Env) (userID : String) : Except String Backend × DynamicBackendManager :=
  match dm.userBackends userID with
  | some backend => (.ok backend, dm)
  | none =>
      match dm.userStorageConfig userID with
      | (.error e, dm') => (.error e, dm')
      | (.ok storageConfig, dm') => dm'.buildUserBackend env userID storageConfig

/-- `GetUserBackend` run alone: the read-locked lookup, then `createUserBackend`
    on a miss.  (The hit path also stamps `LastAccessed`, which is not modelled.) -/
def getUserBackend (env : Env) (userID : String) : Except String Backend × DynamicBackendManager :=
  match dm.userBackends userID with
  | some backend => (.ok backend, dm)
  | none => dm.createUserBackend env userID

/-- The clean-up of `UnmountUserBackend` after a successful unmount. -/
def dropBackend (userID : String) : DynamicBackendManager :=
  ({ dm with
      userBackends := Function.update dm.userBackends userID none
      mountPoints := Function.update dm.mountPoints userID none }).setStatus userID .unmounted

/-- `UnmountUserBackend`: nothing to do without a mount point; otherwise mark the
    record unmounting, run `umount`, then `umount -f`, and clean up only when one
    of them succeeded. -/
def unmountUserBackend (env : Env) (userID : String) : Except String Unit × DynamicBackendManager :=
  match dm.mountPoints userID with
  | none => (.ok (), dm)
  | some mountPoint =>
      let dm := dm.setStatus userID .unmounting
      match env.exec ["umount", mountPoint] with
      | .ok () => (.ok (), dm.dropBackend userID)
      | .error _ =>
          match env.exec ["umount", "-f", mountPoint] with
          | .ok () => (.ok (), dm.dropBackend userID)
          | .error (_, err) => (.error ("failed to unmount " ++ mountPoint ++ ": " ++ err), dm)

-- ── what the helpers change ────────────────────────────────────────────────

@[simp] theorem setStatus_userBackends (u : String) (s : BackendStatus) :
    (dm.setStatus u s).userBackends = dm.userBackends := by
  unfold setStatus; split <;> rfl

@[simp] theorem setStatus_mountPoints (u : String) (s : BackendStatus) :
    (dm.setStatus u s).mountPoints = dm.mountPoints := by
  unfold setStatus; split <;> rfl

@[simp] theorem setStatus_multiTenantManager (u : String) (s : BackendStatus) :
    (dm.setStatus u s).multiTenantManager = dm.multiTenantManager := by
  unfold setStatus; split <;> rfl

@[simp] theorem setStatus_baseConfig (u : String) (s : BackendStatus) :
    (dm.setStatus u s).baseConfig = dm.baseConfig := by
  unfold setStatus; split <;> rfl

@[simp] theorem setStatus_userConfigs (u v : String) (s : BackendStatus) :
    (dm.setStatus u s).userConfigs v =
      if v = u then (dm.userConfigs u).map (fun c => { c with status := s }) else dm.userConfigs v := by
  unfold setStatus
  split <;> rename_i h <;> by_cases hv : v = u <;> simp_all [Function.update_apply]

@[simp] theorem recordMount_userBackends (u mp : String) :
    (dm.recordMount u mp).userBackends = dm.userBackends := rfl

@[simp] theorem recordMount_userConfigs (u mp : String) :
    (dm.recordMount u mp).userConfigs = dm.userConfigs := rfl

@[simp] theorem recordMount_multiTenantManager (u mp : String) :
    (dm.recordMount u mp).multiTenantManager = dm.multiTenantManager := rfl

@[simp] theorem recordMount_baseConfig (u mp : String) :
    (dm.recordMount u mp).baseConfig = dm.baseConfig := rfl

@[simp] theorem recordMount_mountPoints (u mp v : String) :
    (dm.recordMount u mp).mountPoints v = if v = u then some mp else dm.mountPoints v := by
  simp [recordMount, Function.update_apply]

/-- A constructor changes the registry at most by recording the user's mount point. -/
theorem createBackendByType_state (env : Env) (config : UserBackendConfig) :
    (dm.createBackendByType env config).2 = dm ∨
      (dm.createBackendByType env config).2 = dm.recordMount config.userID config.mountPoint := by
  have hm : ∀ {α : Type} (kind : String) (zero : α) mount build,
      (dm.createMountedBackend env config kind zero mount build).2 = dm ∨
        (dm.createMountedBackend env config kind zero mount build).2 =
          dm.recordMount config.userID config.mountPoint := by
    intro α kind zero mount build
    unfold createMountedBackend mapToStruct
    split
    · exact .inl rfl
    · split
      · exact .inl rfl
      · exact .inr rfl
  unfold createBackendByType
  split <;> first | exact .inl rfl | exact hm _ _ _ _

theorem createDefaultUserConfig_state (u : String) :
    ∃ mt, (dm.createDefaultUserConfig u).2 = { dm with multiTenantManager := mt } := by
  unfold createDefaultUserConfig
  split
  · exact ⟨_, rfl⟩
  · exact ⟨_, rfl⟩

/-- Reading or lazily creating the storage record changes only the tenant manager. -/
theorem userStorageConfig_state (u : String) :
    ∃ mt, (dm.userStorageConfig u).2 = { dm with multiTenantManager := mt } := by
  obtain ⟨mt, hmt⟩ := dm.createDefaultUserConfig_state u
  unfold userStorageConfig
  split
  · exact ⟨_, rfl⟩
  · rcases h : dm.createDefaultUserConfig u with ⟨_ | _, dm'⟩
    · rw [h] at hmt; exact ⟨mt, hmt⟩
    · rw [h] at hmt; subst hmt
      simp only
      split <;> exact ⟨mt, rfl⟩

/-- A hit under the write lock returns the handle and changes nothing. -/
theorem createUserBackend_hit {u : String} {b : Backend} (h : dm.userBackends u = some b) (env : Env) :
    dm.createUserBackend env u = (.ok b, dm) := by
  simp [createUserBackend, h]

/-- After a construction on a miss, the user holds a handle exactly when the
    construction returned one, and it is that handle. -/
theorem buildUserBackend_userBackends {u : String} (h : dm.userBackends u = none) (env : Env)
    (sc : UserStorageConfig) :
    (dm.buildUserBackend env u sc).2.userBackends u = (dm.buildUserBackend env u sc).1.toOption := by
  unfold buildUserBackend
  dsimp only
  have hst := DynamicBackendManager.createBackendByType_state
    { dm with userConfigs := Function.update dm.userConfigs u (some (pendingConfig u sc)) } env
    (pendingConfig u sc)
  revert hst
  rcases DynamicBackendManager.createBackendByType
    { dm with userConfigs := Function.update dm.userConfigs u (some (pendingConfig u sc)) } env
    (pendingConfig u sc) with ⟨_ | b, dm2⟩ <;> intro hst <;> rcases hst with hst | hst <;>
    simp only at hst <;> subst hst <;> simp [Except.toOption, h]

theorem createUserBackend_userBackends {u : String} (h : dm.userBackends u = none) (env : Env) :
    (dm.createUserBackend env u).2.userBackends u = (dm.createUserBackend env u).1.toOption := by
  obtain ⟨mt, hmt⟩ := dm.userStorageConfig_state u
  unfold createUserBackend
  rw [h]
  revert hmt
  rcases dm.userStorageConfig u with ⟨_ | sc, dm'⟩ <;> intro hmt <;> simp only at hmt ⊢ <;> subst hmt
  · simp [Except.toOption, h]
  · exact buildUserBackend_userBackends { dm with multiTenantManager := mt } h env sc

-- ── what the registry does to the tenant manager ───────────────────────────

/-- The construction leaves the tenant manager as it is. -/
theorem buildUserBackend_multiTenantManager (env : Env) (u : String) (sc : UserStorageConfig) :
    (dm.buildUserBackend env u sc).2.multiTenantManager = dm.multiTenantManager := by
  unfold buildUserBackend
  dsimp only
  have hst := DynamicBackendManager.createBackendByType_state
    { dm with userConfigs := Function.update dm.userConfigs u (some (pendingConfig u sc)) } env
    (pendingConfig u sc)
  revert hst
  rcases DynamicBackendManager.createBackendByType
    { dm with userConfigs := Function.update dm.userConfigs u (some (pendingConfig u sc)) } env
    (pendingConfig u sc) with ⟨_ | b, dm2⟩ <;> intro hst <;> rcases hst with hst | hst <;>
    simp only at hst <;> subst hst <;> simp

@[simp] theorem dropBackend_multiTenantManager (u : String) :
    (dm.dropBackend u).multiTenantManager = dm.multiTenantManager := by
  simp [dropBackend]

@[simp] theorem dropBackend_userBackends (u v : String) :
    (dm.dropBackend u).userBackends v = if v = u then none else dm.userBackends v := by
  simp [dropBackend, Function.update_apply]

@[simp] theorem dropBackend_mountPoints (u v : String) :
    (dm.dropBackend u).mountPoints v = if v = u then none else dm.mountPoints v := by
  simp [dropBackend, Function.update_apply]

@[simp] theorem dropBackend_userConfigs (u v : String) :
    (dm.dropBackend u).userConfigs v =
      if v = u then (dm.userConfigs u).map (fun c => { c with status := .unmounted }) else dm.userConfigs v := by
  simp [dropBackend]

@[simp] theorem dropBackend_baseConfig (u : String) : (dm.dropBackend u).baseConfig = dm.baseConfig := by
  simp [dropBackend]

/-- The three ways `UnmountUserBackend` ends: nothing mounted, an unmount that
    succeeded, or both commands failed with the record left unmounting. -/
theorem unmountUserBackend_cases (env : Env) (u : String) :
    (dm.mountPoints u = none ∧ dm.unmountUserBackend env u = (.ok (), dm)) ∨
      ∃ mp, dm.mountPoints u = some mp ∧
        (dm.unmountUserBackend env u = (.ok (), (dm.setStatus u .unmounting).dropBackend u) ∨
          ∃ err, dm.unmountUserBackend env u =
            (.error ("failed to unmount " ++ mp ++ ": " ++ err), dm.setStatus u .unmounting)) := by
  unfold unmountUserBackend
  split
  · exact .inl ⟨‹_›, rfl⟩
  · refine .inr ⟨_, ‹_›, ?_⟩
    dsimp only
    split
    · exact .inl rfl
    · split
      · exact .inl rfl
      · exact .inr ⟨_, rfl⟩

theorem unmountUserBackend_multiTenantManager (env : Env) (u : String) :
    (dm.unmountUserBackend env u).2.multiTenantManager = dm.multiTenantManager := by
  unfold unmountUserBackend
  split
  · rfl
  · dsimp only
    split
    · simp
    · split <;> simp

/-- A new storage record of `u`, not mounted, where `u` had none. -/
def AddsRecord (u : String) (m m' : DefaultMultiTenantManager) : Prop :=
  ∃ c, m.userConfigs u = none ∧ c.mounted = false ∧ m' = m.store u c

theorem createDefaultUserConfig_tenant {u : String} (hu : dm.multiTenantManager.userConfigs u = none) :
    (dm.createDefaultUserConfig u).2.multiTenantManager = dm.multiTenantManager ∨
      AddsRecord u dm.multiTenantManager (dm.createDefaultUserConfig u).2.multiTenantManager := by
  unfold createDefaultUserConfig
  split
  · exact .inl rfl
  · dsimp only [DefaultMultiTenantManager.setUserStorageConfig]
    split
    · exact .inr ⟨_, hu, rfl, rfl⟩
    · exact .inl rfl

/-- Reading or lazily creating the storage record keeps every record there is and
    at most adds `u`'s, not mounted. -/
theorem userStorageConfig_tenant (u : String) :
    (dm.userStorageConfig u).2.multiTenantManager = dm.multiTenantManager ∨
      AddsRecord u dm.multiTenantManager (dm.userStorageConfig u).2.multiTenantManager := by
  unfold userStorageConfig
  split
  · exact .inl rfl
  · rename_i e he
    have hu : dm.multiTenantManager.userConfigs u = none := by
      unfold DefaultMultiTenantManager.getUserStorageConfig at he
      split at he
      · assumption
      · cases he
    have h := dm.createDefaultUserConfig_tenant hu
    rcases hd : dm.createDefaultUserConfig u with ⟨_ | _, dm'⟩ <;> rw [hd] at h
    · exact h
    · dsimp only
      split <;> exact h

/-- **REGISTRY CALLS AND STORAGE RECORDS**: `GetUserBackend` keeps every storage
    record there is and at most adds the caller's, not mounted. -/
theorem getUserBackend_tenant (env : Env) (u : String) :
    (dm.getUserBackend env u).2.multiTenantManager = dm.multiTenantManager ∨
      AddsRecord u dm.multiTenantManager (dm.getUserBackend env u).2.multiTenantManager := by
  unfold getUserBackend
  split
  · exact .inl rfl
  · unfold createUserBackend
    split
    · exact .inl rfl
    · have h := dm.userStorageConfig_tenant u
      rcases hs : dm.userStorageConfig u with ⟨_ | sc, dm'⟩ <;> rw [hs] at h
      · exact h
      · dsimp only
        rw [buildUserBackend_multiTenantManager]
        exact h

end DynamicBackendManager

end Registry
