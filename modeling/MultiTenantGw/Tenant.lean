import MultiTenantGw.GoTypes
import MultiTenantGw.FilePath

/-! # The tenant manager of `auth/multi_tenant.go`

    `DefaultMultiTenantManager` keeps one storage record (`UserStorageConfig`) per
    user and answers the gateway's questions about it: where a user's namespace is
    rooted (`GetUserBasePath`), whether a path is inside it (`ValidateUserAccess`),
    whether a write fits the quota (`CheckQuota`), and it updates the record's usage
    (`UpdateUsedSpace`) and mount flag (`MountUserStorage`, `UnmountUserStorage`).

    This module holds the manager at the level of its records: each user's entry is
    the record behind the user's pointer, and a write through that pointer is the
    replacement of the entry.  That is exact as long as no two users hold one
    pointer, which the gateway's callers ensure: `CreateAccount` and
    `createDefaultUserConfig` each allocate the record they pass.
    `Tenant.Pointer` models the pointers themselves and proves that, under such
    callers, it refines this model (`Tenant.Pointer.runCalls_refines`).

    Every operation is a function from the manager to its result and the next
    manager.  The backend factory is the one collaborator the manager calls; it is
    passed to `mountUserStorage` as the function that answers the call.  `Op`, `step`
    and `run` close the operations into a state machine for the invariants over whole
    runs. -/

namespace Tenant

open GoPath

/-- `MultiTenantConfig` of the auth package. -/
structure MultiTenantConfig where
  enabled : Bool
  defaultBackendType : String
  basePath : String
  defaultQuota : GoInt64

/-- `UserStorageConfig`: one user's storage record. -/
structure UserStorageConfig where
  backendType : String
  backendConfig : GoMap Value
  storagePath : String
  quota : GoInt64
  usedSpace : GoInt64
  mounted : Bool
  metadata : GoMap String

/-- `DefaultMultiTenantManager` at the level of its records: the configuration and
    the record behind each user's pointer. -/
structure DefaultMultiTenantManager where
  config : MultiTenantConfig
  userConfigs : GoMap UserStorageConfig

/-- The answer of `BackendFactory.CreateBackend` for a backend type and its
    parameters; the backend value itself is discarded by the manager. -/
abbrev BackendFactory := String → GoMap Value → Except String Unit

/-- `NewMultiTenantManager`. -/
def newMultiTenantManager (config : MultiTenantConfig) : DefaultMultiTenantManager :=
  ⟨config, GoMap.empty⟩

/-- `ErrUserStorageNotFound`. -/
def errUserStorageNotFound : String := "user storage configuration not found"

/-- `ErrQuotaExceeded`. -/
def errQuotaExceeded : String := "storage quota exceeded"

/-- `ErrInvalidBackendType`. -/
def errInvalidBackendType : String := "invalid backend type"

/-- The backend types `SetUserStorageConfig` and `MountUserStorage` accept. -/
def validBackends : List String := ["posix", "cephfs", "nfs", "lustre", "minio", "rustfs"]

/-- The clamp of `UpdateUsedSpace`: a negative usage becomes `0`. -/
def clampUsed (used : GoInt64) : GoInt64 := if used.val < 0 then 0 else used

theorem clampUsed_nonneg (used : GoInt64) : 0 ≤ (clampUsed used).val := by
  unfold clampUsed; split
  · simp
  · omega

namespace DefaultMultiTenantManager

variable (m : DefaultMultiTenantManager)

/-- Replace `userID`'s record. -/
def store (userID : String) (c : UserStorageConfig) : DefaultMultiTenantManager :=
  { m with userConfigs := Function.update m.userConfigs userID (some c) }

/-- Drop `userID`'s record. -/
def erase (userID : String) : DefaultMultiTenantManager :=
  { m with userConfigs := Function.update m.userConfigs userID none }

/-- `GetUserStorageConfig`. -/
def getUserStorageConfig (userID : String) : Except String UserStorageConfig :=
  match m.userConfigs userID with
  | none => .error errUserStorageNotFound
  | some config => .ok config

/-- `SetUserStorageConfig`: a non-nil record with a known backend type replaces the
    user's record whole. -/
def setUserStorageConfig (userID : String) (config : Option UserStorageConfig) :
    Except String Unit × DefaultMultiTenantManager :=
  match config with
  | none => (.error "config cannot be nil", m)
  | some config =>
      if config.backendType ∈ validBackends then (.ok (), m.store userID config)
      else (.error errInvalidBackendType, m)

/-- `GetUserBasePath`: `<BasePath>/users/<userID>`, joined and cleaned. -/
def getUserBasePath (userID : String) : Except String String :=
  if m.config.enabled then .ok (join [m.config.basePath, "users", userID])
  else .error "multi-tenant mode not enabled"

/-- The record `CreateUserNamespace` builds when given none. -/
def defaultRecord (basePath : String) : UserStorageConfig where
  backendType := m.config.defaultBackendType
  backendConfig := GoMap.empty
  storagePath := basePath
  quota := m.config.defaultQuota
  usedSpace := 0
  mounted := false
  metadata := GoMap.empty

/-- The record `CreateUserNamespace` stores: the given one, or the default one, with
    an empty storage path replaced by the user's base path. -/
def namespaceRecord (basePath : String) (config : Option UserStorageConfig) : UserStorageConfig :=
  let config := config.getD (m.defaultRecord basePath)
  if config.storagePath = "" then { config with storagePath := basePath } else config

/-- `CreateUserNamespace`. -/
def createUserNamespace (userID : String) (config : Option UserStorageConfig) :
    Except String Unit × DefaultMultiTenantManager :=
  match m.getUserBasePath userID with
  | .error e => (.error e, m)
  | .ok basePath => (.ok (), m.store userID (m.namespaceRecord basePath config))

/-- `UnmountUserStorage`: clear the mount flag. -/
def unmountUserStorage (userID : String) : Except String Unit × DefaultMultiTenantManager :=
  match m.getUserStorageConfig userID with
  | .error e => (.error e, m)
  | .ok config =>
      if !config.mounted then (.ok (), m)
      else (.ok (), m.store userID { config with mounted := false })

/-- `DeleteUserNamespace`: unmount, then drop the record. -/
def deleteUserNamespace (userID : String) : Except String Unit × DefaultMultiTenantManager :=
  match m.unmountUserStorage userID with
  | (.error e, m') => (.error ("failed to unmount storage before deletion: " ++ e), m')
  | (.ok (), m') => (.ok (), m'.erase userID)

/-- `MountUserStorage`: ask the factory for a backend, accept the six known types
    (file-system kinds and object-store kinds alike), set the mount flag. -/
def mountUserStorage (factory : BackendFactory) (userID : String) :
    Except String Unit × DefaultMultiTenantManager :=
  match m.getUserStorageConfig userID with
  | .error e => (.error e, m)
  | .ok config =>
      if config.mounted then (.ok (), m)
      else match factory config.backendType config.backendConfig with
        | .error e => (.error ("failed to create backend: " ++ e), m)
        | .ok () =>
            if config.backendType ∈ validBackends then
              (.ok (), m.store userID { config with mounted := true })
            else (.error errInvalidBackendType, m)

/-- `CheckQuota`: unlimited at quota `0`; otherwise the `int64` sum of usage and
    request is compared with the quota. -/
def checkQuota (userID : String) (additionalSize : GoInt64) : Except String Unit :=
  match m.getUserStorageConfig userID with
  | .error e => .error e
  | .ok config =>
      if config.quota.val = 0 then .ok ()
      else if (config.usedSpace + additionalSize).val > config.quota.val then .error errQuotaExceeded
      else .ok ()

/-- `UpdateUsedSpace`: add the `int64` delta and clamp a negative result to `0`. -/
def updateUsedSpace (userID : String) (delta : GoInt64) :
    Except String Unit × DefaultMultiTenantManager :=
  match m.getUserStorageConfig userID with
  | .error e => (.error e, m)
  | .ok config => (.ok (), m.store userID { config with usedSpace := clampUsed (config.usedSpace + delta) })

@[simp] theorem store_userConfigs (u v : String) (c : UserStorageConfig) :
    (m.store u c).userConfigs v = if v = u then some c else m.userConfigs v := by
  simp [store, Function.update_apply]

@[simp] theorem erase_userConfigs (u v : String) :
    (m.erase u).userConfigs v = if v = u then none else m.userConfigs v := by
  simp [erase, Function.update_apply]

@[simp] theorem store_erase (u : String) (c : UserStorageConfig) : (m.store u c).erase u = m.erase u := by
  simp [store, erase, Function.update_idem]

@[simp] theorem store_config (u : String) (c : UserStorageConfig) : (m.store u c).config = m.config := rfl

@[simp] theorem erase_config (u : String) : (m.erase u).config = m.config := rfl

theorem createUserNamespace_error {u e : String} {c : Option UserStorageConfig}
    (h : (m.createUserNamespace u c).1 = .error e) : (m.createUserNamespace u c).2 = m := by
  unfold createUserNamespace at h ⊢
  split at h <;> simp_all

theorem createUserNamespace_snd {u : String} {c : Option UserStorageConfig} {r : Except String Unit}
    {m' : DefaultMultiTenantManager} (h : m.createUserNamespace u c = (r, m')) :
    (r ≠ .ok () ∧ m' = m) ∨ (r = .ok () ∧ ∃ b, m' = m.store u (m.namespaceRecord b c)) := by
  unfold createUserNamespace at h
  split at h <;> cases h
  · exact .inl ⟨nofun, rfl⟩
  · exact .inr ⟨rfl, _, rfl⟩

theorem namespaceRecord_mounted (b : String) (c : UserStorageConfig) :
    (m.namespaceRecord b (some c)).mounted = c.mounted := by
  unfold namespaceRecord
  dsimp only [Option.getD]
  split <;> rfl

theorem namespaceRecord_storagePath (b : String) (c : UserStorageConfig) :
    (m.namespaceRecord b (some c)).storagePath = if c.storagePath = "" then b else c.storagePath := by
  unfold namespaceRecord
  dsimp only [Option.getD]
  split <;> simp [*]

theorem getUserStorageConfig_ok {u : String} {c : UserStorageConfig} (h : m.getUserStorageConfig u = .ok c) :
    m.userConfigs u = some c := by
  unfold getUserStorageConfig at h
  split at h <;> cases h
  assumption

theorem getUserBasePath_ok {u b : String} (h : m.getUserBasePath u = .ok b) :
    b = join [m.config.basePath, "users", u] := by
  unfold getUserBasePath at h
  split at h <;> cases h
  rfl

theorem erase_of_none {u : String} (h : m.userConfigs u = none) : m.erase u = m := by
  rw [erase, ← h, Function.update_eq_self]

/-- `DeleteUserNamespace` leaves no record of the user, whatever it returns. -/
theorem deleteUserNamespace_snd (u : String) : (m.deleteUserNamespace u).2 = m.erase u := by
  unfold deleteUserNamespace unmountUserStorage getUserStorageConfig
  rcases hc : m.userConfigs u with _ | c
  · exact (m.erase_of_none hc).symm
  · by_cases hmt : c.mounted <;> simp [hmt]

end DefaultMultiTenantManager

/-- `GetTenantID`: a user is its own tenant. -/
def getTenantID (userID : String) : String := userID

/-- `IsTenantIsolationEnabled` on the one manager type there is. -/
def isTenantIsolationEnabled (manager : DefaultMultiTenantManager) : Bool := manager.config.enabled

/-- `ValidateUserAccess`: with isolation on, the resource must pass `isSubPath`
    against the user's base path. -/
def validateUserAccess (userID resourcePath : String) (manager : DefaultMultiTenantManager) :
    Except String Unit :=
  if !isTenantIsolationEnabled manager then .ok ()
  else match manager.getUserBasePath userID with
    | .error e => .error e
    | .ok userBasePath =>
        if !isSubPath userBasePath resourcePath then
          .error "access denied: resource outside user namespace"
        else .ok ()

-- ── the manager as a state machine ─────────────────────────────────────────

/-- A call of one of the manager's operations, with its arguments. -/
inductive Op where
  | setUserStorageConfig (userID : String) (config : Option UserStorageConfig)
  | createUserNamespace (userID : String) (config : Option UserStorageConfig)
  | deleteUserNamespace (userID : String)
  | mountUserStorage (factory : BackendFactory) (userID : String)
  | unmountUserStorage (userID : String)
  | checkQuota (userID : String) (additionalSize : GoInt64)
  | updateUsedSpace (userID : String) (delta : GoInt64)

/-- The user an operation is called on. -/
def Op.user : Op → String
  | .setUserStorageConfig u _ | .createUserNamespace u _ | .deleteUserNamespace u
  | .mountUserStorage _ u | .unmountUserStorage u | .checkQuota u _ | .updateUsedSpace u _ => u

/-- Perform one call: its result and the next manager. -/
def apply (m : DefaultMultiTenantManager) : Op → Except String Unit × DefaultMultiTenantManager
  | .setUserStorageConfig u c => m.setUserStorageConfig u c
  | .createUserNamespace u c => m.createUserNamespace u c
  | .deleteUserNamespace u => m.deleteUserNamespace u
  | .mountUserStorage f u => m.mountUserStorage f u
  | .unmountUserStorage u => m.unmountUserStorage u
  | .checkQuota u s => (m.checkQuota u s, m)
  | .updateUsedSpace u d => m.updateUsedSpace u d

/-- The manager after one call. -/
def step (m : DefaultMultiTenantManager) (op : Op) : DefaultMultiTenantManager := (apply m op).2

/-- The manager after a sequence of calls. -/
def run (m : DefaultMultiTenantManager) (ops : List Op) : DefaultMultiTenantManager :=
  ops.foldl step m

/-- **EFFECTS**: everything one call can do.  It leaves the manager as it is, or
    with result `nil` it replaces the caller's record (`set`, `create`), deletes it,
    sets or clears its mount flag, or updates its usage. -/
inductive Effect (m : DefaultMultiTenantManager) : Op → Except String Unit →
    DefaultMultiTenantManager → Prop
  | keep (op : Op) (r : Except String Unit) : Effect m op r m
  | set (u : String) (c : UserStorageConfig) (h : c.backendType ∈ validBackends) :
      Effect m (.setUserStorageConfig u (some c)) (.ok ()) (m.store u c)
  | create (u : String) (c : Option UserStorageConfig) (b : String) (h : m.getUserBasePath u = .ok b) :
      Effect m (.createUserNamespace u c) (.ok ()) (m.store u (m.namespaceRecord b c))
  | delete (u : String) (c : UserStorageConfig) (h : m.userConfigs u = some c) :
      Effect m (.deleteUserNamespace u) (.ok ()) (m.erase u)
  | mount (f : BackendFactory) (u : String) (c : UserStorageConfig) (h : m.userConfigs u = some c)
      (hv : c.backendType ∈ validBackends) :
      Effect m (.mountUserStorage f u) (.ok ()) (m.store u { c with mounted := true })
  | unmount (u : String) (c : UserStorageConfig) (h : m.userConfigs u = some c) :
      Effect m (.unmountUserStorage u) (.ok ()) (m.store u { c with mounted := false })
  | update (u : String) (d : GoInt64) (c : UserStorageConfig) (h : m.userConfigs u = some c) :
      Effect m (.updateUsedSpace u d) (.ok ())
        (m.store u { c with usedSpace := clampUsed (c.usedSpace + d) })

theorem apply_effect (m : DefaultMultiTenantManager) (op : Op) :
    Effect m op (apply m op).1 (apply m op).2 := by
  open DefaultMultiTenantManager in
  cases op with
  | setUserStorageConfig u c =>
      rcases c with _ | c
      · exact .keep _ _
      · by_cases hv : c.backendType ∈ validBackends
        · simpa [apply, setUserStorageConfig, hv] using Effect.set u c hv
        · simpa [apply, setUserStorageConfig, hv] using Effect.keep (m := m) _ (.error errInvalidBackendType)
  | createUserNamespace u c =>
      rcases hb : m.getUserBasePath u with e | b
      · simpa [apply, createUserNamespace, hb] using Effect.keep (m := m) _ (.error e)
      · simpa [apply, createUserNamespace, hb] using Effect.create u c b hb
  | deleteUserNamespace u =>
      rcases hc : m.userConfigs u with _ | c
      · simpa [apply, deleteUserNamespace, unmountUserStorage, getUserStorageConfig, hc]
          using Effect.keep (m := m) _ (.error _)
      · have he : Effect m (.deleteUserNamespace u) (.ok ()) (m.erase u) := .delete u c hc
        by_cases hmt : c.mounted
        · have hstep : apply m (.deleteUserNamespace u) = (.ok (), m.erase u) := by
            simp [apply, deleteUserNamespace, unmountUserStorage, getUserStorageConfig, hc, hmt,
              store_erase]
          rw [hstep]; exact he
        · simpa [apply, deleteUserNamespace, unmountUserStorage, getUserStorageConfig, hc, hmt] using he
  | mountUserStorage f u =>
      rcases hc : m.userConfigs u with _ | c
      · simpa [apply, mountUserStorage, getUserStorageConfig, hc] using Effect.keep (m := m) _ (.error _)
      · by_cases hmt : c.mounted
        · simpa [apply, mountUserStorage, getUserStorageConfig, hc, hmt] using Effect.keep (m := m) _ (.ok ())
        rcases hf : f c.backendType c.backendConfig with e | _
        · simpa [apply, mountUserStorage, getUserStorageConfig, hc, hmt, hf]
            using Effect.keep (m := m) _ (.error _)
        · by_cases hv : c.backendType ∈ validBackends
          · simpa [apply, mountUserStorage, getUserStorageConfig, hc, hmt, hf, hv]
              using Effect.mount f u c hc hv
          · simpa [apply, mountUserStorage, getUserStorageConfig, hc, hmt, hf, hv]
              using Effect.keep (m := m) _ (.error _)
  | unmountUserStorage u =>
      rcases hc : m.userConfigs u with _ | c
      · simpa [apply, unmountUserStorage, getUserStorageConfig, hc] using Effect.keep (m := m) _ (.error _)
      · by_cases hmt : c.mounted
        · simpa [apply, unmountUserStorage, getUserStorageConfig, hc, hmt] using Effect.unmount u c hc
        · simpa [apply, unmountUserStorage, getUserStorageConfig, hc, hmt] using Effect.keep (m := m) _ (.ok ())
  | checkQuota u s => exact .keep _ _
  | updateUsedSpace u d =>
      rcases hc : m.userConfigs u with _ | c
      · simpa [apply, updateUsedSpace, getUserStorageConfig, hc] using Effect.keep (m := m) _ (.error _)
      · simpa [apply, updateUsedSpace, getUserStorageConfig, hc] using Effect.update u d c hc

end Tenant
