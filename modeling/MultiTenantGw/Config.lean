import MultiTenantGw.GoTypes
import MultiTenantGw.FileSystem

/-! # The configuration store of `config/multitenant.go`

    `ConfigManager` keeps the global configuration (`multitenant.json` in its
    config directory), the backend templates read from it, and a cache of per-user
    configurations, each stored in `<configPath>/users/<userID>.json`.  Files hold
    JSON (`Content`): a marshalled `UserConfig` or `MultiTenantConfig`, or text
    that does not parse.  A marshalled record reads back as itself, except that its
    backend parameters (`map[string]interface{}`) come back as `encoding/json`
    reads them, numbers as `float64` and lists as `[]interface{}` (`json`); since
    the two types share no JSON key, it reads as the zero value of the other.

    Every operation takes the `Denials` it meets and the `Store` (manager and file
    system), and returns its result, the next store and the system calls it made,
    in order.  The cache holds records by value.  Go's cache holds pointers, and
    `UpdateUserStatus` and `UpdateUserUsage` mutate the record `LoadUserConfig`
    returned, which is the cached one: the model writes the mutated record back
    under the key it was loaded from before saving it. -/

namespace Config

open GoPath Os

-- ── the configuration types ────────────────────────────────────────────────

/-- `BackendConfig`, a backend template: the two fields the gateway reads. -/
structure BackendConfig where
  enabled : Bool := false
  config : GoMap Value := GoMap.empty

/-- `UserDefaults`. -/
structure UserDefaults where
  backendType : String := ""
  storageQuota : GoInt64 := 0
  bandwidthLimit : GoInt64 := 0
  maxBuckets : GoInt64 := 0
  maxObjects : GoInt64 := 0
  backendConfig : GoMap Value := GoMap.empty
  permissions : List String := []

/-- `MultiTenantConfig` of the config package, without the sections that nothing
    modelled reads (config directory, resource limits, security, monitoring). -/
structure MultiTenantConfig where
  enabled : Bool := false
  baseMountPath : String := ""
  defaults : UserDefaults := {}
  backends : GoMap BackendConfig := GoMap.empty

/-- `UserConfig`, without its timestamps. -/
structure UserConfig where
  userID : String := ""
  tenantID : String := ""
  backendType : String := ""
  storagePath : String := ""
  backendConfig : GoMap Value := GoMap.empty
  storageQuota : GoInt64 := 0
  bandwidthLimit : GoInt64 := 0
  maxBuckets : GoInt64 := 0
  maxObjects : GoInt64 := 0
  permissions : List String := []
  metadata : GoMap String := GoMap.empty
  status : String := ""
  usedStorage : GoInt64 := 0
  usedBandwidth : GoInt64 := 0

/-- A record as `json.Unmarshal` reads back the JSON of it: the backend parameters
    as `encoding/json` reads them, every other field as it was. -/
def UserConfig.json (c : UserConfig) : UserConfig := { c with backendConfig := c.backendConfig.json }

/-- A configuration as `json.Unmarshal` reads back the JSON of it. -/
def MultiTenantConfig.json (g : MultiTenantConfig) : MultiTenantConfig :=
  { g with
    defaults := { g.defaults with backendConfig := g.defaults.backendConfig.json }
    backends := fun name => (g.backends name).map fun b => { b with config := b.config.json } }

@[simp] theorem UserConfig.json_json (c : UserConfig) : c.json.json = c.json := by
  simp [UserConfig.json]

@[simp] theorem UserConfig.json_userID (c : UserConfig) : c.json.userID = c.userID := rfl

@[simp] theorem UserConfig.json_status (c : UserConfig) : c.json.status = c.status := rfl

@[simp] theorem MultiTenantConfig.json_json (g : MultiTenantConfig) : g.json.json = g.json := by
  simp only [MultiTenantConfig.json, GoMap.json_json]
  congr
  funext name
  cases g.backends name <;> simp

/-- What a file holds: the JSON of a record or of a configuration, or text that
    `json.Unmarshal` rejects with the given message. -/
inductive Content where
  | userConfig (c : UserConfig)
  | globalConfig (g : MultiTenantConfig)
  | bytes (parseError : String)

/-- The file an `os.WriteFile` of a JSON document leaves when its `Write` fails part
    way: a cut-short document, which does not parse. -/
def truncated : Content := .bytes "unexpected end of JSON input"

/-- `json.Unmarshal` into a `UserConfig`. -/
def decodeUserConfig : Content → Except String UserConfig
  | .userConfig c => .ok c.json
  | .globalConfig _ => .ok {}
  | .bytes e => .error e

/-- `json.Unmarshal` into a `MultiTenantConfig`. -/
def decodeGlobalConfig : Content → Except String MultiTenantConfig
  | .globalConfig g => .ok g.json
  | .userConfig _ => .ok {}
  | .bytes e => .error e

/-- A parsed configuration is already what `encoding/json` reads back. -/
theorem decodeGlobalConfig_json {d : Content} {g : MultiTenantConfig} (h : decodeGlobalConfig d = .ok g) :
    g.json = g := by
  cases d <;> cases h
  · rfl
  · exact MultiTenantConfig.json_json _

/-- `createDefaultConfig`: the configuration `LoadGlobalConfig` writes when there is
    no `multitenant.json`. -/
def createDefaultConfig : MultiTenantConfig where
  enabled := true
  baseMountPath := "/var/lib/versitygw/mounts"
  defaults :=
    { backendType := "posix"
      storageQuota := 107374182400
      bandwidthLimit := 0
      maxBuckets := 100
      maxObjects := 1000000
      backendConfig := GoMap.empty
      permissions := ["read", "write", "delete"] }
  backends := GoMap.ofList
    [("posix", { enabled := true, config := GoMap.empty }),
     ("cephfs", { enabled := true, config := GoMap.ofList [
        ("monitor_addresses", .strs ["mon1:6789", "mon2:6789", "mon3:6789"]),
         ("username", .str "admin"), ("filesystem", .str "cephfs")] }),
     ("lustre", { enabled := true, config := GoMap.ofList [
        ("mgs_nodes", .strs ["mgs1", "mgs2"]), ("filesystem", .str "lustre"),
         ("stripe_count", .int 4), ("stripe_size", .int 1048576)] }),
     ("nfs", { enabled := true, config := GoMap.ofList [
        ("server_address", .str "nfs-server.example.com"), ("export_path", .str "/exports"),
         ("version", .str "nfs4"), ("options", .strs ["rw", "sync"])] }),
     ("minio", { enabled := true, config := GoMap.ofList [
        ("endpoint", .str "http://minio.example.com:9000"), ("access_key", .str "minioadmin"),
         ("secret_key", .str "minioadmin"), ("region", .str "us-east-1"),
         ("bucket_prefix", .str "vgw"), ("ssl", .bool false), ("use_path_style", .bool true)] })]

-- ── the manager ────────────────────────────────────────────────────────────

/-- `ConfigManager`. -/
structure ConfigManager where
  configPath : String
  globalConfig : Option MultiTenantConfig
  userConfigs : GoMap UserConfig
  backendTemplates : GoMap BackendConfig

/-- `NewConfigManager`. -/
def newConfigManager (configPath : String) : ConfigManager :=
  ⟨configPath, none, GoMap.empty, GoMap.empty⟩

namespace ConfigManager

variable (cm : ConfigManager)

/-- Put a record in the cache. -/
def cache (userID : String) (c : UserConfig) : ConfigManager :=
  { cm with userConfigs := Function.update cm.userConfigs userID (some c) }

/-- Drop a record from the cache. -/
def uncache (userID : String) : ConfigManager :=
  { cm with userConfigs := Function.update cm.userConfigs userID none }

/-- `GetGlobalConfig`: the loaded configuration, nil (`none`) before a load. -/
def getGlobalConfig : Option MultiTenantConfig := cm.globalConfig

/-- `GetBackendTemplate`. -/
def getBackendTemplate (name : String) : Except String BackendConfig :=
  match cm.backendTemplates name with
  | some template => .ok template
  | none => .error ("backend template " ++ name ++ " not found")

/-- `CreateUserConfig`: a record from the defaults, under
    `<BaseMountPath>/users/<userID>`, with the template's parameters over the
    default ones. -/
def createUserConfig (userID tenantID backendType : String) : Except String UserConfig :=
  match cm.globalConfig with
  | none => .error "global config not loaded"
  | some g =>
      match cm.backendTemplates backendType with
      | none => .error ("backend type " ++ backendType ++ " not found")
      | some backend =>
          .ok { userID := userID
                tenantID := tenantID
                backendType := backendType
                storagePath := join [g.baseMountPath, "users", userID]
                backendConfig := fun k =>
                  match backend.config k with
                  | some v => some v
                  | none => g.defaults.backendConfig k
                storageQuota := g.defaults.storageQuota
                bandwidthLimit := g.defaults.bandwidthLimit
                maxBuckets := g.defaults.maxBuckets
                maxObjects := g.defaults.maxObjects
                permissions := g.defaults.permissions
                metadata := GoMap.empty
                status := "active"
                usedStorage := 0
                usedBandwidth := 0 }

@[simp] theorem cache_userConfigs (u v : String) (c : UserConfig) :
    (cm.cache u c).userConfigs v = if v = u then some c else cm.userConfigs v := by
  simp [cache, Function.update_apply]

@[simp] theorem uncache_userConfigs (u v : String) :
    (cm.uncache u).userConfigs v = if v = u then none else cm.userConfigs v := by
  simp [uncache, Function.update_apply]

@[simp] theorem cache_configPath (u : String) (c : UserConfig) : (cm.cache u c).configPath = cm.configPath :=
  rfl

@[simp] theorem uncache_configPath (u : String) : (cm.uncache u).configPath = cm.configPath := rfl

@[simp] theorem uncache_globalConfig (u : String) : (cm.uncache u).globalConfig = cm.globalConfig := rfl

@[simp] theorem uncache_cache (u : String) (c : UserConfig) : (cm.cache u c).uncache u = cm.uncache u := by
  simp [cache, uncache, Function.update_idem]

theorem uncache_of_none {u : String} (h : cm.userConfigs u = none) : cm.uncache u = cm := by
  rw [uncache, ← h, Function.update_eq_self]

theorem createUserConfig_userID {u t b : String} {c : UserConfig} (h : cm.createUserConfig u t b = .ok c) :
    c.userID = u := by
  unfold createUserConfig at h
  split at h
  · cases h
  · split at h
    · cases h
    · cases h; rfl

/-- The storage path `CreateUserConfig` gives a user: `<BaseMountPath>/users/<userID>`
    of the loaded global configuration. -/
theorem createUserConfig_storagePath {u t b : String} {c : UserConfig} (h : cm.createUserConfig u t b = .ok c) :
    ∃ g, cm.globalConfig = some g ∧ c.storagePath = join [g.baseMountPath, "users", u] := by
  unfold createUserConfig at h
  split at h
  · cases h
  · split at h
    · cases h
    · cases h; exact ⟨_, ‹_›, rfl⟩

end ConfigManager

-- ── the store's operations ─────────────────────────────────────────────────

/-- A config manager over the file system it keeps its files in. -/
structure Store where
  cm : ConfigManager
  fs : FS Content

/-- `name[:len(name)-5]`: a name without its last five characters (the ASCII
    extension `.json` where `ListUsers` uses it). -/
def trimJson (name : String) : String := ⟨name.data.take (name.data.length - 5)⟩

namespace Store

variable (deny : Denials) (s : Store)

/-- `SaveGlobalConfig`. -/
def saveGlobalConfig : Except String Unit × Store × List Call :=
  let configFile := join [s.cm.configPath, "multitenant.json"]
  match s.fs.mkdirAll deny s.cm.configPath with
  | .error e => (.error ("failed to create config directory: " ++ e.msg), s, [.mkdirAll s.cm.configPath])
  | .ok fs =>
      let w := fs.writeFile deny configFile (.globalConfig (s.cm.globalConfig.getD {})) truncated
      match w.1 with
      | .error e => (.error e.msg, { s with fs := w.2 }, [.mkdirAll s.cm.configPath, .writeFile configFile])
      | .ok () => (.ok (), { s with fs := w.2 }, [.mkdirAll s.cm.configPath, .writeFile configFile])

/-- `LoadGlobalConfig`: read `multitenant.json`, or write the default configuration
    when there is none (without loading its templates).  Each template is a pointer
    to the loop variable of `for name, backend := range config.Backends`; the model
    gives every name its own entry, as Go 1.22's per-iteration loop variables do.
    (Before Go 1.22 every pointer would be to one variable, which ends up holding the
    entry the loop visits last.) -/
def loadGlobalConfig : Except String Unit × Store × List Call :=
  let configFile := join [s.cm.configPath, "multitenant.json"]
  match s.fs.readFile deny configFile with
  | .error e =>
      if e.notExist then
        let r := saveGlobalConfig deny { s with cm := { s.cm with globalConfig := some createDefaultConfig } }
        (r.1, r.2.1, .readFile configFile :: r.2.2)
      else (.error ("failed to read config file: " ++ e.msg), s, [.readFile configFile])
  | .ok data =>
      match decodeGlobalConfig data with
      | .error e => (.error ("failed to parse config file: " ++ e), s, [.readFile configFile])
      | .ok config =>
          (.ok (),
            { s with cm := { s.cm with
                globalConfig := some config
                backendTemplates := fun name =>
                  match config.backends name with
                  | some backend => some backend
                  | none => s.cm.backendTemplates name } },
            [.readFile configFile])

/-- `LoadUserConfig`: the cached record, or the user's file, parsed and cached. -/
def loadUserConfig (userID : String) : Except String UserConfig × Store × List Call :=
  match s.cm.userConfigs userID with
  | some config => (.ok config, s, [])
  | none =>
      let configFile := join [s.cm.configPath, "users", userID ++ ".json"]
      match s.fs.readFile deny configFile with
      | .error e =>
          (.error (if e.notExist then "user config not found for user " ++ userID
            else "failed to read user config: " ++ e.msg), s, [.readFile configFile])
      | .ok data =>
          match decodeUserConfig data with
          | .error e => (.error ("failed to parse user config: " ++ e), s, [.readFile configFile])
          | .ok config => (.ok config, { s with cm := s.cm.cache userID config }, [.readFile configFile])

/-- `SaveUserConfig`: write the record to the file of its `UserID`, and cache it. -/
def saveUserConfig (config : UserConfig) : Except String Unit × Store × List Call :=
  let userDir := join [s.cm.configPath, "users"]
  let configFile := join [userDir, config.userID ++ ".json"]
  match s.fs.mkdirAll deny userDir with
  | .error e => (.error ("failed to create user config directory: " ++ e.msg), s, [.mkdirAll userDir])
  | .ok fs =>
      let w := fs.writeFile deny configFile (.userConfig config) truncated
      match w.1 with
      | .error e =>
          (.error ("failed to write user config: " ++ e.msg), { s with fs := w.2 },
            [.mkdirAll userDir, .writeFile configFile])
      | .ok () => (.ok (), ⟨s.cm.cache config.userID config, w.2⟩, [.mkdirAll userDir, .writeFile configFile])

/-- `ListUsers`: the `.json` files of the users directory, without the extension. -/
def listUsers : Except String (List String) × List Call :=
  let userDir := join [s.cm.configPath, "users"]
  match s.fs.readDir deny userDir with
  | .error e =>
      (if e.notExist then .ok [] else .error ("failed to read user directory: " ++ e.msg), [.readDir userDir])
  | .ok entries =>
      (.ok (entries.filterMap fun e => if e.2 then none else if ext e.1 = ".json" then some (trimJson e.1) else none),
        [.readDir userDir])

/-- `DeleteUserConfig`: remove the user's file (a missing one is fine) and its cache
    entry. -/
def deleteUserConfig (userID : String) : Except String Unit × Store × List Call :=
  let configFile := join [s.cm.configPath, "users", userID ++ ".json"]
  match s.fs.remove deny configFile with
  | .error e =>
      if e.notExist then (.ok (), { s with cm := s.cm.uncache userID }, [.remove configFile])
      else (.error ("failed to delete user config: " ++ e.msg), s, [.remove configFile])
  | .ok fs => (.ok (), ⟨s.cm.uncache userID, fs⟩, [.remove configFile])

/-- The shape of `UpdateUserStatus` and `UpdateUserUsage`: load the record, change it
    in place (the cached record is the one changed), save it. -/
def updateWith (userID : String) (change : UserConfig → UserConfig) :
    Except String Unit × Store × List Call :=
  match s.loadUserConfig deny userID with
  | (.error e, s', calls) => (.error e, s', calls)
  | (.ok config, s', calls) =>
      let config := change config
      let r := saveUserConfig deny { s' with cm := s'.cm.cache userID config } config
      (r.1, r.2.1, calls ++ r.2.2)

/-- `UpdateUserStatus`. -/
def updateUserStatus (userID status : String) : Except String Unit × Store × List Call :=
  s.updateWith deny userID fun config => { config with status := status }

/-- `UpdateUserUsage`, without the `LastAccessed` stamp. -/
def updateUserUsage (userID : String) (storageUsed bandwidthUsed : GoInt64) :
    Except String Unit × Store × List Call :=
  s.updateWith deny userID fun config =>
    { config with usedStorage := storageUsed, usedBandwidth := bandwidthUsed }

-- ── what each operation does ──────────────────────────────────────────────

/-- **LOAD**: `LoadUserConfig` reads at most the user's file and changes no file; it
    returns the cached record and changes nothing, or fails and changes nothing, or
    caches and returns what the user's file parses to. -/
theorem loadUserConfig_spec (u : String) :
    (∀ x ∈ (s.loadUserConfig deny u).2.2, x = .readFile (join [s.cm.configPath, "users", u ++ ".json"])) ∧
      (s.loadUserConfig deny u).2.1.fs = s.fs ∧
      (((s.loadUserConfig deny u).2.1.cm = s.cm ∧
          ∀ c, (s.loadUserConfig deny u).1 = .ok c → s.cm.userConfigs u = some c) ∨
        ∃ d c, find (keyOf (join [s.cm.configPath, "users", u ++ ".json"])) s.fs.entries = some (.file d) ∧
          decodeUserConfig d = .ok c ∧ (s.loadUserConfig deny u).2.1.cm = s.cm.cache u c ∧
          (s.loadUserConfig deny u).1 = .ok c) := by
  unfold loadUserConfig
  split
  · rename_i c hc
    exact ⟨by simp, rfl, .inl ⟨rfl, fun c' h => by cases h; exact hc⟩⟩
  · dsimp only
    split
    · exact ⟨by simp, rfl, .inl ⟨rfl, fun c h => by cases h⟩⟩
    · rename_i d hd
      split
      · exact ⟨by simp, rfl, .inl ⟨rfl, fun c h => by cases h⟩⟩
      · rename_i c hc
        exact ⟨by simp, rfl, .inr ⟨d, c, FS.readFile_ok hd, hc, rfl, rfl⟩⟩

/-- **SAVE**: `SaveUserConfig` creates the users directory and writes the file of the
    record's `UserID`; it caches the record under that ID when the write returns nil,
    and otherwise changes no cache entry; every file-system key keeps its entry, gains
    a directory above the users directory, or is the record's file and holds the
    record or, when the write failed part way, a truncated document. -/
theorem saveUserConfig_spec (c : UserConfig) :
    (∀ x ∈ (s.saveUserConfig deny c).2.2, x = .mkdirAll (join [s.cm.configPath, "users"]) ∨
        x = .writeFile (join [join [s.cm.configPath, "users"], c.userID ++ ".json"])) ∧
      (((s.saveUserConfig deny c).1 ≠ .ok () ∧ (s.saveUserConfig deny c).2.1.cm = s.cm) ∨
        ((s.saveUserConfig deny c).1 = .ok () ∧ (s.saveUserConfig deny c).2.1.cm = s.cm.cache c.userID c ∧
          find (keyOf (join [join [s.cm.configPath, "users"], c.userID ++ ".json"]))
            (s.saveUserConfig deny c).2.1.fs.entries = some (.file (.userConfig c)))) ∧
      ∀ k, find k (s.saveUserConfig deny c).2.1.fs.entries = find k s.fs.entries ∨
        (find k s.fs.entries = none ∧ find k (s.saveUserConfig deny c).2.1.fs.entries = some .dir ∧
          k.Above (keyOf (join [s.cm.configPath, "users"]))) ∨
        (k = keyOf (join [join [s.cm.configPath, "users"], c.userID ++ ".json"]) ∧
          (find k (s.saveUserConfig deny c).2.1.fs.entries = some (.file (.userConfig c)) ∨
            find k (s.saveUserConfig deny c).2.1.fs.entries = some (.file truncated))) := by
  unfold saveUserConfig
  dsimp only
  split
  · exact ⟨by simp, .inl ⟨by simp, rfl⟩, fun k => .inl rfl⟩
  · rename_i fs hfs
    refine ⟨by split <;> simp, ?_, fun k => ?_⟩
    · split
      · exact .inl ⟨by simp, rfl⟩
      · rename_i hw
        exact .inr ⟨rfl, rfl, by rw [FS.writeFile_ok hw, if_pos rfl]⟩
    · rcases @FS.writeFile_find _ fs deny (join [join [s.cm.configPath, "users"], c.userID ++ ".json"])
        (.userConfig c) truncated k with h | h <;> split <;> dsimp only
      all_goals first | exact .inr (.inr h) | rw [h]; exact (FS.mkdirAll_find hfs k).imp_right .inl

theorem saveUserConfig_cm (c : UserConfig) :
    (s.saveUserConfig deny c).2.1.cm = s.cm ∨ (s.saveUserConfig deny c).2.1.cm = s.cm.cache c.userID c :=
  (s.saveUserConfig_spec deny c).2.1.imp And.right fun h => h.2.1

/-- **DELETE**: `DeleteUserConfig` removes the user's file, if anything, and drops the
    user's cache entry, or fails and changes nothing. -/
theorem deleteUserConfig_spec (u : String) :
    (s.deleteUserConfig deny u).2.2 = [.remove (join [s.cm.configPath, "users", u ++ ".json"])] ∧
      ((s.deleteUserConfig deny u).2.1.cm = s.cm ∨ (s.deleteUserConfig deny u).2.1.cm = s.cm.uncache u) ∧
      ∀ k, find k (s.deleteUserConfig deny u).2.1.fs.entries = find k s.fs.entries ∨
        (k = keyOf (join [s.cm.configPath, "users", u ++ ".json"]) ∧
          find k (s.deleteUserConfig deny u).2.1.fs.entries = none) := by
  unfold deleteUserConfig
  dsimp only
  split
  · split
    · exact ⟨rfl, .inr rfl, fun k => .inl rfl⟩
    · exact ⟨rfl, .inl rfl, fun k => .inl rfl⟩
  · rename_i fs hfs
    refine ⟨rfl, .inr rfl, fun k => ?_⟩
    rw [FS.remove_find hfs k]
    split
    · exact .inr ⟨‹_›, rfl⟩
    · exact .inl rfl

theorem listUsers_calls : (s.listUsers deny).2 = [.readDir (join [s.cm.configPath, "users"])] := by
  unfold listUsers
  dsimp only
  split <;> rfl

/-- `UpdateUserStatus` and `UpdateUserUsage` are a load, then a save of the changed
    record over a cache that already holds it. -/
theorem updateWith_cases (u : String) (change : UserConfig → UserConfig) :
    ((∃ e, (s.loadUserConfig deny u).1 = .error e) ∧
        s.updateWith deny u change = ((s.updateWith deny u change).1, (s.loadUserConfig deny u).2)) ∨
      ∃ c, (s.loadUserConfig deny u).1 = .ok c ∧
        s.updateWith deny u change =
          ((saveUserConfig deny { (s.loadUserConfig deny u).2.1 with
              cm := (s.loadUserConfig deny u).2.1.cm.cache u (change c) } (change c)).1,
            (saveUserConfig deny { (s.loadUserConfig deny u).2.1 with
              cm := (s.loadUserConfig deny u).2.1.cm.cache u (change c) } (change c)).2.1,
            (s.loadUserConfig deny u).2.2 ++ (saveUserConfig deny { (s.loadUserConfig deny u).2.1 with
              cm := (s.loadUserConfig deny u).2.1.cm.cache u (change c) } (change c)).2.2) := by
  unfold updateWith
  rcases s.loadUserConfig deny u with ⟨_ | c, s1, calls⟩
  · exact .inl ⟨⟨_, rfl⟩, rfl⟩
  · exact .inr ⟨c, rfl, rfl⟩

-- ── the global configuration is only read ─────────────────────────────────

end Store

end Config
