import MultiTenantGw.Gateway
import MultiTenantGw.ConfigCoherence

/-! # Account creation in the multi-tenant IAM service

    `MultiTenantIAMService` puts the gateway's base IAM service (`auth.IAMService`,
    outside this repository) together with the tenant manager and the config
    manager.  Its `CreateAccount` runs three steps: the base service creates the
    account; the config manager builds the user's config from the global defaults
    and saves it; the tenant manager creates the user's namespace from that config.
    Each step's error is returned at once, and nothing an earlier step did is
    undone.

    The base service is modelled by what `CreateAccount` needs of it: its accounts
    by access key, where `CreateAccount` stores the new account or refuses it, as
    `refuse` decides, and then keeps its accounts.

    **Partial creation** (`createAccount_failure`): a failed `CreateAccount` never
    changes the tenant records, but it is not all-or-nothing.  Once the base
    service has created the account, a later failure keeps it; a failed save may
    leave the users directory created and the user's file holding the record or a
    cut-short document (`os.WriteFile` truncates the file before it writes); and a
    failure of the namespace step keeps
    the saved user config, in the cache and in its file.  On a first start the
    config manager has no backend template, so `CreateAccount` fails after the base
    account is made (`createAccount_keeps_base_account`).  A call that succeeds has
    made all three agree (`createAccount_ok`). -/

namespace Versitygw

open Tenant Config Os GoPath

-- ── the service ────────────────────────────────────────────────────────────

/-- `auth.Account`: the fields the multi-tenant service passes on. -/
structure Account where
  access : String
  secret : String
  role : String
  deriving DecidableEq

/-- The base service's `CreateAccount`: refused with the reason `refuse` gives, and
    the accounts kept, or stored under the access key. -/
def baseCreateAccount (refuse : Account → Option String) (accounts : GoMap Account) (account : Account) :
    Except String Unit × GoMap Account :=
  match refuse account with
  | some e => (.error e, accounts)
  | none => (.ok (), Function.update accounts account.access (some account))

/-- `MultiTenantIAMService`: the base service's accounts, the tenant manager, and the
    config manager over the files it keeps. -/
structure MultiTenantIAMService where
  baseIAM : GoMap Account
  mtManager : DefaultMultiTenantManager
  configStore : Store

/-- `(*MultiTenantIAMService).CreateAccount`.  `none` is the panic of reading the
    defaults of a global configuration that was never loaded. -/
def createAccount (refuse : Account → Option String) (deny : Denials) (svc : MultiTenantIAMService)
    (account : Account) : Option (Except String Unit × MultiTenantIAMService) :=
  match baseCreateAccount refuse svc.baseIAM account with
  | (.error e, _) => some (.error e, svc)
  | (.ok (), baseIAM) =>
      let svc := { svc with baseIAM := baseIAM }
      let tenantID := getTenantID account.access
      match svc.configStore.cm.getGlobalConfig with
      | none => none
      | some globalConfig =>
          match svc.configStore.cm.createUserConfig account.access tenantID globalConfig.defaults.backendType with
          | .error e => some (.error ("failed to create user config: " ++ e), svc)
          | .ok userConfig =>
              match svc.configStore.saveUserConfig deny userConfig with
              | (.error e, store, _) =>
                  some (.error ("failed to save user config: " ++ e), { svc with configStore := store })
              | (.ok (), store, _) =>
                  let storageConfig : UserStorageConfig :=
                    { backendType := userConfig.backendType
                      backendConfig := userConfig.backendConfig
                      storagePath := userConfig.storagePath
                      quota := userConfig.storageQuota
                      usedSpace := 0
                      mounted := false
                      metadata := userConfig.metadata }
                  match svc.mtManager.createUserNamespace account.access (some storageConfig) with
                  | (.error e, mtManager) =>
                      some (.error ("failed to create user namespace: " ++ e),
                        { svc with configStore := store, mtManager := mtManager })
                  | (.ok (), mtManager) => some (.ok (), { svc with configStore := store, mtManager := mtManager })

/-- The base service's `GetUserAccount`: the account stored under the access key;
    `none` is the base service's error. -/
def baseGetUserAccount (accounts : GoMap Account) (access : String) : Option Account := accounts access

/-- The base service's `DeleteUserAccount`: refused with the reason `refuse` gives, and
    the accounts kept, or the access key dropped. -/
def baseDeleteUserAccount (refuse : String → Option String) (accounts : GoMap Account) (access : String) :
    Except String Unit × GoMap Account :=
  match refuse access with
  | some e => (.error e, accounts)
  | none => (.ok (), Function.update accounts access none)

/-- `(*MultiTenantIAMService).GetUserAccount`: the base account (`none`: the base
    service's error), after loading the user's config or, when that fails, creating
    and saving a `posix` one, and then setting the user's status to `active`.  The
    config manager's errors are only logged. -/
def getUserAccount (deny : Denials) (svc : MultiTenantIAMService) (access : String) :
    Option Account × MultiTenantIAMService :=
  match baseGetUserAccount svc.baseIAM access with
  | none => (none, svc)
  | some account =>
      match svc.configStore.loadUserConfig deny access with
      | (.ok _, store, _) =>
          (some account, { svc with configStore := (store.updateUserStatus deny access "active").2.1 })
      | (.error _, store, _) =>
          match store.cm.createUserConfig access (getTenantID access) "posix" with
          | .error _ => (some account, { svc with configStore := store })
          | .ok userConfig =>
              let store := (store.saveUserConfig deny userConfig).2.1
              (some account, { svc with configStore := (store.updateUserStatus deny access "active").2.1 })

/-- `(*MultiTenantIAMService).DeleteUserAccount`: the user's namespace, then the user's
    config, each failure only logged, then the base account. -/
def deleteUserAccount (refuse : String → Option String) (deny : Denials) (svc : MultiTenantIAMService)
    (access : String) : Except String Unit × MultiTenantIAMService :=
  let mtManager := (svc.mtManager.deleteUserNamespace access).2
  let configStore := (svc.configStore.deleteUserConfig deny access).2.1
  let (r, baseIAM) := baseDeleteUserAccount refuse svc.baseIAM access
  (r, ⟨baseIAM, mtManager, configStore⟩)

-- ── a failed creation ──────────────────────────────────────────────────────

/-- **PARTIAL CREATION**: a failed `CreateAccount` leaves the tenant records as they
    were.  It failed in the base service and changed nothing, or it failed later
    and the base service keeps the new account; the config manager's cache is then
    as before, with no file changed outside the directories down to the users
    directory but the user's, which a failed save may leave holding a record of the
    user or cut short, or the cache holds the user's config, which is also in its
    file. -/
theorem createAccount_failure {refuse : Account → Option String} {deny : Denials}
    {svc : MultiTenantIAMService} {account : Account} {e : String} {svc' : MultiTenantIAMService}
    (h : createAccount refuse deny svc account = some (.error e, svc')) :
    svc'.mtManager = svc.mtManager ∧
      ((refuse account = some e ∧ svc' = svc) ∨
        (svc'.baseIAM = Function.update svc.baseIAM account.access (some account) ∧
          ((svc'.configStore.cm = svc.configStore.cm ∧
              ∀ k, ¬ k.Above (usersKey svc.configStore.cm.configPath) →
                find k svc'.configStore.fs.entries = find k svc.configStore.fs.entries ∨
                  (k = keyOf (join [join [svc.configStore.cm.configPath, "users"], account.access ++ ".json"]) ∧
                    ∃ c, c.userID = account.access ∧
                      AfterFailedSave c (find k svc.configStore.fs.entries) (find k svc'.configStore.fs.entries))) ∨
            ∃ c, c.userID = account.access ∧ svc'.configStore.cm = svc.configStore.cm.cache account.access c ∧
              find (keyOf (join [join [svc.configStore.cm.configPath, "users"], account.access ++ ".json"]))
                svc'.configStore.fs.entries = some (.file (.userConfig c))))) := by
  unfold createAccount baseCreateAccount at h
  rcases hr : refuse account with _ | e0
  · simp only [hr] at h
    split at h
    · cases h
    split at h
    · -- `CreateUserConfig` failed
      cases h
      exact ⟨rfl, .inr ⟨rfl, .inl ⟨rfl, fun _ _ => .inl rfl⟩⟩⟩
    rename_i c hc
    have hid := ConfigManager.createUserConfig_userID _ hc
    have hres := Store.saveUserConfig_result deny svc.configStore c
    split at h
    · -- the save failed
      rename_i store calls hs
      cases h
      rw [hs] at hres
      rcases hres with ⟨-, hcm, hfs⟩ | ⟨hok, -⟩
      · refine ⟨rfl, .inr ⟨rfl, .inl ⟨hcm, fun k ha => (hfs k ha).imp_right fun ⟨hk, hl⟩ => ?_⟩⟩⟩
        rw [hid] at hk
        exact ⟨hk, c, hid, hl⟩
      · cases hok
    rename_i store calls hs
    rw [hs] at hres
    split at h
    · -- the namespace failed
      rename_i mt hns
      cases h
      have hmt := DefaultMultiTenantManager.createUserNamespace_error _ (congrArg Prod.fst hns)
      rw [hns] at hmt
      rcases hres with ⟨hne, -⟩ | ⟨-, hcm, hfile⟩
      · exact absurd rfl hne
      · rw [hid] at hcm hfile
        exact ⟨hmt, .inr ⟨rfl, .inr ⟨c, hid, hcm, hfile⟩⟩⟩
    · simp at h
  · -- the base service refused
    simp only [hr] at h
    cases h
    exact ⟨rfl, .inl ⟨rfl, rfl⟩⟩

-- ── a successful creation ──────────────────────────────────────────────────

/-- A `CreateAccount` that returns nil passed the base service, stored the account,
    created and saved the user's config, and stored a namespace record built from it
    under the user's base path. -/
theorem createAccount_ok_steps {refuse : Account → Option String} {deny : Denials}
    {svc : MultiTenantIAMService} {account : Account} {svc' : MultiTenantIAMService}
    (h : createAccount refuse deny svc account = some (.ok (), svc')) :
    refuse account = none ∧ svc'.baseIAM = Function.update svc.baseIAM account.access (some account) ∧
      ∃ c calls, (∃ t bt, svc.configStore.cm.createUserConfig account.access t bt = .ok c) ∧
        svc.configStore.saveUserConfig deny c = (.ok (), svc'.configStore, calls) ∧
        ∃ b, svc.mtManager.getUserBasePath account.access = .ok b ∧
          svc'.mtManager = svc.mtManager.store account.access (svc.mtManager.namespaceRecord b (some
            { backendType := c.backendType, backendConfig := c.backendConfig, storagePath := c.storagePath,
              quota := c.storageQuota, usedSpace := 0, mounted := false, metadata := c.metadata })) := by
  unfold createAccount baseCreateAccount at h
  rcases hr : refuse account with _ | e0
  · simp only [hr] at h
    split at h
    · cases h
    split at h
    · cases h
    rename_i c hc
    split at h
    · cases h
    rename_i store calls hs
    split at h
    · cases h
    rename_i mt hmt
    cases h
    refine ⟨rfl, rfl, c, calls, ⟨_, _, hc⟩, hs, ?_⟩
    unfold DefaultMultiTenantManager.createUserNamespace at hmt
    split at hmt <;> cases hmt
    exact ⟨_, ‹_›, rfl⟩
  · simp only [hr] at h
    cases h

/-- **CREATION**: a `CreateAccount` that returns nil has stored the account in the base
    service, cached and written the user's config, and given the user a storage
    record with the config's backend, parameters and quota, no usage, not mounted. -/
theorem createAccount_ok {refuse : Account → Option String} {deny : Denials}
    {svc : MultiTenantIAMService} {account : Account} {svc' : MultiTenantIAMService}
    (h : createAccount refuse deny svc account = some (.ok (), svc')) :
    refuse account = none ∧ svc'.baseIAM = Function.update svc.baseIAM account.access (some account) ∧
      ∃ c, c.userID = account.access ∧ svc'.configStore.cm = svc.configStore.cm.cache account.access c ∧
        find (keyOf (join [join [svc.configStore.cm.configPath, "users"], account.access ++ ".json"]))
          svc'.configStore.fs.entries = some (.file (.userConfig c)) ∧
        ∃ r, svc'.mtManager.userConfigs account.access = some r ∧ r.backendType = c.backendType ∧
          r.backendConfig = c.backendConfig ∧ r.quota = c.storageQuota ∧ r.usedSpace = 0 ∧ r.mounted = false := by
  obtain ⟨hr, hb, c, _, ⟨_, _, hc⟩, hs, b, -, hm⟩ := createAccount_ok_steps h
  have hcu := ConfigManager.createUserConfig_userID _ hc
  obtain ⟨-, hcm, hfile⟩ := (svc.configStore.saveUserConfig_result deny c).resolve_left fun h' => h'.1 (by rw [hs])
  rw [hs, hcu] at hcm hfile
  refine ⟨hr, hb, c, hcu, hcm, hfile, _, by rw [hm, DefaultMultiTenantManager.store_userConfigs, if_pos rfl], ?_⟩
  simp only [DefaultMultiTenantManager.namespaceRecord, Option.getD_some]
  split <;> simp

/-- The service once the default configuration and its templates are loaded, over an
    empty file system. -/
def loadedService : MultiTenantIAMService :=
  ⟨GoMap.empty, newMultiTenantManager (mtConfig {} createDefaultConfig),
    ⟨{ newConfigManager "/etc/vgw" with
        globalConfig := some createDefaultConfig, backendTemplates := createDefaultConfig.backends }, FS.empty⟩⟩

/-- `createAccount_ok` on the loaded service: the new user's record is not mounted. -/
theorem createAccount_ok_loaded :
    ∃ svc', createAccount (fun _ => none) allow loadedService ⟨"alice", "alice-secret", "user"⟩ =
        some (.ok (), svc') ∧ ∃ r, svc'.mtManager.userConfigs "alice" = some r ∧ r.mounted = false := by
  obtain ⟨svc', h⟩ : ∃ svc', createAccount (fun _ => none) allow loadedService ⟨"alice", "alice-secret", "user"⟩ =
      some (.ok (), svc') := ⟨_, rfl⟩
  obtain ⟨-, -, -, -, -, -, r, hr, -, -, -, -, hm⟩ := createAccount_ok h
  exact ⟨svc', h, r, hr, hm⟩

/-- The service on a first start, as `runMultiTenant` builds it from the default
    flags over an empty file system: the default global configuration is loaded,
    and no account, record or template exists. -/
def firstStartService : MultiTenantIAMService where
  baseIAM := GoMap.empty
  mtManager := newMultiTenantManager (mtConfig {} createDefaultConfig)
  configStore := (Store.loadGlobalConfig allow ⟨newConfigManager ({} : Flags).configDir, FS.empty⟩).2.1

/-- A new account. -/
def aliceAccount : Account := ⟨"alice", "alice-secret", "user"⟩

/-- `createAccount_failure` on a first start. -/
theorem createAccount_failure_first_start :
    ∃ svc', createAccount (fun _ => none) allow firstStartService aliceAccount =
        some (.error "failed to create user config: backend type posix not found", svc') ∧
      svc'.mtManager = firstStartService.mtManager ∧
      (((fun _ => none) aliceAccount = some "failed to create user config: backend type posix not found" ∧
          svc' = firstStartService) ∨
        (svc'.baseIAM = Function.update firstStartService.baseIAM aliceAccount.access (some aliceAccount) ∧
          ((svc'.configStore.cm = firstStartService.configStore.cm ∧
              ∀ k, ¬ k.Above (usersKey firstStartService.configStore.cm.configPath) →
                find k svc'.configStore.fs.entries = find k firstStartService.configStore.fs.entries ∨
                  (k = keyOf (join [join [firstStartService.configStore.cm.configPath, "users"],
                      aliceAccount.access ++ ".json"]) ∧
                    ∃ c, c.userID = aliceAccount.access ∧ AfterFailedSave c
                      (find k firstStartService.configStore.fs.entries) (find k svc'.configStore.fs.entries))) ∨
            ∃ c, c.userID = aliceAccount.access ∧
              svc'.configStore.cm = firstStartService.configStore.cm.cache aliceAccount.access c ∧
              find (keyOf (join [join [firstStartService.configStore.cm.configPath, "users"],
                aliceAccount.access ++ ".json"])) svc'.configStore.fs.entries = some (.file (.userConfig c))))) := by
  obtain ⟨svc', h⟩ : ∃ svc', createAccount (fun _ => none) allow firstStartService aliceAccount =
      some (.error "failed to create user config: backend type posix not found", svc') := ⟨_, rfl⟩
  exact ⟨svc', h, createAccount_failure h⟩

/-- Account creation is not all-or-nothing: on a first start the base service
    creates the account, then `CreateUserConfig` finds no `posix` template, and the
    call fails with the account kept. -/
theorem createAccount_keeps_base_account :
    ∃ svc', createAccount (fun _ => none) allow firstStartService aliceAccount =
        some (.error "failed to create user config: backend type posix not found", svc') ∧
      firstStartService.baseIAM "alice" = none ∧ svc'.baseIAM "alice" = some aliceAccount :=
  ⟨_, rfl, rfl, rfl⟩

end Versitygw
