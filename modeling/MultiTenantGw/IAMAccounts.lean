import MultiTenantGw.IAMService

/-! # The IAM service over whole runs

    `GetUserAccount`, `CreateAccount` and `DeleteUserAccount` share the tenant
    manager and the config manager with the rest of the gateway.  Three results about
    them:

    * **Ownership** (`runCalls_owned`): over any sequence of the three calls, each
      answered by the base service and the file system as they may, every storage
      record of the tenant manager belongs to an account of the base service.
      `CreateAccount` stores a record only once the base service has stored the
      account, and `DeleteUserAccount` drops the record before the base service may
      refuse to delete the account.
    * **Reactivation** (`getUserAccount_reactivates`): a lookup that finds the account
      leaves a cached config of the user `active`, a suspended one included, even when
      writing the status fails: the cached record is changed before it is saved.
    * **Round trip** (`createAccount_deleteUserAccount`): creating a fresh account and
      deleting it again gives back the base service's accounts, the tenant records and
      the config cache; of the files, only directories down to the users directory
      may remain, and the user's file is gone.
    * **Storage path** (`createAccount_storage_validates`): the record `CreateAccount`
      stores takes its path from the config manager's `BaseMountPath`, while
      `ValidateUserAccess` checks against the tenant manager's base path; when the
      two agree, as with their defaults, the record's path is the user's base path
      and passes the user's own check. -/

namespace Versitygw

open Tenant Config Os GoPath

-- ── what each call does to the accounts and the records ───────────────────

/-- Everything a `CreateAccount` can do: return the base service's refusal and change
    nothing; or, with the account stored, keep the config store or leave it as saving
    a config left it, and keep the tenant records unless it returns nil. -/
theorem createAccount_cases {refuse : Account → Option String} {deny : Denials}
    {svc : MultiTenantIAMService} {account : Account} {r : Except String Unit} {svc' : MultiTenantIAMService}
    (h : createAccount refuse deny svc account = some (r, svc')) :
    svc' = svc ∨ (svc'.baseIAM = Function.update svc.baseIAM account.access (some account) ∧
      (svc'.configStore = svc.configStore ∨ ∃ c, svc'.configStore = (svc.configStore.saveUserConfig deny c).2.1) ∧
      (svc'.mtManager = svc.mtManager ∨ r = .ok ())) := by
  unfold createAccount baseCreateAccount at h
  rcases hr : refuse account with _ | e0
  · simp only [hr] at h
    split at h
    · cases h
    split at h
    · cases h; exact .inr ⟨rfl, .inl rfl, .inl rfl⟩
    rename_i c _
    split at h <;> rename_i hs
    · cases h; exact .inr ⟨rfl, .inr ⟨c, by rw [hs]⟩, .inl rfl⟩
    split at h <;> rename_i mt hmt <;> cases h
    · exact .inr ⟨rfl, .inr ⟨c, by rw [hs]⟩, .inl ((svc.mtManager.createUserNamespace_snd hmt).resolve_right
        fun h => nomatch h.1).2⟩
    · exact .inr ⟨rfl, .inr ⟨c, by rw [hs]⟩, .inr rfl⟩
  · simp only [hr] at h
    cases h
    exact .inl rfl

theorem getUserAccount_frame (deny : Denials) (svc : MultiTenantIAMService) (access : String) :
    (getUserAccount deny svc access).2.baseIAM = svc.baseIAM ∧
      (getUserAccount deny svc access).2.mtManager = svc.mtManager := by
  unfold getUserAccount
  split
  · exact ⟨rfl, rfl⟩
  · split
    · exact ⟨rfl, rfl⟩
    · split <;> exact ⟨rfl, rfl⟩

theorem deleteUserAccount_eq (refuse : String → Option String) (deny : Denials) (svc : MultiTenantIAMService)
    (access : String) :
    deleteUserAccount refuse deny svc access =
      ((baseDeleteUserAccount refuse svc.baseIAM access).1,
        ⟨(baseDeleteUserAccount refuse svc.baseIAM access).2, svc.mtManager.erase access,
          (svc.configStore.deleteUserConfig deny access).2.1⟩) := by
  rw [deleteUserAccount, DefaultMultiTenantManager.deleteUserNamespace_snd]

theorem baseDeleteUserAccount_cases (refuse : String → Option String) (accounts : GoMap Account)
    (access : String) :
    ((baseDeleteUserAccount refuse accounts access).1 = .ok () ∧
        (baseDeleteUserAccount refuse accounts access).2 = Function.update accounts access none) ∨
      ((baseDeleteUserAccount refuse accounts access).1 ≠ .ok () ∧
        (baseDeleteUserAccount refuse accounts access).2 = accounts) := by
  unfold baseDeleteUserAccount
  split
  · exact .inr ⟨nofun, rfl⟩
  · exact .inl ⟨rfl, rfl⟩

-- ── ownership over runs ───────────────────────────────────────────────────

/-- Every storage record of the tenant manager belongs to an account of the base
    service. -/
def Owned (svc : MultiTenantIAMService) : Prop :=
  ∀ u, svc.mtManager.userConfigs u ≠ none → svc.baseIAM u ≠ none

section Owned

variable {deny : Denials} {svc svc' : MultiTenantIAMService}

theorem owned_createAccount (hs : Owned svc) {refuse : Account → Option String} {account : Account}
    {r : Except String Unit} (h : createAccount refuse deny svc account = some (r, svc')) : Owned svc' := by
  rcases createAccount_cases h with rfl | ⟨hb, -, hm⟩
  · exact hs
  -- every other user's record is as it was
  have hrec : ∀ u, u ≠ account.access → svc'.mtManager.userConfigs u = svc.mtManager.userConfigs u := by
    rcases hm with hm | rfl
    · intro u _; rw [hm]
    · obtain ⟨-, -, c, _, -, -, b, -, hm⟩ := createAccount_ok_steps h
      intro u hu; rw [hm, DefaultMultiTenantManager.store_userConfigs, if_neg hu]
  intro u hu
  rw [hb, Function.update_apply]
  split
  · exact Option.some_ne_none _
  · exact hs u (by rwa [hrec u ‹_›] at hu)

theorem owned_getUserAccount (hs : Owned svc) (access : String) :
    Owned (getUserAccount deny svc access).2 := by
  obtain ⟨hb, hm⟩ := getUserAccount_frame deny svc access
  rw [Owned, hb, hm]
  exact hs

theorem owned_deleteUserAccount (hs : Owned svc) (refuse : String → Option String) (access : String) :
    Owned (deleteUserAccount refuse deny svc access).2 := by
  intro u hu
  rw [deleteUserAccount_eq] at hu ⊢
  dsimp only at hu ⊢
  rw [DefaultMultiTenantManager.erase_userConfigs] at hu
  split at hu
  · exact absurd rfl hu
  rename_i hua
  rcases baseDeleteUserAccount_cases refuse svc.baseIAM access with ⟨-, hb⟩ | ⟨-, hb⟩ <;> rw [hb]
  · rw [Function.update_noteq hua]; exact hs u hu
  · exact hs u hu

/-- A call of the IAM service (`CreateAccount`, `GetUserAccount`, `DeleteUserAccount`),
    with how the base service answers it. -/
inductive IAMCall where
  | create (refuse : Account → Option String) (account : Account)
  | get (access : String)
  | delete (refuse : String → Option String) (access : String)

/-- The service after one call that meets the file-system denials `deny`; `none` is a
    panic. -/
def IAMCall.apply (deny : Denials) (svc : MultiTenantIAMService) : IAMCall → Option MultiTenantIAMService
  | .create refuse account => (createAccount refuse deny svc account).map (·.2)
  | .get access => some (getUserAccount deny svc access).2
  | .delete refuse access => some (deleteUserAccount refuse deny svc access).2

/-- The service after a sequence of calls, each with the denials it meets; `none`
    once one of them panics. -/
def runCalls (svc : MultiTenantIAMService) : List (Denials × IAMCall) → Option MultiTenantIAMService
  | [] => some svc
  | (deny, call) :: calls => (call.apply deny svc).bind (runCalls · calls)

theorem owned_apply (hs : Owned svc) {call : IAMCall} (h : call.apply deny svc = some svc') : Owned svc' := by
  cases call with
  | create refuse account =>
      obtain ⟨⟨r, _⟩, hc, rfl⟩ := Option.map_eq_some'.1 h
      exact owned_createAccount hs hc
  | get access =>
      cases h
      exact owned_getUserAccount hs access
  | delete refuse access =>
      cases h
      exact owned_deleteUserAccount hs refuse access

end Owned

/-- **OWNERSHIP**: over any sequence of `CreateAccount`, `GetUserAccount` and
    `DeleteUserAccount` calls that does not panic, every storage record of the tenant
    manager keeps belonging to an account of the base service, whatever the base
    service and the file system answer. -/
theorem runCalls_owned {svc svc' : MultiTenantIAMService} {calls : List (Denials × IAMCall)}
    (hs : Owned svc) (h : runCalls svc calls = some svc') : Owned svc' := by
  induction calls generalizing svc with
  | nil => cases h; exact hs
  | cons c calls ih =>
      obtain ⟨svc1, h1, h2⟩ := Option.bind_eq_some.1 h
      exact ih (owned_apply hs h1) h2

/-- `runCalls_owned` from a first start, through a creation that fails after the base
    service stored the account. -/
theorem runCalls_owned_first_start :
    ∃ svc', runCalls firstStartService [(allow, .create (fun _ => none) aliceAccount)] = some svc' ∧
      Owned svc' := by
  obtain ⟨svc', h⟩ : ∃ svc', runCalls firstStartService [(allow, .create (fun _ => none) aliceAccount)] =
      some svc' := ⟨_, rfl⟩
  exact ⟨svc', h, runCalls_owned (fun _ hu => absurd rfl hu) h⟩

-- ── reactivation on lookup ────────────────────────────────────────────────

/-- **REACTIVATION**: a `GetUserAccount` that finds the account leaves any cached
    config of the user with status `active`: the status is set on the cached record
    before it is saved, so a suspended user is reactivated by a lookup even when the
    file cannot be written. -/
theorem getUserAccount_reactivates {deny : Denials} {svc svc' : MultiTenantIAMService} {access : String}
    {account : Account} (h : getUserAccount deny svc access = (some account, svc')) {c : UserConfig}
    (hc : svc'.configStore.cm.userConfigs access = some c) : c.status = "active" := by
  unfold getUserAccount at h
  split at h
  · cases h
  split at h
  · cases h
    exact Store.updateUserStatus_cached _ _ _ _ hc
  rename_i e store calls hl
  have he : (svc.configStore.loadUserConfig deny access).1 = .error e := by rw [hl]
  split at h
  · cases h
    have hs := Store.loadUserConfig_error deny svc.configStore he
    rw [hl] at hs
    cases hs
    rw [Store.loadUserConfig_miss deny _ he] at hc
    cases hc
  · cases h
    exact Store.updateUserStatus_cached _ _ _ _ hc

/-- Alice's account, with a suspended record in the config cache. -/
def suspendedService : MultiTenantIAMService where
  baseIAM := Function.update GoMap.empty "alice" (some aliceAccount)
  mtManager := firstStartService.mtManager
  configStore :=
    ⟨{ newConfigManager "/etc/vgw" with
        userConfigs := Function.update GoMap.empty "alice" (some { userID := "alice", status := "suspended" }) },
      FS.empty⟩

/-- `getUserAccount_reactivates` for a suspended user, with every system call denied. -/
theorem getUserAccount_reactivates_suspended :
    ∃ svc' c, getUserAccount (fun _ => some "permission denied") suspendedService "alice" =
        (some aliceAccount, svc') ∧ svc'.configStore.cm.userConfigs "alice" = some c ∧ c.status = "active" :=
  ⟨_, _, rfl, rfl, @getUserAccount_reactivates (fun _ => some "permission denied") suspendedService _ "alice"
    aliceAccount rfl _ rfl⟩

-- ── creating and deleting an account ──────────────────────────────────────

/-- **ROUND TRIP**: for an access key without `/` that has no account, record or
    cached config, a `CreateAccount` that succeeds followed by a `DeleteUserAccount`
    that succeeds and may remove the user's file gives back the base service's
    accounts, the tenant records and the config cache; every file is as before, but
    for directories created down to the users directory and the user's file, which is
    gone. -/
theorem createAccount_deleteUserAccount {refuse : Account → Option String} {refuse' : String → Option String}
    {deny deny' : Denials} {svc svc1 svc2 : MultiTenantIAMService} {account : Account}
    (hu : '/' ∉ account.access.data) (hbase : svc.baseIAM account.access = none)
    (hrec : svc.mtManager.userConfigs account.access = none)
    (hcache : svc.configStore.cm.userConfigs account.access = none)
    (hc : createAccount refuse deny svc account = some (.ok (), svc1))
    (hrm : deny' (.remove (join [svc.configStore.cm.configPath, "users", account.access ++ ".json"])) = none)
    (hd : deleteUserAccount refuse' deny' svc1 account.access = (.ok (), svc2)) :
    svc2.baseIAM = svc.baseIAM ∧ svc2.mtManager = svc.mtManager ∧ svc2.configStore.cm = svc.configStore.cm ∧
      ∀ k, find k svc2.configStore.fs.entries = find k svc.configStore.fs.entries ∨
        (find k svc.configStore.fs.entries = none ∧ find k svc2.configStore.fs.entries = some .dir ∧
          k.Above (usersKey svc.configStore.cm.configPath)) ∨
        (k = userKey svc.configStore.cm.configPath account.access ∧ find k svc2.configStore.fs.entries = none) := by
  obtain ⟨-, hb1, c, calls, ⟨_, _, hcc⟩, hsave, _, _, hm1⟩ := createAccount_ok_steps hc
  have hcu := ConfigManager.createUserConfig_userID _ hcc
  rw [deleteUserAccount_eq] at hd
  obtain ⟨hok, rfl⟩ := Prod.mk.inj hd
  have hs1 : svc1.configStore = (svc.configStore.saveUserConfig deny c).2.1 := by rw [hsave]
  -- the save cached the record and wrote it to the user's file
  obtain ⟨-, hcm1, hfile⟩ : (svc.configStore.saveUserConfig deny c).1 = .ok () ∧ _ ∧ _ :=
    (svc.configStore.saveUserConfig_result deny c).resolve_left fun h => h.1 (by rw [hsave])
  rw [hcu, keyOf_userFile_of_dir _ hu] at hfile
  rw [hcu] at hcm1
  -- so the delete may remove that file
  have hpath : svc1.configStore.cm.configPath = svc.configStore.cm.configPath := by
    rw [hs1, hcm1, ConfigManager.cache_configPath]
  have hrm1 : deny' (.remove (join [svc1.configStore.cm.configPath, "users", account.access ++ ".json"])) = none := by
    rw [hpath]; exact hrm
  have hfile1 : find (keyOf (join [svc1.configStore.cm.configPath, "users", account.access ++ ".json"]))
      svc1.configStore.fs.entries = some (.file (.userConfig c)) := by
    rw [hpath, keyOf_userFile _ hu, hs1]; exact hfile
  obtain ⟨fs2, hfs2⟩ := FS.remove_file hrm1 hfile1
  rw [Store.deleteUserConfig_of_remove _ _ hfs2]
  refine ⟨?_, ?_, ?_, fun k => ?_⟩
  · obtain ⟨-, hb⟩ := (baseDeleteUserAccount_cases refuse' svc1.baseIAM account.access).resolve_right
      fun h => h.1 hok
    rw [hb, hb1, Function.update_idem, ← hbase, Function.update_eq_self]
  · rw [hm1, DefaultMultiTenantManager.store_erase, DefaultMultiTenantManager.erase_of_none _ hrec]
  · rw [hs1, hcm1, ConfigManager.uncache_cache, ConfigManager.uncache_of_none _ hcache]
  · rw [FS.remove_find hfs2, hpath, keyOf_userFile _ hu]
    split
    · exact .inr (.inr ⟨‹_›, rfl⟩)
    rename_i hk
    rw [hs1]
    rcases (Store.saveUserConfig_spec deny svc.configStore c).2.2 k with h | ⟨h1, h2, h3⟩ | ⟨h1, -⟩
    · exact .inl h
    · exact .inr (.inl ⟨h1, h2, keyOf_usersDir _ ▸ h3⟩)
    · rw [hcu, keyOf_userFile_of_dir _ hu] at h1
      exact absurd h1 hk

/-- `createAccount_deleteUserAccount` for a new account on the loaded service. -/
theorem createAccount_deleteUserAccount_alice :
    ∃ svc1 svc2, createAccount (fun _ => none) allow loadedService aliceAccount = some (.ok (), svc1) ∧
      deleteUserAccount (fun _ => none) allow svc1 aliceAccount.access = (.ok (), svc2) ∧
      svc2.baseIAM = loadedService.baseIAM ∧ svc2.mtManager = loadedService.mtManager ∧
      svc2.configStore.cm = loadedService.configStore.cm := by
  obtain ⟨svc1, hc⟩ : ∃ svc1, createAccount (fun _ => none) allow loadedService aliceAccount =
      some (.ok (), svc1) := ⟨_, rfl⟩
  obtain ⟨svc2, hd⟩ : ∃ svc2, deleteUserAccount (fun _ => none) allow svc1 aliceAccount.access =
      (.ok (), svc2) := ⟨_, rfl⟩
  obtain ⟨hb, hm, hcm, -⟩ :=
    createAccount_deleteUserAccount (by decide) rfl rfl rfl hc rfl hd
  exact ⟨svc1, svc2, hc, hd, hb, hm, hcm⟩

-- ── the recorded storage path ─────────────────────────────────────────────

/-- The record a `CreateAccount` that returns nil stores for the user: when the global
    configuration's `BaseMountPath` is the tenant manager's base path, its storage path
    is the user's base path. -/
theorem createAccount_record_path {refuse : Account → Option String} {deny : Denials}
    {svc svc' : MultiTenantIAMService} {account : Account}
    (hbase : ∀ g, svc.configStore.cm.globalConfig = some g → g.baseMountPath = svc.mtManager.config.basePath)
    (h : createAccount refuse deny svc account = some (.ok (), svc')) :
    ∃ b r, svc.mtManager.getUserBasePath account.access = .ok b ∧
      svc'.mtManager = svc.mtManager.store account.access r ∧ r.storagePath = b := by
  obtain ⟨-, -, c, -, ⟨_, _, hc⟩, -, b, hb, hm⟩ := createAccount_ok_steps h
  obtain ⟨g, hg, hsp⟩ := ConfigManager.createUserConfig_storagePath _ hc
  -- the config's storage path is the user's base path
  have hcb : c.storagePath = b := by
    rw [hsp, hbase g hg, DefaultMultiTenantManager.getUserBasePath_ok _ hb]
  refine ⟨b, _, hb, hm, ?_⟩
  rw [DefaultMultiTenantManager.namespaceRecord_storagePath]
  simp only [hcb, ite_self]

/-- **STORAGE PATH**: when the global configuration's `BaseMountPath` is the tenant
    manager's base path, the record a `CreateAccount` that returns nil stores for the
    user names exactly the user's base path, which passes the user's own
    `ValidateUserAccess`. -/
theorem createAccount_storage_validates {refuse : Account → Option String} {deny : Denials}
    {svc svc' : MultiTenantIAMService} {account : Account}
    (hbase : ∀ g, svc.configStore.cm.globalConfig = some g → g.baseMountPath = svc.mtManager.config.basePath)
    (h : createAccount refuse deny svc account = some (.ok (), svc')) :
    ∃ r, svc'.mtManager.userConfigs account.access = some r ∧
      svc'.mtManager.getUserBasePath account.access = .ok r.storagePath ∧
      validateUserAccess account.access r.storagePath svc'.mtManager = .ok () := by
  obtain ⟨b, r, hb, hm, hr⟩ := createAccount_record_path hbase h
  have hb' : svc'.mtManager.getUserBasePath account.access = .ok b := by rw [hm]; exact hb
  refine ⟨r, by rw [hm, DefaultMultiTenantManager.store_userConfigs, if_pos rfl], by rw [hb', hr], ?_⟩
  simp [validateUserAccess, hb', hr, isSubPath_self]

/-- `createAccount_storage_validates` on the loaded service, whose configuration and
    tenant manager both have the default base path. -/
theorem createAccount_storage_validates_loaded :
    ∃ svc', createAccount (fun _ => none) allow loadedService aliceAccount = some (.ok (), svc') ∧
      ∃ r, svc'.mtManager.userConfigs "alice" = some r ∧
        svc'.mtManager.getUserBasePath "alice" = .ok r.storagePath ∧
        validateUserAccess "alice" r.storagePath svc'.mtManager = .ok () := by
  obtain ⟨svc', h⟩ : ∃ svc', createAccount (fun _ => none) allow loadedService aliceAccount =
      some (.ok (), svc') := ⟨_, rfl⟩
  have hbase : ∀ g, loadedService.configStore.cm.globalConfig = some g →
      g.baseMountPath = loadedService.mtManager.config.basePath := by
    rintro g ⟨⟩
    rfl
  exact ⟨svc', h, createAccount_storage_validates hbase h⟩

end Versitygw
