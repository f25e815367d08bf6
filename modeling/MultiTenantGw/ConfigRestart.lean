import MultiTenantGw.ConfigCoherence

/-! # The config store across a restart

    A restarted gateway builds a new `ConfigManager` over the same configuration
    directory (`newConfigManager`), with an empty cache and no global configuration,
    and reads back what the files hold.  Four laws relate the running manager to
    such a cold one:

    * **`loadGlobalConfig_restart`**: after a `LoadGlobalConfig` that returned nil, a
      restart loads the global configuration `g` it holds as `encoding/json` reads
      it back (`g.json`, which is `g` itself when `g` was read from the file), and
      with it `backendTemplates = g.json.backends`.  On a first start the templates
      stay missing (`loadGlobalConfig_missing_templates`); the restart after it has
      them.
    * **`saveUserConfig_restart`**: a user config that `SaveUserConfig` wrote loads
      back after a restart, as `encoding/json` reads it back.
    * **`deleteUserConfig_restart`**: a user config that `DeleteUserConfig` reports
      deleted no longer loads, neither now nor after a restart.
    * **`updateWith_restart`**: an `UpdateUserStatus` or `UpdateUserUsage` that
      returned nil loads back after a restart as the changed record, under the
      `UserID` the loaded record carries: the file it writes is that ID's, which is
      the caller's only when the record's file and its `UserID` agree. -/

namespace Config

open GoPath Os

namespace Store

variable (deny : Denials) (s : Store)

-- ── what the saves leave in the files ─────────────────────────────────────

theorem saveGlobalConfig_file (h : (s.saveGlobalConfig deny).1 = .ok ()) :
    find (keyOf (join [s.cm.configPath, "multitenant.json"])) (s.saveGlobalConfig deny).2.1.fs.entries =
      some (.file (.globalConfig (s.cm.globalConfig.getD {}))) := by
  unfold saveGlobalConfig at h ⊢
  rcases hm : s.fs.mkdirAll deny s.cm.configPath with e | fs
  · simp only [hm] at h
    cases h
  rcases hw : (fs.writeFile deny (join [s.cm.configPath, "multitenant.json"])
      (.globalConfig (s.cm.globalConfig.getD {})) truncated).1 with e | _
  · simp only [hm, hw] at h
    cases h
  simp only [hm, hw]
  rw [FS.writeFile_ok hw, if_pos rfl]

/-- A `LoadGlobalConfig` that returns nil leaves `multitenant.json` holding a file
    that parses to the configuration it loaded or wrote, as `encoding/json` reads it
    back. -/
theorem loadGlobalConfig_file (h : (s.loadGlobalConfig deny).1 = .ok ()) :
    ∃ d g, find (keyOf (join [s.cm.configPath, "multitenant.json"])) (s.loadGlobalConfig deny).2.1.fs.entries =
        some (.file d) ∧ decodeGlobalConfig d = .ok g.json ∧ (s.loadGlobalConfig deny).2.1.cm.globalConfig = some g := by
  unfold loadGlobalConfig at h ⊢
  dsimp only at h ⊢
  rcases hr : s.fs.readFile deny (join [s.cm.configPath, "multitenant.json"]) with e | d <;>
    simp only [hr] at h ⊢
  · by_cases hne : e.notExist
    · simp only [hne, if_true] at h ⊢
      refine ⟨_, createDefaultConfig, saveGlobalConfig_file deny _ h, rfl, ?_⟩
      rw [saveGlobalConfig_cm]
    · simp only [hne] at h
      cases h
  · rcases hg : decodeGlobalConfig d with e | g <;> simp only [hg] at h ⊢
    · cases h
    · exact ⟨d, g, FS.readFile_ok hr, by rw [decodeGlobalConfig_json hg, hg], rfl⟩

/-- A `DeleteUserConfig` that returns nil has dropped the user's cache entry and left
    nothing under the user's file. -/
theorem deleteUserConfig_gone {u : String} (h : (s.deleteUserConfig deny u).1 = .ok ()) :
    (s.deleteUserConfig deny u).2.1.cm = s.cm.uncache u ∧
      find (keyOf (join [s.cm.configPath, "users", u ++ ".json"])) (s.deleteUserConfig deny u).2.1.fs.entries =
        none := by
  unfold deleteUserConfig at h ⊢
  dsimp only at h ⊢
  rcases hrm : s.fs.remove deny (join [s.cm.configPath, "users", u ++ ".json"]) with e | fs'
  · by_cases hne : e.notExist
    · simp only [hne, if_true, true_and]
      exact FS.remove_notExist hrm hne
    · simp only [hrm, hne] at h
      cases h
  · exact ⟨rfl, by rw [FS.remove_find hrm, if_pos rfl]⟩

end Store

-- ── what a cold manager reads ─────────────────────────────────────────────

theorem loadGlobalConfig_cold_file {deny : Denials} {cp : String} {fs : FS Content} {d : Content}
    {g : MultiTenantConfig} (hr : deny (.readFile (join [cp, "multitenant.json"])) = none)
    (hf : find (keyOf (join [cp, "multitenant.json"])) fs.entries = some (.file d))
    (hg : decodeGlobalConfig d = .ok g) :
    (Store.loadGlobalConfig deny ⟨newConfigManager cp, fs⟩).1 = .ok () ∧
      (Store.loadGlobalConfig deny ⟨newConfigManager cp, fs⟩).2.1.cm.globalConfig = some g ∧
      (Store.loadGlobalConfig deny ⟨newConfigManager cp, fs⟩).2.1.cm.backendTemplates = g.backends := by
  have hread : fs.readFile deny (join [cp, "multitenant.json"]) = .ok d := FS.readFile_of_find hr hf
  simp only [Store.loadGlobalConfig, newConfigManager, hread, hg]
  refine ⟨trivial, trivial, funext fun name => ?_⟩
  cases g.backends name <;> rfl

theorem loadUserConfig_cold_file {deny : Denials} {cp u : String} {fs : FS Content} {d : Content}
    {c : UserConfig} (hu : '/' ∉ u.data) (hr : deny (.readFile (join [cp, "users", u ++ ".json"])) = none)
    (hf : find (userKey cp u) fs.entries = some (.file d)) (hd : decodeUserConfig d = .ok c) :
    (Store.loadUserConfig deny ⟨newConfigManager cp, fs⟩ u).1 = .ok c := by
  have hread : fs.readFile deny (join [cp, "users", u ++ ".json"]) = .ok d :=
    FS.readFile_of_find hr (by rw [keyOf_userFile _ hu]; exact hf)
  simp only [Store.loadUserConfig, newConfigManager, GoMap.empty, hread, hd]

/-- A user whose file is missing does not load. -/
theorem loadUserConfig_of_none {deny : Denials} {s : Store} {u : String} (hc : s.cm.userConfigs u = none)
    (hf : find (keyOf (join [s.cm.configPath, "users", u ++ ".json"])) s.fs.entries = none) :
    ∃ e, (s.loadUserConfig deny u).1 = .error e := by
  simp only [Store.loadUserConfig, hc]
  rcases hrd : s.fs.readFile deny (join [s.cm.configPath, "users", u ++ ".json"]) with e | d
  · exact ⟨_, rfl⟩
  · rw [FS.readFile_ok hrd] at hf
    cases hf

-- ── the restart laws ──────────────────────────────────────────────────────

/-- **GLOBAL CONFIGURATION ACROSS A RESTART**: after a `LoadGlobalConfig` that returned
    nil, holding `g`, a config manager started afresh on the files, when it may read
    `multitenant.json`, loads `g` as `encoding/json` reads it back, and its templates
    are exactly that configuration's `Backends`. -/
theorem loadGlobalConfig_restart {deny deny' : Denials} {s : Store} (h : (s.loadGlobalConfig deny).1 = .ok ())
    (hr : deny' (.readFile (join [s.cm.configPath, "multitenant.json"])) = none) :
    ∃ g, (s.loadGlobalConfig deny).2.1.cm.globalConfig = some g ∧
      (Store.loadGlobalConfig deny' ⟨newConfigManager s.cm.configPath, (s.loadGlobalConfig deny).2.1.fs⟩).1 =
        .ok () ∧
      (Store.loadGlobalConfig deny' ⟨newConfigManager s.cm.configPath, (s.loadGlobalConfig deny).2.1.fs⟩).2.1.cm.globalConfig =
        some g.json ∧
      (Store.loadGlobalConfig deny' ⟨newConfigManager s.cm.configPath,
        (s.loadGlobalConfig deny).2.1.fs⟩).2.1.cm.backendTemplates = g.json.backends := by
  obtain ⟨d, g, hf, hg, hcm⟩ := s.loadGlobalConfig_file deny h
  exact ⟨g, hcm, loadGlobalConfig_cold_file hr hf hg⟩

/-- `loadGlobalConfig_restart` after a first start: the restart has the default
    configuration's templates. -/
theorem loadGlobalConfig_restart_first_start :
    ∃ g, (Store.loadGlobalConfig allow ⟨newConfigManager "/etc/vgw", FS.empty⟩).2.1.cm.globalConfig = some g ∧
      (Store.loadGlobalConfig allow ⟨newConfigManager "/etc/vgw",
        (Store.loadGlobalConfig allow ⟨newConfigManager "/etc/vgw", FS.empty⟩).2.1.fs⟩).1 = .ok () ∧
      (Store.loadGlobalConfig allow ⟨newConfigManager "/etc/vgw",
        (Store.loadGlobalConfig allow ⟨newConfigManager "/etc/vgw", FS.empty⟩).2.1.fs⟩).2.1.cm.globalConfig =
        some g.json ∧
      (Store.loadGlobalConfig allow ⟨newConfigManager "/etc/vgw",
        (Store.loadGlobalConfig allow ⟨newConfigManager "/etc/vgw", FS.empty⟩).2.1.fs⟩).2.1.cm.backendTemplates =
        g.json.backends :=
  loadGlobalConfig_restart rfl rfl

/-- **USER CONFIG ACROSS A RESTART**: a user config that `SaveUserConfig` wrote, for a
    user ID without `/`, is what a config manager started afresh on the files loads
    for that user, as `encoding/json` reads it back, when it may read the file. -/
theorem saveUserConfig_restart {deny deny' : Denials} {s : Store} {c : UserConfig} (hu : '/' ∉ c.userID.data)
    (h : (s.saveUserConfig deny c).1 = .ok ())
    (hr : deny' (.readFile (join [s.cm.configPath, "users", c.userID ++ ".json"])) = none) :
    (Store.loadUserConfig deny' ⟨newConfigManager s.cm.configPath, (s.saveUserConfig deny c).2.1.fs⟩
      c.userID).1 = .ok c.json := by
  rcases s.saveUserConfig_outcome deny hu with ⟨hne, -⟩ | ⟨-, -, hf⟩
  · exact absurd h hne
  · exact loadUserConfig_cold_file hu hr hf rfl

/-- `saveUserConfig_restart` for a first user on an empty file system. -/
theorem saveUserConfig_restart_alice :
    (Store.loadUserConfig allow ⟨newConfigManager "/etc/vgw",
      (Store.saveUserConfig allow ⟨newConfigManager "/etc/vgw", FS.empty⟩ { userID := "alice" }).2.1.fs⟩
      "alice").1 = .ok { userID := "alice" : UserConfig }.json :=
  @saveUserConfig_restart allow allow ⟨newConfigManager "/etc/vgw", FS.empty⟩ { userID := "alice" } (by decide) rfl rfl

/-- The store after saving a first user's config on an empty file system. -/
def aliceSaved : Store := (Store.saveUserConfig allow ⟨newConfigManager "/etc/vgw", FS.empty⟩ { userID := "alice" }).2.1

/-- **DELETION ACROSS A RESTART**: once `DeleteUserConfig` returned nil, the user's config
    does not load, from the running manager or from one started afresh on the files. -/
theorem deleteUserConfig_restart {deny deny' : Denials} {s : Store} {u : String}
    (h : (s.deleteUserConfig deny u).1 = .ok ()) :
    (∃ e, ((s.deleteUserConfig deny u).2.1.loadUserConfig deny' u).1 = .error e) ∧
      ∃ e, (Store.loadUserConfig deny' ⟨newConfigManager s.cm.configPath, (s.deleteUserConfig deny u).2.1.fs⟩
        u).1 = .error e := by
  obtain ⟨hcm, hf⟩ := s.deleteUserConfig_gone deny h
  refine ⟨loadUserConfig_of_none ?_ ?_, loadUserConfig_of_none rfl hf⟩
  · rw [hcm, ConfigManager.uncache_userConfigs, if_pos rfl]
  · rw [hcm, ConfigManager.uncache_configPath]
    exact hf

/-- `deleteUserConfig_restart` for a user whose config was just saved. -/
theorem deleteUserConfig_restart_alice :
    (∃ e, ((aliceSaved.deleteUserConfig allow "alice").2.1.loadUserConfig allow "alice").1 = .error e) ∧
      ∃ e, (Store.loadUserConfig allow ⟨newConfigManager aliceSaved.cm.configPath,
        (aliceSaved.deleteUserConfig allow "alice").2.1.fs⟩ "alice").1 = .error e :=
  deleteUserConfig_restart rfl

theorem Store.loadUserConfig_configPath (deny : Denials) (s : Store) (u : String) :
    (s.loadUserConfig deny u).2.1.cm.configPath = s.cm.configPath := by
  rcases (s.loadUserConfig_spec deny u).2.2 with ⟨h, _⟩ | ⟨_, _, _, _, h, _⟩ <;> simp [h]

/-- **UPDATES ACROSS A RESTART**: when `UpdateUserStatus` or `UpdateUserUsage` for `u`
    returns nil, having loaded the record `c`, a config manager started afresh on the
    files loads the changed record back under its `UserID`, as `encoding/json` reads
    it back, when that ID has no `/` and its file may be read. -/
theorem updateWith_restart {deny deny' : Denials} {s : Store} {u : String} {change : UserConfig → UserConfig}
    {c : UserConfig} (hc : (s.loadUserConfig deny u).1 = .ok c) (hid : '/' ∉ (change c).userID.data)
    (h : (s.updateWith deny u change).1 = .ok ())
    (hr : deny' (.readFile (join [s.cm.configPath, "users", (change c).userID ++ ".json"])) = none) :
    (Store.loadUserConfig deny' ⟨newConfigManager s.cm.configPath, (s.updateWith deny u change).2.1.fs⟩
      (change c).userID).1 = .ok (change c).json := by
  obtain ⟨h1, h2⟩ := updateWith_of_load deny change hc
  rw [h2]
  rcases Store.saveUserConfig_outcome deny
      ⟨(s.loadUserConfig deny u).2.1.cm.cache u (change c), (s.loadUserConfig deny u).2.1.fs⟩ hid with ⟨hne, -⟩ | ⟨-, -, hf⟩
  · exact absurd (h1 ▸ h) hne
  · rw [ConfigManager.cache_configPath, Store.loadUserConfig_configPath] at hf
    exact loadUserConfig_cold_file hid hr hf rfl

/-- `updateWith_restart` for `UpdateUserStatus` after a first user's config was saved:
    the restart loads the suspended record. -/
theorem updateUserStatus_restart_alice :
    (aliceSaved.loadUserConfig allow "alice").1 = .ok { userID := "alice" } ∧
      (Store.loadUserConfig allow ⟨newConfigManager aliceSaved.cm.configPath,
        (aliceSaved.updateUserStatus allow "alice" "suspended").2.1.fs⟩ "alice").1 =
        .ok { userID := "alice", status := "suspended" : UserConfig }.json :=
  have hc : (aliceSaved.loadUserConfig allow "alice").1 = .ok { userID := "alice" } := rfl
  ⟨hc, updateWith_restart hc (by decide) rfl rfl⟩

end Config
