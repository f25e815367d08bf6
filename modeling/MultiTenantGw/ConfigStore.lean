import MultiTenantGw.Config

/-! # The per-user config files as a map keyed by user ID

    Which files the config store's operations touch.  `LoadUserConfig` and
    `DeleteUserConfig` join `<id>.json` onto `<configPath>/users` with
    `filepath.Join`, which cleans the result, so an ID holding a `/` reaches outside
    the users directory: with `"../multitenant"` they read and remove the global
    configuration, and `SaveUserConfig` of such a record overwrites it
    (`saveUserConfig_escapes`).  `SaveUserConfig` writes the file of the record's
    `UserID`, so `UpdateUserStatus` and `UpdateUserUsage` write whatever file the
    loaded record names.

    For IDs without `/`, from a store whose records carry the ID they are stored under
    (`Keyed`), every operation of every sequence touches only its user's file and
    the users directory, changes only its user's cache entry, and afterwards
    `ListUsers` returns exactly the IDs whose files are in the users directory
    (`ops_confined`). -/

namespace Config

open GoPath Os

-- ── the keys of the store's files ──────────────────────────────────────────

/-- The key of `<configPath>/users`. -/
def usersKey (cp : String) : Key := ((keyOf cp).1, (keyOf cp).2 ++ ["users".data])

/-- The key of `<configPath>/users/<u>.json`. -/
def userKey (cp u : String) : Key := ((keyOf cp).1, (keyOf cp).2 ++ ["users".data, (u ++ ".json").data])

theorem plain_json {u : String} (hu : '/' ∉ u.data) : Plain (u ++ ".json").data := by
  have hlen : 5 ≤ (u ++ ".json").data.length := by simp [String.data_append]
  refine ⟨fun h => ?_, fun h => ?_, fun h => ?_, ?_⟩
  · rw [h] at hlen; simp at hlen
  · rw [h] at hlen; simp at hlen
  · rw [h] at hlen; simp [dotDot] at hlen
  · rw [String.data_append, List.mem_append, not_or]
    exact ⟨hu, by decide⟩

theorem keyOf_usersDir (cp : String) : keyOf (join [cp, "users"]) = usersKey cp := by
  obtain ⟨h1, h2⟩ := @join_plain cp ["users"] (by simp; decide) (by simp)
  simp [keyOf, usersKey, h1, h2]

theorem keyOf_userFile (cp : String) {u : String} (hu : '/' ∉ u.data) :
    keyOf (join [cp, "users", u ++ ".json"]) = userKey cp u := by
  have hxs : ∀ x ∈ ["users", u ++ ".json"], Plain x.data := by
    simp only [List.mem_cons, List.mem_singleton, List.not_mem_nil, or_false, forall_eq_or_imp, forall_eq]
    exact ⟨by decide, plain_json hu⟩
  obtain ⟨h1, h2⟩ := join_plain cp hxs (by simp)
  simp [keyOf, userKey, h1, h2]

/-- `SaveUserConfig` joins in two steps and reaches the same file. -/
theorem keyOf_userFile_of_dir (cp : String) {u : String} (hu : '/' ∉ u.data) :
    keyOf (join [join [cp, "users"], u ++ ".json"]) = userKey cp u := by
  obtain ⟨h1, h2⟩ := @join_plain (join [cp, "users"]) [u ++ ".json"]
    (fun x hx => by rw [List.mem_singleton.mp hx]; exact plain_json hu) (by simp)
  have hd := keyOf_usersDir cp
  simp only [keyOf, usersKey, Prod.mk.injEq] at hd
  simp [keyOf, userKey, h1, h2, hd]

theorem userKey_inj {cp u w : String} (h : userKey cp u = userKey cp w) : u = w := by
  simp only [userKey, Prod.mk.injEq, List.append_cancel_left_eq, List.cons.injEq, true_and, and_true,
    String.data_append] at h
  exact String.ext (List.append_cancel_right h)

theorem userKey_eq (cp u : String) :
    userKey cp u = ((usersKey cp).1, (usersKey cp).2 ++ [(u ++ ".json").data]) := by
  simp [userKey, usersKey]

/-- A file directly under the users directory whose name ends in `.json` is the file
    of the user its name without the extension names. -/
theorem userKey_of_child {cp : String} {k : Key} (hne : k.2 ≠ []) (hp : k.parent = usersKey cp)
    (hext : ext ⟨k.2.getLastD []⟩ = ".json") : k = userKey cp (trimJson ⟨k.2.getLastD []⟩) := by
  obtain ⟨t, ht⟩ := (ext_eq_json_iff _).mp hext
  simp only [Key.parent] at hp
  rw [userKey_eq, ← hp]
  ext1
  · rfl
  · simp only [trimJson, String.data_append]
    simp only at ht
    rw [ht, List.take_left' (by simp)]
    simp only [← ht, List.getLastD_eq_getLast?, List.getLast?_eq_getLast _ hne, Option.getD_some]
    exact (List.dropLast_append_getLast hne).symm

-- ── the invariant and the frame ────────────────────────────────────────────

/-- Every record is stored under its own ID: in the cache, and in the file of each ID
    without `/` wherever that file parses. -/
structure Keyed (s : Store) : Prop where
  cache_id : ∀ w c, s.cm.userConfigs w = some c → c.userID = w
  file_id : ∀ w d c, '/' ∉ w.data → find (userKey s.cm.configPath w) s.fs.entries = some (.file d) →
    decodeUserConfig d = .ok c → c.userID = w

/-- `s'` differs from `s` at most in user `u`'s cache entry and file (no user's, for
    `none`), and in the directories down to the users directory. -/
structure Within (u : Option String) (s s' : Store) : Prop where
  configPath : s'.cm.configPath = s.cm.configPath
  cache : ∀ w, u ≠ some w → s'.cm.userConfigs w = s.cm.userConfigs w
  files : ∀ k, (∀ w, u = some w → k ≠ userKey s.cm.configPath w) → ¬ k.Above (usersKey s.cm.configPath) →
    find k s'.fs.entries = find k s.fs.entries

theorem Within.refl (u : Option String) (s : Store) : Within u s s :=
  ⟨rfl, fun _ _ => rfl, fun _ _ _ => rfl⟩

theorem Within.trans {u : Option String} {s₁ s₂ s₃ : Store} (h₁ : Within u s₁ s₂) (h₂ : Within u s₂ s₃) :
    Within u s₁ s₃ where
  configPath := h₂.configPath.trans h₁.configPath
  cache w hw := (h₂.cache w hw).trans (h₁.cache w hw)
  files k hk ha := by
    rw [h₂.files k (by rwa [h₁.configPath]) (by rwa [h₁.configPath]), h₁.files k hk ha]

/-- The calls an operation on user `u` may make: read, write or remove `u`'s file, and
    create or list the users directory. -/
def Allowed (cp : String) (u : Option String) : Call → Prop
  | .readFile p | .writeFile p | .write p | .close p | .remove p => ∃ w, u = some w ∧ keyOf p = userKey cp w
  | .mkdirAll p | .readDir p => keyOf p = usersKey cp

namespace Store

variable {deny : Denials} {s : Store}

-- ── each operation stays within its user ───────────────────────────────────

theorem loadUserConfig_within (hs : Keyed s) {u : String} (hu : '/' ∉ u.data) :
    (∀ x ∈ (s.loadUserConfig deny u).2.2, Allowed s.cm.configPath (some u) x) ∧
      Within (some u) s (s.loadUserConfig deny u).2.1 ∧ Keyed (s.loadUserConfig deny u).2.1 ∧
      ∀ c, (s.loadUserConfig deny u).1 = .ok c → c.userID = u := by
  obtain ⟨hcalls, hfs, hcm⟩ := s.loadUserConfig_spec deny u
  have hkey := keyOf_userFile s.cm.configPath hu
  refine ⟨fun x hx => by rw [hcalls x hx]; exact ⟨u, rfl, hkey⟩, ?_⟩
  rcases hcm with ⟨hcm, hres⟩ | ⟨d, c, hd, hc, hcm, hres⟩
  · refine ⟨⟨by rw [hcm], fun w _ => by rw [hcm], fun k _ _ => by rw [hfs]⟩,
      ⟨fun w c h => hs.cache_id w c (by rwa [hcm] at h), fun w d c hw => by rw [hfs, hcm]; exact hs.file_id w d c hw⟩,
      fun c h => hs.cache_id u c (hres c h)⟩
  · rw [hkey] at hd
    have hid : c.userID = u := hs.file_id u d c hu hd hc
    refine ⟨⟨by rw [hcm]; rfl, fun w hw => by rw [hcm]; simp [Ne.symm (mt (congrArg some) hw)],
        fun k _ _ => by rw [hfs]⟩, ⟨fun w c' h => ?_, fun w d c hw => by rw [hfs, hcm]; exact hs.file_id w d c hw⟩,
      fun c' h => by rw [hres] at h; rw [← Except.ok.inj h]; exact hid⟩
    rw [hcm, ConfigManager.cache_userConfigs] at h
    split at h
    · rename_i hwu
      rw [← Option.some.inj h, hwu]; exact hid
    · exact hs.cache_id w c' h

theorem saveUserConfig_within (hs : Keyed s) {c : UserConfig} (hc : '/' ∉ c.userID.data) :
    (∀ x ∈ (s.saveUserConfig deny c).2.2, Allowed s.cm.configPath (some c.userID) x) ∧
      Within (some c.userID) s (s.saveUserConfig deny c).2.1 ∧ Keyed (s.saveUserConfig deny c).2.1 := by
  obtain ⟨hcalls, -, hfs⟩ := s.saveUserConfig_spec deny c
  have hcm := s.saveUserConfig_cm deny c
  have hdir := keyOf_usersDir s.cm.configPath
  have hkey := keyOf_userFile_of_dir s.cm.configPath hc
  rw [hdir, hkey] at hfs
  have hcp : (s.saveUserConfig deny c).2.1.cm.configPath = s.cm.configPath := by rcases hcm with h | h <;> rw [h]; rfl
  refine ⟨fun x hx => ?_, ⟨hcp, fun w hw => ?_, fun k hk ha => ?_⟩, ⟨fun w c' h => ?_, fun w d c' hw hd hdc => ?_⟩⟩
  · rcases hcalls x hx with rfl | rfl
    · exact hdir
    · exact ⟨c.userID, rfl, hkey⟩
  · rcases hcm with h | h <;> rw [h]
    simp [Ne.symm (mt (congrArg some) hw)]
  · rcases hfs k with h | ⟨-, -, h⟩ | ⟨h, -⟩
    · exact h
    · exact absurd h ha
    · exact absurd h (hk _ rfl)
  · rcases hcm with hcm | hcm <;> rw [hcm] at h
    · exact hs.cache_id w c' h
    · rw [ConfigManager.cache_userConfigs] at h
      split at h
      · cases h; subst_vars; rfl
      · exact hs.cache_id w c' h
  · rw [hcp] at hd
    rcases hfs (userKey s.cm.configPath w) with h | ⟨-, h, -⟩ | ⟨h, h' | h'⟩
    · rw [h] at hd; exact hs.file_id w d c' hw hd hdc
    · rw [h] at hd; cases hd
    · rw [h'] at hd
      cases hd
      obtain rfl := userKey_inj h
      cases hdc
      rfl
    · rw [h'] at hd
      cases hd
      cases hdc

theorem deleteUserConfig_within (hs : Keyed s) {u : String} (hu : '/' ∉ u.data) :
    (∀ x ∈ (s.deleteUserConfig deny u).2.2, Allowed s.cm.configPath (some u) x) ∧
      Within (some u) s (s.deleteUserConfig deny u).2.1 ∧ Keyed (s.deleteUserConfig deny u).2.1 := by
  obtain ⟨hcalls, hcm, hfs⟩ := s.deleteUserConfig_spec deny u
  have hkey := keyOf_userFile s.cm.configPath hu
  rw [hkey] at hfs
  have hcp : (s.deleteUserConfig deny u).2.1.cm.configPath = s.cm.configPath := by rcases hcm with h | h <;> rw [h]; rfl
  refine ⟨fun x hx => ?_, ⟨hcp, fun w hw => ?_, fun k hk _ => ?_⟩, ⟨fun w c h => ?_, fun w d c hw hd hdc => ?_⟩⟩
  · rw [hcalls, List.mem_singleton] at hx; subst hx; exact ⟨u, rfl, hkey⟩
  · rcases hcm with h | h <;> rw [h]
    simp [Ne.symm (mt (congrArg some) hw)]
  · rcases hfs k with h | ⟨h, -⟩
    · exact h
    · exact absurd h (hk _ rfl)
  · rcases hcm with hcm | hcm <;> rw [hcm] at h
    · exact hs.cache_id w c h
    · rw [ConfigManager.uncache_userConfigs] at h
      split at h
      · cases h
      · exact hs.cache_id w c h
  · rw [hcp] at hd
    rcases hfs (userKey s.cm.configPath w) with h | ⟨-, h⟩
    · rw [h] at hd; exact hs.file_id w d c hw hd hdc
    · rw [h] at hd; cases hd

/-- Putting a record of the right ID in the cache stays within its user. -/
theorem cache_within (hs : Keyed s) {u : String} {c : UserConfig} (hc : c.userID = u) :
    Within (some u) s { s with cm := s.cm.cache u c } ∧ Keyed { s with cm := s.cm.cache u c } := by
  refine ⟨⟨rfl, fun w hw => ?_, fun _ _ _ => rfl⟩, ⟨fun w c' h => ?_, hs.file_id⟩⟩
  · simp [Ne.symm (mt (congrArg some) hw)]
  · simp only [ConfigManager.cache_userConfigs] at h
    split at h
    · cases h; subst_vars; rfl
    · exact hs.cache_id w c' h

theorem updateWith_within (hs : Keyed s) {u : String} (hu : '/' ∉ u.data) {change : UserConfig → UserConfig}
    (hch : ∀ c, (change c).userID = c.userID) :
    (∀ x ∈ (s.updateWith deny u change).2.2, Allowed s.cm.configPath (some u) x) ∧
      Within (some u) s (s.updateWith deny u change).2.1 ∧ Keyed (s.updateWith deny u change).2.1 := by
  obtain ⟨hcalls₁, hw₁, hk₁, hres⟩ := @loadUserConfig_within deny s hs u hu
  rcases s.updateWith_cases deny u change with ⟨-, heq⟩ | ⟨c, hc, heq⟩ <;> rw [heq]
  · exact ⟨hcalls₁, hw₁, hk₁⟩
  · have hid : (change c).userID = u := (hch c).trans (hres c hc)
    obtain ⟨hw₂, hk₂⟩ := cache_within hk₁ hid
    obtain ⟨hcalls₃, hw₃, hk₃⟩ := @saveUserConfig_within deny _ hk₂ (change c) (by rwa [hid])
    rw [hid] at hcalls₃ hw₃
    have hcp : ({ (s.loadUserConfig deny u).2.1 with
        cm := (s.loadUserConfig deny u).2.1.cm.cache u (change c) } : Store).cm.configPath = s.cm.configPath :=
      hw₁.configPath
    refine ⟨fun x hx => ?_, hw₁.trans (hw₂.trans hw₃), hk₃⟩
    rcases List.mem_append.mp hx with hx | hx
    · exact hcalls₁ x hx
    · have := hcalls₃ x hx; rwa [hcp] at this

-- ── `ListUsers` ────────────────────────────────────────────────────────────

/-- **LIST**: whenever `ListUsers` succeeds, it returns exactly the IDs `n` for which
    the users directory holds a file `n.json`. -/
theorem listUsers_exact (deny : Denials) (s : Store) {ids : List String}
    (h : (s.listUsers deny).1 = .ok ids) (n : String) :
    n ∈ ids ↔ ∃ d, find (userKey s.cm.configPath n) s.fs.entries = some (.file d) := by
  have hdir := keyOf_usersDir s.cm.configPath
  unfold listUsers at h
  dsimp only at h
  split at h
  · rename_i e he
    split at h
    · cases h
      have hnd := FS.readDir_notExist he ‹_›
      rw [hdir] at hnd
      simp only [List.not_mem_nil, false_iff, not_exists]
      intro d hd
      have := FS.parent_ne_of_not_dir hnd _ (mem_of_find hd)
      simp [userKey_eq, Key.parent] at this
    · cases h
  · rename_i l hl
    cases h
    rw [FS.readDir_ok hl, hdir]
    have hperm := List.perm_insertionSort (fun a b : String × Bool => a.1 ≤ b.1)
      (s.fs.children (usersKey s.cm.configPath))
    simp only [List.mem_filterMap]
    constructor
    · rintro ⟨⟨name, b⟩, hmem, hn⟩
      obtain ⟨x, hx, hp, rfl, rfl⟩ := FS.mem_children.mp (hperm.mem_iff.mp hmem)
      obtain ⟨k, e⟩ := x
      cases e with
      | dir => simp [Entry.isDir] at hn
      | file d =>
        simp only [Entry.isDir, Bool.false_eq_true, if_false] at hn
        split at hn
        · rename_i hext
          cases hn
          rw [← userKey_of_child (s.fs.tree _ hx).1 hp hext]
          exact ⟨d, find_of_mem s.fs.nodup hx⟩
        · cases hn
    · rintro ⟨d, hd⟩
      refine ⟨(n ++ ".json", false), hperm.mem_iff.mpr (FS.mem_children.mpr ⟨_, mem_of_find hd, ?_, ?_, rfl⟩), ?_⟩
      · simp [userKey_eq, Key.parent]
      · exact String.ext (by simp [userKey_eq])
      · have hext : ext (n ++ ".json") = ".json" := (ext_eq_json_iff _).mpr ⟨n.data, String.data_append _ _⟩
        simp [hext, trimJson, String.data_append]

end Store

-- ── runs ───────────────────────────────────────────────────────────────────

/-- A call of one of the config store's per-user operations. -/
inductive Op where
  | loadUserConfig (userID : String)
  | saveUserConfig (config : UserConfig)
  | deleteUserConfig (userID : String)
  | updateUserStatus (userID status : String)
  | updateUserUsage (userID : String) (storageUsed bandwidthUsed : GoInt64)
  | listUsers

/-- The user an operation acts on: the record's `UserID` for `SaveUserConfig`, none
    for `ListUsers`. -/
def Op.user : Op → Option String
  | .loadUserConfig u | .deleteUserConfig u | .updateUserStatus u _ | .updateUserUsage u _ _ => some u
  | .saveUserConfig c => some c.userID
  | .listUsers => none

/-- The operation's user, if any, has no `/` in its ID. -/
def Op.Plain (op : Op) : Prop := ∀ u, op.user = some u → '/' ∉ u.data

/-- One operation: the next store and the calls made. -/
def exec (deny : Denials) (s : Store) : Op → Store × List Call
  | .loadUserConfig u => (s.loadUserConfig deny u).2
  | .saveUserConfig c => (s.saveUserConfig deny c).2
  | .deleteUserConfig u => (s.deleteUserConfig deny u).2
  | .updateUserStatus u status => (s.updateUserStatus deny u status).2
  | .updateUserUsage u storageUsed bandwidthUsed => (s.updateUserUsage deny u storageUsed bandwidthUsed).2
  | .listUsers => (s, (s.listUsers deny).2)

/-- A sequence of operations, each meeting its own denials. -/
def run (s : Store) (ops : List (Denials × Op)) : Store := ops.foldl (fun s p => (exec p.1 s p.2).1) s

theorem exec_within {s : Store} (hs : Keyed s) (deny : Denials) {op : Op} (hop : op.Plain) :
    (∀ x ∈ (exec deny s op).2, Allowed s.cm.configPath op.user x) ∧
      Within op.user s (exec deny s op).1 ∧ Keyed (exec deny s op).1 := by
  cases op with
  | loadUserConfig u =>
      obtain ⟨h1, h2, h3, -⟩ := @Store.loadUserConfig_within deny s hs u (hop u rfl)
      exact ⟨h1, h2, h3⟩
  | saveUserConfig c => exact Store.saveUserConfig_within hs (hop _ rfl)
  | deleteUserConfig u => exact Store.deleteUserConfig_within hs (hop u rfl)
  | updateUserStatus u status => exact Store.updateWith_within hs (hop u rfl) fun _ => rfl
  | updateUserUsage u storageUsed bandwidthUsed => exact Store.updateWith_within hs (hop u rfl) fun _ => rfl
  | listUsers =>
      refine ⟨fun x hx => ?_, Within.refl _ _, hs⟩
      simp only [exec, s.listUsers_calls, List.mem_singleton] at hx
      subst hx
      exact keyOf_usersDir _

theorem run_keyed {s : Store} (hs : Keyed s) :
    ∀ ops : List (Denials × Op), (∀ p ∈ ops, p.2.Plain) →
      Keyed (run s ops) ∧ (run s ops).cm.configPath = s.cm.configPath
  | [], _ => ⟨hs, rfl⟩
  | p :: ops, hops => by
      obtain ⟨-, hw, hk⟩ := exec_within hs p.1 (hops p (List.mem_cons_self _ _))
      obtain ⟨hk', hcp⟩ := run_keyed hk ops fun q hq => hops q (List.mem_cons_of_mem _ hq)
      exact ⟨hk', hcp.trans hw.configPath⟩

/-- **CONFINED**: from a keyed store, after any sequence of operations on IDs without
    `/`, the next such operation on user `u` only reads, writes or removes `u`'s file
    (and creates or lists the users directory), changes only `u`'s cache entry and no
    other file, and afterwards `ListUsers` returns exactly the IDs whose files are in
    the users directory. -/
theorem ops_confined (s : Store) (hs : Keyed s) (ops : List (Denials × Op)) (hops : ∀ p ∈ ops, p.2.Plain)
    (deny : Denials) (op : Op) (hop : op.Plain) :
    (∀ x ∈ (exec deny (run s ops) op).2, Allowed s.cm.configPath op.user x) ∧
      Within op.user (run s ops) (exec deny (run s ops) op).1 ∧
      ∀ deny' ids, ((exec deny (run s ops) op).1.listUsers deny').1 = .ok ids →
        ∀ n, n ∈ ids ↔ ∃ d, find (userKey s.cm.configPath n) (exec deny (run s ops) op).1.fs.entries = some (.file d) := by
  obtain ⟨hk, hcp⟩ := run_keyed hs ops hops
  obtain ⟨hcalls, hw, -⟩ := exec_within hk deny hop
  refine ⟨by rwa [hcp] at hcalls, hw, fun deny' ids h n => ?_⟩
  rw [← hcp, ← hw.configPath]
  exact Store.listUsers_exact deny' _ h n

/-- `ops_confined` for a first `SaveUserConfig` into an empty store. -/
theorem ops_confined_first_save :
    Keyed ⟨newConfigManager "/etc/vgw", FS.empty⟩ ∧ (Op.saveUserConfig { userID := "alice" }).Plain ∧
      Within (some "alice") ⟨newConfigManager "/etc/vgw", FS.empty⟩
        (exec allow ⟨newConfigManager "/etc/vgw", FS.empty⟩ (.saveUserConfig { userID := "alice" })).1 :=
  have hs : Keyed ⟨newConfigManager "/etc/vgw", FS.empty⟩ :=
    ⟨fun _ _ h => (by cases h), fun _ _ _ _ h => (by cases h)⟩
  have hop : (Op.saveUserConfig { userID := "alice" }).Plain := fun u h => by
    cases h; decide
  ⟨hs, hop, (ops_confined _ hs [] (fun _ h => by cases h) allow _ hop).2.1⟩

/-- The record of user `"../multitenant"` is written over the global configuration:
    the gateway's next start reads a configuration with `Enabled = false`. -/
theorem saveUserConfig_escapes :
    ((Store.loadGlobalConfig allow ⟨newConfigManager "/etc/vgw", FS.empty⟩).2.1.saveUserConfig allow
        { userID := "../multitenant" }).2.2 =
        [.mkdirAll "/etc/vgw/users", .writeFile "/etc/vgw/multitenant.json"] ∧
      ((Store.loadGlobalConfig allow ⟨newConfigManager "/etc/vgw",
        ((Store.loadGlobalConfig allow ⟨newConfigManager "/etc/vgw", FS.empty⟩).2.1.saveUserConfig allow
          { userID := "../multitenant" }).2.1.fs⟩).2.1.cm.globalConfig.map (·.enabled)) = some false :=
  ⟨by decide, by decide⟩

end Config
