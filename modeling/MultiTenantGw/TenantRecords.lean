import MultiTenantGw.Tenant

/-! # The tenant manager's records over whole runs

    Two properties of the records the manager keeps, both read off `Effect`, the
    list of everything one call can do.  Who may write a record, when records are
    reached through pointers that users may share, is the subject of
    `Tenant.Pointer`.

    *Well-formedness.*  `SetUserStorageConfig` checks a record's backend type and
    nothing else; `CreateUserNamespace` checks nothing.  So a caller can store a
    negative usage or a storage path outside the user's base
    (`records_not_wellFormed`).  What the manager does guarantee is that it never
    breaks a well-formed record itself: when the records it is handed are well
    formed, every record of every reachable state is (`run_wellFormed`).

    *Failed calls.*  Every operation makes all its checks before it writes, so
    a call that returns an error leaves the manager as it was
    (`apply_error_unchanged`). -/

namespace Tenant

open GoPath

variable {m m' : DefaultMultiTenantManager} {op : Op} {r : Except String Unit}

/-- The manager's configuration never changes. -/
theorem Effect.config (he : Effect m op r m') : m'.config = m.config := by
  cases he <;> rfl

/-- A call other than `SetUserStorageConfig` and `CreateUserNamespace` keeps the
    storage path of every record it leaves. -/
theorem Effect.storagePath (he : Effect m op r m') (hset : ∀ u c, op ≠ .setUserStorageConfig u c)
    (hcreate : ∀ u c, op ≠ .createUserNamespace u c) {u : String} {c' : UserStorageConfig}
    (h : m'.userConfigs u = some c') : ∃ c, m.userConfigs u = some c ∧ c'.storagePath = c.storagePath := by
  cases he with
  | keep => exact ⟨c', h, rfl⟩
  | set v c _ => exact absurd rfl (hset v (some c))
  | create v c _ _ => exact absurd rfl (hcreate v c)
  | delete v c _ =>
      rw [DefaultMultiTenantManager.erase_userConfigs] at h
      split at h
      · cases h
      · exact ⟨c', h, rfl⟩
  | mount _ v c hc _ | unmount v c hc | update v _ c hc =>
      rw [DefaultMultiTenantManager.store_userConfigs] at h
      split at h
      · cases h
        subst_vars
        exact ⟨c, hc, rfl⟩
      · exact ⟨c', h, rfl⟩

theorem step_config (m : DefaultMultiTenantManager) (op : Op) : (step m op).config = m.config :=
  (apply_effect m op).config

-- ── well-formed records ───────────────────────────────────────────────────

/-- A well-formed record of user `u`: a known backend type, a non-negative usage
    and, with isolation on, a storage path at or below the user's base path. -/
def RecordOk (cfg : MultiTenantConfig) (u : String) (c : UserStorageConfig) : Prop :=
  c.backendType ∈ validBackends ∧ 0 ≤ c.usedSpace.val ∧
    (cfg.enabled = true → isInside (join [cfg.basePath, "users", u]) c.storagePath = true)

/-- Every record the manager holds is well formed. -/
def WellFormed (m : DefaultMultiTenantManager) : Prop :=
  ∀ u c, m.userConfigs u = some c → RecordOk m.config u c

/-- A call whose record argument is well formed: `SetUserStorageConfig` is given a
    non-negative usage and a path at or below the user's base, `CreateUserNamespace`
    also a known backend type (and may leave the path empty), or, given no record,
    a known default type. -/
def Op.Admissible (cfg : MultiTenantConfig) : Op → Prop
  | .setUserStorageConfig u (some c) => 0 ≤ c.usedSpace.val ∧
      (cfg.enabled = true → isInside (join [cfg.basePath, "users", u]) c.storagePath = true)
  | .createUserNamespace u (some c) => c.backendType ∈ validBackends ∧ 0 ≤ c.usedSpace.val ∧
      (c.storagePath = "" ∨ isInside (join [cfg.basePath, "users", u]) c.storagePath = true)
  | .createUserNamespace _ none => cfg.defaultBackendType ∈ validBackends
  | _ => True

/-- The record `CreateUserNamespace` stores is well formed when its input is. -/
theorem namespaceRecord_ok {u b : String} {c : Option UserStorageConfig}
    (hb : m.getUserBasePath u = .ok b) (ha : (Op.createUserNamespace u c).Admissible m.config) :
    RecordOk m.config u (m.namespaceRecord b c) := by
  have hen : m.config.enabled = true := by
    by_contra h; simp [DefaultMultiTenantManager.getUserBasePath, h] at hb
  have hbj : join [m.config.basePath, "users", u] = b := by
    simpa [DefaultMultiTenantManager.getUserBasePath, hen] using hb
  rcases c with _ | c
  · refine ⟨by simpa [DefaultMultiTenantManager.namespaceRecord, DefaultMultiTenantManager.defaultRecord,
      Op.Admissible] using ha, by simp [DefaultMultiTenantManager.namespaceRecord,
      DefaultMultiTenantManager.defaultRecord], ?_⟩
    intro
    by_cases h : b = "" <;>
      simp [DefaultMultiTenantManager.namespaceRecord, DefaultMultiTenantManager.defaultRecord, h, hbj,
        isInside_self]
  · obtain ⟨hv, hu, hp⟩ := ha
    refine ⟨?_, ?_, fun _ => ?_⟩ <;> by_cases h : c.storagePath = "" <;>
      simp_all [DefaultMultiTenantManager.namespaceRecord, isInside_self]

/-- One call keeps the records well formed. -/
theorem Effect.wellFormed (he : Effect m op r m') (hm : WellFormed m)
    (ha : op.Admissible m.config) : WellFormed m' := by
  intro v c' hv
  rw [he.config]
  cases he with
  | keep => exact hm v c' hv
  | set u c h =>
      simp only [DefaultMultiTenantManager.store_userConfigs] at hv
      split at hv
      · cases hv; subst_vars; exact ⟨h, ha⟩
      · exact hm v c' hv
  | create u c b hb =>
      simp only [DefaultMultiTenantManager.store_userConfigs] at hv
      split at hv
      · cases hv; subst_vars; exact namespaceRecord_ok hb ha
      · exact hm v c' hv
  | delete u c h =>
      simp only [DefaultMultiTenantManager.erase_userConfigs] at hv
      split at hv
      · cases hv
      · exact hm v c' hv
  | mount f u c h =>
      simp only [DefaultMultiTenantManager.store_userConfigs] at hv
      split at hv
      · cases hv; subst_vars; exact hm _ c h
      · exact hm v c' hv
  | unmount u c h =>
      simp only [DefaultMultiTenantManager.store_userConfigs] at hv
      split at hv
      · cases hv; subst_vars; exact hm _ c h
      · exact hm v c' hv
  | update u d c h =>
      simp only [DefaultMultiTenantManager.store_userConfigs] at hv
      split at hv
      · cases hv; subst_vars
        obtain ⟨h1, -, h3⟩ := hm _ c h
        exact ⟨h1, clampUsed_nonneg _, h3⟩
      · exact hm v c' hv

/-- **WELL-FORMED RECORDS**: from a new manager, calls whose record arguments are
    well formed reach only states whose records are all well formed. -/
theorem run_wellFormed (cfg : MultiTenantConfig) (ops : List Op)
    (h : ∀ op ∈ ops, op.Admissible cfg) : WellFormed (run (newMultiTenantManager cfg) ops) := by
  suffices ∀ m : DefaultMultiTenantManager, m.config = cfg → WellFormed m →
      WellFormed (run m ops) from this _ rfl (fun _ _ h => by cases h)
  induction ops with
  | nil => exact fun _ _ hm => hm
  | cons op ops ih =>
      intro m hc hm
      exact ih (fun o ho => h o (List.mem_cons_of_mem _ ho)) _ (by rw [step_config, hc])
        ((apply_effect m op).wellFormed hm (hc ▸ h op (List.mem_cons_self _ _)))

/-- `run_wellFormed` at a run that provisions a user and mounts its storage. -/
theorem run_wellFormed_provision :
    (∀ op ∈ [Op.createUserNamespace "alice" none, .updateUsedSpace "alice" 5,
        .mountUserStorage (fun _ _ => .ok ()) "alice"], op.Admissible ⟨true, "posix", "/mnt", 100⟩) ∧
      WellFormed (run (newMultiTenantManager ⟨true, "posix", "/mnt", 100⟩)
        [.createUserNamespace "alice" none, .updateUsedSpace "alice" 5,
          .mountUserStorage (fun _ _ => .ok ()) "alice"]) :=
  have h : ∀ op ∈ [Op.createUserNamespace "alice" none, .updateUsedSpace "alice" 5,
      .mountUserStorage (fun _ _ => .ok ()) "alice"], op.Admissible ⟨true, "posix", "/mnt", 100⟩ := by
    simp [Op.Admissible, validBackends]
  ⟨h, run_wellFormed _ _ h⟩

/-- A caller-supplied record is stored as given: negative usage, foreign path. -/
theorem records_not_wellFormed :
    ∃ c, (run (newMultiTenantManager ⟨true, "posix", "/mnt", 100⟩)
        [.setUserStorageConfig "alice" (some ⟨"posix", GoMap.empty, "/etc", 100, -1, false, GoMap.empty⟩)]).userConfigs
          "alice" = some c ∧ c.usedSpace.val < 0 ∧
      isInside (join ["/mnt", "users", "alice"]) c.storagePath = false :=
  ⟨_, rfl, by decide, by decide⟩

-- ── failed calls ───────────────────────────────────────────────────────────

/-- Every effect other than `keep` answers `nil`. -/
theorem Effect.eq_of_error {e : String} (he : Effect m op (.error e) m') : m' = m := by
  cases he; rfl

/-- **FAILED CALLS**: a call that returns an error leaves the manager as it was: the
    same users have records and every record is unchanged, whatever the arguments
    and whatever the backend factory answers. -/
theorem apply_error_unchanged (m : DefaultMultiTenantManager) (op : Op) (e : String)
    (h : (apply m op).1 = .error e) : (apply m op).2 = m := by
  have he := apply_effect m op
  rw [h] at he
  exact he.eq_of_error

/-- A mount whose factory fails. -/
theorem apply_error_unchanged_factory_fails :
    (apply ((newMultiTenantManager ⟨true, "posix", "/mnt", 100⟩).store "alice"
        ⟨"posix", GoMap.empty, "/mnt/users/alice", 100, 0, false, GoMap.empty⟩)
        (.mountUserStorage (fun _ _ => .error "boom") "alice")).1 = .error "failed to create backend: boom" ∧
      (apply ((newMultiTenantManager ⟨true, "posix", "/mnt", 100⟩).store "alice"
        ⟨"posix", GoMap.empty, "/mnt/users/alice", 100, 0, false, GoMap.empty⟩)
        (.mountUserStorage (fun _ _ => .error "boom") "alice")).2 =
        (newMultiTenantManager ⟨true, "posix", "/mnt", 100⟩).store "alice"
          ⟨"posix", GoMap.empty, "/mnt/users/alice", 100, 0, false, GoMap.empty⟩ :=
  ⟨rfl, apply_error_unchanged _ _ _ rfl⟩

end Tenant
