import MultiTenantGw.Tenant

/-! # Tenant isolation through `ValidateUserAccess`

    `GetUserBasePath` joins `<BasePath>`, `users` and the user ID, and
    `ValidateUserAccess` admits a resource when `isSubPath` places it below that
    base.  Nothing validates the user ID, and `filepath.Join` cleans it together
    with the rest: `alice/` names the same base as `alice`, `.` names the shared
    `users` directory and `../..` climbs out of the root
    (`getUserBasePath_unisolated`).

    For a user ID that is one plain path element, the user's base is the users
    directory with that one element added (`getUserBasePath_plain`), so two such
    users' bases differ in their last element and no path passes both checks, and
    every admitted path lies strictly below the users directory
    (`validateUserAccess_isolation`). -/

namespace Tenant

open GoPath

namespace DefaultMultiTenantManager

variable {m : DefaultMultiTenantManager}

/-- With isolation on, a plain user's base path is the users directory and the
    user's own element. -/
theorem getUserBasePath_plain (hen : m.config.enabled = true) {u : String} (hu : Plain u.data) :
    ∃ b, m.getUserBasePath u = .ok b ∧
      cleanElems b.data = cleanElems m.config.basePath.data ++ ["users".data, u.data] ∧
      rooted b.data = rooted m.config.basePath.data := by
  refine ⟨join [m.config.basePath, "users", u], by simp [getUserBasePath, hen],
    join_plain _ ?_ (by simp)⟩
  intro x hx
  rcases List.mem_cons.mp hx with rfl | hx
  · decide
  · rw [List.mem_singleton.mp hx]; exact hu

/-- The users directory itself. -/
theorem join_users (m : DefaultMultiTenantManager) :
    cleanElems (join [m.config.basePath, "users"]).data = cleanElems m.config.basePath.data ++ ["users".data] ∧
      rooted (join [m.config.basePath, "users"]).data = rooted m.config.basePath.data :=
  join_plain _ (by intro x hx; rw [List.mem_singleton.mp hx]; decide) (by simp)

end DefaultMultiTenantManager

/-- What an admitted path looks like: on the base's side of the root, with the base's
    elements in front. -/
theorem validateUserAccess_elems {m : DefaultMultiTenantManager} (hen : m.config.enabled = true)
    {u p : String} (hu : Plain u.data) (h : validateUserAccess u p m = .ok ()) :
    rooted p.data = rooted m.config.basePath.data ∧
      cleanElems m.config.basePath.data ++ ["users".data, u.data] <+: cleanElems p.data := by
  obtain ⟨b, hb, helems, hroot⟩ := DefaultMultiTenantManager.getUserBasePath_plain hen hu
  have hsub : isSubPath b p = true := by
    by_contra hn
    simp [validateUserAccess, isTenantIsolationEnabled, hen, hb, hn] at h
  obtain ⟨h1, h2⟩ := isSubPath_elems hsub
  exact ⟨h1.trans hroot, helems ▸ h2⟩

/-- **ISOLATION** for plain user IDs: two different users never both pass the check
    for one path, and an admitted path lies strictly below `<BasePath>/users`. -/
theorem validateUserAccess_isolation (m : DefaultMultiTenantManager) (hen : m.config.enabled = true)
    {u v : String} (hu : Plain u.data) (hv : Plain v.data) (huv : u ≠ v) (p : String) :
    ¬ (validateUserAccess u p m = .ok () ∧ validateUserAccess v p m = .ok ()) ∧
      (validateUserAccess u p m = .ok () →
        isStrictlyInside (join [m.config.basePath, "users"]) p = true) := by
  refine ⟨fun ⟨h, h'⟩ => huv ?_, fun h => ?_⟩
  · have pu := (validateUserAccess_elems hen hu h).2
    have pv := (validateUserAccess_elems hen hv h').2
    have heq := List.prefix_of_prefix_length_le pu pv (by simp)
    have := (List.IsPrefix.eq_of_length heq (by simp))
    simp only [List.append_cancel_left_eq, List.cons.injEq, and_true, true_and] at this
    exact String.ext this
  · obtain ⟨hroot, hpre⟩ := validateUserAccess_elems hen hu h
    obtain ⟨he, hr⟩ := DefaultMultiTenantManager.join_users m
    have hp : cleanElems (join [m.config.basePath, "users"]).data <+: cleanElems p.data := by
      rw [he]
      exact List.IsPrefix.trans (by simp) hpre
    have hlen := hpre.length_le
    simp only [List.length_append, List.length_cons, List.length_nil] at hlen
    simp only [isStrictlyInside, isInside, Bool.and_eq_true, beq_iff_eq, decide_eq_true_eq,
      List.isPrefixOf_iff_prefix]
    refine ⟨⟨hroot.trans hr.symm, hp⟩, ?_⟩
    rw [he, List.length_append, List.length_singleton]
    omega

/-- `GetUserBasePath` does not isolate an ID that is not one plain element: `../..`
    is given the root, where `ValidateUserAccess` admits any absolute path, and
    `alice/` is given `alice`'s base, where it is admitted to `alice`'s files. -/
theorem getUserBasePath_unisolated :
    (newMultiTenantManager ⟨true, "posix", "/mnt", 0⟩).getUserBasePath "../.." = .ok "/" ∧
      validateUserAccess "../.." "/etc/passwd" (newMultiTenantManager ⟨true, "posix", "/mnt", 0⟩) = .ok () ∧
      (newMultiTenantManager ⟨true, "posix", "/mnt", 0⟩).getUserBasePath "alice/" =
        (newMultiTenantManager ⟨true, "posix", "/mnt", 0⟩).getUserBasePath "alice" ∧
      validateUserAccess "alice/" "/mnt/users/alice/x" (newMultiTenantManager ⟨true, "posix", "/mnt", 0⟩) = .ok () ∧
      validateUserAccess "alice" "/mnt/users/alice/x" (newMultiTenantManager ⟨true, "posix", "/mnt", 0⟩) = .ok () :=
  ⟨rfl, rfl, rfl, rfl, rfl⟩

end Tenant
