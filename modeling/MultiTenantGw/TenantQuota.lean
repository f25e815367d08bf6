import MultiTenantGw.Tenant

/-! # The quota guard over a tenant's requests

    A client writes `s` bytes only after `CheckQuota(u, s)` returns nil and then
    records them with `UpdateUsedSpace(u, s)`; a delete of `d` stored bytes records
    `UpdateUsedSpace(u, -d)`.  `serve` follows one request, tracking beside the
    manager the true usage `T` as an unbounded integer.

    `CheckQuota` adds usage and request as `int64`s.  Near `2^63` the sum wraps to a
    negative number that passes the comparison, and `UpdateUsedSpace` then wraps and
    clamps the stored usage to `0` (`checkQuota_overflow_admits`).  Below that
    boundary the guard is exact: while every write is smaller than `2^63 - Quota`
    the stored usage is the true usage and never exceeds the quota
    (`serve_quotaInv`). -/

namespace Tenant

open GoInt

/-- One request of a tenant's client. -/
inductive Request where
  | write (s : GoInt64)
  | delete (d : GoInt64)

/-- Serve one request for user `u`: the manager and the true usage after it.  A
    write is recorded only when `CheckQuota` admits it. -/
def serve (u : String) : DefaultMultiTenantManager × Int → Request → DefaultMultiTenantManager × Int
  | (m, t), .write s =>
      match m.checkQuota u s with
      | .ok () => ((m.updateUsedSpace u s).2, t + s.val)
      | .error _ => (m, t)
  | (m, t), .delete d => ((m.updateUsedSpace u (-d)).2, t - d.val)

/-- The quota invariant for user `u` with quota `q`: the stored usage is the true
    usage `t`, and `0 ≤ t ≤ q`. -/
def QuotaInv (u : String) (q : Int) : DefaultMultiTenantManager × Int → Prop
  | (m, t) => ∃ c, m.userConfigs u = some c ∧ c.quota.val = q ∧ c.usedSpace.val = t ∧ 0 ≤ t ∧ t ≤ q

/-- A request whose `int64` arithmetic cannot wrap: a write of `0 ≤ s < 2^63 - q`,
    or a delete of `0 ≤ d ≤ t` stored bytes. -/
def Request.Small (q t : Int) : Request → Prop
  | .write s => 0 ≤ s.val ∧ s.val < bound - q
  | .delete d => 0 ≤ d.val ∧ d.val ≤ t

instance (q t : Int) : (req : Request) → Decidable (req.Small q t)
  | .write s => inferInstanceAs (Decidable (0 ≤ s.val ∧ s.val < bound - q))
  | .delete d => inferInstanceAs (Decidable (0 ≤ d.val ∧ d.val ≤ t))

/-- One request from a state where the invariant holds. -/
theorem serve_snd_le {u : String} {m : DefaultMultiTenantManager} {t : Int} {req : Request}
    (c : UserStorageConfig) (hc : m.userConfigs u = some c) (hq : 0 < c.quota.val)
    (hused : c.usedSpace.val = t) (ht : 0 ≤ t) (htq : t ≤ c.quota.val)
    (hs : req.Small c.quota.val t) : QuotaInv u c.quota.val (serve u (m, t) req) := by
  have hlt := c.quota.lt
  have hq0 : c.quota.val ≠ 0 := by omega
  cases req with
  | write s =>
      obtain ⟨hs0, hs1⟩ := hs
      have hsum : (c.usedSpace + s).val = t + s.val := by
        rw [GoInt64.add_val_of_range, hused] <;> unfold minInt64 bound at * <;> omega
      by_cases hover : t + s.val > c.quota.val
      · have : m.checkQuota u s = .error errQuotaExceeded := by
          simp [DefaultMultiTenantManager.checkQuota, DefaultMultiTenantManager.getUserStorageConfig,
            hc, hsum, hover, hq0]
        simp only [serve, this]
        exact ⟨c, hc, rfl, hused, ht, by omega⟩
      · have : m.checkQuota u s = .ok () := by
          simp [DefaultMultiTenantManager.checkQuota, DefaultMultiTenantManager.getUserStorageConfig,
            hc, hsum, hover, hq0]
        simp only [serve, this]
        refine ⟨{ c with usedSpace := clampUsed (c.usedSpace + s) },
          by simp [DefaultMultiTenantManager.updateUsedSpace, DefaultMultiTenantManager.getUserStorageConfig, hc],
          rfl, ?_, by omega, by omega⟩
        simp [clampUsed, hsum, show ¬ t + s.val < 0 by omega]
  | delete d =>
      obtain ⟨hd0, hd1⟩ := hs
      have hneg : (-d).val = -d.val := GoInt64.neg_val_of_ne (by unfold minInt64; omega)
      have hsum : (c.usedSpace + -d).val = t - d.val := by
        rw [GoInt64.add_val_of_range, hneg, hused] <;> unfold minInt64 bound at * <;> omega
      refine ⟨{ c with usedSpace := clampUsed (c.usedSpace + -d) },
        by simp [serve, DefaultMultiTenantManager.updateUsedSpace, DefaultMultiTenantManager.getUserStorageConfig, hc],
        rfl, ?_, by omega, by omega⟩
      simp [clampUsed, hsum, show ¬ t - d.val < 0 by omega]

/-- **EXACT BELOW THE WRAP**: requests that cannot wrap keep the stored usage equal
    to the true usage and within a positive quota. -/
theorem serve_quotaInv {u : String} {q : Int} (hq : 0 < q) (st : DefaultMultiTenantManager × Int)
    (req : Request) (h : QuotaInv u q st) (hs : req.Small q st.2) :
    QuotaInv u q (serve u st req) := by
  obtain ⟨m, t⟩ := st
  obtain ⟨c, hc, rfl, hused, ht, htq⟩ := h
  exact serve_snd_le c hc hq hused ht htq hs

/-- `serve_quotaInv` at a write that fits. -/
theorem serve_quotaInv_fits :
    QuotaInv "alice" 100 ((newMultiTenantManager ⟨true, "posix", "/mnt", 100⟩).store "alice"
        ⟨"posix", GoMap.empty, "/mnt/users/alice", 100, 1, false, GoMap.empty⟩, 1) ∧
      (Request.write 20).Small 100 1 ∧
      QuotaInv "alice" 100 (serve "alice" ((newMultiTenantManager ⟨true, "posix", "/mnt", 100⟩).store
        "alice" ⟨"posix", GoMap.empty, "/mnt/users/alice", 100, 1, false, GoMap.empty⟩, 1) (.write 20)) :=
  have h1 : QuotaInv "alice" 100 ((newMultiTenantManager ⟨true, "posix", "/mnt", 100⟩).store "alice"
      ⟨"posix", GoMap.empty, "/mnt/users/alice", 100, 1, false, GoMap.empty⟩, 1) :=
    ⟨_, rfl, rfl, rfl, by decide, by decide⟩
  have h2 : (Request.write 20).Small 100 1 := by decide
  ⟨h1, h2, serve_quotaInv (by decide) _ _ h1 h2⟩

/-- At usage 1 of quota 100, a write of `2^63 - 1` bytes passes `CheckQuota`
    (`1 + (2^63 - 1)` wraps to `-2^63`), and recording it leaves the stored usage at
    `0` while the true usage is `2^63`. -/
theorem checkQuota_overflow_admits :
    ((newMultiTenantManager ⟨true, "posix", "/mnt", 100⟩).store "alice"
        ⟨"posix", GoMap.empty, "/mnt/users/alice", 100, 1, false, GoMap.empty⟩).checkQuota "alice"
        9223372036854775807 = .ok () ∧
      ((serve "alice" ((newMultiTenantManager ⟨true, "posix", "/mnt", 100⟩).store "alice"
          ⟨"posix", GoMap.empty, "/mnt/users/alice", 100, 1, false, GoMap.empty⟩, 1)
          (.write 9223372036854775807)).1.userConfigs "alice").map (·.usedSpace.val) = some 0 ∧
      (serve "alice" ((newMultiTenantManager ⟨true, "posix", "/mnt", 100⟩).store "alice"
          ⟨"posix", GoMap.empty, "/mnt/users/alice", 100, 1, false, GoMap.empty⟩, 1)
          (.write 9223372036854775807)).2 = 9223372036854775808 :=
  ⟨rfl, rfl, rfl⟩

end Tenant
