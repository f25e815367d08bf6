import MultiTenantGw.Separation

/-! # The tenant manager's records behind their pointers

    `DefaultMultiTenantManager.userConfigs` is a `map[string]*UserStorageConfig`.
    `SetUserStorageConfig` and `CreateUserNamespace` store the pointer their caller
    passes (`CreateUserNamespace` first fills an empty `StoragePath` through it), and
    `MountUserStorage`, `UnmountUserStorage`, `DeleteUserNamespace` (through its
    unmount) and `UpdateUsedSpace` write through the pointer stored for the user.
    This module models the manager that way: a heap of records addressed by `Ptr`,
    and a map from users to addresses.

    **Owners** (`step_usage_mount_sharers`): a call changes user `u`'s record only if
    it repoints `u` (`SetUserStorageConfig`, `CreateUserNamespace` or
    `DeleteUserNamespace` of `u`) or writes through `u`'s pointer; the usage only by an
    `UpdateUsedSpace`, the mount flag only by a mount, unmount or delete, of a user
    holding that pointer.  Two users given one pointer share one record, so an
    `UpdateUsedSpace` of one changes the other's usage (`shared_record_usage`).

    **Refinement** (`runCalls_refines`): the record-level manager of `Tenant` is this
    one seen through its pointers (`State.deref`), for callers that pass a newly
    allocated record, as `CreateAccount` and `createDefaultUserConfig` do.  From a
    state where no two users share a record (`Unshared`), each such call answers what
    the record-level call answers and leaves the records it leaves, and again no two
    users share one (`call_refines`).  Separation of users carries over
    (`tenantManager_separate`). -/

namespace Tenant.Pointer

open GoPath

/-- A `*UserStorageConfig`: the address of a record. -/
abbrev Ptr := Nat

/-- The records the program has allocated: `cells p` is the record at address `p`;
    the addresses from `next` on have not been handed out. -/
structure Heap where
  cells : Ptr → UserStorageConfig
  next : Ptr

namespace Heap

/-- A heap with nothing allocated. -/
def empty : Heap := ⟨fun _ => ⟨"", GoMap.empty, "", 0, 0, false, GoMap.empty⟩, 0⟩

variable (h : Heap)

/-- `&UserStorageConfig{...}`: a new address holding `c`. -/
def alloc (c : UserStorageConfig) : Ptr × Heap :=
  (h.next, ⟨Function.update h.cells h.next c, h.next + 1⟩)

/-- `*p = c`. -/
def write (p : Ptr) (c : UserStorageConfig) : Heap :=
  ⟨Function.update h.cells p c, h.next⟩

/-- The pointer a caller passes for a record argument: a new allocation of it. -/
def pass : Option UserStorageConfig → Option Ptr × Heap
  | none => (none, h)
  | some c => ((h.alloc c).1, (h.alloc c).2)

@[simp] theorem alloc_fst (c : UserStorageConfig) : (h.alloc c).1 = h.next := rfl

@[simp] theorem alloc_cells (c : UserStorageConfig) (q : Ptr) :
    (h.alloc c).2.cells q = if q = h.next then c else h.cells q := Function.update_apply ..

@[simp] theorem alloc_next (c : UserStorageConfig) : (h.alloc c).2.next = h.next + 1 := rfl

@[simp] theorem write_cells (p q : Ptr) (c : UserStorageConfig) :
    (h.write p c).cells q = if q = p then c else h.cells q := Function.update_apply ..

@[simp] theorem write_next (p : Ptr) (c : UserStorageConfig) : (h.write p c).next = h.next := rfl

end Heap

/-- `DefaultMultiTenantManager`: the configuration and, per user, the pointer it was
    given. -/
structure DefaultMultiTenantManager where
  config : MultiTenantConfig
  userConfigs : GoMap Ptr

/-- `NewMultiTenantManager`. -/
def newMultiTenantManager (config : MultiTenantConfig) : DefaultMultiTenantManager :=
  ⟨config, GoMap.empty⟩

/-- The manager with the heap its pointers point into. -/
structure State where
  manager : DefaultMultiTenantManager
  heap : Heap

namespace State

variable (s : State)

/-- `m.userConfigs[userID] = config`. -/
def store (userID : String) (config : Ptr) : State :=
  ⟨⟨s.manager.config, Function.update s.manager.userConfigs userID (some config)⟩, s.heap⟩

/-- `delete(m.userConfigs, userID)`. -/
def erase (userID : String) : State :=
  ⟨⟨s.manager.config, Function.update s.manager.userConfigs userID none⟩, s.heap⟩

/-- A write through `config`. -/
def write (config : Ptr) (c : UserStorageConfig) : State := ⟨s.manager, s.heap.write config c⟩

/-- `GetUserStorageConfig`: the stored pointer itself. -/
def getUserStorageConfig (userID : String) : Except String Ptr :=
  match s.manager.userConfigs userID with
  | none => .error errUserStorageNotFound
  | some config => .ok config

/-- `SetUserStorageConfig`: a non-nil pointer to a record of a known backend type is
    stored as it is. -/
def setUserStorageConfig (userID : String) (config : Option Ptr) : Except String Unit × State :=
  match config with
  | none => (.error "config cannot be nil", s)
  | some config =>
      if (s.heap.cells config).backendType ∈ validBackends then (.ok (), s.store userID config)
      else (.error errInvalidBackendType, s)

/-- `GetUserBasePath`: `<BasePath>/users/<userID>`, joined and cleaned. -/
def getUserBasePath (userID : String) : Except String String :=
  if s.manager.config.enabled then .ok (join [s.manager.config.basePath, "users", userID])
  else .error "multi-tenant mode not enabled"

/-- The record `CreateUserNamespace` allocates when given none. -/
def defaultRecord (basePath : String) : UserStorageConfig where
  backendType := s.manager.config.defaultBackendType
  backendConfig := GoMap.empty
  storagePath := basePath
  quota := s.manager.config.defaultQuota
  usedSpace := 0
  mounted := false
  metadata := GoMap.empty

/-- The pointer `CreateUserNamespace` stores: the given one, or a new default record. -/
def namespacePtr (basePath : String) : Option Ptr → Ptr × Heap
  | none => s.heap.alloc (s.defaultRecord basePath)
  | some config => (config, s.heap)

/-- `CreateUserNamespace`: an empty `StoragePath` is set through the pointer, which is
    then stored. -/
def createUserNamespace (userID : String) (config : Option Ptr) : Except String Unit × State :=
  match s.getUserBasePath userID with
  | .error e => (.error e, s)
  | .ok basePath =>
      let s' : State := ⟨s.manager, (s.namespacePtr basePath config).2⟩
      let config := (s.namespacePtr basePath config).1
      let c := s'.heap.cells config
      (.ok (), (if c.storagePath = "" then s'.write config { c with storagePath := basePath } else s').store
        userID config)

/-- `UnmountUserStorage`: clear the mount flag through the pointer. -/
def unmountUserStorage (userID : String) : Except String Unit × State :=
  match s.getUserStorageConfig userID with
  | .error e => (.error e, s)
  | .ok config =>
      if !(s.heap.cells config).mounted then (.ok (), s)
      else (.ok (), s.write config { s.heap.cells config with mounted := false })

/-- `DeleteUserNamespace`: unmount, then drop the pointer. -/
def deleteUserNamespace (userID : String) : Except String Unit × State :=
  match s.unmountUserStorage userID with
  | (.error e, s') => (.error ("failed to unmount storage before deletion: " ++ e), s')
  | (.ok (), s') => (.ok (), s'.erase userID)

/-- `MountUserStorage`: ask the factory for a backend, accept the six known types,
    set the mount flag through the pointer. -/
def mountUserStorage (factory : BackendFactory) (userID : String) : Except String Unit × State :=
  match s.getUserStorageConfig userID with
  | .error e => (.error e, s)
  | .ok config =>
      let c := s.heap.cells config
      if c.mounted then (.ok (), s)
      else match factory c.backendType c.backendConfig with
        | .error e => (.error ("failed to create backend: " ++ e), s)
        | .ok () =>
            if c.backendType ∈ validBackends then (.ok (), s.write config { c with mounted := true })
            else (.error errInvalidBackendType, s)

/-- `CheckQuota`: unlimited at quota `0`; otherwise the `int64` sum of usage and
    request is compared with the quota. -/
def checkQuota (userID : String) (additionalSize : GoInt64) : Except String Unit :=
  match s.getUserStorageConfig userID with
  | .error e => .error e
  | .ok config =>
      let c := s.heap.cells config
      if c.quota.val = 0 then .ok ()
      else if (c.usedSpace + additionalSize).val > c.quota.val then .error errQuotaExceeded
      else .ok ()

/-- `UpdateUsedSpace`: add the `int64` delta through the pointer and clamp a negative
    result to `0`. -/
def updateUsedSpace (userID : String) (delta : GoInt64) : Except String Unit × State :=
  match s.getUserStorageConfig userID with
  | .error e => (.error e, s)
  | .ok config =>
      let c := s.heap.cells config
      (.ok (), s.write config { c with usedSpace := clampUsed (c.usedSpace + delta) })

/-- The record behind `userID`'s pointer. -/
def record (userID : String) : Option UserStorageConfig := (s.manager.userConfigs userID).map s.heap.cells

/-- The manager seen through its pointers: a record-level manager of `Tenant`. -/
def deref : Tenant.DefaultMultiTenantManager := ⟨s.manager.config, s.record⟩

@[simp] theorem store_userConfigs (u v : String) (p : Ptr) :
    (s.store u p).manager.userConfigs v = if v = u then some p else s.manager.userConfigs v :=
  Function.update_apply ..

@[simp] theorem erase_userConfigs (u v : String) :
    (s.erase u).manager.userConfigs v = if v = u then none else s.manager.userConfigs v :=
  Function.update_apply ..

@[simp] theorem store_heap (u : String) (p : Ptr) : (s.store u p).heap = s.heap := rfl

@[simp] theorem erase_heap (u : String) : (s.erase u).heap = s.heap := rfl

@[simp] theorem write_manager (p : Ptr) (c : UserStorageConfig) : (s.write p c).manager = s.manager := rfl

@[simp] theorem write_heap (p : Ptr) (c : UserStorageConfig) : (s.write p c).heap = s.heap.write p c := rfl

@[simp] theorem store_config (u : String) (p : Ptr) : (s.store u p).manager.config = s.manager.config := rfl

@[simp] theorem erase_config (u : String) : (s.erase u).manager.config = s.manager.config := rfl

theorem deref_eq {s : State} {m : Tenant.DefaultMultiTenantManager} (hc : s.manager.config = m.config)
    (hr : ∀ u, s.record u = m.userConfigs u) : s.deref = m := by
  cases m
  simp only [deref, Tenant.DefaultMultiTenantManager.mk.injEq]
  exact ⟨hc, funext hr⟩

@[simp] theorem deref_config : s.deref.config = s.manager.config := rfl

@[simp] theorem deref_userConfigs (u : String) : s.deref.userConfigs u = (s.manager.userConfigs u).map s.heap.cells :=
  rfl

end State

-- ── the manager as a state machine ─────────────────────────────────────────

/-- A call of one of the manager's operations, with its arguments; a record is
    passed as a pointer. -/
inductive Op where
  | setUserStorageConfig (userID : String) (config : Option Ptr)
  | createUserNamespace (userID : String) (config : Option Ptr)
  | deleteUserNamespace (userID : String)
  | mountUserStorage (factory : BackendFactory) (userID : String)
  | unmountUserStorage (userID : String)
  | checkQuota (userID : String) (additionalSize : GoInt64)
  | updateUsedSpace (userID : String) (delta : GoInt64)

/-- Perform one call: its result and the next state. -/
def apply (s : State) : Op → Except String Unit × State
  | .setUserStorageConfig u c => s.setUserStorageConfig u c
  | .createUserNamespace u c => s.createUserNamespace u c
  | .deleteUserNamespace u => s.deleteUserNamespace u
  | .mountUserStorage f u => s.mountUserStorage f u
  | .unmountUserStorage u => s.unmountUserStorage u
  | .checkQuota u n => (s.checkQuota u n, s)
  | .updateUsedSpace u d => s.updateUsedSpace u d

/-- The state after one call. -/
def step (s : State) (op : Op) : State := (apply s op).2

/-- The state after a sequence of calls. -/
def run (s : State) (ops : List Op) : State := ops.foldl step s

-- ── who writes a record ───────────────────────────────────────────────────

/-- The calls that give `u` another pointer or none: `SetUserStorageConfig`,
    `CreateUserNamespace` and `DeleteUserNamespace` of `u`. -/
def Op.Repoints (u : String) : Op → Prop
  | .setUserStorageConfig v _ | .createUserNamespace v _ | .deleteUserNamespace v => v = u
  | _ => False

/-- The calls that write the usage through `p`: `UpdateUsedSpace` of a user holding
    `p`. -/
def Op.WritesUsage (s : State) (p : Ptr) : Op → Prop
  | .updateUsedSpace v _ => s.manager.userConfigs v = some p
  | _ => False

/-- The calls that write the mount flag through `p`: `MountUserStorage`,
    `UnmountUserStorage` or `DeleteUserNamespace` of a user holding `p`. -/
def Op.WritesMount (s : State) (p : Ptr) : Op → Prop
  | .mountUserStorage _ v | .unmountUserStorage v | .deleteUserNamespace v => s.manager.userConfigs v = some p
  | _ => False

/-- The calls that may write through `p` at all: those, and `CreateUserNamespace`
    given `p`, which fills an empty `StoragePath`. -/
def Op.WritesThrough (s : State) (p : Ptr) (op : Op) : Prop :=
  op.WritesUsage s p ∨ op.WritesMount s p ∨ ∃ v, op = .createUserNamespace v (some p)

variable {s : State} {u : String} {p : Ptr}

/-- A write through `v`'s pointer `q` of the record there, changed by `f`: the record
    at `p` is as it was, or `v` holds `p` and it is the record changed by `f`. -/
theorem write_holder {v : String} {q : Ptr} (hq : s.manager.userConfigs v = some q)
    (f : UserStorageConfig → UserStorageConfig) :
    (s.write q (f (s.heap.cells q))).heap.cells p = s.heap.cells p ∨
      (s.manager.userConfigs v = some p ∧ (s.write q (f (s.heap.cells q))).heap.cells p = f (s.heap.cells p)) := by
  by_cases hqp : q = p
  · subst hqp
    exact .inr ⟨hq, by simp⟩
  · exact .inl (by simp [Ne.symm hqp])

/-- **WHAT ONE CALL DOES TO A RECORD**: a call repoints `u`, or leaves `u` on its
    allocated pointer `p` with the record there as it was, or with only its usage,
    only its mount flag, or only its storage path written, by a call that writes that
    field through `p`. -/
theorem step_at (op : Op) (hp : s.manager.userConfigs u = some p) (ha : p < s.heap.next) :
    op.Repoints u ∨ ((step s op).manager.userConfigs u = some p ∧
      ((step s op).heap.cells p = s.heap.cells p ∨
        (op.WritesUsage s p ∧ ∃ n, (step s op).heap.cells p = { s.heap.cells p with usedSpace := n }) ∨
        (op.WritesMount s p ∧ ∃ b, (step s op).heap.cells p = { s.heap.cells p with mounted := b }) ∨
        ((∃ v, op = .createUserNamespace v (some p)) ∧
          ∃ path, (step s op).heap.cells p = { s.heap.cells p with storagePath := path }))) := by
  cases op with
  | setUserStorageConfig v c =>
      by_cases hv : v = u
      · exact .inl hv
      refine .inr ⟨?_, .inl ?_⟩ <;> simp only [step, apply, State.setUserStorageConfig] <;>
        repeat' split
      all_goals simp [Ne.symm hv, hp]
  | createUserNamespace v c =>
      by_cases hv : v = u
      · exact .inl hv
      refine .inr ?_
      simp only [step, apply, State.createUserNamespace]
      split
      · exact ⟨hp, .inl rfl⟩
      rename_i b _
      refine ⟨by split <;> simp [Ne.symm hv, hp], ?_⟩
      rcases c with _ | q
      · left
        have hne : p ≠ s.heap.next := Nat.ne_of_lt ha
        split <;> simp [State.namespacePtr, hne]
      · by_cases hq : q = p
        · subst hq
          split
          · exact .inr (.inr (.inr ⟨⟨v, rfl⟩, b, by simp [State.namespacePtr]⟩))
          · exact .inl (by simp [State.namespacePtr])
        · left
          split <;> simp [State.namespacePtr, Ne.symm hq]
  | deleteUserNamespace v =>
      by_cases hv : v = u
      · exact .inl hv
      refine .inr ?_
      simp only [step, apply, State.deleteUserNamespace, State.unmountUserStorage, State.getUserStorageConfig]
      have hu : ∀ t : State, (t.erase v).manager.userConfigs u = t.manager.userConfigs u := fun _ => by
        simp [Ne.symm hv]
      rcases hq : s.manager.userConfigs v with _ | q
      · exact ⟨hp, .inl rfl⟩
      by_cases hmt : (s.heap.cells q).mounted
      · simp only [hmt, Bool.not_true, Bool.false_eq_true, ↓reduceIte]
        rcases write_holder hq fun c => { c with mounted := false } with h | ⟨hw, h⟩
        exacts [⟨(hu _).trans hp, .inl h⟩, ⟨(hu _).trans hp, .inr (.inr (.inl ⟨hw, false, h⟩))⟩]
      · simp only [hmt, Bool.not_false, ↓reduceIte]
        exact ⟨(hu s).trans hp, .inl rfl⟩
  | mountUserStorage f v =>
      refine .inr ?_
      simp only [step, apply, State.mountUserStorage, State.getUserStorageConfig]
      rcases hq : s.manager.userConfigs v with _ | q
      · exact ⟨hp, .inl rfl⟩
      dsimp only
      repeat' split
      all_goals first
        | exact ⟨hp, .inl rfl⟩
        | rcases write_holder hq fun c => { c with mounted := true } with h | ⟨hv, h⟩
          exacts [⟨hp, .inl h⟩, ⟨hp, .inr (.inr (.inl ⟨hv, true, h⟩))⟩]
  | unmountUserStorage v =>
      refine .inr ?_
      simp only [step, apply, State.unmountUserStorage, State.getUserStorageConfig]
      rcases hq : s.manager.userConfigs v with _ | q
      · exact ⟨hp, .inl rfl⟩
      dsimp only
      split
      · exact ⟨hp, .inl rfl⟩
      · rcases write_holder hq fun c => { c with mounted := false } with h | ⟨hv, h⟩
        exacts [⟨hp, .inl h⟩, ⟨hp, .inr (.inr (.inl ⟨hv, false, h⟩))⟩]
  | checkQuota v n => exact .inr ⟨hp, .inl rfl⟩
  | updateUsedSpace v d =>
      refine .inr ?_
      simp only [step, apply, State.updateUsedSpace, State.getUserStorageConfig]
      rcases hq : s.manager.userConfigs v with _ | q
      · exact ⟨hp, .inl rfl⟩
      rcases write_holder hq fun c => { c with usedSpace := clampUsed (c.usedSpace + d) } with h | ⟨hv, h⟩
      exacts [⟨hp, .inl h⟩, ⟨hp, .inr (.inl ⟨hv, _, h⟩)⟩]

/-- **OWNERS**: take a user `u` holding an allocated pointer `p`.  A call leaves `u`'s
    record as it was unless it repoints `u` or writes through `p`; it changes `u`'s
    usage only if it repoints `u` or is an `UpdateUsedSpace` of a user holding `p`, and
    `u`'s mount flag only if it repoints `u` or is a `MountUserStorage`,
    `UnmountUserStorage` or `DeleteUserNamespace` of a user holding `p`. -/
theorem step_usage_mount_sharers (s : State) (op : Op) {u : String} {p : Ptr}
    (hp : s.manager.userConfigs u = some p) (ha : p < s.heap.next) :
    ((step s op).record u = s.record u ∨ op.Repoints u ∨ op.WritesThrough s p) ∧
      (((step s op).record u).map (·.usedSpace) ≠ (s.record u).map (·.usedSpace) →
        op.Repoints u ∨ op.WritesUsage s p) ∧
      (((step s op).record u).map (·.mounted) ≠ (s.record u).map (·.mounted) →
        op.Repoints u ∨ op.WritesMount s p) := by
  rcases step_at op hp ha with h | ⟨hm, h | ⟨hw, n, h⟩ | ⟨hw, b, h⟩ | ⟨hw, path, h⟩⟩
  · exact ⟨.inr (.inl h), fun _ => .inl h, fun _ => .inl h⟩
  all_goals
    have hr : (step s op).record u = some ((step s op).heap.cells p) := by
      simp only [State.record, hm, Option.map_some']
    have hr0 : s.record u = some (s.heap.cells p) := by simp only [State.record, hp, Option.map_some']
    rw [hr, hr0, h]
  · exact ⟨.inl rfl, fun h => absurd rfl h, fun h => absurd rfl h⟩
  · exact ⟨.inr (.inr (.inl hw)), fun _ => .inr hw, fun h => absurd rfl h⟩
  · exact ⟨.inr (.inr (.inr (.inl hw))), fun h => absurd rfl h, fun _ => .inr hw⟩
  · exact ⟨.inr (.inr (.inr (.inr hw))), fun h => absurd rfl h, fun h => absurd rfl h⟩

/-- A configuration with isolation on. -/
def mnt : MultiTenantConfig := ⟨true, "posix", "/mnt", 100⟩

/-- One record, of `posix` with no usage, allocated at address `0`. -/
def oneRecord : Heap := (Heap.empty.alloc ⟨"posix", GoMap.empty, "", 100, 0, false, GoMap.empty⟩).2

/-- `alice` and `bob` both given the pointer to that record. -/
def sharedState : State :=
  run ⟨newMultiTenantManager mnt, oneRecord⟩ [.setUserStorageConfig "alice" (some 0), .setUserStorageConfig "bob" (some 0)]

/-- `step_usage_mount_sharers` at an `UpdateUsedSpace` of `bob`, who holds `alice`'s
    pointer. -/
theorem step_usage_mount_sharers_bob :
    sharedState.manager.userConfigs "alice" = some 0 ∧ 0 < sharedState.heap.next ∧
      (((step sharedState (.updateUsedSpace "bob" 5)).record "alice" = sharedState.record "alice" ∨
          (Op.updateUsedSpace "bob" 5).Repoints "alice" ∨ (Op.updateUsedSpace "bob" 5).WritesThrough sharedState 0) ∧
        (((step sharedState (.updateUsedSpace "bob" 5)).record "alice").map (·.usedSpace) ≠
            (sharedState.record "alice").map (·.usedSpace) →
          (Op.updateUsedSpace "bob" 5).Repoints "alice" ∨ (Op.updateUsedSpace "bob" 5).WritesUsage sharedState 0) ∧
        (((step sharedState (.updateUsedSpace "bob" 5)).record "alice").map (·.mounted) ≠
            (sharedState.record "alice").map (·.mounted) →
          (Op.updateUsedSpace "bob" 5).Repoints "alice" ∨ (Op.updateUsedSpace "bob" 5).WritesMount sharedState 0)) :=
  ⟨rfl, by decide, step_usage_mount_sharers sharedState _ rfl (by decide)⟩

/-- Two users given one pointer share one record: an `UpdateUsedSpace` of `bob`
    changes `alice`'s usage.  And provisioning `alice` again gives a new record with no
    usage. -/
theorem shared_record_usage :
    (sharedState.record "alice").map (·.usedSpace.val) = some 0 ∧
      ((step sharedState (.updateUsedSpace "bob" 5)).record "alice").map (·.usedSpace.val) = some 5 ∧
      ((run sharedState [.updateUsedSpace "alice" 5, .createUserNamespace "alice" none]).record "alice").map
        (·.usedSpace.val) = some 0 :=
  ⟨rfl, rfl, rfl⟩

-- ── the record-level manager ──────────────────────────────────────────────

/-- No two users hold one pointer, and every pointer held was allocated. -/
structure Unshared (s : State) : Prop where
  allocated : ∀ u p, s.manager.userConfigs u = some p → p < s.heap.next
  inj : ∀ u v p, s.manager.userConfigs u = some p → s.manager.userConfigs v = some p → u = v

/-- A call as `CreateAccount` and `createDefaultUserConfig` make theirs: a record
    argument is a new `&UserStorageConfig{...}`. -/
def call (s : State) : Tenant.Op → Except String Unit × State
  | .setUserStorageConfig u c => apply ⟨s.manager, (s.heap.pass c).2⟩ (.setUserStorageConfig u (s.heap.pass c).1)
  | .createUserNamespace u c => apply ⟨s.manager, (s.heap.pass c).2⟩ (.createUserNamespace u (s.heap.pass c).1)
  | .deleteUserNamespace u => apply s (.deleteUserNamespace u)
  | .mountUserStorage f u => apply s (.mountUserStorage f u)
  | .unmountUserStorage u => apply s (.unmountUserStorage u)
  | .checkQuota u n => apply s (.checkQuota u n)
  | .updateUsedSpace u d => apply s (.updateUsedSpace u d)

/-- The state after one such call. -/
def callStep (s : State) (op : Tenant.Op) : State := (call s op).2

/-- The state after a sequence of such calls. -/
def runCalls (s : State) (ops : List Tenant.Op) : State := ops.foldl callStep s

/-- A write through an address no user holds changes no record. -/
theorem deref_write_free {s : State} {q : Ptr} (hq : ∀ v, s.manager.userConfigs v ≠ some q) (c : UserStorageConfig) :
    (s.write q c).deref = s.deref := by
  refine State.deref_eq rfl fun v => ?_
  simp only [State.record, State.write_manager, State.write_heap, State.deref_userConfigs]
  rcases hv : s.manager.userConfigs v with _ | q'
  · rfl
  · have hne : q' ≠ q := fun h => hq v (h ▸ hv)
    simp [hne]

namespace Unshared

variable (hs : Unshared s)
include hs

/-- No user holds the next address. -/
theorem not_next (v : String) : s.manager.userConfigs v ≠ some s.heap.next :=
  fun h => Nat.lt_irrefl _ (hs.allocated v _ h)

/-- A write through `u`'s pointer changes `u`'s record and no other. -/
theorem deref_write (hp : s.manager.userConfigs u = some p) (c : UserStorageConfig) :
    (s.write p c).deref = s.deref.store u c := by
  refine State.deref_eq rfl fun v => ?_
  rw [DefaultMultiTenantManager.store_userConfigs]
  simp only [State.record, State.write_manager, State.write_heap, State.deref_userConfigs]
  split
  · subst_vars; simp [hp]
  · rcases hv : s.manager.userConfigs v with _ | q
    · rfl
    · have hq : q ≠ p := fun h => by subst h; exact ‹¬ v = u› (hs.inj v u q hv hp)
      simp [hq]

/-- Allocating changes no record. -/
theorem deref_alloc (c : UserStorageConfig) : (⟨s.manager, (s.heap.alloc c).2⟩ : State).deref = s.deref := by
  refine State.deref_eq rfl fun v => ?_
  simp only [State.record, State.deref_userConfigs]
  rcases hv : s.manager.userConfigs v with _ | q
  · rfl
  · have hne : q ≠ s.heap.next := fun h => hs.not_next v (h ▸ hv)
    simp [hne]

theorem write (q : Ptr) (c : UserStorageConfig) : Unshared (s.write q c) :=
  ⟨hs.allocated, hs.inj⟩

theorem erase (v : String) : Unshared (s.erase v) := by
  constructor
  · intro w q hw
    simp only [State.erase_userConfigs] at hw
    split at hw
    · cases hw
    · exact hs.allocated w q hw
  · intro w w' q hw hw'
    simp only [State.erase_userConfigs] at hw hw'
    split at hw
    · cases hw
    split at hw'
    · cases hw'
    exact hs.inj w w' q hw hw'

theorem alloc (c : UserStorageConfig) : Unshared (⟨s.manager, (s.heap.alloc c).2⟩ : State) :=
  ⟨fun v q hv => Nat.lt_succ_of_lt (hs.allocated v q hv), hs.inj⟩

/-- Storing an allocated address no other user holds. -/
theorem store (v : String) {q : Ptr} (hq : q < s.heap.next) (hfree : ∀ w, s.manager.userConfigs w ≠ some q) :
    Unshared (s.store v q) := by
  constructor
  · intro w q' hw
    simp only [State.store_userConfigs] at hw
    split at hw
    · cases hw; exact hq
    · exact hs.allocated w q' hw
  · intro w w' q' hw hw'
    simp only [State.store_userConfigs] at hw hw'
    split at hw <;> split at hw'
    · subst_vars; rfl
    · cases hw; exact absurd hw' (hfree w')
    · cases hw'; exact absurd hw (hfree w)
    · exact hs.inj w w' q' hw hw'

end Unshared

/-- A new manager holds no pointer. -/
theorem unshared_new (config : MultiTenantConfig) : Unshared ⟨newMultiTenantManager config, Heap.empty⟩ :=
  ⟨fun _ _ h => (by cases h), fun _ _ _ h _ => (by cases h)⟩

theorem deref_store (s : State) (u : String) (p : Ptr) : (s.store u p).deref = s.deref.store u (s.heap.cells p) := by
  refine State.deref_eq rfl fun v => ?_
  rw [DefaultMultiTenantManager.store_userConfigs]
  simp only [State.record, State.store_userConfigs, State.store_heap, State.deref_userConfigs]
  split <;> rfl

theorem deref_erase (s : State) (u : String) : (s.erase u).deref = s.deref.erase u := by
  refine State.deref_eq rfl fun v => ?_
  rw [DefaultMultiTenantManager.erase_userConfigs]
  simp only [State.record, State.erase_userConfigs, State.erase_heap, State.deref_userConfigs]
  split <;> rfl

/-- The record `CreateUserNamespace` stores, over the pointer a caller passes. -/
theorem namespacePtr_pass (s : State) (b : String) (c : Option UserStorageConfig) :
    (State.namespacePtr ⟨s.manager, (s.heap.pass c).2⟩ b (s.heap.pass c).1) =
      s.heap.alloc (c.getD (s.defaultRecord b)) := by
  cases c <;> rfl

/-- `CreateUserNamespace` given a newly allocated record. -/
theorem call_create (hs : Unshared s) (c : Option UserStorageConfig) :
    (call s (.createUserNamespace u c)).1 = (Tenant.apply s.deref (.createUserNamespace u c)).1 ∧
      (call s (.createUserNamespace u c)).2.deref = (Tenant.apply s.deref (.createUserNamespace u c)).2 ∧
      Unshared (call s (.createUserNamespace u c)).2 := by
  simp only [call, apply, State.createUserNamespace, Tenant.apply, DefaultMultiTenantManager.createUserNamespace]
  have hb : State.getUserBasePath ⟨s.manager, (s.heap.pass c).2⟩ u = s.deref.getUserBasePath u := rfl
  rw [hb]
  rcases s.deref.getUserBasePath u with e | b
  · rcases c with _ | c
    · exact ⟨rfl, rfl, hs⟩
    · exact ⟨rfl, hs.deref_alloc c, hs.alloc c⟩
  dsimp only
  rw [namespacePtr_pass]
  have hd : s.deref.defaultRecord b = s.defaultRecord b := rfl
  have ha := hs.alloc (c.getD (s.defaultRecord b))
  have hfree : ∀ v, (⟨s.manager, (s.heap.alloc (c.getD (s.defaultRecord b))).2⟩ : State).manager.userConfigs v ≠
      some s.heap.next := hs.not_next
  simp only [Heap.alloc_fst, Heap.alloc_cells, ↓reduceIte, DefaultMultiTenantManager.namespaceRecord, hd]
  by_cases h : (c.getD (s.defaultRecord b)).storagePath = ""
  · simp only [if_pos h]
    refine ⟨trivial, ?_, (ha.write _ _).store u (by simp) hfree⟩
    rw [deref_store, deref_write_free hfree, hs.deref_alloc]
    simp
  · simp only [if_neg h]
    refine ⟨trivial, ?_, ha.store u (by simp) hfree⟩
    rw [deref_store, hs.deref_alloc]
    simp

/-- **ONE CALL REFINES**: from a state where no two users share a record, a call
    made with newly allocated records answers what the record-level call answers on
    the dereferenced records, leaves the records it leaves, and again no two users
    share a record. -/
theorem call_refines (s : State) (hs : Unshared s) (op : Tenant.Op) :
    (call s op).1 = (Tenant.apply s.deref op).1 ∧ (call s op).2.deref = (Tenant.apply s.deref op).2 ∧
      Unshared (call s op).2 := by
  cases op with
  | setUserStorageConfig u c =>
      rcases c with _ | c
      · exact ⟨rfl, rfl, hs⟩
      simp only [call, apply, Heap.pass, State.setUserStorageConfig, Tenant.apply,
        DefaultMultiTenantManager.setUserStorageConfig, Heap.alloc_fst, Heap.alloc_cells, if_pos rfl]
      by_cases hv : c.backendType ∈ validBackends
      · simp only [hv, ↓reduceIte]
        exact ⟨trivial, by rw [deref_store, hs.deref_alloc]; simp, (hs.alloc c).store u (by simp) hs.not_next⟩
      · simp only [hv, ↓reduceIte]
        exact ⟨trivial, hs.deref_alloc c, hs.alloc c⟩
  | createUserNamespace u c => exact call_create hs c
  | deleteUserNamespace u =>
      simp only [call, apply, State.deleteUserNamespace, State.unmountUserStorage, State.getUserStorageConfig,
        Tenant.apply, DefaultMultiTenantManager.deleteUserNamespace, DefaultMultiTenantManager.unmountUserStorage,
        DefaultMultiTenantManager.getUserStorageConfig, State.deref_userConfigs]
      rcases hp : s.manager.userConfigs u with _ | p
      · exact ⟨rfl, rfl, hs⟩
      by_cases hmt : (s.heap.cells p).mounted
      · simp only [Option.map_some', hmt, Bool.not_true, Bool.false_eq_true, ↓reduceIte]
        refine ⟨trivial, ?_, (hs.write _ _).erase u⟩
        rw [deref_erase, hs.deref_write hp, DefaultMultiTenantManager.store_erase]
      · simp only [Option.map_some', hmt, Bool.not_false, ↓reduceIte]
        exact ⟨trivial, deref_erase s u, hs.erase u⟩
  | mountUserStorage f u =>
      simp only [call, apply, State.mountUserStorage, State.getUserStorageConfig, Tenant.apply,
        DefaultMultiTenantManager.mountUserStorage, DefaultMultiTenantManager.getUserStorageConfig,
        State.deref_userConfigs]
      rcases hp : s.manager.userConfigs u with _ | p
      · exact ⟨rfl, rfl, hs⟩
      by_cases hmt : (s.heap.cells p).mounted
      · simp only [Option.map_some', hmt, ↓reduceIte]
        exact ⟨trivial, trivial, hs⟩
      simp only [Option.map_some', hmt, Bool.false_eq_true, ↓reduceIte]
      rcases f (s.heap.cells p).backendType (s.heap.cells p).backendConfig with e | _
      · exact ⟨rfl, rfl, hs⟩
      by_cases hv : (s.heap.cells p).backendType ∈ validBackends
      · simp only [hv, ↓reduceIte]
        exact ⟨trivial, hs.deref_write hp _, hs.write _ _⟩
      · simp only [hv, ↓reduceIte]
        exact ⟨trivial, trivial, hs⟩
  | unmountUserStorage u =>
      simp only [call, apply, State.unmountUserStorage, State.getUserStorageConfig, Tenant.apply,
        DefaultMultiTenantManager.unmountUserStorage, DefaultMultiTenantManager.getUserStorageConfig,
        State.deref_userConfigs]
      rcases hp : s.manager.userConfigs u with _ | p
      · exact ⟨rfl, rfl, hs⟩
      by_cases hmt : (s.heap.cells p).mounted
      · simp only [Option.map_some', hmt, Bool.not_true, Bool.false_eq_true, ↓reduceIte]
        exact ⟨trivial, hs.deref_write hp _, hs.write _ _⟩
      · simp only [Option.map_some', hmt, Bool.not_false, ↓reduceIte]
        exact ⟨trivial, trivial, hs⟩
  | checkQuota u n =>
      refine ⟨?_, rfl, hs⟩
      simp only [call, apply, State.checkQuota, State.getUserStorageConfig, Tenant.apply,
        DefaultMultiTenantManager.checkQuota, DefaultMultiTenantManager.getUserStorageConfig,
        State.deref_userConfigs]
      rcases s.manager.userConfigs u with _ | p <;> rfl
  | updateUsedSpace u d =>
      simp only [call, apply, State.updateUsedSpace, State.getUserStorageConfig, Tenant.apply,
        DefaultMultiTenantManager.updateUsedSpace, DefaultMultiTenantManager.getUserStorageConfig,
        State.deref_userConfigs]
      rcases hp : s.manager.userConfigs u with _ | p
      · exact ⟨rfl, rfl, hs⟩
      exact ⟨rfl, hs.deref_write hp _, hs.write _ _⟩

/-- The answers of a run of such calls, one per call. -/
def callAnswers (s : State) (ops : List Tenant.Op) : List (Except String Unit) :=
  answers callStep (fun s op => (call s op).1) s ops

/-- The answers of a run of the record-level manager, one per call. -/
def recordAnswers (m : Tenant.DefaultMultiTenantManager) (ops : List Tenant.Op) : List (Except String Unit) :=
  answers Tenant.step (fun m op => (Tenant.apply m op).1) m ops

/-- **REFINEMENT**: from a state where no two users share a record, a run of calls
    made with newly allocated records gets the answers the record-level manager gets
    from the dereferenced records, ends with the records it ends with, and never makes
    two users share a record. -/
theorem runCalls_refines (s : State) (hs : Unshared s) (ops : List Tenant.Op) :
    callAnswers s ops = recordAnswers s.deref ops ∧ (runCalls s ops).deref = Tenant.run s.deref ops ∧
      Unshared (runCalls s ops) := by
  induction ops generalizing s with
  | nil => exact ⟨rfl, rfl, hs⟩
  | cons op ops ih =>
      obtain ⟨h1, h2, h3⟩ := call_refines s hs op
      obtain ⟨ih1, ih2, ih3⟩ := ih (callStep s op) h3
      refine ⟨?_, ?_, ih3⟩
      · simp only [callAnswers, recordAnswers, answers] at ih1 ⊢
        rw [h1, ih1, callStep, h2]
        rfl
      · simp only [runCalls, List.foldl_cons] at ih2 ⊢
        rw [ih2, callStep, h2]
        rfl

/-- `runCalls_refines` on a new manager provisioning two users. -/
theorem runCalls_refines_provision :
    Unshared ⟨newMultiTenantManager mnt, Heap.empty⟩ ∧
      callAnswers ⟨newMultiTenantManager mnt, Heap.empty⟩
          [.createUserNamespace "alice" none, .createUserNamespace "bob" none, .updateUsedSpace "bob" 5] =
        recordAnswers (State.deref ⟨newMultiTenantManager mnt, Heap.empty⟩)
          [.createUserNamespace "alice" none, .createUserNamespace "bob" none, .updateUsedSpace "bob" 5] ∧
      (runCalls ⟨newMultiTenantManager mnt, Heap.empty⟩
          [.createUserNamespace "alice" none, .createUserNamespace "bob" none, .updateUsedSpace "bob" 5]).deref =
        Tenant.run (State.deref ⟨newMultiTenantManager mnt, Heap.empty⟩)
          [.createUserNamespace "alice" none, .createUserNamespace "bob" none, .updateUsedSpace "bob" 5] ∧
      Unshared (runCalls ⟨newMultiTenantManager mnt, Heap.empty⟩
          [.createUserNamespace "alice" none, .createUserNamespace "bob" none, .updateUsedSpace "bob" 5]) :=
  ⟨unshared_new mnt, runCalls_refines _ (unshared_new mnt) _⟩

/-- **SEPARATION**: from a state where no two users share a record, in every
    interleaving of calls of every user made with newly allocated records, each user's
    record at the end, and each answer that user's calls get, are those of the run of
    that user's calls alone. -/
theorem tenantManager_separate (s : State) (hs : Unshared s) (ops : List Tenant.Op) (u : String) :
    (runCalls s ops).record u = (runCalls s (ops.filter (·.user == u))).record u ∧
      ((ops.zip (callAnswers s ops)).filter (·.1.user == u)).map Prod.snd =
        callAnswers s (ops.filter (·.user == u)) := by
  obtain ⟨ha, hr, -⟩ := runCalls_refines s hs ops
  obtain ⟨ha', hr', -⟩ := runCalls_refines s hs (ops.filter (·.user == u))
  have h := records_separate s.deref ops u
  refine ⟨?_, ?_⟩
  · have e : ∀ t : State, t.record u = t.deref.userConfigs u := fun _ => rfl
    rw [e, e, hr, hr']
    exact h.1
  · rw [ha, ha']
    exact h.2

/-- Two users provisioned on a new manager. -/
def twoUsers : List Tenant.Op :=
  [.createUserNamespace "alice" none, .createUserNamespace "bob" none, .updateUsedSpace "bob" 5,
    .updateUsedSpace "alice" 3]

/-- `tenantManager_separate` for `alice` among two users on a new manager. -/
theorem tenantManager_separate_alice :
    Unshared ⟨newMultiTenantManager mnt, Heap.empty⟩ ∧
      (runCalls ⟨newMultiTenantManager mnt, Heap.empty⟩ twoUsers).record "alice" =
        (runCalls ⟨newMultiTenantManager mnt, Heap.empty⟩ (twoUsers.filter (·.user == "alice"))).record "alice" ∧
      ((twoUsers.zip (callAnswers ⟨newMultiTenantManager mnt, Heap.empty⟩ twoUsers)).filter
          (·.1.user == "alice")).map Prod.snd =
        callAnswers ⟨newMultiTenantManager mnt, Heap.empty⟩ (twoUsers.filter (·.user == "alice")) :=
  ⟨unshared_new mnt, tenantManager_separate _ (unshared_new mnt) twoUsers "alice"⟩

end Tenant.Pointer
