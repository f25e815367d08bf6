import MultiTenantGw.IAMAccounts
import MultiTenantGw.RegistryInvariant

/-! # The gateway and its IAM service, interleaved

    `runMultiTenant` hands one tenant manager to both the backend registry and the
    IAM service, and one config manager to the backend factory and the IAM service.
    A `System` is that whole: the gateway (registry over the tenant manager, config
    manager), the base service's accounts, and the files of the configuration
    directory.  A `SysCall` is a call of either component; the IAM service's calls
    act on the shared tenant manager, config manager and files.

    **System invariant** (`system_safe`): from the gateway `runMultiTenant` builds,
    over every interleaving of gateway calls and IAM calls that does not panic, and
    whatever the base service, the file system, the commands and the constructors
    answer, no storage record is ever mounted and the registry's bookkeeping stays
    consistent.  `CreateAccount` adds records, but never a mounted one.

    As the repository stands, `runGateway` returns an error before it serves any
    request (`runMultiTenantCommand_error`): `System` describes the gateway the
    command wires, which the S3 server would drive. -/

namespace Versitygw

open Tenant Registry Config Os

-- ── the command's end ─────────────────────────────────────────────────────

/-- `runGateway`: a placeholder that returns its error. -/
def runGateway (_gw : Gateway) (_iam : MultiTenantIAMService) : Except String Unit :=
  .error "multi-tenant gateway implementation in progress"

/-- `runMultiTenant` to its end: the wiring, the base IAM service that `auth.New`
    opens (its accounts, or its error), the IAM service, and `runGateway`. -/
def runMultiTenantCommand (deny : Denials) (flags : Flags) (fs : FS Content)
    (authNew : Except String (GoMap Account)) : Except String Unit :=
  match runMultiTenant deny flags fs with
  | (.error e, _, _) => .error e
  | (.ok gw, fs', _) =>
      match authNew with
      | .error e => .error ("failed to initialize IAM: " ++ e)
      | .ok accounts => runGateway gw ⟨accounts, gw.dm.multiTenantManager, ⟨gw.cm, fs'⟩⟩

/-- The `multitenant` command never returns nil. -/
theorem runMultiTenantCommand_error (deny : Denials) (flags : Flags) (fs : FS Content)
    (authNew : Except String (GoMap Account)) : ∃ e, runMultiTenantCommand deny flags fs authNew = .error e := by
  unfold runMultiTenantCommand
  split
  · exact ⟨_, rfl⟩
  · split <;> exact ⟨_, rfl⟩

-- ── the system ────────────────────────────────────────────────────────────

/-- The gateway, the base service's accounts, and the files of the configuration
    directory. -/
structure System where
  gw : Gateway
  baseIAM : GoMap Account
  fs : FS Content

/-- The IAM service over the system's tenant manager, config manager and files. -/
def System.iam (sys : System) : MultiTenantIAMService :=
  ⟨sys.baseIAM, sys.gw.dm.multiTenantManager, ⟨sys.gw.cm, sys.fs⟩⟩

/-- The system after the IAM service changed what it shares. -/
def System.withIAM (sys : System) (svc : MultiTenantIAMService) : System :=
  ⟨⟨{ sys.gw.dm with multiTenantManager := svc.mtManager }, svc.configStore.cm⟩, svc.baseIAM,
    svc.configStore.fs⟩

/-- A call of the gateway or of the IAM service. -/
inductive SysCall where
  | gateway (op : Op)
  | iam (deny : Denials) (call : IAMCall)

/-- The system after one call; `none` is a panic. -/
def System.step (sys : System) : SysCall → Option System
  | .gateway op => some { sys with gw := Versitygw.step sys.gw op }
  | .iam deny call => (call.apply deny sys.iam).map sys.withIAM

/-- The system after a sequence of calls; `none` once one of them panics. -/
def System.run (sys : System) : List SysCall → Option System
  | [] => some sys
  | c :: cs => (sys.step c).bind (·.run cs)

-- ── the invariant ─────────────────────────────────────────────────────────

/-- What holds in every state the system reaches. -/
structure SystemInv (sys : System) : Prop where
  none_mounted : NoneMounted sys.gw.dm.multiTenantManager
  consistent : Consistent sys.gw.dm

theorem consistent_gateway_step {gw : Gateway} (h : Consistent gw.dm) (op : Op) : Consistent (step gw op).dm := by
  cases op with
  | getUserBackend env u => exact consistent_step h (.getUserBackend env u)
  | unmountUserBackend env u => exact consistent_step h (.unmountUserBackend env u)
  | mountUserStorage u => exact h.withTenant _
  | unmountUserStorage u => exact h.withTenant _
  | deleteUserNamespace u => exact h.withTenant _

theorem noneMounted_iam {deny : Denials} {svc svc' : MultiTenantIAMService} {call : IAMCall}
    (h : NoneMounted svc.mtManager) (hc : call.apply deny svc = some svc') : NoneMounted svc'.mtManager := by
  cases call with
  | create refuse account =>
      obtain ⟨⟨r, _⟩, hca, rfl⟩ := Option.map_eq_some'.1 hc
      rcases createAccount_cases hca with rfl | ⟨-, -, hm | rfl⟩
      · exact h
      · rw [hm]; exact h
      · obtain ⟨-, -, c, _, -, -, b, -, hm⟩ := createAccount_ok_steps hca
        intro v c' hv
        rw [hm, DefaultMultiTenantManager.store_userConfigs] at hv
        split at hv
        · cases hv
          rw [DefaultMultiTenantManager.namespaceRecord_mounted]
        · exact h v c' hv
  | get access =>
      cases hc
      rw [(getUserAccount_frame deny svc access).2]
      exact h
  | delete refuse access =>
      cases hc
      have hd := noneMounted_deleteUserNamespace h access
      rw [DefaultMultiTenantManager.deleteUserNamespace_snd] at hd
      rw [deleteUserAccount_eq]
      exact hd

theorem systemInv_step {sys sys' : System} (h : SystemInv sys) {c : SysCall} (hs : sys.step c = some sys') :
    SystemInv sys' := by
  cases c with
  | gateway op =>
      cases hs
      exact ⟨noneMounted_step h.1 op, consistent_gateway_step h.2 op⟩
  | iam deny call =>
      obtain ⟨svc, hc, rfl⟩ := Option.map_eq_some'.1 hs
      exact ⟨noneMounted_iam h.1 hc, h.2.withTenant _⟩

theorem systemInv_run {sys sys' : System} (h : SystemInv sys) {calls : List SysCall}
    (hr : sys.run calls = some sys') : SystemInv sys' := by
  induction calls generalizing sys with
  | nil => cases hr; exact h
  | cons c calls ih =>
      obtain ⟨sys1, h1, h2⟩ := Option.bind_eq_some.1 hr
      exact ih (systemInv_step h h1) h2

theorem runMultiTenant_consistent {deny : Denials} {flags : Flags} {fs : FS Content} {gw : Gateway}
    (h : (runMultiTenant deny flags fs).1 = .ok gw) : Consistent gw.dm := by
  unfold runMultiTenant at h
  split at h
  · cases h
  · cases h
    exact ⟨fun _ h => absurd rfl h, fun _ h => absurd rfl h, fun _ _ h => by cases h⟩

/-- **SYSTEM INVARIANT**: from the gateway `runMultiTenant` builds, with any base
    accounts, over every interleaving of gateway calls and IAM service calls that does
    not panic, whatever the base service, the file system, the commands and the
    constructors answer: no storage record is mounted, every user with a mount
    point or a handle has a registry record, and every record marked `ready` has a
    handle. -/
theorem system_safe {deny : Denials} {flags : Flags} {fs : FS Content} {gw : Gateway}
    (hgw : (runMultiTenant deny flags fs).1 = .ok gw) (accounts : GoMap Account) (calls : List SysCall)
    {sys : System} (hr : System.run ⟨gw, accounts, (runMultiTenant deny flags fs).2.1⟩ calls = some sys) :
    NoneMounted sys.gw.dm.multiTenantManager ∧ Consistent sys.gw.dm :=
  have hinv := systemInv_run
    ⟨fun u c hc => (by rw [runMultiTenant_records hgw u] at hc; cases hc), runMultiTenant_consistent hgw⟩ hr
  ⟨hinv.1, hinv.2⟩

/-- `system_safe` on a first start, through a `CreateAccount` and a `GetUserBackend`. -/
theorem system_safe_first_start :
    ∃ gw sys, (runMultiTenant allow {} FS.empty).1 = .ok gw ∧
      System.run ⟨gw, GoMap.empty, (runMultiTenant allow {} FS.empty).2.1⟩
        [.iam allow (.create (fun _ => none) aliceAccount), .gateway (.getUserBackend commandsSucceed "alice")] =
        some sys ∧
      NoneMounted sys.gw.dm.multiTenantManager ∧ Consistent sys.gw.dm := by
  obtain ⟨gw, hgw⟩ : ∃ gw, (runMultiTenant allow {} FS.empty).1 = .ok gw := ⟨_, rfl⟩
  obtain ⟨sys, hr⟩ : ∃ sys, System.run ⟨gw, GoMap.empty, (runMultiTenant allow {} FS.empty).2.1⟩
      [.iam allow (.create (fun _ => none) aliceAccount), .gateway (.getUserBackend commandsSucceed "alice")] =
      some sys := by
    cases hgw; exact ⟨_, rfl⟩
  exact ⟨gw, sys, hgw, hr, system_safe hgw GoMap.empty _ hr⟩

end Versitygw
