import Mathlib.Algebra.Group.Nat.Defs
import Netfusion.Core.Routing

namespace Netfusion.Core.SafeApply

open Netfusion.Lib.Machine
open Netfusion.Core.Command Netfusion.Core.Routing

structure SafeApplyConfig where
  verifyTimeoutSecs : Nat
  verifyTarget : String
  dryRun : Bool

def SafeApplyConfig.default : SafeApplyConfig := ⟨10 * 10 ^ 9, "8.8.8.8", false⟩

inductive ApplyResult where
  | success
  | validationFailed (message : String)
  | verificationFailed (message : String)
  | applyFailed (error : String) (rollbackSuccess : Bool)
deriving DecidableEq

/-- What the run meets: the two pings, the second of which may time out, and
for each route how the command ends that takes it back and which metric the
kernel chooses for it. `debug` is how a text is printed for debugging. -/
structure Surroundings where
  initialPing : CommandOutput
  verifyPing : Option CommandOutput
  deletion : RouteKey → CommandOutput
  chosen : RouteKey → UInt32
  debug : String → String

/-- The calls the changes make, each of which may fail, and what they return. -/
structure Changes where
  calls : List Call
  result : Except RoutingError Unit

def pingOnce (debug : String → String) (target : String) (ping : CommandOutput) :
    Except String Unit :=
  match ping with
  | .error e => .error ("failed to run ping: " ++ e)
  | .ok out =>
    if out.success then .ok ()
    else .error ("ping to " ++ target ++ " failed: " ++ debug out.stderr)

def validate (config : SafeApplyConfig) (s : Surroundings) : Except String Unit :=
  if config.dryRun then .ok ()
  else match pingOnce s.debug config.verifyTarget s.initialPing with
    | .ok _ => .ok ()
    | .error e => .error ("initial connectivity check failed: " ++ e)

def verifyConnectivity (config : SafeApplyConfig) (s : Surroundings) : Except String Unit :=
  match s.verifyPing with
  | none => .error "connectivity verification timed out"
  | some ping => pingOnce s.debug config.verifyTarget ping

section

variable (deleted : DeletedRoute)

def rollbackRoutes (s : Surroundings) (previousRoutes : List ManagedRoute) (success : Bool)
    (e : RoutingEngine) : List ManagedRoute → Bool × RoutingEngine
  | [] => (success, e)
  | route :: rest =>
    if previousRoutes.any (fun r => r.gateway = route.gateway ∧ r.interface = route.interface ∧
        r.metric = route.metric) then
      rollbackRoutes s previousRoutes success e rest
    else match delDefaultRoute deleted e route.gateway route.interface route.metric
        (s.deletion route.key) (s.chosen route.key) with
      | (.error _, e) => rollbackRoutes s previousRoutes false e rest
      | (.ok _, e) => rollbackRoutes s previousRoutes success e rest

def rollback (s : Surroundings) (previousRoutes : List ManagedRoute) (e : RoutingEngine) :
    Bool × RoutingEngine :=
  rollbackRoutes deleted s previousRoutes true e e.managedRoutes

def applyChanges (e : RoutingEngine) (changes : Changes) : RoutingEngine :=
  run (call deleted) e changes.calls

def execute (config : SafeApplyConfig) (s : Surroundings) (e : RoutingEngine) (changes : Changes) :
    ApplyResult × RoutingEngine :=
  match validate config s with
  | .error err => (.validationFailed err, e)
  | .ok _ =>
    if config.dryRun then (.success, e)
    else
      let previousRoutes := e.managedRoutes
      let e := applyChanges deleted e changes
      match changes.result with
      | .error err =>
        let (rollbackOk, e) := rollback deleted s previousRoutes e
        (.applyFailed err.toString rollbackOk, e)
      | .ok _ =>
        match verifyConnectivity config s with
        | .error err =>
          let (rollbackOk, e) := rollback deleted s previousRoutes e
          (.verificationFailed ("connectivity check failed: " ++ err ++ ", rollback: " ++
            if rollbackOk then "success" else "FAILED"), e)
        | .ok _ => (.success, clearManagedRoutes e)

end

def ReportsRollback : ApplyResult → Prop
  | .applyFailed _ rollbackSuccess => rollbackSuccess = true
  | .verificationFailed message =>
    ∃ err, message = "connectivity check failed: " ++ err ++ ", rollback: success"
  | _ => False

/-- The changes are made and taken back. -/
def RollsBack (config : SafeApplyConfig) (s : Surroundings) (changes : Changes) : Prop :=
  config.dryRun = false ∧ Succeeds s.initialPing ∧
  (changes.result = .ok () → ∀ ping, s.verifyPing = some ping → ¬ Succeeds ping)

theorem pingOnce_ok_iff (debug : String → String) (target : String) (ping : CommandOutput) :
    pingOnce debug target ping = .ok () ↔ Succeeds ping := by
  unfold pingOnce Succeeds
  cases ping with
  | error e => simp
  | ok out => cases h : out.success <;> simp [h]

theorem verifyConnectivity_ok_iff (config : SafeApplyConfig) (s : Surroundings) :
    verifyConnectivity config s = .ok () ↔ ∃ ping, s.verifyPing = some ping ∧ Succeeds ping := by
  rw [verifyConnectivity]
  cases s.verifyPing with
  | none => simp
  | some ping => simp [pingOnce_ok_iff]

theorem failed_ne_success (front other : String) :
    front ++ ", rollback: FAILED" ≠ other ++ ", rollback: success" := by
  intro h
  have hlast := congrArg (fun s : String => s.toList.getLast?) h
  simp [List.getLast?_append] at hlast

theorem reportsRollback_verificationFailed (err : String) (rollbackOk : Bool) :
    ReportsRollback (.verificationFailed ("connectivity check failed: " ++ err ++ ", rollback: " ++
      if rollbackOk then "success" else "FAILED")) ↔ rollbackOk = true := by
  cases rollbackOk with
  | true => exact iff_of_true ⟨err, by simp [String.append_assoc]⟩ rfl
  | false =>
    apply iff_of_false _ Bool.false_ne_true
    rintro ⟨other, hother⟩
    refine failed_ne_success ("connectivity check failed: " ++ err)
      ("connectivity check failed: " ++ other) ?_
    simpa [String.append_assoc] using hother

/-- The result speaks of a rollback only where there was one, and says of it
what its deletions came to. -/
theorem execute_cases (deleted : DeletedRoute) (config : SafeApplyConfig) (s : Surroundings)
    (e : RoutingEngine) (changes : Changes) :
    (RollsBack config s changes ∧
      (execute deleted config s e changes).2 =
        (rollback deleted s e.managedRoutes (applyChanges deleted e changes)).2 ∧
      (ReportsRollback (execute deleted config s e changes).1 ↔
        (rollback deleted s e.managedRoutes (applyChanges deleted e changes)).1 = true)) ∨
    (¬ RollsBack config s changes ∧ ¬ ReportsRollback (execute deleted config s e changes).1) := by
  have hping := pingOnce_ok_iff s.debug config.verifyTarget s.initialPing
  have hverify := verifyConnectivity_ok_iff config s
  rw [execute, validate]
  cases hdry : config.dryRun with
  | true => exact .inr ⟨fun h => by simp [RollsBack, hdry] at h, by simp [ReportsRollback]⟩
  | false =>
    cases hinit : pingOnce s.debug config.verifyTarget s.initialPing with
    | error err =>
      rw [hinit] at hping
      refine .inr ⟨fun h => ?_, by simp [ReportsRollback]⟩
      cases hping.mpr h.2.1
    | ok _ =>
      have hsucceeds : Succeeds s.initialPing := hping.mp hinit
      cases hresult : changes.result with
      | error err =>
        exact .inl ⟨⟨hdry, hsucceeds, by simp [hresult]⟩, by simp, by simp [ReportsRollback]⟩
      | ok _ =>
        cases hv : verifyConnectivity config s with
        | error err =>
          rw [hv] at hverify
          refine .inl ⟨⟨hdry, hsucceeds, fun _ ping hp hs => ?_⟩, by simp, ?_⟩
          · cases hverify.mpr ⟨ping, hp, hs⟩
          · simpa using reportsRollback_verificationFailed err
              (rollback deleted s e.managedRoutes (applyChanges deleted e changes)).1
        | ok _ =>
          obtain ⟨ping, hp, hs⟩ := hverify.mp hv
          exact .inr ⟨fun h => h.2.2 hresult ping hp hs, by simp [ReportsRollback]⟩

end Netfusion.Core.SafeApply
