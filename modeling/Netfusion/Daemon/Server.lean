import Mathlib.Algebra.Group.Nat.Defs
import Netfusion.Shared.Validate
import Netfusion.Shared.Ipc

namespace Netfusion.Daemon.Server

open Netfusion.Shared.Config Netfusion.Shared.Validate Netfusion.Shared.Types Netfusion.Shared.Ipc

/-- The state the connection handlers share. Monotonic instants are counted
in nanoseconds. -/
structure IpcServer (F : Type) where
  interfaces : List (InterfaceInfo F)
  config : NetfusionConfig F
  uptimeStart : Nat

variable {F : Type}

def success (data : Option (ResponseData F)) : DaemonResponse F := .ok data

def error (message : String) (recoverable : Bool) : DaemonResponse F := .error message recoverable

/-- The two clock readings of the status answer are arguments, and so is the
text that the validation library makes of its errors. -/
def processRequest (display : ValidationErrors → String) (s : IpcServer F) (clock : Nat)
    (now : DateTime) : DaemonRequest F → DaemonResponse F × IpcServer F
  | .getStatus =>
    (success (some (.status {
      totalInterfaces := UInt64.ofNat s.interfaces.length
      activeBonds := 0
      connectedTunnels := 0
      activeProfile := none
      health := none
      failoverActive := false
      dryRun := false
      uptimeSecs := UInt64.ofNat ((clock - s.uptimeStart) / 10 ^ 9)
      timestamp := now })), s)
  | .getInterfaces => (success (some (.interfaces s.interfaces)), s)
  | .getInterface name =>
    match s.interfaces.find? (fun i => i.name = name) with
    | some iface => (success (some (.interface iface)), s)
    | none => (error s!"Interface '{name}' not found" false, s)
  | .getConfig => (success (some (.config s.config)), s)
  | .applyConfig config =>
    match config.daemon.validate with
    | .error e => (error ("Invalid config: " ++ display e) true, s)
    | .ok () => (success (some .empty), { s with config := config })
  | .dryRunConfig config =>
    match config.daemon.validate with
    | .ok () => (success (some .empty), s)
    | .error e => (error ("Invalid config: " ++ display e) true, s)
  | .rescanInterfaces => (success (some .empty), s)
  | .getEvents _ => (success (some (.events [])), s)
  | .getBonds => (success (some (.bonds [])), s)
  | .getBond _ => (success none, s)
  | .getTunnels => (success (some (.tunnels [])), s)
  | .subscribeEvents => (success (some .empty), s)
  | .unsubscribeEvents => (success (some .empty), s)
  | .activateProfile name => (success (some (.profile (some name))), s)
  | .deactivateProfile => (success (some (.profile none)), s)
  | .getActiveProfile => (success (some (.profile none)), s)
  | .getHealth interface =>
    match s.interfaces.find? (fun i => i.name = interface) with
    | some iface =>
      match iface.health with
      | some health => (success (some (.health health)), s)
      | none => (error "No health data available" false, s)
    | none => (error s!"Interface '{interface}' not found" false, s)
  | .getAllHealth =>
    (success (some (.allHealth
      (s.interfaces.filterMap (fun i => i.health.map (fun h => (i.name, h)))))), s)
  | .createBond _ => (error "Bond creation not yet implemented" true, s)
  | .deleteBond _ => (error "Bond deletion not yet implemented" true, s)
  | .emergencyRollback => (success (some .empty), s)
  | .shutdown => (success (some .empty), s)

/-- Applying a configuration is the only request that changes anything, and
what it checks never fails. -/
theorem processRequest_state (display : ValidationErrors → String) (s : IpcServer F) (clock : Nat)
    (now : DateTime) (r : DaemonRequest F) :
    (processRequest display s clock now r).2 =
      match r with
      | .applyConfig config => { s with config := config }
      | _ => s := by
  cases r with
  | applyConfig config => rfl
  | dryRunConfig config => rfl
  | getInterface name => simp only [processRequest]; split <;> rfl
  | getHealth interface =>
    simp only [processRequest]
    split
    · split <;> rfl
    · rfl
  | _ => rfl

end Netfusion.Daemon.Server
