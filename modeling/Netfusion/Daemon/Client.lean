import Netfusion.Daemon.Conversation

namespace Netfusion.Daemon.Client

open Netfusion.Lib.Bincode
open Netfusion.Shared.Types Netfusion.Shared.Ipc
open Netfusion.Daemon.Conversation

variable {F α : Type}

/-- The text of the encoding errors is an argument. -/
def IpcError.display (displayError : Error → String) : IpcError → String
  | .connect e => "connection failed: " ++ e
  | .io e => "I/O error: " ++ e
  | .encode e => "encoding error: " ++ displayError e
  | .server message => "server error: " ++ message

def expect (name : String) (pick : ResponseData F → Option α) :
    Except IpcError (DaemonResponse F) → Except IpcError α
  | .error e => .error e
  | .ok (.ok data) =>
    match data.bind pick with
    | some a => .ok a
    | none => .error (.server ("unexpected response type for " ++ name))
  | .ok (.error message _) => .error (.server message)

def getStatus : Except IpcError (DaemonResponse F) → Except IpcError (SystemStatus F) :=
  expect "GetStatus" (fun | .status s => some s | _ => none)

def getInterfaces : Except IpcError (DaemonResponse F) → Except IpcError (List (InterfaceInfo F)) :=
  expect "GetInterfaces" (fun | .interfaces i => some i | _ => none)

def getBonds : Except IpcError (DaemonResponse F) → Except IpcError (List (BondState F)) :=
  expect "GetBonds" (fun | .bonds b => some b | _ => none)

def getTunnels : Except IpcError (DaemonResponse F) → Except IpcError (List TunnelState) :=
  expect "GetTunnels" (fun | .tunnels t => some t | _ => none)

theorem expect_ok {name : String} {pick : ResponseData F → Option α}
    {r : Except IpcError (DaemonResponse F)} {a : α} (h : expect name pick r = .ok a) :
    ∃ data, r = .ok (.ok (some data)) ∧ pick data = some a := by
  cases r with
  | error e => cases h
  | ok response =>
    cases response with
    | error message recoverable => cases h
    | ok data =>
      simp only [expect] at h
      cases data with
      | none => cases h
      | some data =>
        rw [Option.bind_some] at h
        cases hpick : pick data with
        | none =>
          rw [hpick] at h
          cases h
        | some b =>
          rw [hpick] at h
          cases h
          exact ⟨data, rfl, hpick⟩

theorem getStatus_ok {r : Except IpcError (DaemonResponse F)} {s : SystemStatus F}
    (h : getStatus r = .ok s) : r = .ok (.ok (some (.status s))) := by
  obtain ⟨data, rfl, hpick⟩ := expect_ok h
  cases data <;> cases hpick
  rfl

theorem getInterfaces_ok {r : Except IpcError (DaemonResponse F)} {i : List (InterfaceInfo F)}
    (h : getInterfaces r = .ok i) : r = .ok (.ok (some (.interfaces i))) := by
  obtain ⟨data, rfl, hpick⟩ := expect_ok h
  cases data <;> cases hpick
  rfl

theorem getBonds_ok {r : Except IpcError (DaemonResponse F)} {b : List (BondState F)}
    (h : getBonds r = .ok b) : r = .ok (.ok (some (.bonds b))) := by
  obtain ⟨data, rfl, hpick⟩ := expect_ok h
  cases data <;> cases hpick
  rfl

theorem getTunnels_ok {r : Except IpcError (DaemonResponse F)} {t : List TunnelState}
    (h : getTunnels r = .ok t) : r = .ok (.ok (some (.tunnels t))) := by
  obtain ⟨data, rfl, hpick⟩ := expect_ok h
  cases data <;> cases hpick
  rfl

end Netfusion.Daemon.Client
