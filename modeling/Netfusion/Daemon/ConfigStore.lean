import Mathlib.Data.Rat.Defs
import Netfusion.Lib.Machine
import Netfusion.Daemon.Server

namespace Netfusion.Daemon.ConfigStore

open Netfusion.Lib.Machine
open Netfusion.Shared.Config Netfusion.Shared.Validate Netfusion.Shared.Types
open Netfusion.Shared.Events Netfusion.Shared.Ipc
open Netfusion.Daemon.Server

inductive ConfigFile where
  | missing
  | unreadable (e : String)
  | content (text : String)

variable {F : Type}

/-- The parser of the file format is an argument. A start-up configuration
that parses is used as it is. -/
def loadConfig (parse : String → Except String (NetfusionConfig F)) :
    ConfigFile → Except String (NetfusionConfig F)
  | .missing => .ok (NetfusionConfig.default F)
  | .unreadable _ => .ok (NetfusionConfig.default F)
  | .content text =>
    match parse text with
    | .error e => .error ("Failed to parse config: " ++ e)
    | .ok config => .ok config

def readToString : ConfigFile → Except String String
  | .missing => .error "No such file or directory (os error 2)"
  | .unreadable e => .error e
  | .content text => .ok text

/-- A reload answers with an error or with the event it announces. -/
def handleConfigChange (parse : String → Except String (NetfusionConfig F))
    (display : ValidationErrors → String) (path : String) (now : DateTime) (file : ConfigFile)
    (s : IpcServer F) : Except String (NetfusionEvent F) × IpcServer F :=
  match readToString file with
  | .error e => (.error ("failed to read config: " ++ e), s)
  | .ok content =>
    match parse content with
    | .error e => (.error ("failed to parse config: " ++ e), s)
    | .ok newConfig =>
      match newConfig.daemon.validate with
      | .error e => (.error ("invalid config: " ++ display e), s)
      | .ok () => (.ok (.configReloaded ⟨now, path, []⟩), { s with config := newConfig })

/-- Everything that reaches the shared state after start-up. -/
inductive Input (F : Type) where
  | request (clock : Nat) (now : DateTime) (r : DaemonRequest F)
  | fileChanged (now : DateTime) (file : ConfigFile)
  | rescan (found : List (InterfaceInfo F))

inductive Output (F : Type) where
  | response (d : DaemonResponse F)
  | reloaded (result : Except String (NetfusionEvent F))
  | rescanned

variable (parse : String → Except String (NetfusionConfig F))
  (display : ValidationErrors → String) (path : String)

def step (s : IpcServer F) : Input F → Output F × IpcServer F
  | .request clock now r => (processRequest display s clock now r).map .response id
  | .fileChanged now file => (handleConfigChange parse display path now file s).map .reloaded id
  | .rescan found => (.rescanned, { s with interfaces := found })

def Valid (c : NetfusionConfig F) : Prop := c.validate = .ok ()

def Accepts : Output F → Prop
  | .response (.ok _) => True
  | .response (.error _ _) => False
  | .reloaded (.ok _) => True
  | .reloaded (.error _) => False
  | .rescanned => True

/-- What one step owes to the store: it stays valid, a rejected request or
reload leaves it alone, and a dry run answers as the validator does. -/
def StepSound (s : IpcServer F) (i : Input F) : Prop :=
  Valid (step parse display path s i).2.config ∧
  (¬ Accepts (step parse display path s i).1 → (step parse display path s i).2.config = s.config) ∧
  ∀ clock now c, i = .request clock now (.dryRunConfig c) →
    (Accepts (step parse display path s i).1 ↔ Valid c)

def offered : Input F → Option (NetfusionConfig F)
  | .request _ _ (.applyConfig c) => some c
  | .request _ _ (.dryRunConfig c) => some c
  | .fileChanged _ (.content text) => (parse text).toOption
  | _ => none

theorem handleConfigChange_content (now : DateTime) (text : String) (s : IpcServer F)
    (c : NetfusionConfig F) (h : parse text = .ok c) :
    (handleConfigChange parse display path now (.content text) s) =
      (.ok (.configReloaded ⟨now, path, []⟩), { s with config := c }) := by
  simp only [handleConfigChange, readToString, h, daemonConfig_validate]

/-- A reload stores whatever parses. -/
theorem handleConfigChange_config (now : DateTime) (file : ConfigFile) (s : IpcServer F) :
    (handleConfigChange parse display path now file s).2.config =
      (offered parse (.fileChanged now file)).getD s.config := by
  cases file with
  | missing => rfl
  | unreadable e => rfl
  | content text =>
    cases h : parse text with
    | error e => simp [handleConfigChange, readToString, offered, h, Except.toOption]
    | ok c => simp [handleConfigChange_content parse display path now text s c h, offered, h,
        Except.toOption]

theorem step_config (s : IpcServer F) (i : Input F) :
    (step parse display path s i).2.config =
      match i with
      | .request _ _ (.dryRunConfig _) => s.config
      | i => (offered parse i).getD s.config := by
  cases i with
  | request clock now r =>
    have hr := processRequest_state display s clock now r
    simp only [step, Prod.map_snd, id_eq, hr]
    cases r <;> rfl
  | fileChanged now file => exact handleConfigChange_config parse display path now file s
  | rescan found => rfl

def startUp (file : ConfigFile) (found : List (InterfaceInfo F)) (clock : Nat) :
    Except String (IpcServer F) :=
  (loadConfig parse file).map (fun config => ⟨found, config, clock⟩)

/-- The store is valid from start-up on, and every step is sound. -/
def Sound (file : ConfigFile) (found : List (InterfaceInfo F)) (clock : Nat)
    (inputs : List (Input F)) : Prop :=
  ∀ s, startUp parse file found clock = .ok s →
    Valid s.config ∧
    EachStep (step parse display path) s inputs (fun _ t i => StepSound parse display path t i)

end Netfusion.Daemon.ConfigStore
