import Netfusion.Lib.Machine
import Netfusion.Lib.Windows
import Netfusion.Shared.Events

namespace Netfusion.Tui

open Netfusion.Lib.Machine Netfusion.Lib.Windows
open Netfusion.Shared.Types Netfusion.Shared.Events

structure App (F : Type) where
  running : Bool
  status : Option (SystemStatus F)
  interfaces : List (InterfaceInfo F)
  events : List (NetfusionEvent F)
  selectedTab : Nat
  connected : Bool
  error : Option String
  dirty : Bool
  isLoading : Bool
  lastRefresh : Option DateTime
  healthHistory : List F
  bonds : List (BondState F)
  tunnels : List TunnelState
  interfaceScrollPos : Nat
  logScrollPos : Nat
  selectedInterfaceIdx : Nat
  logViewHeight : Nat

variable {F : Type}

def App.new : App F where
  running := true
  status := none
  interfaces := []
  events := []
  selectedTab := 0
  connected := false
  error := none
  dirty := false
  isLoading := false
  lastRefresh := none
  healthHistory := []
  bonds := []
  tunnels := []
  interfaceScrollPos := 0
  logScrollPos := 0
  selectedInterfaceIdx := 0
  logViewHeight := 0

namespace App

def markDirty (app : App F) : App F := { app with dirty := true }

def nextTab (app : App F) : App F :=
  { app with selectedTab := (app.selectedTab + 1) % 4 }.markDirty

def prevTab (app : App F) : App F :=
  { app with selectedTab := if app.selectedTab = 0 then 3 else app.selectedTab - 1 }.markDirty

def takeDirty (app : App F) : Bool × App F := (app.dirty, { app with dirty := false })

def pushHealthSample (app : App F) (score : F) : App F :=
  { app with healthHistory := keepLast 60 (app.healthHistory ++ [score]) }

def selectInterfaceUp (app : App F) : App F :=
  if app.selectedInterfaceIdx > 0 then
    { app with selectedInterfaceIdx := app.selectedInterfaceIdx - 1 }.markDirty
  else app

def selectInterfaceDown (app : App F) : App F :=
  if app.selectedInterfaceIdx + 1 < app.interfaces.length then
    { app with selectedInterfaceIdx := app.selectedInterfaceIdx + 1 }.markDirty
  else app

def scrollLogsUp (app : App F) : App F :=
  { app with logScrollPos := app.logScrollPos - 3 }.markDirty

/-- The last position at which the log still fills its area. -/
def maxScroll (app : App F) : Nat := app.events.length - app.logViewHeight

def scrollLogsDown (app : App F) : App F :=
  { app with logScrollPos := min (app.logScrollPos + 3) app.maxScroll }.markDirty

def scrollLogsPageUp (app : App F) : App F :=
  { app with logScrollPos := app.logScrollPos - app.logViewHeight }.markDirty

def scrollLogsPageDown (app : App F) : App F :=
  { app with logScrollPos := min (app.logScrollPos + app.logViewHeight) app.maxScroll }.markDirty

def scrollLogsTop (app : App F) : App F := { app with logScrollPos := 0 }.markDirty

def scrollLogsBottom (app : App F) : App F := { app with logScrollPos := app.maxScroll }.markDirty

def applyStatus (app : App F) (status : SystemStatus F) : App F :=
  let app := match status.health with
    | some h => app.pushHealthSample h.overall
    | none => app
  { app with status := some status }.markDirty

/-- The scores are taken from the new interfaces, and follow the old samples. -/
def applyInterfaces (app : App F) (interfaces : List (InterfaceInfo F)) : App F :=
  let healthSamples := interfaces.filterMap (fun iface => iface.health.map HealthScore.overall)
  let app := { app with interfaces := interfaces }
  let app :=
    if app.selectedInterfaceIdx ≥ app.interfaces.length then
      { app with selectedInterfaceIdx := app.interfaces.length - 1 }
    else app
  (healthSamples.foldl pushHealthSample app).markDirty

def applyBonds (app : App F) (bonds : List (BondState F)) : App F :=
  { app with bonds := bonds }.markDirty

def applyTunnels (app : App F) (tunnels : List TunnelState) : App F :=
  { app with tunnels := tunnels }.markDirty

def setLoading (app : App F) (loading : Bool) : App F :=
  { app with isLoading := loading }.markDirty

def setError (app : App F) (err : String) : App F := { app with error := some err }.markDirty

def setLastRefresh (app : App F) (now : DateTime) : App F := { app with lastRefresh := some now }

end App

inductive KeyCode where
  | char (c : Char)
  | left
  | right
  | up
  | down
  | pageUp
  | pageDown
  | other

/-- What the terminal reports: `other` is a paste, the mouse, the focus. -/
inductive TerminalEvent where
  | key (code : KeyCode) (press control : Bool)
  | resize (columns rows : UInt16)
  | other

def interfaceKey (app : App F) (code : KeyCode) : App F :=
  match code with
  | .up | .char 'k' => app.selectInterfaceUp
  | .down | .char 'j' => app.selectInterfaceDown
  | _ => app

def logKey (app : App F) (code : KeyCode) (control : Bool) : App F :=
  match code with
  | .up | .char 'k' => app.scrollLogsUp
  | .down | .char 'j' => app.scrollLogsDown
  | .pageUp => app.scrollLogsPageUp
  | .pageDown => app.scrollLogsPageDown
  | .char 'g' => if control then app.scrollLogsBottom else app.scrollLogsTop
  | .char 'G' => app.scrollLogsBottom
  | _ => app

def tabKey (app : App F) (code : KeyCode) (control : Bool) : App F :=
  match app.selectedTab with
  | 1 => interfaceKey app code
  | 3 => logKey app code control
  | _ => app

/-- Nothing but keys is handled, a resize neither. -/
def handleKey (app : App F) : TerminalEvent → App F
  | .resize _ _ => app
  | .other => app
  | .key code press control =>
    if press then
      match code with
      | .char 'q' => { app with running := false }
      | .right | .char 'l' => app.nextTab
      | .left | .char 'h' => app.prevTab
      | .char 'r' => { app with error := none }
      | code => tabKey app code control
    else app

inductive DataUpdate (F : Type) where
  | status (s : SystemStatus F)
  | interfaces (i : List (InterfaceInfo F))
  | bonds (b : List (BondState F))
  | tunnels (t : List TunnelState)
  | loading (l : Bool)
  | error (e : String)

def applyUpdate (app : App F) (now : DateTime) : DataUpdate F → App F
  | .status s => app.applyStatus s
  | .interfaces i => app.applyInterfaces i
  | .bonds b => app.applyBonds b
  | .tunnels t => app.applyTunnels t
  | .loading true => app.setLoading true
  | .loading false => (app.setLoading false).setLastRefresh now
  | .error e => app.setError e

end Netfusion.Tui
