import Mathlib.Algebra.Order.Ring.Rat
import Netfusion.Lib.Machine
import Netfusion.Core.WireGuard

namespace Netfusion.Core.Tunnels

open Netfusion.Lib.Collections Netfusion.Lib.Machine
open Netfusion.Shared.Config
open Netfusion.Core.Command Netfusion.Core.WireGuard

/-- Instants and delays are counted in nanoseconds. -/
structure ReconnectInfo where
  attempts : UInt32
  lastAttempt : Option Nat
  currentDelay : Nat
deriving DecidableEq

def maxReconnectDelay : Nat := 300 * 10 ^ 9

def ReconnectInfo.new : ReconnectInfo := ⟨0, none, 10 ^ 9⟩

def nextDelay (info : ReconnectInfo) : ReconnectInfo :=
  { info with
    attempts := info.attempts + 1
    currentDelay := min (info.currentDelay * 2) maxReconnectDelay }

def resetInfo (now : Nat) : ReconnectInfo := ⟨0, some now, 10 ^ 9⟩

def shouldReconnect (info : ReconnectInfo) (now : Nat) : Bool :=
  match info.lastAttempt with
  | some last => decide (now - last ≥ info.currentDelay)
  | none => true

structure TunnelManager where
  wgTunnels : HashMap String WireGuardTunnel
  configs : HashMap String TunnelConfig
  reconnectState : HashMap String ReconnectInfo
  healthScores : HashMap String ℚ

def TunnelManager.new : TunnelManager := ⟨∅, ∅, ∅, ∅⟩

def addConfig (m : TunnelManager) (config : TunnelConfig) : TunnelManager :=
  { m with configs := m.configs.insert config.name config }

def dropTunnel (m : TunnelManager) (name : String) : TunnelManager :=
  { m with wgTunnels := m.wgTunnels.erase name }

/-- A failed teardown returns before the rest of the tunnel is forgotten. -/
def removeTunnel (m : TunnelManager) (name : String) (teardownResult : CommandOutput) :
    Except CoreError Unit × TunnelManager :=
  let forget (m : TunnelManager) : TunnelManager :=
    { m with
      configs := m.configs.erase name
      reconnectState := m.reconnectState.erase name
      healthScores := m.healthScores.erase name }
  match m.wgTunnels.lookup name with
  | none => (.ok (), forget m)
  | some tunnel =>
    let m := dropTunnel m name
    match (teardown tunnel teardownResult).1 with
    | .error e => (.error e, m)
    | .ok _ => (.ok (), forget m)

def startWireguard (m : TunnelManager) (config : TunnelConfig) (commands : CreateCommands) :
    Except CoreError Unit × TunnelManager :=
  match createTunnel config commands with
  | .error e => (.error e, m)
  | .ok tunnel =>
    (.ok (), { m with
      wgTunnels := m.wgTunnels.insert config.name tunnel
      reconnectState := m.reconnectState.insert config.name .new })

/-- The other types of tunnels are only warned about. -/
def startTunnel (m : TunnelManager) (config : TunnelConfig) (commands : CreateCommands) :
    Except CoreError Unit × TunnelManager :=
  match config.type with
  | .wireGuard => startWireguard m config commands
  | _ => (.ok (), m)

/-- What a start or a reconnect attempt came to, and that a tunnel was removed. -/
inductive Happening where
  | started (config : TunnelConfig) (result : Except CoreError Unit)
  | removed (name : String)
  | attempted (name : String) (result : Except CoreError Unit)

def startAll (m : TunnelManager) (commands : String → CreateCommands) :
    List TunnelConfig → List Happening × TunnelManager
  | [] => ([], m)
  | config :: rest =>
    let (result, m) := startTunnel m config (commands config.name)
    let (happenings, m) := startAll m commands rest
    (.started config result :: happenings, m)

abbrev ConfigEntry := Sigma (fun _ : String => TunnelConfig)

def startAutoConnect (m : TunnelManager) (commands : String → CreateCommands)
    (order : Shuffle ConfigEntry) : List Happening × TunnelManager :=
  startAll m commands (((order.run m.configs.entries).map Sigma.snd).filter (·.autoConnect))

/-- What one check meets at one tunnel: how its commands end, the instant at
which a reconnect is considered and the one at which it is done. -/
structure Circumstances where
  shown : CommandOutput
  handshakes : CommandOutput
  teardown : CommandOutput
  create : CreateCommands
  now : Nat
  done : Nat

def healthy (tunnel : WireGuardTunnel) (c : Circumstances) : Bool :=
  isOperational tunnel c.shown && match checkHandshake c.handshakes with
    | .ok (some _) => true
    | _ => false

def typeName : TunnelType → String
  | .wireGuard => "WireGuard"
  | .openVpn => "OpenVpn"
  | .quic => "Quic"
  | .relay => "Relay"
  | .tailscale => "Tailscale"

def recreate (config : TunnelConfig) (commands : CreateCommands) :
    Except CoreError WireGuardTunnel :=
  match config.type with
  | .wireGuard => createTunnel config commands
  | other => .error (.qos ("Tunnel type " ++ typeName other ++ " not supported for reconnect"))

def startTunnelBlocking (m : TunnelManager) (config : TunnelConfig) (commands : CreateCommands) :
    Except CoreError Unit × TunnelManager :=
  match recreate config commands with
  | .error e => (.error e, m)
  | .ok tunnel => (.ok (), { m with wgTunnels := m.wgTunnels.insert config.name tunnel })

def reconnectInfo (m : TunnelManager) (name : String) : ReconnectInfo :=
  (m.reconnectState.lookup name).getD .new

def setReconnect (m : TunnelManager) (name : String) (info : ReconnectInfo) : TunnelManager :=
  { m with reconnectState := m.reconnectState.insert name info }

/-- The old tunnel is torn down, whatever comes of it, before the new one is
created. -/
def attemptReconnect (m : TunnelManager) (name : String) (config : TunnelConfig)
    (c : Circumstances) : Except CoreError Unit × TunnelManager :=
  let m := setReconnect m name { nextDelay (reconnectInfo m name) with lastAttempt := some c.now }
  match startTunnelBlocking (dropTunnel m name) config c.create with
  | (.error e, m) => (.error e, m)
  | (.ok _, m) => (.ok (), setReconnect m name (resetInfo c.done))

def tryReconnect (m : TunnelManager) (name : String) (c : Circumstances) :
    Option (Except CoreError Unit) × TunnelManager :=
  let info := reconnectInfo m name
  let m := setReconnect m name info
  if ¬ shouldReconnect info c.now then (none, m)
  else match m.configs.lookup name with
    | none => (none, m)
    | some config =>
      if ¬ config.autoReconnect then (none, m)
      else
        let (result, m) := attemptReconnect m name config c
        (some result, m)

def reconnectAll (m : TunnelManager) (c : String → Circumstances) :
    List String → List Happening × TunnelManager
  | [] => ([], m)
  | name :: rest =>
    let (attempt, m) := tryReconnect m name (c name)
    let (happenings, m) := reconnectAll m c rest
    (attempt.toList.map (.attempted name) ++ happenings, m)

abbrev TunnelEntry := Sigma (fun _ : String => WireGuardTunnel)

def scored (healthScores : HashMap String ℚ) (c : String → Circumstances) :
    List TunnelEntry → HashMap String ℚ
  | [] => healthScores
  | ⟨name, tunnel⟩ :: rest =>
    scored (healthScores.insert name (if healthy tunnel (c name) then 100 else 0)) c rest

def checkHealth (m : TunnelManager) (c : String → Circumstances) (order : Shuffle TunnelEntry) :
    List Happening × TunnelManager :=
  let examined := order.run m.wgTunnels.entries
  let unhealthy := examined.filter (fun e => !healthy e.2 (c e.1))
  reconnectAll { m with healthScores := scored m.healthScores c examined } c
    (unhealthy.map Sigma.fst)

inductive Op where
  | addConfig (config : TunnelConfig)
  | startAutoConnect (commands : String → CreateCommands) (order : Shuffle ConfigEntry)
  | removeTunnel (name : String) (teardown : CommandOutput)
  | checkHealth (c : String → Circumstances) (order : Shuffle TunnelEntry)

def step (m : TunnelManager) : Op → List Happening × TunnelManager
  | .addConfig config => ([], addConfig m config)
  | .startAutoConnect commands order => startAutoConnect m commands order
  | .removeTunnel name teardown => ([.removed name], (removeTunnel m name teardown).2)
  | .checkHealth c order => checkHealth m c order

end Netfusion.Core.Tunnels
