import Mathlib.Algebra.Group.Nat.Defs
import Netfusion.Lib.Text
import Netfusion.Core.Command
import Netfusion.Lib.Fallible
import Netfusion.Shared.Config

namespace Netfusion.Core.WireGuard

open Netfusion.Lib.Collections Netfusion.Lib.Text Netfusion.Lib.Fallible
open Netfusion.Shared.Config
open Netfusion.Core.Command

inductive CoreError where
  | qos (message : String)
  | internal (message : String)
deriving DecidableEq

structure WireGuardConfig where
  interface : String
  privateKey : String
  listenPort : Option UInt16
  endpoint : String
  publicKey : String
  presharedKey : Option String
  allowedIps : List String
  persistentKeepalive : Option UInt16
  tunnelAddress : String
  dnsServers : List String

structure WireGuardTunnel where
  config : WireGuardConfig
  isUp : Bool

def WireGuardTunnel.new (config : WireGuardConfig) : WireGuardTunnel := ⟨config, false⟩

/-- How the commands of one creation end, those that are run. The key is piped
to its command, whose exit status nobody looks at. -/
structure CreateCommands where
  addLink : CommandOutput
  setPrivateKey : Except String Unit
  setListenPort : CommandOutput
  assignAddress : CommandOutput
  addPeer : CommandOutput
  bringUp : CommandOutput

def require (result : CommandOutput) (failure : String) : Except CoreError Unit :=
  match result with
  | .error e => .error (.internal e)
  | .ok out => if out.success then .ok () else .error (.internal (failure ++ out.stderr))

/-- A command that may also fail because what it adds is there already. -/
def requireOrExists (result : CommandOutput) (failure : String) : Except CoreError Unit :=
  match result with
  | .error e => .error (.internal e)
  | .ok out =>
    if out.success then .ok ()
    else if contains out.stderr "exists" then .ok ()
    else .error (.internal (failure ++ out.stderr))

def setPrivateKey (result : Except String Unit) : Except CoreError Unit :=
  result.mapError .internal

def setListenPort (config : WireGuardConfig) (result : CommandOutput) : Except CoreError Unit :=
  require result ("Failed to set listen port on " ++ config.interface ++ ": ")

def assignAddress (config : WireGuardConfig) (result : CommandOutput) : Except CoreError Unit :=
  requireOrExists result
    ("Failed to assign address " ++ config.tunnelAddress ++ " to " ++ config.interface ++ ": ")

def addPeer (config : WireGuardConfig) (result : CommandOutput) : Except CoreError Unit :=
  require result ("Failed to add peer to " ++ config.interface ++ ": ")

def bringUp (config : WireGuardConfig) (result : CommandOutput) : Except CoreError Unit :=
  require result ("Failed to bring up WireGuard interface " ++ config.interface ++ ": ")

/-- The DNS servers are only logged. -/
def create (t : WireGuardTunnel) (commands : CreateCommands) : Except CoreError WireGuardTunnel := do
  requireOrExists commands.addLink
    ("Failed to create WireGuard interface " ++ t.config.interface ++ ": ")
  setPrivateKey commands.setPrivateKey
  if t.config.listenPort.isSome then
    setListenPort t.config commands.setListenPort
  assignAddress t.config commands.assignAddress
  addPeer t.config commands.addPeer
  bringUp t.config commands.bringUp
  return { t with isUp := true }

/-- Only a command that does not start is an error. -/
def teardown (t : WireGuardTunnel) (result : CommandOutput) :
    Except CoreError Unit × WireGuardTunnel :=
  match result with
  | .error e => (.error (.internal e), t)
  | .ok _ => (.ok (), { t with isUp := false })

def isOperational (t : WireGuardTunnel) (shown : CommandOutput) : Bool :=
  t.isUp && match shown with
    | .ok out => contains out.stdout "state UP" || contains out.stdout "UNKNOWN"
    | .error _ => false

def handshakeOf (line : List Char) : Option Nat :=
  match splitWhitespace line with
  | [_, epochSecs] => (parseUint (2 ^ 64) epochSecs).filter (0 < ·)
  | _ => none

/-- The first handshake there has been, in seconds since the epoch. -/
def checkHandshake (result : CommandOutput) : Except CoreError (Option Nat) :=
  match result with
  | .error e => .error (.internal e)
  | .ok out =>
    if out.success then .ok ((lines out.stdout).findSome? handshakeOf)
    else .error (.internal ("Failed to get WireGuard handshake times: " ++ out.stderr))

def requiredOption (config : TunnelConfig) (key : String) : Except CoreError String :=
  match config.options.lookup key with
  | some value => .ok value
  | none => .error (.qos ("Missing " ++ key ++ " for tunnel " ++ config.name))

def portOption (config : TunnelConfig) (key : String) : Option UInt16 :=
  ((config.options.lookup key).bind (fun s => parseUint (2 ^ 16) s.toList)).map UInt16.ofNat

def wireGuardConfig (config : TunnelConfig) : Except CoreError WireGuardConfig := do
  let privateKey ← requiredOption config "private_key"
  let publicKey ← requiredOption config "public_key"
  let tunnelAddress ← requiredOption config "tunnel_address"
  return {
    interface := config.name
    privateKey := privateKey
    listenPort := portOption config "listen_port"
    endpoint := config.remote
    publicKey := publicKey
    presharedKey := config.options.lookup "preshared_key"
    allowedIps := ((config.options.lookup "allowed_ips").map commaSeparated).getD ["0.0.0.0/0"]
    persistentKeepalive := portOption config "persistent_keepalive"
    tunnelAddress := tunnelAddress
    dnsServers := ((config.options.lookup "dns_servers").map commaSeparated).getD [] }

def createTunnel (config : TunnelConfig) (commands : CreateCommands) :
    Except CoreError WireGuardTunnel := do
  create (WireGuardTunnel.new (← wireGuardConfig config)) commands

def SucceedsOrExists (result : CommandOutput) : Prop :=
  ∃ out, result = .ok out ∧ (out.success = true ∨ contains out.stderr "exists" = true)

/-- What a creation needs: three options, and every command it runs. -/
structure CreationSucceeds (config : TunnelConfig) (commands : CreateCommands) : Prop where
  privateKey : ∃ key, config.options.lookup "private_key" = some key
  publicKey : ∃ key, config.options.lookup "public_key" = some key
  tunnelAddress : ∃ address, config.options.lookup "tunnel_address" = some address
  addLink : SucceedsOrExists commands.addLink
  setPrivateKey : commands.setPrivateKey = .ok ()
  setListenPort : (portOption config "listen_port").isSome = true → Succeeds commands.setListenPort
  assignAddress : SucceedsOrExists commands.assignAddress
  addPeer : Succeeds commands.addPeer
  bringUp : Succeeds commands.bringUp

theorem require_ok_iff (result : CommandOutput) (failure : String) (u : Unit) :
    require result failure = .ok u ↔ Succeeds result := by
  unfold require Succeeds
  cases result with
  | error e => simp
  | ok out => cases h : out.success <;> simp [h]

theorem requireOrExists_ok_iff (result : CommandOutput) (failure : String) (u : Unit) :
    requireOrExists result failure = .ok u ↔ SucceedsOrExists result := by
  unfold requireOrExists SucceedsOrExists
  cases result with
  | error e => simp
  | ok out => cases h : out.success <;> cases hc : contains out.stderr "exists" <;> simp [h, hc]

theorem setPrivateKey_ok_iff (result : Except String Unit) (u : Unit) :
    setPrivateKey result = .ok u ↔ result = .ok () := by
  rw [setPrivateKey]
  cases result with
  | error e => simp [Except.mapError]
  | ok u => simp [Except.mapError]

theorem requiredOption_ok_iff (config : TunnelConfig) (key value : String) :
    requiredOption config key = .ok value ↔ config.options.lookup key = some value := by
  rw [requiredOption]
  split <;> simp_all

theorem create_ok_iff (t : WireGuardTunnel) (commands : CreateCommands) :
    (∃ t', create t commands = .ok t') ↔
      SucceedsOrExists commands.addLink ∧ commands.setPrivateKey = .ok () ∧
      (t.config.listenPort.isSome = true → Succeeds commands.setListenPort) ∧
      SucceedsOrExists commands.assignAddress ∧ Succeeds commands.addPeer ∧
      Succeeds commands.bringUp := by
  rw [create]
  by_cases hport : t.config.listenPort.isSome = true
  · simp [hport, bind_ok_iff, map_ok_iff, setListenPort, assignAddress, addPeer, bringUp,
      require_ok_iff, requireOrExists_ok_iff, setPrivateKey_ok_iff]
  · simp [hport, bind_ok_iff, map_ok_iff, assignAddress, addPeer, bringUp, require_ok_iff,
      requireOrExists_ok_iff, setPrivateKey_ok_iff]

theorem createTunnel_ok_iff (config : TunnelConfig) (commands : CreateCommands) :
    (∃ t, createTunnel config commands = .ok t) ↔ CreationSucceeds config commands := by
  constructor
  · rintro ⟨t, ht⟩
    obtain ⟨wg, hwg, hcreate⟩ := bind_ok_iff.mp ht
    obtain ⟨privateKey, hprivate, hwg⟩ := bind_ok_iff.mp hwg
    obtain ⟨publicKey, hpublic, hwg⟩ := bind_ok_iff.mp hwg
    obtain ⟨address, haddress, hwg⟩ := bind_ok_iff.mp hwg
    cases hwg
    obtain ⟨hadd, hkey, hport, hassign, hpeer, hup⟩ := (create_ok_iff _ commands).mp ⟨t, hcreate⟩
    exact ⟨⟨_, (requiredOption_ok_iff _ _ _).mp hprivate⟩,
      ⟨_, (requiredOption_ok_iff _ _ _).mp hpublic⟩,
      ⟨_, (requiredOption_ok_iff _ _ _).mp haddress⟩, hadd, hkey, hport, hassign, hpeer, hup⟩
  · rintro ⟨⟨privateKey, hprivate⟩, ⟨publicKey, hpublic⟩, ⟨address, haddress⟩, hadd, hkey, hport,
      hassign, hpeer, hup⟩
    rw [← requiredOption_ok_iff] at hprivate hpublic haddress
    have hwg : ∃ wg, wireGuardConfig config = .ok wg ∧
        wg.listenPort = portOption config "listen_port" :=
      ⟨_, bind_ok_iff.mpr ⟨_, hprivate, bind_ok_iff.mpr ⟨_, hpublic,
        bind_ok_iff.mpr ⟨_, haddress, rfl⟩⟩⟩, rfl⟩
    obtain ⟨wg, hwg, hlisten⟩ := hwg
    obtain ⟨t, ht⟩ := (create_ok_iff (.new wg) commands).mpr
      ⟨hadd, hkey, fun h => hport (hlisten ▸ h), hassign, hpeer, hup⟩
    exact ⟨t, bind_ok_iff.mpr ⟨wg, hwg, ht⟩⟩

end Netfusion.Core.WireGuard
