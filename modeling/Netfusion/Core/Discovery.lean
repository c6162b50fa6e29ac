import Netfusion.Lib.Addresses
import Netfusion.Lib.Collections
import Netfusion.Lib.Fallible
import Netfusion.Shared.Types

namespace Netfusion.Core.Discovery

open Netfusion.Lib.Addresses Netfusion.Lib.Collections Netfusion.Lib.Fallible Netfusion.Lib.Text
open Netfusion.Shared.Config Netfusion.Shared.Types

inductive ScanError where
  | netlink (source : String)
  | enumerateLinks (source : String)
  | enumerateAddresses (source : String)
  | enumerateRoutes (source : String)
deriving DecidableEq

structure LinkEntry where
  index : UInt32
  name : String
  mac : Option String
  mtu : UInt32
  state : LinkState
  linkType : Option String

structure AddressEntry where
  index : UInt32
  address : IpAddr
  prefixLen : UInt8

structure RouteEntry where
  gateway : Option String
  dstPrefixLen : UInt8
  ifIndex : Option UInt32
deriving DecidableEq

inductive RouteAddress where
  | inet (addr : Ipv4Addr)
  | inet6 (addr : Ipv6Addr)
  | other

/-- What a route message says of its route. Of the attributes that the scanner
does not read only their presence is kept. -/
inductive RouteAttribute where
  | gateway (gw : RouteAddress)
  | oif (idx : UInt32)
  | other

structure RouteMessage where
  destinationPrefixLength : UInt8
  attributes : List RouteAttribute

def gatewayText : RouteAttribute → Option String
  | .gateway (.inet addr) => some (String.ofList addr.text)
  | .gateway (.inet6 addr) => some (String.ofList addr.text)
  | _ => none

def outputIndex : RouteAttribute → Option UInt32
  | .oif idx => some idx
  | _ => none

def routeEntry (msg : RouteMessage) : RouteEntry where
  gateway := msg.attributes.findSome? gatewayText
  dstPrefixLen := msg.destinationPrefixLength
  ifIndex := msg.attributes.findSome? outputIndex

/-- The messages arrive one by one; the first error ends the enumeration. -/
def enumerateRoutes (messages : List (Except String RouteMessage)) :
    Except ScanError (List RouteEntry) :=
  messages.mapM (fun msg => (msg.map routeEntry).mapError .enumerateRoutes)

def defaultIndex (r : RouteEntry) : Option UInt32 := if r.dstPrefixLen = 0 then r.ifIndex else none

def defaultGatewayByIndex (routes : List RouteEntry) : HashMap UInt32 String :=
  collect (routes.filterMap (fun r =>
    (defaultIndex r).map (fun idx => (idx, r.gateway.getD ""))))

def addrByIndex (addresses : List AddressEntry) : HashMap UInt32 (List AddressEntry) :=
  addresses.foldl (fun m addr => m.insert addr.index ((m.lookup addr.index).getD [] ++ [addr])) ∅

theorem lookup_addrByIndex (addresses : List AddressEntry) (idx : UInt32) :
    ((addrByIndex addresses).lookup idx).getD [] = addresses.filter (fun a => a.index = idx) := by
  induction addresses using List.reverseRecOn with
  | nil => rfl
  | append_singleton addresses addr ih =>
    rw [addrByIndex] at ih ⊢
    rw [List.foldl_append, List.foldl_cons, List.foldl_nil, lookup_insert_eq, List.filter_append]
    by_cases hidx : addr.index = idx
    · subst hidx
      simp [ih]
    · simp [ih, hidx, Ne.symm hidx]

def isVirtualInterface (name : String) : Bool :=
  ["docker", "br-", "veth", "virbr", "lxcbr", "cali", "flannel", "cni", "podman"].any
    (startsWith name)

def linkTypeOf (kind : String) : InterfaceType :=
  if kind = "bond" then .bond
  else if kind = "bridge" then .bridge
  else if kind = "vlan" then .vlan
  else if kind ∈ ["tunnel", "gre", "ipip", "sit", "vti"] then .tunnel
  else if kind = "wireguard" then .wireGuard
  else if kind = "vxlan" then .tunnel
  else if kind ∈ ["macvlan", "macvtap", "ipvlan", "ipvtap"] then .virtual
  else if kind ∈ ["dummy", "ifb"] then .virtual
  else if kind ∈ ["tailscale", "tailscale0"] then .tailscale
  else .unknown

def detectByName (name : String) (mac : Option String) : InterfaceType :=
  if startsWith name "wg" then .wireGuard
  else if name = "tailscale0" || startsWith name "ts-" then .tailscale
  else if startsWith name "tun" || startsWith name "tap" then .tunnel
  else if startsWith name "ppp" || startsWith name "pppoe" then .ppp
  else if startsWith name "usb" && (contains name "tether" || contains name "rndis") then .usbTether
  else if startsWith name "wwan" || startsWith name "ttyACM" || startsWith name "cdc" then .cellular
  else if startsWith name "wl" || startsWith name "wifi" || startsWith name "ra" then .wireless
  else if mac.isSome && name ≠ "lo" then .ethernet
  else .unknown

def detectInterfaceType (link : LinkEntry) : InterfaceType :=
  match link.linkType with
  | some kind => linkTypeOf kind
  | none => detectByName link.name link.mac

inductive LinkMode where
  | speed (mbps : UInt32)
  | duplex (duplex : Option Duplex)
  | other

section

variable {F : Type}

/-- What ethtool, the driver link and the wireless tools tell of an interface;
a duplex mode that ethtool does not name is none. -/
structure Metadata (F : Type) where
  linkModes : List LinkMode
  driver : Option String
  wireless : Option (WirelessInfo F)

def readLinkMode (interface : InterfaceInfo F) : LinkMode → InterfaceInfo F
  | .speed mbps =>
    if mbps > 0 then { interface with speedMbps := some mbps.toUInt64 } else interface
  | .duplex duplex => { interface with duplex := duplex }
  | .other => interface

def collectDetailedMetadata (found : Metadata F) (interface : InterfaceInfo F) : InterfaceInfo F :=
  let interface := found.linkModes.foldl readLinkMode interface
  { interface with
    driver := found.driver.or interface.driver
    wireless := found.wireless.or interface.wireless }

/-- The answers that one scan gets from the system. -/
structure Answers (F : Type) where
  links : Except ScanError (List LinkEntry)
  addresses : Except ScanError (List AddressEntry)
  routes : List (Except String RouteMessage)
  stats : HashMap UInt32 InterfaceStats
  metadata : String → Metadata F

def ipInfo (addr : AddressEntry) : IpInfo where
  cidr := String.ofList addr.address.text ++ "/" ++ toString addr.prefixLen.toNat
  dhcp := false

def describe (addresses : List AddressEntry) (routes : List RouteEntry)
    (stats : HashMap UInt32 InterfaceStats) (metadata : String → Metadata F) (link : LinkEntry) :
    InterfaceInfo F :=
  collectDetailedMetadata (metadata link.name)
    { name := link.name
      ifType := detectInterfaceType link
      mac := link.mac
      driver := none
      speedMbps := none
      duplex := none
      mtu := link.mtu
      addresses := (((addrByIndex addresses).lookup link.index).getD []).map ipInfo
      gateway := (defaultGatewayByIndex routes).lookup link.index
      dnsServers := []
      linkState := link.state
      managed := false
      nmManaged := false
      wireless := none
      cellular := none
      stats := ((stats.lookup link.index).getD ⟨0, 0, 0, 0, 0, 0, 0, 0⟩)
      health := none
      lastSeen := none }

def skipped (link : LinkEntry) : Bool := link.name = "lo" || isVirtualInterface link.name

def scan (answers : Answers F) : Except ScanError (List (InterfaceInfo F)) := do
  let links ← answers.links
  let addresses ← answers.addresses
  let routes ← enumerateRoutes answers.routes
  pure ((links.filter (fun link => !skipped link)).map
    (describe addresses routes answers.stats answers.metadata))

theorem scan_ok {answers : Answers F} {found : List (InterfaceInfo F)}
    (h : scan answers = .ok found) :
    ∃ links addresses routes, answers.links = .ok links ∧ answers.addresses = .ok addresses ∧
      enumerateRoutes answers.routes = .ok routes ∧
      found = (links.filter (fun link => !skipped link)).map
        (describe addresses routes answers.stats answers.metadata) := by
  obtain ⟨links, hlinks, h⟩ := bind_ok_iff.mp h
  obtain ⟨addresses, haddresses, h⟩ := bind_ok_iff.mp h
  obtain ⟨routes, hroutes, h⟩ := bind_ok_iff.mp h
  cases h
  exact ⟨links, addresses, routes, hlinks, haddresses, hroutes, rfl⟩

@[simp] theorem readLinkMode_gateway (interface : InterfaceInfo F) (mode : LinkMode) :
    (readLinkMode interface mode).gateway = interface.gateway := by
  cases mode with
  | speed mbps =>
    rw [readLinkMode]
    split <;> rfl
  | duplex d => rfl
  | other => rfl

@[simp] theorem collectDetailedMetadata_gateway (found : Metadata F) (interface : InterfaceInfo F) :
    (collectDetailedMetadata found interface).gateway = interface.gateway := by
  have hmodes : ∀ modes : List LinkMode,
      (modes.foldl readLinkMode interface).gateway = interface.gateway := by
    intro modes
    induction modes using List.reverseRecOn with
    | nil => rfl
    | append_singleton modes mode ih => simp [ih]
  exact hmodes found.linkModes

theorem foldl_readLinkMode (modes : List LinkMode) (interface : InterfaceInfo F) :
    ∃ speed duplex, modes.foldl readLinkMode interface =
      { interface with speedMbps := speed, duplex := duplex } := by
  induction modes generalizing interface with
  | nil => exact ⟨_, _, rfl⟩
  | cons mode modes ih =>
    rw [List.foldl_cons]
    cases mode with
    | speed mbps =>
      rw [readLinkMode]
      split
      · exact ih { interface with speedMbps := some mbps.toUInt64 }
      · exact ih interface
    | duplex d => exact ih { interface with duplex := d }
    | other => exact ih interface

theorem collectDetailedMetadata_eq (found : Metadata F) (interface : InterfaceInfo F) :
    ∃ speed duplex, collectDetailedMetadata found interface =
      { interface with
        speedMbps := speed
        duplex := duplex
        driver := found.driver.or interface.driver
        wireless := found.wireless.or interface.wireless } := by
  obtain ⟨speed, duplex, hmodes⟩ := foldl_readLinkMode found.linkModes interface
  refine ⟨speed, duplex, ?_⟩
  rw [collectDetailedMetadata, hmodes]

end

def defaultRoutes (routes : List RouteEntry) (idx : UInt32) : List RouteEntry :=
  routes.filter (fun r => defaultIndex r = some idx)

theorem filterMap_default (routes : List RouteEntry) (idx : UInt32) :
    ((routes.filterMap (fun r => (defaultIndex r).map (fun i => (i, r.gateway.getD "")))).filter
      (·.1 = idx)) = (defaultRoutes routes idx).map (fun r => (idx, r.gateway.getD "")) := by
  induction routes with
  | nil => rfl
  | cons r routes ih =>
    rw [defaultRoutes] at ih ⊢
    cases h : defaultIndex r with
    | none => simp [h, ih]
    | some i =>
      by_cases hi : i = idx
      · simp [h, hi, ih]
      · simp [h, hi, ih]

/-- The last default route decides, and stands for the empty text if it has no
gateway. -/
theorem lookup_defaultGateway (routes : List RouteEntry) (idx : UInt32) :
    (defaultGatewayByIndex routes).lookup idx =
      (defaultRoutes routes idx).getLast?.map (fun r => r.gateway.getD "") := by
  rw [defaultGatewayByIndex, lookup_collect, filterMap_default, List.getLast?_map, Option.map_map]
  rfl

theorem routeEntry_gateway_ne_empty (msg : RouteMessage) : (routeEntry msg).gateway ≠ some "" := by
  intro h
  obtain ⟨attr, -, hattr⟩ := List.exists_of_findSome?_eq_some h
  cases attr with
  | gateway gw =>
    cases gw with
    | inet addr =>
      have htext := congrArg String.toList (Option.some.inj hattr)
      exact ipv4_text_ne_nil addr (by simpa using htext)
    | inet6 addr =>
      have htext := congrArg String.toList (Option.some.inj hattr)
      exact ipv6_text_ne_nil addr (by simpa using htext)
    | other => cases hattr
  | oif idx => cases hattr
  | other => cases hattr

theorem enumerated_gateway_ne_empty {messages : List (Except String RouteMessage)}
    {routes : List RouteEntry} (h : enumerateRoutes messages = .ok routes) {r : RouteEntry}
    (hr : r ∈ routes) : r.gateway ≠ some "" := by
  obtain ⟨msg, -, hmsg⟩ := mapM_ok_mem h hr
  cases msg with
  | error e => cases hmsg
  | ok msg =>
    cases hmsg
    exact routeEntry_gateway_ne_empty msg

end Netfusion.Core.Discovery
