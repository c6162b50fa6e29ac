import Netfusion.Shared.Config

namespace Netfusion.Shared.Types

open Netfusion.Shared.Config

/-- Wall-clock instants and intervals are counted in nanoseconds. -/
abbrev DateTime := Int

inductive Duplex where
  | full | half | unknown

inductive LinkState where
  | up | down | unknown
deriving DecidableEq

structure IpInfo where
  cidr : String
  dhcp : Bool

structure WirelessInfo (F : Type) where
  signalDbm : Option Int8
  noiseDbm : Option Int8
  qualityPercent : Option UInt8
  ssid : Option String
  frequencyMhz : Option UInt32
  channelWidthMhz : Option UInt32
  txRateMbps : Option F
  rxRateMbps : Option F

structure CellularInfo where
  signalDbm : Option Int16
  cellId : Option String
  networkType : Option String
  rsrp : Option Int16
  rsrq : Option Int16
  sinr : Option Int16

structure InterfaceStats where
  rxBytes : UInt64
  txBytes : UInt64
  rxPackets : UInt64
  txPackets : UInt64
  rxErrors : UInt64
  txErrors : UInt64
  rxDropped : UInt64
  txDropped : UInt64

structure HealthScore (F : Type) where
  overall : F
  rtt : F
  jitter : F
  loss : F
  throughput : F
  stability : F
  timestamp : DateTime
  failoverCandidate : Bool
deriving DecidableEq

structure InterfaceInfo (F : Type) where
  name : String
  ifType : InterfaceType
  mac : Option String
  driver : Option String
  speedMbps : Option UInt64
  duplex : Option Duplex
  mtu : UInt32
  addresses : List IpInfo
  gateway : Option String
  dnsServers : List String
  linkState : LinkState
  managed : Bool
  nmManaged : Bool
  wireless : Option (WirelessInfo F)
  cellular : Option CellularInfo
  stats : InterfaceStats
  health : Option (HealthScore F)
  lastSeen : Option DateTime

structure BondState (F : Type) where
  name : String
  mode : BondMode
  activeMembers : List String
  standbyMembers : List String
  failedMembers : List String
  health : Option (HealthScore F)
  failoverActive : Bool
  lastFailover : Option DateTime
  bondInterface : Option String

structure TunnelState where
  name : String
  connected : Bool
  remote : String
  interface : Option String
  connectedSince : Option DateTime
  txBytes : UInt64
  rxBytes : UInt64
  reconnectCount : UInt32
  lastError : Option String

structure SystemStatus (F : Type) where
  totalInterfaces : UInt64
  activeBonds : UInt64
  connectedTunnels : UInt64
  activeProfile : Option String
  health : Option (HealthScore F)
  failoverActive : Bool
  dryRun : Bool
  uptimeSecs : UInt64
  timestamp : DateTime
deriving DecidableEq

end Netfusion.Shared.Types
