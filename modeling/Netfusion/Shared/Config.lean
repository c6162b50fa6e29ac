import Netfusion.Lib.Collections

namespace Netfusion.Shared.Config

open Netfusion.Lib.Collections

/-- `F` stands for the source's `f64` throughout. Code that only carries such
numbers is generic in it; code that computes takes exact rationals. -/
structure HealthWeights where
  rtt : UInt8
  jitter : UInt8
  loss : UInt8
  throughput : UInt8
  stability : UInt8

structure DaemonConfig where
  socketPath : String
  statePath : String
  healthIntervalMs : UInt64
  rollbackTimeoutSecs : UInt64
  dryRun : Bool

inductive InterfaceType where
  | ethernet | wireless | vlan | bridge | bond | tunnel | wireGuard | tailscale | ppp
  | usbTether | cellular | loopback | virtual | unknown

structure InterfaceSelector where
  name : String
  namePattern : Option String
  type : Option InterfaceType
  driver : Option String
  minSpeedMbps : UInt64
  weight : UInt8

structure InterfaceConfig where
  selectors : List InterfaceSelector
  managed : List String
  exclude : List String

inductive BondMode where
  | activeBackup | balanceRr | balanceXor | broadcast | lacp | adaptiveTlb | adaptiveAlb
  | mptcp | ecmp | weighted | tunnel

structure BondConfig where
  name : String
  mode : BondMode
  members : List String
  weights : List UInt8
  minActiveMembers : UInt64
  healthTargets : List String
  policy : Option String

structure RuleConfig where
  src : Option String
  dst : Option String
  proto : Option String
  dport : Option UInt16
  sport : Option UInt16
  dscp : Option UInt8
  fwmark : Option UInt32
  app : Option String

inductive PolicyAction where
  | route (bond : String)
  | lowestLatency
  | highestThroughput
  | loadBalance (bond : String)
  | drop
  | accept

structure PolicyConfig where
  name : String
  rules : List RuleConfig
  action : PolicyAction
  priority : UInt32

inductive TunnelType where
  | wireGuard | openVpn | quic | relay | tailscale
deriving DecidableEq

structure TunnelConfig where
  name : String
  type : TunnelType
  remote : String
  localBind : Option String
  authRef : Option String
  options : HashMap String String
  autoConnect : Bool
  autoReconnect : Bool
  reconnectIntervalSecs : UInt64

inductive ProfileMode where
  | lowLatency | streaming | bulkTransfer | voip | balanced | custom

structure ScheduleConfig where
  cron : String
  durationMins : Option UInt32

structure ProfileConfig (F : Type) where
  mode : ProfileMode
  interfaces : List String
  healthWeights : Option HealthWeights
  maxJitterMs : Option F
  maxLossPercent : Option F
  preferLowestRtt : Bool
  failoverThreshold : UInt8
  activateOnApp : List String
  schedule : Option ScheduleConfig

inductive QdiscType where
  | fqCodel | cake | htb | prio | pfifoFast

structure QdiscConfig where
  qdisc : Option QdiscType
  targetMs : Option UInt32
  intervalMs : Option UInt32
  limit : Option UInt32

structure QosConfig where
  enabled : Bool
  qdisc : QdiscType
  ecn : Bool
  dscpTagging : Bool
  interfaceOverrides : HashMap String QdiscConfig

structure LoggingConfig where
  level : String
  file : Option String
  journald : Bool
  maxSizeMb : UInt64
  maxFiles : UInt64

structure RelayConfig where
  server : String
  port : UInt16
  authRef : Option String
  serverName : Option String
  enabled : Bool

structure NetfusionConfig (F : Type) where
  schemaVersion : UInt32
  daemon : DaemonConfig
  interfaces : InterfaceConfig
  bonds : List BondConfig
  policies : List PolicyConfig
  tunnels : List TunnelConfig
  profiles : HashMap String (ProfileConfig F)
  qos : Option QosConfig
  logging : Option LoggingConfig
  relay : Option RelayConfig

def schemaVersion : UInt32 := 1

def DaemonConfig.default : DaemonConfig where
  socketPath := "/run/netfusion/netfusion.sock"
  statePath := "/var/lib/netfusion/state.db"
  healthIntervalMs := 1000
  rollbackTimeoutSecs := 30
  dryRun := false

def HealthWeights.default : HealthWeights := ⟨30, 20, 25, 15, 10⟩

def NetfusionConfig.default (F : Type) : NetfusionConfig F where
  schemaVersion := Config.schemaVersion
  daemon := DaemonConfig.default
  interfaces := ⟨[], [], []⟩
  bonds := []
  policies := []
  tunnels := []
  profiles := ∅
  qos := none
  logging := none
  relay := none

end Netfusion.Shared.Config
