import Netfusion.Lib.Bincode
import Netfusion.Shared.Ipc

namespace Netfusion.Shared

open Netfusion.Lib.Bincode
open Netfusion.Lib.Collections
open Netfusion.Shared.Config Netfusion.Shared.Types Netfusion.Shared.Events Netfusion.Shared.Ipc

/-- How the two library types without a derived encoding are written: a float
by its bits, a date as an RFC 3339 text. -/
structure Format (F : Type) where
  toBits : F → UInt64
  toRfc3339 : DateTime → String
  fromRfc3339 : String → Option DateTime

namespace Wire

def u8 (n : UInt8) : Value := .uint 1 n.toNat
def u16 (n : UInt16) : Value := .uint 2 n.toNat
def u32 (n : UInt32) : Value := .uint 4 n.toNat
def u64 (n : UInt64) : Value := .uint 8 n.toNat
def i8 (n : Int8) : Value := .sint 1 n.toInt
def i16 (n : Int16) : Value := .sint 2 n.toInt

def option {α : Type} (f : α → Value) : Option α → Value
  | none => .none
  | some a => .some (f a)

def vec {α : Type} (f : α → Value) (xs : List α) : Value := .seq (xs.map f)

def hashMap {α : Type} (f : α → Value) (m : HashMap String α) : Value :=
  .map (m.entries.map (fun kv => (.str kv.1, f kv.2)))

def pair {α β : Type} (f : α → Value) (g : β → Value) (p : α × β) : Value :=
  .tuple [f p.1, g p.2]

def variant (tag name : String) (fields : List (String × Value)) : Value :=
  .struct ((tag, .str name) :: fields)

def interfaceType : InterfaceType → Value
  | .ethernet => .unitVariant 0
  | .wireless => .unitVariant 1
  | .vlan => .unitVariant 2
  | .bridge => .unitVariant 3
  | .bond => .unitVariant 4
  | .tunnel => .unitVariant 5
  | .wireGuard => .unitVariant 6
  | .tailscale => .unitVariant 7
  | .ppp => .unitVariant 8
  | .usbTether => .unitVariant 9
  | .cellular => .unitVariant 10
  | .loopback => .unitVariant 11
  | .virtual => .unitVariant 12
  | .unknown => .unitVariant 13

def bondMode : BondMode → Value
  | .activeBackup => .unitVariant 0
  | .balanceRr => .unitVariant 1
  | .balanceXor => .unitVariant 2
  | .broadcast => .unitVariant 3
  | .lacp => .unitVariant 4
  | .adaptiveTlb => .unitVariant 5
  | .adaptiveAlb => .unitVariant 6
  | .mptcp => .unitVariant 7
  | .ecmp => .unitVariant 8
  | .weighted => .unitVariant 9
  | .tunnel => .unitVariant 10

def tunnelType : TunnelType → Value
  | .wireGuard => .unitVariant 0
  | .openVpn => .unitVariant 1
  | .quic => .unitVariant 2
  | .relay => .unitVariant 3
  | .tailscale => .unitVariant 4

def profileMode : ProfileMode → Value
  | .lowLatency => .unitVariant 0
  | .streaming => .unitVariant 1
  | .bulkTransfer => .unitVariant 2
  | .voip => .unitVariant 3
  | .balanced => .unitVariant 4
  | .custom => .unitVariant 5

def qdiscType : QdiscType → Value
  | .fqCodel => .unitVariant 0
  | .cake => .unitVariant 1
  | .htb => .unitVariant 2
  | .prio => .unitVariant 3
  | .pfifoFast => .unitVariant 4

def duplex : Duplex → Value
  | .full => .unitVariant 0
  | .half => .unitVariant 1
  | .unknown => .unitVariant 2

def linkState : LinkState → Value
  | .up => .unitVariant 0
  | .down => .unitVariant 1
  | .unknown => .unitVariant 2

end Wire

open Wire

def Config.DaemonConfig.serialize (c : DaemonConfig) : Value :=
  .struct [("socket_path", .str c.socketPath), ("state_path", .str c.statePath),
    ("health_interval_ms", u64 c.healthIntervalMs),
    ("rollback_timeout_secs", u64 c.rollbackTimeoutSecs), ("dry_run", .bool c.dryRun)]

def Config.InterfaceSelector.serialize (s : InterfaceSelector) : Value :=
  .struct [("name", .str s.name), ("name_pattern", option .str s.namePattern),
    ("type", option interfaceType s.type), ("driver", option .str s.driver),
    ("min_speed_mbps", u64 s.minSpeedMbps), ("weight", u8 s.weight)]

def Config.InterfaceConfig.serialize (c : InterfaceConfig) : Value :=
  .struct [("selectors", vec InterfaceSelector.serialize c.selectors),
    ("managed", vec .str c.managed), ("exclude", vec .str c.exclude)]

def Config.BondConfig.serialize (c : BondConfig) : Value :=
  .struct [("name", .str c.name), ("mode", bondMode c.mode), ("members", vec .str c.members),
    ("weights", vec u8 c.weights), ("min_active_members", u64 c.minActiveMembers),
    ("health_targets", vec .str c.healthTargets), ("policy", option .str c.policy)]

def Config.RuleConfig.serialize (c : RuleConfig) : Value :=
  .struct [("src", option .str c.src), ("dst", option .str c.dst),
    ("proto", option .str c.proto), ("dport", option u16 c.dport),
    ("sport", option u16 c.sport), ("dscp", option u8 c.dscp),
    ("fwmark", option u32 c.fwmark), ("app", option .str c.app)]

def Config.PolicyAction.serialize : PolicyAction → Value
  | .route bond => variant "type" "route" [("bond", .str bond)]
  | .lowestLatency => variant "type" "lowest_latency" []
  | .highestThroughput => variant "type" "highest_throughput" []
  | .loadBalance bond => variant "type" "load_balance" [("bond", .str bond)]
  | .drop => variant "type" "drop" []
  | .accept => variant "type" "accept" []

def Config.PolicyConfig.serialize (c : PolicyConfig) : Value :=
  .struct [("name", .str c.name), ("rules", vec RuleConfig.serialize c.rules),
    ("action", c.action.serialize), ("priority", u32 c.priority)]

def Config.TunnelConfig.serialize (c : TunnelConfig) : Value :=
  .struct [("name", .str c.name), ("type", tunnelType c.type), ("remote", .str c.remote),
    ("local_bind", option .str c.localBind), ("auth_ref", option .str c.authRef),
    ("options", hashMap .str c.options), ("auto_connect", .bool c.autoConnect),
    ("auto_reconnect", .bool c.autoReconnect),
    ("reconnect_interval_secs", u64 c.reconnectIntervalSecs)]

def Config.HealthWeights.serialize (w : HealthWeights) : Value :=
  .struct [("rtt", u8 w.rtt), ("jitter", u8 w.jitter), ("loss", u8 w.loss),
    ("throughput", u8 w.throughput), ("stability", u8 w.stability)]

def Config.ScheduleConfig.serialize (c : ScheduleConfig) : Value :=
  .struct [("cron", .str c.cron), ("duration_mins", option u32 c.durationMins)]

def Config.QdiscConfig.serialize (c : QdiscConfig) : Value :=
  .struct [("qdisc", option qdiscType c.qdisc), ("target_ms", option u32 c.targetMs),
    ("interval_ms", option u32 c.intervalMs), ("limit", option u32 c.limit)]

def Config.QosConfig.serialize (c : QosConfig) : Value :=
  .struct [("enabled", .bool c.enabled), ("qdisc", qdiscType c.qdisc), ("ecn", .bool c.ecn),
    ("dscp_tagging", .bool c.dscpTagging),
    ("interface_overrides", hashMap QdiscConfig.serialize c.interfaceOverrides)]

def Config.LoggingConfig.serialize (c : LoggingConfig) : Value :=
  .struct [("level", .str c.level), ("file", option .str c.file),
    ("journald", .bool c.journald), ("max_size_mb", u64 c.maxSizeMb),
    ("max_files", u64 c.maxFiles)]

def Config.RelayConfig.serialize (c : RelayConfig) : Value :=
  .struct [("server", .str c.server), ("port", u16 c.port), ("auth_ref", option .str c.authRef),
    ("server_name", option .str c.serverName), ("enabled", .bool c.enabled)]

section

variable {F : Type} (fmt : Format F)

def Wire.f64 (x : F) : Value := .f64 (fmt.toBits x)

def Wire.dateTime (t : DateTime) : Value := .str (fmt.toRfc3339 t)

def Config.ProfileConfig.serialize (c : ProfileConfig F) : Value :=
  .struct [("mode", profileMode c.mode), ("interfaces", vec .str c.interfaces),
    ("health_weights", option HealthWeights.serialize c.healthWeights),
    ("max_jitter_ms", option (f64 fmt) c.maxJitterMs),
    ("max_loss_percent", option (f64 fmt) c.maxLossPercent),
    ("prefer_lowest_rtt", .bool c.preferLowestRtt),
    ("failover_threshold", u8 c.failoverThreshold),
    ("activate_on_app", vec .str c.activateOnApp),
    ("schedule", option ScheduleConfig.serialize c.schedule)]

def Config.NetfusionConfig.serialize (c : NetfusionConfig F) : Value :=
  .struct [("schema_version", u32 c.schemaVersion), ("daemon", c.daemon.serialize),
    ("interfaces", c.interfaces.serialize), ("bonds", vec BondConfig.serialize c.bonds),
    ("policies", vec PolicyConfig.serialize c.policies),
    ("tunnels", vec TunnelConfig.serialize c.tunnels),
    ("profiles", hashMap (ProfileConfig.serialize fmt) c.profiles),
    ("qos", option QosConfig.serialize c.qos),
    ("logging", option LoggingConfig.serialize c.logging),
    ("relay", option RelayConfig.serialize c.relay)]

def Types.HealthScore.serialize (h : HealthScore F) : Value :=
  .struct [("overall", f64 fmt h.overall), ("rtt", f64 fmt h.rtt), ("jitter", f64 fmt h.jitter),
    ("loss", f64 fmt h.loss), ("throughput", f64 fmt h.throughput),
    ("stability", f64 fmt h.stability), ("timestamp", dateTime fmt h.timestamp),
    ("failover_candidate", .bool h.failoverCandidate)]

def Types.IpInfo.serialize (i : IpInfo) : Value :=
  .struct [("cidr", .str i.cidr), ("dhcp", .bool i.dhcp)]

def Types.WirelessInfo.serialize (w : WirelessInfo F) : Value :=
  .struct [("signal_dbm", option i8 w.signalDbm), ("noise_dbm", option i8 w.noiseDbm),
    ("quality_percent", option u8 w.qualityPercent), ("ssid", option .str w.ssid),
    ("frequency_mhz", option u32 w.frequencyMhz),
    ("channel_width_mhz", option u32 w.channelWidthMhz),
    ("tx_rate_mbps", option (f64 fmt) w.txRateMbps),
    ("rx_rate_mbps", option (f64 fmt) w.rxRateMbps)]

def Types.CellularInfo.serialize (c : CellularInfo) : Value :=
  .struct [("signal_dbm", option i16 c.signalDbm), ("cell_id", option .str c.cellId),
    ("network_type", option .str c.networkType), ("rsrp", option i16 c.rsrp),
    ("rsrq", option i16 c.rsrq), ("sinr", option i16 c.sinr)]

def Types.InterfaceStats.serialize (s : InterfaceStats) : Value :=
  .struct [("rx_bytes", u64 s.rxBytes), ("tx_bytes", u64 s.txBytes),
    ("rx_packets", u64 s.rxPackets), ("tx_packets", u64 s.txPackets),
    ("rx_errors", u64 s.rxErrors), ("tx_errors", u64 s.txErrors),
    ("rx_dropped", u64 s.rxDropped), ("tx_dropped", u64 s.txDropped)]

def Types.InterfaceInfo.serialize (i : InterfaceInfo F) : Value :=
  .struct [("name", .str i.name), ("if_type", interfaceType i.ifType),
    ("mac", option .str i.mac), ("driver", option .str i.driver),
    ("speed_mbps", option u64 i.speedMbps), ("duplex", option Wire.duplex i.duplex),
    ("mtu", u32 i.mtu), ("addresses", vec IpInfo.serialize i.addresses),
    ("gateway", option .str i.gateway), ("dns_servers", vec .str i.dnsServers),
    ("link_state", Wire.linkState i.linkState), ("managed", .bool i.managed),
    ("nm_managed", .bool i.nmManaged),
    ("wireless", option (WirelessInfo.serialize fmt) i.wireless),
    ("cellular", option CellularInfo.serialize i.cellular), ("stats", i.stats.serialize),
    ("health", option (HealthScore.serialize fmt) i.health),
    ("last_seen", option (dateTime fmt) i.lastSeen)]

def Types.BondState.serialize (b : BondState F) : Value :=
  .struct [("name", .str b.name), ("mode", bondMode b.mode),
    ("active_members", vec .str b.activeMembers),
    ("standby_members", vec .str b.standbyMembers),
    ("failed_members", vec .str b.failedMembers),
    ("health", option (HealthScore.serialize fmt) b.health),
    ("failover_active", .bool b.failoverActive),
    ("last_failover", option (dateTime fmt) b.lastFailover),
    ("bond_interface", option .str b.bondInterface)]

def Types.TunnelState.serialize (t : TunnelState) : Value :=
  .struct [("name", .str t.name), ("connected", .bool t.connected), ("remote", .str t.remote),
    ("interface", option .str t.interface),
    ("connected_since", option (dateTime fmt) t.connectedSince),
    ("tx_bytes", u64 t.txBytes), ("rx_bytes", u64 t.rxBytes),
    ("reconnect_count", u32 t.reconnectCount), ("last_error", option .str t.lastError)]

def Types.SystemStatus.serialize (s : SystemStatus F) : Value :=
  .struct [("total_interfaces", u64 s.totalInterfaces), ("active_bonds", u64 s.activeBonds),
    ("connected_tunnels", u64 s.connectedTunnels),
    ("active_profile", option .str s.activeProfile),
    ("health", option (HealthScore.serialize fmt) s.health),
    ("failover_active", .bool s.failoverActive), ("dry_run", .bool s.dryRun),
    ("uptime_secs", u64 s.uptimeSecs), ("timestamp", dateTime fmt s.timestamp)]

end

end Netfusion.Shared
