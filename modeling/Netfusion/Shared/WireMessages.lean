import Netfusion.Shared.Wire

namespace Netfusion.Shared

open Netfusion.Lib.Bincode
open Netfusion.Lib.Collections
open Netfusion.Shared.Config Netfusion.Shared.Types Netfusion.Shared.Events Netfusion.Shared.Ipc
open Netfusion.Shared.Wire

section

variable {F : Type} (fmt : Format F)

def Events.InterfaceEvent.serialize (e : InterfaceEvent) : Value :=
  .struct [("interface", .str e.interface), ("timestamp", dateTime fmt e.timestamp),
    ("details", option .str e.details)]

def Events.HealthEvent.serialize (e : HealthEvent F) : Value :=
  .struct [("interface", .str e.interface), ("timestamp", dateTime fmt e.timestamp),
    ("previous_score", f64 fmt e.previousScore), ("new_score", e.newScore.serialize fmt)]

def Events.LossEvent.serialize (e : LossEvent F) : Value :=
  .struct [("interface", .str e.interface), ("timestamp", dateTime fmt e.timestamp),
    ("loss_percent", f64 fmt e.lossPercent), ("duration_secs", u64 e.durationSecs)]

def Events.CongestionEvent.serialize (e : CongestionEvent F) : Value :=
  .struct [("interface", .str e.interface), ("timestamp", dateTime fmt e.timestamp),
    ("queue_depth", u32 e.queueDepth), ("latency_increase_ms", f64 fmt e.latencyIncreaseMs)]

def Events.FailoverEvent.serialize (e : FailoverEvent) : Value :=
  .struct [("bond", .str e.bond), ("timestamp", dateTime fmt e.timestamp),
    ("previous_active", vec .str e.previousActive), ("new_active", vec .str e.newActive),
    ("reason", .str e.reason)]

def Events.TunnelEvent.serialize (e : TunnelEvent) : Value :=
  .struct [("tunnel", .str e.tunnel), ("timestamp", dateTime fmt e.timestamp),
    ("remote", .str e.remote), ("error", option .str e.error)]

def Events.RouteChange.serialize (c : RouteChange) : Value :=
  .struct [("action", .str c.action), ("destination", option .str c.destination),
    ("gateway", option .str c.gateway), ("interface", .str c.interface)]

def Events.RouteEvent.serialize (e : RouteEvent) : Value :=
  .struct [("timestamp", dateTime fmt e.timestamp), ("rule_count", u64 e.ruleCount),
    ("changes", vec RouteChange.serialize e.changes)]

def Events.BondEvent.serialize (e : BondEvent) : Value :=
  .struct [("bond", .str e.bond), ("timestamp", dateTime fmt e.timestamp),
    ("added", vec .str e.added), ("removed", vec .str e.removed)]

def Events.ConfigEvent.serialize (e : ConfigEvent) : Value :=
  .struct [("timestamp", dateTime fmt e.timestamp), ("source", .str e.source),
    ("errors", vec .str e.errors)]

def Events.ErrorEvent.serialize (e : ErrorEvent) : Value :=
  .struct [("subsystem", .str e.subsystem), ("timestamp", dateTime fmt e.timestamp),
    ("message", .str e.message), ("recoverable", .bool e.recoverable)]

def Events.ProfileEvent.serialize (e : ProfileEvent) : Value :=
  .struct [("profile", .str e.profile), ("timestamp", dateTime fmt e.timestamp),
    ("trigger", .str e.trigger)]

def Events.NetfusionEvent.serialize : NetfusionEvent F → Value
  | .interfaceUp e => .tagged "type" "interface_up" (e.serialize fmt)
  | .interfaceDown e => .tagged "type" "interface_down" (e.serialize fmt)
  | .healthChanged e => .tagged "type" "health_changed" (e.serialize fmt)
  | .packetLossSpike e => .tagged "type" "packet_loss_spike" (e.serialize fmt)
  | .congestionDetected e => .tagged "type" "congestion_detected" (e.serialize fmt)
  | .failoverTriggered e => .tagged "type" "failover_triggered" (e.serialize fmt)
  | .failoverRecovered e => .tagged "type" "failover_recovered" (e.serialize fmt)
  | .tunnelConnected e => .tagged "type" "tunnel_connected" (e.serialize fmt)
  | .tunnelDisconnected e => .tagged "type" "tunnel_disconnected" (e.serialize fmt)
  | .routeChanged e => .tagged "type" "route_changed" (e.serialize fmt)
  | .bondMembershipChanged e => .tagged "type" "bond_membership_changed" (e.serialize fmt)
  | .configReloaded e => .tagged "type" "config_reloaded" (e.serialize fmt)
  | .subsystemError e => .tagged "type" "subsystem_error" (e.serialize fmt)
  | .profileActivated e => .tagged "type" "profile_activated" (e.serialize fmt)
  | .profileDeactivated e => .tagged "type" "profile_deactivated" (e.serialize fmt)

def Ipc.DaemonRequest.serialize : DaemonRequest F → Value
  | .getStatus => variant "type" "get_status" []
  | .getInterfaces => variant "type" "get_interfaces" []
  | .getInterface name => variant "type" "get_interface" [("name", .str name)]
  | .getBonds => variant "type" "get_bonds" []
  | .getBond name => variant "type" "get_bond" [("name", .str name)]
  | .getTunnels => variant "type" "get_tunnels" []
  | .getEvents limit => variant "type" "get_events" [("limit", u64 limit)]
  | .subscribeEvents => variant "type" "subscribe_events" []
  | .unsubscribeEvents => variant "type" "unsubscribe_events" []
  | .getConfig => variant "type" "get_config" []
  | .applyConfig config => variant "type" "apply_config" [("config", config.serialize fmt)]
  | .dryRunConfig config => variant "type" "dry_run_config" [("config", config.serialize fmt)]
  | .activateProfile name => variant "type" "activate_profile" [("name", .str name)]
  | .deactivateProfile => variant "type" "deactivate_profile" []
  | .getActiveProfile => variant "type" "get_active_profile" []
  | .getHealth interface => variant "type" "get_health" [("interface", .str interface)]
  | .getAllHealth => variant "type" "get_all_health" []
  | .rescanInterfaces => variant "type" "rescan_interfaces" []
  | .createBond config => variant "type" "create_bond" [("config", config.serialize)]
  | .deleteBond name => variant "type" "delete_bond" [("name", .str name)]
  | .emergencyRollback => variant "type" "emergency_rollback" []
  | .shutdown => variant "type" "shutdown" []

def Ipc.ResponseData.serialize : ResponseData F → Value
  | .status s => .tagged "kind" "status" (s.serialize fmt)
  | .interfaces is => .tagged "kind" "interfaces" (vec (InterfaceInfo.serialize fmt) is)
  | .interface i => .tagged "kind" "interface" (i.serialize fmt)
  | .bonds bs => .tagged "kind" "bonds" (vec (BondState.serialize fmt) bs)
  | .bond b => .tagged "kind" "bond" (b.serialize fmt)
  | .tunnels ts => .tagged "kind" "tunnels" (vec (TunnelState.serialize fmt) ts)
  | .events es => .tagged "kind" "events" (vec (NetfusionEvent.serialize fmt) es)
  | .eventStream e => .tagged "kind" "event_stream" (e.serialize fmt)
  | .config c => .tagged "kind" "config" (c.serialize fmt)
  | .profile p => .tagged "kind" "profile" (option .str p)
  | .health h => .tagged "kind" "health" (h.serialize fmt)
  | .allHealth hs =>
    .tagged "kind" "all_health" (vec (pair .str (HealthScore.serialize fmt)) hs)
  | .bondCreated name => .tagged "kind" "bond_created" (.str name)
  | .bondDeleted name => .tagged "kind" "bond_deleted" (.str name)
  | .empty => variant "kind" "empty" []

/-- An absent `data` is skipped altogether. -/
def Ipc.DaemonResponse.serialize : DaemonResponse F → Value
  | .ok none => variant "type" "ok" []
  | .ok (some data) => variant "type" "ok" [("data", .some (data.serialize fmt))]
  | .error message recoverable =>
    variant "type" "error" [("message", .str message), ("recoverable", .bool recoverable)]

def Ipc.WireMessage.serialize {α : Type} (payload : α → Value) (m : WireMessage α) : Value :=
  .struct [("version", u32 m.version), ("id", .bytes m.id.bytes),
    ("timestamp", dateTime fmt m.timestamp), ("payload", payload m.payload)]

def encodeRequest (m : WireMessage (DaemonRequest F)) : Except Error (List UInt8) :=
  Lib.Bincode.encode (m.serialize fmt (DaemonRequest.serialize fmt))

def encodeResponse (m : WireMessage (DaemonResponse F)) : Except Error (List UInt8) :=
  Lib.Bincode.encode (m.serialize fmt (DaemonResponse.serialize fmt))

def readUuid : Reader Uuid := fun bs => do
  let (raw, rest) ← readBytes bs
  if h : raw.length = 16 then .ok (⟨raw, h⟩, rest) else .error (.custom "invalid length")

def readDateTime : Reader DateTime := fun bs => do
  let (text, rest) ← readStr bs
  match fmt.fromRfc3339 text with
  | some t => .ok (t, rest)
  | none => .error (.custom "invalid date")

def readWireMessage {α : Type} (payload : Reader α) : Reader (WireMessage α) := fun bs => do
  let (version, bs) ← readUint 4 bs
  let (id, bs) ← readUuid bs
  let (timestamp, bs) ← readDateTime fmt bs
  let (p, bs) ← payload bs
  .ok (⟨UInt32.ofNat version, id, timestamp, p⟩, bs)

/-- The reader derived for an internally tagged enum buffers a
self-describing value and takes the tag out of it. What it does with that
value is the visitor's business. -/
def Ipc.DaemonRequest.deserialize (visit : Value → Except Error (DaemonRequest F)) :
    Reader (DaemonRequest F) := deserializeAny visit

def Ipc.DaemonResponse.deserialize (visit : Value → Except Error (DaemonResponse F)) :
    Reader (DaemonResponse F) := deserializeAny visit

def decodeRequest (visit : Value → Except Error (DaemonRequest F)) (bs : List UInt8) :
    Except Error (WireMessage (DaemonRequest F)) :=
  Lib.Bincode.deserialize (readWireMessage fmt (DaemonRequest.deserialize visit)) bs

def decodeResponse (visit : Value → Except Error (DaemonResponse F)) (bs : List UInt8) :
    Except Error (WireMessage (DaemonResponse F)) :=
  Lib.Bincode.deserialize (readWireMessage fmt (DaemonResponse.deserialize visit)) bs

end

end Netfusion.Shared
