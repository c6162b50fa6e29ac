import Netfusion.Shared.Events

namespace Netfusion.Shared.Ipc

open Netfusion.Shared.Config Netfusion.Shared.Types Netfusion.Shared.Events

inductive DaemonRequest (F : Type) where
  | getStatus
  | getInterfaces
  | getInterface (name : String)
  | getBonds
  | getBond (name : String)
  | getTunnels
  | getEvents (limit : UInt64)
  | subscribeEvents
  | unsubscribeEvents
  | getConfig
  | applyConfig (config : NetfusionConfig F)
  | dryRunConfig (config : NetfusionConfig F)
  | activateProfile (name : String)
  | deactivateProfile
  | getActiveProfile
  | getHealth (interface : String)
  | getAllHealth
  | rescanInterfaces
  | createBond (config : BondConfig)
  | deleteBond (name : String)
  | emergencyRollback
  | shutdown

inductive ResponseData (F : Type) where
  | status (s : SystemStatus F)
  | interfaces (is : List (InterfaceInfo F))
  | interface (i : InterfaceInfo F)
  | bonds (bs : List (BondState F))
  | bond (b : BondState F)
  | tunnels (ts : List TunnelState)
  | events (es : List (NetfusionEvent F))
  | eventStream (e : NetfusionEvent F)
  | config (c : NetfusionConfig F)
  | profile (p : Option String)
  | health (h : HealthScore F)
  | allHealth (hs : List (String × HealthScore F))
  | bondCreated (name : String)
  | bondDeleted (name : String)
  | empty

inductive DaemonResponse (F : Type) where
  | ok (data : Option (ResponseData F))
  | error (message : String) (recoverable : Bool)

structure Uuid where
  bytes : List UInt8
  length_eq : bytes.length = 16

/-- Every message on the socket carries the protocol version, an id for
request/response correlation and a timestamp. -/
structure WireMessage (α : Type) where
  version : UInt32
  id : Uuid
  timestamp : DateTime
  payload : α

def ipcProtocolVersion : UInt32 := 1

/-- The fresh id and the clock reading are arguments. -/
def WireMessage.new {α : Type} (id : Uuid) (now : DateTime) (payload : α) : WireMessage α :=
  ⟨ipcProtocolVersion, id, now, payload⟩

end Netfusion.Shared.Ipc
