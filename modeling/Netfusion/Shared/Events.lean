import Netfusion.Shared.Types

namespace Netfusion.Shared.Events

open Netfusion.Shared.Types

structure InterfaceEvent where
  interface : String
  timestamp : DateTime
  details : Option String

structure HealthEvent (F : Type) where
  interface : String
  timestamp : DateTime
  previousScore : F
  newScore : HealthScore F

structure LossEvent (F : Type) where
  interface : String
  timestamp : DateTime
  lossPercent : F
  durationSecs : UInt64

structure CongestionEvent (F : Type) where
  interface : String
  timestamp : DateTime
  queueDepth : UInt32
  latencyIncreaseMs : F

structure FailoverEvent where
  bond : String
  timestamp : DateTime
  previousActive : List String
  newActive : List String
  reason : String
deriving DecidableEq

structure TunnelEvent where
  tunnel : String
  timestamp : DateTime
  remote : String
  error : Option String

structure RouteChange where
  action : String
  destination : Option String
  gateway : Option String
  interface : String

structure RouteEvent where
  timestamp : DateTime
  ruleCount : UInt64
  changes : List RouteChange

structure BondEvent where
  bond : String
  timestamp : DateTime
  added : List String
  removed : List String

structure ConfigEvent where
  timestamp : DateTime
  source : String
  errors : List String

structure ErrorEvent where
  subsystem : String
  timestamp : DateTime
  message : String
  recoverable : Bool

structure ProfileEvent where
  profile : String
  timestamp : DateTime
  trigger : String

inductive NetfusionEvent (F : Type) where
  | interfaceUp (e : InterfaceEvent)
  | interfaceDown (e : InterfaceEvent)
  | healthChanged (e : HealthEvent F)
  | packetLossSpike (e : LossEvent F)
  | congestionDetected (e : CongestionEvent F)
  | failoverTriggered (e : FailoverEvent)
  | failoverRecovered (e : FailoverEvent)
  | tunnelConnected (e : TunnelEvent)
  | tunnelDisconnected (e : TunnelEvent)
  | routeChanged (e : RouteEvent)
  | bondMembershipChanged (e : BondEvent)
  | configReloaded (e : ConfigEvent)
  | subsystemError (e : ErrorEvent)
  | profileActivated (e : ProfileEvent)
  | profileDeactivated (e : ProfileEvent)

end Netfusion.Shared.Events
