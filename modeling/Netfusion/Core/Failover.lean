import Netfusion.Core.Bonding
import Netfusion.Core.Monitoring
import Netfusion.Shared.Events

namespace Netfusion.Core.Failover

open Netfusion.Lib.Collections Netfusion.Lib.Machine Netfusion.Lib.Sorting
open Netfusion.Shared.Config Netfusion.Shared.Types Netfusion.Shared.Events
open Netfusion.Core.Bonding Netfusion.Core.Monitoring

structure FailoverConfig where
  evaluationInterval : Nat
  minViableScore : ℚ
  failoverCooldown : Nat
  badReadingThreshold : UInt32

def FailoverConfig.default : FailoverConfig := ⟨3 * 10 ^ 9, 20, 30 * 10 ^ 9, 3⟩

structure FailoverEngine (F : Type) where
  config : FailoverConfig
  bondManager : BondManager F
  badReadings : HashMap String UInt32
  lastFailover : HashMap String DateTime

def FailoverEngine.new {F : Type} (config : FailoverConfig) (bondManager : BondManager F) :
    FailoverEngine F := ⟨config, bondManager, ∅, ∅⟩

variable {F : Type}

abbrev BondEntry (F : Type) := Sigma (fun _ : String => BondState (Score F))

/-- Whole seconds, rounded towards zero. -/
def numSeconds (d : Int) : Int := d.tdiv (10 ^ 9)

def cooldownSecs (config : FailoverConfig) : Int :=
  Int.bmod (config.failoverCooldown / 10 ^ 9 : Nat) (2 ^ 64)

def inCooldown (config : FailoverConfig) (lastFailover : HashMap String DateTime) (bondName : String)
    (now : DateTime) : Bool :=
  match lastFailover.lookup bondName with
  | some lastTime => decide (numSeconds (now - lastTime) < cooldownSecs config)
  | none => false

def failoverEvent (bondName : String) (state : BondState (Score F)) (now : DateTime) :
    NetfusionEvent (Score F) :=
  .failoverTriggered ⟨bondName, now, state.standbyMembers, state.activeMembers,
    "health degradation"⟩

/-- The clock is read once for the whole evaluation. -/
def evaluateBonds (config : FailoverConfig) (now : DateTime)
    (lastFailover : HashMap String DateTime) :
    List (BondEntry F) → List (NetfusionEvent (Score F)) × HashMap String DateTime
  | [] => ([], lastFailover)
  | ⟨bondName, state⟩ :: rest =>
    if inCooldown config lastFailover bondName now then
      evaluateBonds config now lastFailover rest
    else if state.failoverActive then
      let (events, lastFailover) :=
        evaluateBonds config now (lastFailover.insert bondName now) rest
      (failoverEvent bondName state now :: events, lastFailover)
    else evaluateBonds config now lastFailover rest

def evaluateFailover (e : FailoverEngine F) (now : DateTime) (order : Shuffle (BondEntry F)) :
    List (NetfusionEvent (Score F)) × FailoverEngine F :=
  let (events, lastFailover) :=
    evaluateBonds e.config now e.lastFailover (order.run e.bondManager.bonds.entries)
  (events, { e with lastFailover := lastFailover })

def trackReading (e : FailoverEngine F) (u : HealthUpdate ℚ) : FailoverEngine F :=
  if u.smoothedScore.overall < e.config.minViableScore then
    { e with badReadings :=
        e.badReadings.insert u.interface ((e.badReadings.lookup u.interface).getD 0 + 1) }
  else { e with badReadings := e.badReadings.erase u.interface }

def processHealthUpdate (e : FailoverEngine F) (u : HealthUpdate ℚ) (now : DateTime)
    (order : Shuffle (BondEntry F)) : List (NetfusionEvent (Score F)) × FailoverEngine F :=
  evaluateFailover (trackReading e u) now order

section

variable [LinearOrder F]

inductive Event (F : Type) [LinearOrder F] where
  | updateMembership (u : MembershipUpdate F)
  | processHealthUpdate (u : HealthUpdate ℚ) (now : DateTime) (order : Shuffle (BondEntry F))
  | evaluateFailover (now : DateTime) (order : Shuffle (BondEntry F))

end

/-- What is seen of a step: the active members of a bond before and after an
update of its membership, or an event that was sent. -/
inductive Record (F : Type) where
  | updated (bondName : String) (before after : List String)
  | sent (event : NetfusionEvent (Score F))

def activeMembers (m : BondManager F) (bondName : String) : List String :=
  match m.bonds.lookup bondName with
  | some state => state.activeMembers
  | none => []

def step [LinearOrder F] (e : FailoverEngine F) : Event F → List (Record F) × FailoverEngine F
  | .updateMembership u =>
    let m := (update e.bondManager u).2
    ([.updated u.bondName (activeMembers e.bondManager u.bondName) (activeMembers m u.bondName)],
      { e with bondManager := m })
  | .processHealthUpdate u now order =>
    let (events, e) := processHealthUpdate e u now order
    (events.map .sent, e)
  | .evaluateFailover now order =>
    let (events, e) := evaluateFailover e now order
    (events.map .sent, e)

end Netfusion.Core.Failover
