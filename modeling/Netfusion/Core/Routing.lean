import Mathlib.Data.Finset.Basic
import Netfusion.Lib.Machine
import Netfusion.Lib.Text
import Netfusion.Core.Command

namespace Netfusion.Core.Routing

open Netfusion.Lib.Machine Netfusion.Lib.Text
open Netfusion.Core.Command

inductive RoutingError where
  | routeModify (source : String)
  | tableRead (source : String)
  | policyConflict (message : String)
  | rollbackFailed (message : String)
deriving DecidableEq

def RoutingError.toString : RoutingError → String
  | .routeModify source => "failed to modify route: " ++ source
  | .tableRead source => "failed to read routing table: " ++ source
  | .policyConflict message => "policy conflict: " ++ message
  | .rollbackFailed message => "rollback failed: " ++ message

/-- What the kernel knows a default route by. -/
structure RouteKey where
  gateway : String
  interface : String
  metric : UInt32
deriving DecidableEq

structure Rule where
  priority : UInt32
  fwmark : Option UInt32
  table : UInt32
deriving DecidableEq

structure Kernel where
  routes : Finset RouteKey
  rules : Finset Rule
deriving DecidableEq

structure ManagedRoute where
  destination : Option String
  gateway : String
  interface : String
  metric : UInt32
  table : Option UInt32
deriving DecidableEq

def ManagedRoute.key (r : ManagedRoute) : RouteKey := ⟨r.gateway, r.interface, r.metric⟩

structure RoutingEngine where
  kernel : Kernel
  managedRoutes : List ManagedRoute
deriving DecidableEq

abbrev LinkLookup := Except String (Option UInt32)

def getInterfaceIndex (name : String) (found : LinkLookup) : Except RoutingError UInt32 :=
  match found with
  | .ok (some index) => .ok index
  | .ok none => .error (.routeModify ("interface '" ++ name ++ "' not found"))
  | .error e => .error (.routeModify e)

/-- The kernel refuses a route it has. `answer` is its answer to one it has not. -/
def kernelAdd (k : Kernel) (key : RouteKey) (answer : Except String Unit) :
    Except String Unit × Kernel :=
  if key ∈ k.routes then
    (.error "Received a netlink error message File exists (os error 17)", k)
  else match answer with
    | .error e => (.error e, k)
    | .ok _ => (.ok (), { k with routes := insert key k.routes })

def addDefaultRoute (e : RoutingEngine) (gateway interface : String) (metric : UInt32)
    (found : LinkLookup) (answer : Except String Unit) : Except RoutingError Unit × RoutingEngine :=
  if ¬ isIpv4Addr gateway then (.error (.routeModify "invalid IPv4 address syntax"), e)
  else match getInterfaceIndex interface found with
    | .error err => (.error err, e)
    | .ok _ =>
      match kernelAdd e.kernel ⟨gateway, interface, metric⟩ answer with
      | (.error err, kernel) => (.error (.routeModify err), { e with kernel := kernel })
      | (.ok _, kernel) =>
        (.ok (), ⟨kernel,
          e.managedRoutes ++ [⟨some "0.0.0.0/0", gateway, interface, metric, none⟩]⟩)

/-- Which route the kernel deletes where this one is named, the metric being
its own choice. -/
abbrev DeletedRoute := RouteKey → UInt32 → RouteKey

/-- A kernel that knows a route by its gateway, interface and metric alone. -/
def keyed : DeletedRoute := fun named _ => named

/-- A kernel where the metric 0 stands for any. -/
def zeroMatchesAny : DeletedRoute := fun named chosen =>
  if named.metric = 0 then { named with metric := chosen } else named

/-- A deletion that fails is taken for one of a route that is not there. -/
def delDefaultRoute (deleted : DeletedRoute) (e : RoutingEngine) (gateway interface : String)
    (metric : UInt32) (result : CommandOutput) (chosen : UInt32) :
    Except RoutingError Unit × RoutingEngine :=
  match result with
  | .error err => (.error (.routeModify err), e)
  | .ok out =>
    let kernel := if out.success then
        { e.kernel with
          routes := e.kernel.routes.erase (deleted ⟨gateway, interface, metric⟩ chosen) }
      else e.kernel
    (.ok (), ⟨kernel, e.managedRoutes.filter (fun r => !(r.gateway = gateway ∧
      r.interface = interface ∧ r.metric = metric))⟩)

def addRule (e : RoutingEngine) (priority : UInt32) (fwmark : Option UInt32) (table : UInt32)
    (result : CommandOutput) : Except RoutingError Unit × RoutingEngine :=
  match result with
  | .error err => (.error (.routeModify err), e)
  | .ok out =>
    if out.success then
      (.ok (), { e with kernel :=
        { e.kernel with rules := insert ⟨priority, fwmark, table⟩ e.kernel.rules } })
    else (.error (.routeModify ("ip rule add failed: " ++ out.stderr)), e)

/-- The command does not say which mark it means, so the kernel deletes some
rule of this priority and table: `victim`, where it is one. -/
def delRule (e : RoutingEngine) (priority table : UInt32) (result : CommandOutput) (victim : Rule) :
    Except RoutingError Unit × RoutingEngine :=
  match result with
  | .error err => (.error (.routeModify err), e)
  | .ok out =>
    if out.success ∧ victim.priority = priority ∧ victim.table = table then
      (.ok (), { e with kernel := { e.kernel with rules := e.kernel.rules.erase victim } })
    else (.ok (), e)

def clearManagedRoutes (e : RoutingEngine) : RoutingEngine := { e with managedRoutes := [] }

inductive Call where
  | addDefaultRoute (gateway interface : String) (metric : UInt32) (found : LinkLookup)
      (answer : Except String Unit)
  | delDefaultRoute (gateway interface : String) (metric : UInt32) (result : CommandOutput)
      (chosen : UInt32)
  | addRule (priority : UInt32) (fwmark : Option UInt32) (table : UInt32) (result : CommandOutput)
  | delRule (priority table : UInt32) (result : CommandOutput) (victim : Rule)

def call (deleted : DeletedRoute) (e : RoutingEngine) :
    Call → Except RoutingError Unit × RoutingEngine
  | .addDefaultRoute gateway interface metric found answer =>
    addDefaultRoute e gateway interface metric found answer
  | .delDefaultRoute gateway interface metric result chosen =>
    delDefaultRoute deleted e gateway interface metric result chosen
  | .addRule priority fwmark table result => addRule e priority fwmark table result
  | .delRule priority table result victim => delRule e priority table result victim

theorem ManagedRoute.key_eq_iff (r : ManagedRoute) (gateway interface : String) (metric : UInt32) :
    (r.gateway = gateway ∧ r.interface = interface ∧ r.metric = metric) ↔
      r.key = ⟨gateway, interface, metric⟩ := by
  simp [ManagedRoute.key]

section

variable (deleted : DeletedRoute)

theorem delDefaultRoute_ok (e : RoutingEngine) (key : RouteKey) (out : Output) (chosen : UInt32) :
    delDefaultRoute deleted e key.gateway key.interface key.metric (.ok out) chosen =
      (.ok (), ⟨if out.success then
            { e.kernel with routes := e.kernel.routes.erase (deleted key chosen) }
          else e.kernel,
        e.managedRoutes.filter (fun r => r.key ≠ key)⟩) := by
  simp only [delDefaultRoute, ManagedRoute.key_eq_iff, decide_not]

def Call.adds : Call → Option RouteKey
  | .addDefaultRoute gateway interface metric _ _ => some ⟨gateway, interface, metric⟩
  | _ => none

theorem addDefaultRoute_cases (e : RoutingEngine) (gateway interface : String) (metric : UInt32)
    (found : LinkLookup) (answer : Except String Unit) :
    (∃ route : ManagedRoute, route.key = ⟨gateway, interface, metric⟩ ∧
      route.key ∉ e.kernel.routes ∧
      addDefaultRoute e gateway interface metric found answer =
        (.ok (), ⟨{ e.kernel with routes := insert route.key e.kernel.routes },
          e.managedRoutes ++ [route]⟩)) ∨
    (addDefaultRoute e gateway interface metric found answer).1 ≠ .ok () ∧
      (addDefaultRoute e gateway interface metric found answer).2 = e := by
  simp only [addDefaultRoute, kernelAdd]
  split
  · exact .inr ⟨nofun, rfl⟩
  · split
    · exact .inr ⟨nofun, rfl⟩
    · by_cases hin : (⟨gateway, interface, metric⟩ : RouteKey) ∈ e.kernel.routes
      · rw [if_pos hin]
        exact .inr ⟨nofun, rfl⟩
      · rw [if_neg hin]
        cases answer with
        | error err => exact .inr ⟨nofun, rfl⟩
        | ok u => exact .inl ⟨⟨some "0.0.0.0/0", gateway, interface, metric, none⟩, rfl, hin, rfl⟩

theorem addRule_keeps (e : RoutingEngine) (priority : UInt32) (fwmark : Option UInt32)
    (table : UInt32) (result : CommandOutput) :
    (addRule e priority fwmark table result).2.kernel.routes = e.kernel.routes ∧
      (addRule e priority fwmark table result).2.managedRoutes = e.managedRoutes := by
  cases result with
  | error err => exact ⟨rfl, rfl⟩
  | ok out =>
    rw [addRule]
    split <;> exact ⟨rfl, rfl⟩

theorem delRule_keeps (e : RoutingEngine) (priority table : UInt32) (result : CommandOutput)
    (victim : Rule) :
    (delRule e priority table result victim).2.kernel.routes = e.kernel.routes ∧
      (delRule e priority table result victim).2.managedRoutes = e.managedRoutes := by
  cases result with
  | error err => exact ⟨rfl, rfl⟩
  | ok out =>
    rw [delRule]
    split <;> exact ⟨rfl, rfl⟩

/-- What a call does to the default routes and to the log: it adds a route to
both that was not installed, deletes one if the command starts, or leaves them. -/
theorem call_cases (e : RoutingEngine) (c : Call) :
    (∃ route : ManagedRoute, c.adds = some route.key ∧ route.key ∉ e.kernel.routes ∧
      call deleted e c = (.ok (), ⟨{ e.kernel with routes := insert route.key e.kernel.routes },
        e.managedRoutes ++ [route]⟩)) ∨
    (∃ (key : RouteKey) (out : Output) (chosen : UInt32),
      c = .delDefaultRoute key.gateway key.interface key.metric (.ok out) chosen ∧
      call deleted e c = (.ok (), ⟨if out.success then
            { e.kernel with routes := e.kernel.routes.erase (deleted key chosen) }
          else e.kernel,
        e.managedRoutes.filter (fun r => r.key ≠ key)⟩)) ∨
    ((c.adds = none ∨ (call deleted e c).1 ≠ .ok ()) ∧
      (∀ (key : RouteKey) (out : Output) (chosen : UInt32),
        c ≠ .delDefaultRoute key.gateway key.interface key.metric (.ok out) chosen) ∧
      (call deleted e c).2.kernel.routes = e.kernel.routes ∧
      (call deleted e c).2.managedRoutes = e.managedRoutes) := by
  cases c with
  | addDefaultRoute gateway interface metric found answer =>
    obtain ⟨route, hkey, hnew, hcall⟩ | ⟨hfails, hsame⟩ :=
      addDefaultRoute_cases e gateway interface metric found answer
    · exact .inl ⟨route, congrArg some hkey.symm, hnew, hcall⟩
    · refine .inr (.inr ⟨.inr hfails, nofun, ?_, ?_⟩)
      · exact congrArg (fun e => e.kernel.routes) hsame
      · exact congrArg RoutingEngine.managedRoutes hsame
  | delDefaultRoute gateway interface metric result chosen =>
    cases result with
    | error err => exact .inr (.inr ⟨.inl rfl, nofun, rfl, rfl⟩)
    | ok out =>
      exact .inr (.inl ⟨⟨gateway, interface, metric⟩, out, chosen, rfl,
        delDefaultRoute_ok deleted e ⟨gateway, interface, metric⟩ out chosen⟩)
  | addRule priority fwmark table result =>
    exact .inr (.inr ⟨.inl rfl, nofun, addRule_keeps e priority fwmark table result⟩)
  | delRule priority table result victim =>
    exact .inr (.inr ⟨.inl rfl, nofun, delRule_keeps e priority table result victim⟩)

end

/-- Another route than the named one is deleted only where that has the metric
0, and has not. -/
theorem zeroMatchesAny_cases (named : RouteKey) (chosen : UInt32) :
    zeroMatchesAny named chosen = named ∨
      named.metric = 0 ∧ (zeroMatchesAny named chosen).metric ≠ 0 := by
  rw [zeroMatchesAny]
  by_cases hzero : named.metric = 0
  · rw [if_pos hzero]
    by_cases hsame : chosen = 0
    · left
      rw [hsame, ← hzero]
    · exact .inr ⟨hzero, hsame⟩
  · exact .inl (if_neg hzero)

end Netfusion.Core.Routing
