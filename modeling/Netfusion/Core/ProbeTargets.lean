import Mathlib.Data.List.Forall2
import Netfusion.Core.Discovery
import Netfusion.Core.Monitoring
import Netfusion.Core.Throughput

namespace Netfusion.Core.ProbeTargets

open Netfusion.Lib.Addresses Netfusion.Lib.Collections Netfusion.Lib.Machine
open Netfusion.Shared.Types
open Netfusion.Core.Discovery Netfusion.Core.Monitoring Netfusion.Core.Throughput

variable {F : Type}

/-- The gateway first, then the configured targets. -/
def pingTarget (config : MonitorConfig) (interface : InterfaceInfo F) : Option String :=
  interface.gateway.or config.pingTargets.head?

/-- `ping` is what pinging a target gives: the round-trip time, the jitter and
the loss. -/
def pingReadings (ping : String → Except String (ℚ × ℚ × ℚ)) : Option String → ℚ × ℚ × ℚ
  | some target =>
    match ping target with
    | .ok result => result
    | .error _ => (999, 100, 100)
  | none => (50, 10, 0)

def runProbe (config : MonitorConfig) (tracker : ThroughputTracker) (interface : InterfaceInfo F)
    (ping : String → Except String (ℚ × ℚ × ℚ)) (now : Nat) (timestamp : DateTime) :
    ProbeResult ℚ × ThroughputTracker :=
  let (rttMs, jitterMs, lossPercent) := pingReadings ping (pingTarget config interface)
  let (throughputMbps, tracker) :=
    estimate tracker interface.name interface.stats.rxBytes interface.stats.txBytes now
  (⟨interface.name, rttMs, jitterMs, lossPercent, throughputMbps, 0, timestamp⟩, tracker)

structure Probing (F : Type) where
  interface : InterfaceInfo F
  ping : String → Except String (ℚ × ℚ × ℚ)
  now : Nat
  timestamp : DateTime

def Probing.call (p : Probing F) : Call :=
  ⟨p.interface.name, p.interface.stats.rxBytes, p.interface.stats.txBytes, p.now⟩

def probingStep (config : MonitorConfig) (tracker : ThroughputTracker) (p : Probing F) :
    ProbeResult ℚ × ThroughputTracker :=
  runProbe config tracker p.interface p.ping p.now p.timestamp

section

variable (config : MonitorConfig)

/-- Along a run of probes the throughputs are those that the tracker estimates
for the same counters: they depend on no ping. -/
theorem probings_throughput (tracker : ThroughputTracker) (ps : List (Probing F)) :
    (outputs (probingStep config) tracker ps).map ProbeResult.throughputMbps =
      outputs estimateStep tracker (ps.map Probing.call) := by
  induction ps generalizing tracker with
  | nil => rfl
  | cons p ps ih =>
    exact congrArg ((estimateStep tracker p.call).1 :: ·) (ih (estimateStep tracker p.call).2)

theorem run_probingStep (tracker : ThroughputTracker) (ps : List (Probing F)) :
    run (probingStep config) tracker ps = run estimateStep tracker (ps.map Probing.call) := by
  induction ps generalizing tracker with
  | nil => rfl
  | cons p ps ih => exact ih (estimateStep tracker p.call).2

/-- The first probe of an interface measures no throughput, however many others
were probed before. -/
theorem first_probe_idle {ps : List (Probing F)} {p : Probing F}
    (h : ∀ q ∈ ps, q.interface.name ≠ p.interface.name) :
    (probingStep config (run (probingStep config) ThroughputTracker.new ps) p).1.throughputMbps
      = 0 := by
  have hnone : lastCall p.call.name (ps.map Probing.call) = none := by
    apply lastCall_eq_none
    rw [List.forall_mem_map]
    exact h
  rw [run_probingStep]
  exact estimate_unseen (tracks_run _) hnone

end

/-- The gateway of one of the default routes, and none only if none has one. -/
def RealGateway (defaults : List RouteEntry) (gateway : Option String) : Prop :=
  match gateway with
  | some g => ∃ r ∈ defaults, r.gateway = some g
  | none => ∀ r ∈ defaults, r.gateway = none

/-- A scan records a real gateway for an interface, and a probe pings it, or
the first configured target in its place. -/
structure ProbesRealGateway (config : MonitorConfig) (defaults : List RouteEntry)
    (interface : InterfaceInfo F) : Prop where
  recorded : RealGateway defaults interface.gateway
  pinged : pingTarget config interface ≠ some ""
  fallback : (∀ r ∈ defaults, r.gateway = none) →
    pingTarget config interface = config.pingTargets.head?

/-- The last default route of the interface has a gateway, or there is none and
the first configured target is not the empty text. -/
def LastHasGateway (config : MonitorConfig) (defaults : List RouteEntry) : Prop :=
  match defaults.getLast? with
  | some r => r.gateway.isSome = true
  | none => config.pingTargets.head? ≠ some ""

theorem describe_gateway (addresses : List AddressEntry) (routes : List RouteEntry)
    (stats : HashMap UInt32 InterfaceStats) (metadata : String → Metadata F) (link : LinkEntry) :
    (describe addresses routes stats metadata link).gateway =
      (defaultRoutes routes link.index).getLast?.map (fun r => r.gateway.getD "") := by
  rw [describe, collectDetailedMetadata_gateway, lookup_defaultGateway]

section

variable (config : MonitorConfig) {defaults : List RouteEntry} {interface : InterfaceInfo F}

theorem probes_unrouted (hnil : defaults = []) (hgateway : interface.gateway = none) :
    ProbesRealGateway config defaults interface ↔ config.pingTargets.head? ≠ some "" := by
  have htarget : pingTarget config interface = config.pingTargets.head? := by
    simp [pingTarget, hgateway]
  constructor
  · intro h
    exact htarget ▸ h.pinged
  · intro h
    refine ⟨?_, htarget ▸ h, fun _ => htarget⟩
    simp [RealGateway, hgateway, hnil]

theorem not_probes_empty (hne : ∀ r ∈ defaults, r.gateway ≠ some "")
    (hgateway : interface.gateway = some "") : ¬ ProbesRealGateway config defaults interface := by
  intro h
  have hrecorded := h.recorded
  rw [hgateway] at hrecorded
  obtain ⟨r, hr, hempty⟩ := hrecorded
  exact hne r hr hempty

theorem probes_gateway {r : RouteEntry} (hr : r ∈ defaults) {g : String} (hg : r.gateway = some g)
    (hne : g ≠ "") (hgateway : interface.gateway = some g) :
    ProbesRealGateway config defaults interface := by
  refine ⟨?_, ?_, fun hall => ?_⟩
  · rw [hgateway]
    exact ⟨r, hr, hg⟩
  · simpa [pingTarget, hgateway] using hne
  · have hnone := hall r hr
    rw [hg] at hnone
    cases hnone

theorem probesRealGateway_iff_last (hne : ∀ r ∈ defaults, r.gateway ≠ some "")
    (hinterface : interface.gateway = defaults.getLast?.map (fun r => r.gateway.getD "")) :
    ProbesRealGateway config defaults interface ↔ LastHasGateway config defaults := by
  rw [LastHasGateway]
  cases hlast : defaults.getLast? with
  | none =>
    rw [hlast] at hinterface
    exact probes_unrouted config (List.getLast?_eq_none_iff.mp hlast) hinterface
  | some r =>
    have hr : r ∈ defaults := List.mem_of_getLast? hlast
    rw [hlast, Option.map_some] at hinterface
    dsimp only
    cases hg : r.gateway with
    | none =>
      rw [hg] at hinterface
      exact iff_of_false (not_probes_empty config hne hinterface) Bool.false_ne_true
    | some g =>
      have hgne : g ≠ "" := fun hempty => hne r hr (by rw [hg, hempty])
      rw [hg] at hinterface
      exact iff_of_true (probes_gateway config hr hg hgne hinterface) rfl

end

theorem describe_probesRealGateway_iff (config : MonitorConfig) (addresses : List AddressEntry)
    {messages : List (Except String RouteMessage)} {routes : List RouteEntry}
    (h : enumerateRoutes messages = .ok routes) (stats : HashMap UInt32 InterfaceStats)
    (metadata : String → Metadata F) (link : LinkEntry) :
    ProbesRealGateway config (defaultRoutes routes link.index)
        (describe addresses routes stats metadata link) ↔
      LastHasGateway config (defaultRoutes routes link.index) := by
  apply probesRealGateway_iff_last
  · intro r hr
    exact enumerated_gateway_ne_empty h (List.mem_of_mem_filter hr)
  · exact describe_gateway addresses routes stats metadata link

/-- Whatever the answers of a scan are, the interfaces found are those of the
links that are not skipped, and each is probed at a real gateway exactly when
the last default route through its link has one. -/
theorem scan_probesRealGateway_iff (config : MonitorConfig) {answers : Answers F}
    {found : List (InterfaceInfo F)} (h : scan answers = .ok found) :
    ∃ links routes, answers.links = .ok links ∧ enumerateRoutes answers.routes = .ok routes ∧
      List.Forall₂ (fun link interface =>
          (ProbesRealGateway config (defaultRoutes routes link.index) interface ↔
            LastHasGateway config (defaultRoutes routes link.index)))
        (links.filter (fun link => !skipped link)) found := by
  obtain ⟨links, addresses, routes, hlinks, -, hroutes, rfl⟩ := scan_ok h
  refine ⟨links, routes, hlinks, hroutes, ?_⟩
  rw [List.forall₂_map_right_iff, List.forall₂_same]
  intro link _
  exact describe_probesRealGateway_iff config addresses hroutes answers.stats answers.metadata link

def noMetadata : Metadata ℚ := ⟨[], none, none⟩

def oneLink (name : String) (index : UInt32) (routes : List RouteMessage) : Answers ℚ where
  links := .ok [⟨index, name, none, 1500, .up, none⟩]
  addresses := .ok []
  routes := routes.map .ok
  stats := ∅
  metadata := fun _ => noMetadata

def router : Ipv4Addr := ⟨192, 168, 1, 1⟩

def ethernetAnswers : Answers ℚ :=
  oneLink "eth0" 2 [⟨0, [.gateway (.inet router), .oif 2]⟩, ⟨24, [.oif 2]⟩]

theorem scan_probesRealGateway_iff_ethernet :
    ∃ links routes, ethernetAnswers.links = .ok links ∧
      enumerateRoutes ethernetAnswers.routes = .ok routes ∧
      List.Forall₂ (fun link interface =>
          (ProbesRealGateway defaultMonitorConfig (defaultRoutes routes link.index) interface ↔
            LastHasGateway defaultMonitorConfig (defaultRoutes routes link.index)))
        (links.filter (fun link => !skipped link))
        [describe [] [⟨some "192.168.1.1", 0, some 2⟩, ⟨none, 24, some 2⟩] ∅ (fun _ => noMetadata)
          ⟨2, "eth0", none, 1500, .up, none⟩] :=
  scan_probesRealGateway_iff defaultMonitorConfig (by rfl)

def pppAnswers : Answers ℚ := oneLink "ppp0" 3 [⟨0, [.oif 3]⟩]

/-- The only default route of a point-to-point link has no gateway: the probe
pings the empty text, and not the first configured target. -/
theorem gateway_missing_pinged :
    ∃ routes interface, enumerateRoutes pppAnswers.routes = .ok routes ∧
      scan pppAnswers = .ok [interface] ∧ pingTarget defaultMonitorConfig interface = some "" ∧
      ¬ ProbesRealGateway defaultMonitorConfig (defaultRoutes routes 3) interface := by
  refine ⟨[⟨none, 0, some 3⟩], describe [] [⟨none, 0, some 3⟩] ∅ (fun _ => noMetadata)
    ⟨3, "ppp0", none, 1500, .up, none⟩, rfl, rfl, by decide +kernel, ?_⟩
  intro h
  exact h.pinged (by decide +kernel)

end Netfusion.Core.ProbeTargets
