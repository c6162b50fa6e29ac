import Mathlib.Tactic.NormNum
import Netfusion.Lib.Machine
import Netfusion.Lib.Collections
import Netfusion.Core.Health

namespace Netfusion.Core.Monitoring

open Netfusion.Lib.Machine Netfusion.Lib.Collections
open Netfusion.Shared.Config Netfusion.Shared.Types
open Netfusion.Core.Health

structure MonitorConfig where
  probeInterval : Nat
  pingTargets : List String
  emaAlpha : ℚ
  hysteresisThreshold : UInt8
  pingTimeout : Nat

structure ProbeResult (F : Type) where
  interface : String
  rttMs : F
  jitterMs : F
  lossPercent : F
  throughputMbps : F
  stateChanges : UInt32
  timestamp : DateTime

structure HealthUpdate (F : Type) where
  interface : String
  previousScore : F
  newScore : HealthScore F
  smoothedScore : HealthScore F
  failoverCandidate : Bool
  probe : ProbeResult F

abbrev ProbeAnswer := Except Panic (Option (HealthUpdate ℚ))

/-- Whether the build checks byte additions for overflow is part of the
monitor, since every score it computes depends on it. -/
structure HealthMonitor where
  overflowChecks : Bool
  config : MonitorConfig
  weights : HealthWeightsConfig
  previousScores : HashMap String (HealthScore ℚ)

def HealthMonitor.new (overflowChecks : Bool) (config : MonitorConfig) (weights : HealthWeights) :
    HealthMonitor where
  overflowChecks := overflowChecks
  config := config
  weights := ⟨weights.rtt, weights.jitter, weights.loss, weights.throughput, weights.stability⟩
  previousScores := ∅

def rawScore (m : HealthMonitor) (now : DateTime) (probe : ProbeResult ℚ) :
    Except Panic (HealthScore ℚ) :=
  computeHealth m.overflowChecks now probe.rttMs probe.jitterMs probe.lossPercent
    probe.throughputMbps probe.stateChanges m.weights

def smooth (m : HealthMonitor) (now : DateTime) (name : String) (raw : HealthScore ℚ) :
    HealthScore ℚ :=
  match m.previousScores.lookup name with
  | some prev => ema raw prev m.config.emaAlpha now
  | none => raw

/-- `probe` is what the probe of the interface returned. A panic in the score
computation leaves the monitor as it was. -/
def probeInterface (m : HealthMonitor) (interface : InterfaceInfo ℚ)
    (probe : Option (ProbeResult ℚ)) (now : DateTime) : ProbeAnswer × HealthMonitor :=
  if interface.linkState ≠ .up then (.ok none, m)
  else match probe with
    | none => (.ok none, m)
    | some probe =>
      match rawScore m now probe with
      | .error panic => (.error panic, m)
      | .ok raw =>
        let smoothed := smooth m now interface.name raw
        let m := { m with previousScores := m.previousScores.insert interface.name smoothed }
        let failoverCandidate := match m.previousScores.lookup interface.name with
          | some prev => exceedsHysteresis smoothed prev m.config.hysteresisThreshold
          | none => false
        (.ok (some {
          interface := interface.name
          previousScore := smoothed.overall
          newScore := raw
          smoothedScore := smoothed
          failoverCandidate := failoverCandidate
          probe := probe }), m)

structure ProbeCall where
  interface : InterfaceInfo ℚ
  probe : Option (ProbeResult ℚ)
  now : DateTime

def probeStep (m : HealthMonitor) (c : ProbeCall) :
    ProbeAnswer × HealthMonitor :=
  probeInterface m c.interface c.probe c.now

def emitted : ProbeAnswer → Option (HealthUpdate ℚ)
  | .ok u => u
  | .error _ => none

def lastUpdate (name : String) (os : List ProbeAnswer) : Option (HealthUpdate ℚ) :=
  ((os.filterMap emitted).filter (fun u => u.interface = name)).getLast?

theorem lastUpdate_concat (name : String) (os : List ProbeAnswer) (o : ProbeAnswer) :
    lastUpdate name (os ++ [o]) =
      match emitted o with
      | some u => if u.interface = name then some u else lastUpdate name os
      | none => lastUpdate name os := by
  rw [lastUpdate, lastUpdate]
  cases h : emitted o with
  | none => simp [h]
  | some u =>
    by_cases hu : u.interface = name
    · simp [h, hu]
    · simp [h, hu]

/-- All that a call can do: either it returns no update and changes nothing,
or it stores the smoothed score and returns it, as its own previous score and
never as a candidate for failover. -/
theorem probeInterface_cases (m : HealthMonitor) (interface : InterfaceInfo ℚ)
    (probe : Option (ProbeResult ℚ)) (now : DateTime) :
    (emitted (probeInterface m interface probe now).1 = none ∧
      (probeInterface m interface probe now).2 = m) ∨
    ∃ p raw, interface.linkState = .up ∧ probe = some p ∧ rawScore m now p = .ok raw ∧
      probeInterface m interface probe now =
        (.ok (some ⟨interface.name, (smooth m now interface.name raw).overall, raw,
          smooth m now interface.name raw, false, p⟩),
        { m with previousScores :=
            m.previousScores.insert interface.name (smooth m now interface.name raw) }) := by
  by_cases hup : interface.linkState = .up
  · cases probe with
    | none => exact .inl (by simp [probeInterface, hup, emitted])
    | some p =>
      cases hraw : rawScore m now p with
      | error panic => exact .inl (by simp [probeInterface, hup, hraw, emitted])
      | ok raw =>
        refine .inr ⟨p, raw, hup, rfl, hraw, ?_⟩
        simp [probeInterface, hup, hraw, not_exceedsHysteresis_self]
  · exact .inl (by simp [probeInterface, hup, emitted])

def Remembers (os : List ProbeAnswer) (m : HealthMonitor) : Prop :=
  ∀ name, m.previousScores.lookup name = (lastUpdate name os).map (·.smoothedScore)

theorem remembers_step (os : List ProbeAnswer) (m : HealthMonitor)
    (c : ProbeCall) (h : Remembers os m) :
    Remembers (os ++ [(probeStep m c).1]) (probeStep m c).2 := by
  intro name
  rw [lastUpdate_concat]
  obtain ⟨hnone, hm⟩ | ⟨p, raw, -, -, -, hstep⟩ :=
    probeInterface_cases m c.interface c.probe c.now
  · rw [probeStep, hnone, hm]
    exact h name
  · rw [probeStep, hstep]
    simp only [emitted, lookup_insert_eq, eq_comm (a := name)]
    split
    · rfl
    · exact h name

theorem remembers_run (m : HealthMonitor) (h : m.previousScores = ∅) (cs : List ProbeCall) :
    Remembers (outputs probeStep m cs) (run probeStep m cs) := by
  apply run_always _ remembers_step
  intro name
  rw [h]
  rfl

/-- What an update owes to the update before it for the same interface. -/
def ReportsChange (threshold : UInt8) (last : Option (HealthUpdate ℚ)) (u : HealthUpdate ℚ) :
    Prop :=
  match last with
  | none => u.failoverCandidate = false
  | some v => u.previousScore = v.smoothedScore.overall ∧
      (u.failoverCandidate = true ↔
        |u.smoothedScore.overall - v.smoothedScore.overall| > threshold.toNat)

def Unmoving (os : List ProbeAnswer) (m : HealthMonitor) (c : ProbeCall) : Prop :=
  c.interface.linkState = .up → ∀ v ∈ lastUpdate c.interface.name os, ∀ p ∈ c.probe, ∀ raw,
    rawScore m c.now p = .ok raw →
      m.config.emaAlpha ≤ 0 ∨ raw.overall = v.smoothedScore.overall

def CallReports (os : List ProbeAnswer) (m : HealthMonitor) (c : ProbeCall) : Prop :=
  ∀ u, emitted (probeStep m c).1 = some u →
    ReportsChange m.config.hysteresisThreshold (lastUpdate c.interface.name os) u

theorem smooth_eq_ema (os : List ProbeAnswer) (m : HealthMonitor)
    (h : Remembers os m) (now : DateTime) (name : String) (v : HealthUpdate ℚ)
    (hv : lastUpdate name os = some v) (raw : HealthScore ℚ) :
    smooth m now name raw = ema raw v.smoothedScore m.config.emaAlpha now := by
  simp [smooth, h name, hv]

/-- An update carries its own score as the previous one, so it reports the
change exactly when there is none to report. -/
theorem callReports_iff (os : List ProbeAnswer) (m : HealthMonitor)
    (h : Remembers os m) (c : ProbeCall) : CallReports os m c ↔ Unmoving os m c := by
  rw [CallReports, Unmoving, probeStep]
  obtain ⟨hnone, -⟩ | ⟨p, raw, hup, hp, hraw, hstep⟩ :=
    probeInterface_cases m c.interface c.probe c.now
  · rw [hnone]
    apply iff_of_true (fun u hu => by cases hu)
    intro hup v _ p hp raw hraw
    simp [probeInterface, hup, Option.mem_def.mp hp, hraw, emitted] at hnone
  · rw [hstep]
    simp only [emitted, Option.some.injEq, forall_eq', hup, hp, forall_const, Option.mem_def,
      hraw, Except.ok.injEq]
    cases hv : lastUpdate c.interface.name os with
    | none => simp [ReportsChange]
    | some v =>
      simp only [ReportsChange, Option.some.injEq, forall_eq', Bool.false_eq_true, false_iff,
        smooth_eq_ema os m h c.now c.interface.name v hv, ema_overall_eq_iff]
      refine ⟨And.left, fun hstill => ⟨hstill, ?_⟩⟩
      rw [(ema_overall_eq_iff raw v.smoothedScore m.config.emaAlpha c.now).mpr hstill]
      simp

/-- Every update of a run reports the change of its interface's score exactly
when no call of the run changes one. -/
theorem updates_report_changes_iff (overflowChecks : Bool) (config : MonitorConfig)
    (weights : HealthWeights) (cs : List ProbeCall) :
    EachStep probeStep (HealthMonitor.new overflowChecks config weights) cs CallReports ↔
      EachStep probeStep (HealthMonitor.new overflowChecks config weights) cs Unmoving := by
  constructor
  · intro h pre c post he
    exact (callReports_iff _ _ (remembers_run _ rfl pre) c).mp (h pre c post he)
  · intro h pre c post he
    exact (callReports_iff _ _ (remembers_run _ rfl pre) c).mpr (h pre c post he)

def bareInterface (name : String) (linkState : LinkState) : InterfaceInfo ℚ :=
  ⟨name, .ethernet, none, none, none, none, 1500, [], none, [], linkState, true, false, none, none,
    ⟨0, 0, 0, 0, 0, 0, 0, 0⟩, none, none⟩

def defaultMonitorConfig : MonitorConfig :=
  ⟨5 * 10 ^ 9, ["8.8.8.8", "1.1.1.1"], 3 / 10, 15, 2 * 10 ^ 9⟩

/-- A fresh monitor has no throughput to report yet. -/
def probeCall (name : String) (rttMs lossPercent : ℚ) : ProbeCall :=
  ⟨bareInterface name .up, some ⟨name, rttMs, 1, lossPercent, 0, 0, 0⟩, 0⟩

/-- A fall from 85 to 68.5 is reported as no fall at all. -/
theorem drop_not_reported :
    ¬ EachStep probeStep (HealthMonitor.new true defaultMonitorConfig HealthWeights.default)
      [probeCall "eth0" 5 0, probeCall "eth0" 999 100] CallReports := by
  intro h
  have hlast : (lastUpdate "eth0" (outputs probeStep
      (HealthMonitor.new true defaultMonitorConfig HealthWeights.default)
      [probeCall "eth0" 5 0])).map (·.smoothedScore.overall) = some 85 := by decide +kernel
  have hnext : (emitted (probeStep (run probeStep
      (HealthMonitor.new true defaultMonitorConfig HealthWeights.default)
      [probeCall "eth0" 5 0]) (probeCall "eth0" 999 100)).1).map (·.previousScore) =
      some (137 / 2) := by decide +kernel
  obtain ⟨v, hv, hvs⟩ := Option.map_eq_some_iff.mp hlast
  obtain ⟨u, hu, hus⟩ := Option.map_eq_some_iff.mp hnext
  have hrep := h [probeCall "eth0" 5 0] (probeCall "eth0" 999 100) [] rfl u hu
  have hname : (probeCall "eth0" 999 100).interface.name = "eth0" := rfl
  rw [hname, hv] at hrep
  have heq : (137 / 2 : ℚ) = 85 := hus.symm.trans (hrep.1.trans hvs)
  norm_num at heq

end Netfusion.Core.Monitoring
