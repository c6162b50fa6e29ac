import Netfusion.Lib.Extremes
import Netfusion.Core.Analytics
import Netfusion.Core.Failover

namespace Netfusion.Core.Reliability

open Netfusion.Lib.Collections Netfusion.Lib.Extremes
open Netfusion.Shared.Types
open Netfusion.Core.Analytics
open Netfusion.Core.Failover (numSeconds)

structure HealthSample (F : Type) where
  timestamp : DateTime
  overall : F
  rtt : F
  jitter : F
  loss : F
  throughput : F
  stability : F

structure InterfaceAnalytics (F : Type) where
  interface : String
  windowStart : DateTime
  windowEnd : DateTime
  sampleCount : ℕ
  health : MetricStats F
  rtt : MetricStats F
  jitter : MetricStats F
  loss : MetricStats F
  throughput : MetricStats F
  stability : MetricStats F
  degradedPeriods : ℕ
  outagePeriods : ℕ
  meanTimeBetweenChanges : Option F

variable {F : Type} [Field F] [LinearOrder F]

def countBelow (limit : F) (samples : List (HealthSample F)) : ℕ :=
  samples.countP (fun s => s.overall < limit)

def intervals (samples : List (HealthSample F)) : List F :=
  List.zipWith (fun s next => ((numSeconds (next.timestamp - s.timestamp) : ℤ) : F)) samples
    samples.tail

def meanTimeBetweenChanges (samples : List (HealthSample F)) : Option F :=
  if samples.length > 1 then
    if (intervals samples).isEmpty then none
    else some ((intervals samples).sum / ((intervals samples).length : F))
  else none

/-- Without samples the window is the time it takes to say so. -/
def fromSamples [FloorSemiring F] (sqrt : F → F) (clock : DateTime × DateTime) (interface : String)
    (samples : List (HealthSample F)) : Except Panic (InterfaceAnalytics F) :=
  if samples.isEmpty then do
    let stats ← MetricStats.compute sqrt []
    .ok ⟨interface, clock.1, clock.2, 0, stats, stats, stats, stats, stats, stats, 0, 0, none⟩
  else do
    let first ← index samples 0
    let last ← index samples (samples.length - 1)
    let health ← MetricStats.compute sqrt (samples.map (·.overall))
    let rtt ← MetricStats.compute sqrt (samples.map (·.rtt))
    let jitter ← MetricStats.compute sqrt (samples.map (·.jitter))
    let loss ← MetricStats.compute sqrt (samples.map (·.loss))
    let throughput ← MetricStats.compute sqrt (samples.map (·.throughput))
    let stability ← MetricStats.compute sqrt (samples.map (·.stability))
    .ok ⟨interface, first.timestamp, last.timestamp, samples.length, health, rtt, jitter, loss,
      throughput, stability, countBelow 50.0 samples, countBelow 10.0 samples,
      meanTimeBetweenChanges samples⟩

inductive ReliabilityRating where
  | excellent | good | fair | poor | unknown
deriving DecidableEq

def rank : ReliabilityRating → ℕ
  | .excellent => 5
  | .good => 4
  | .fair => 3
  | .poor => 2
  | .unknown => 1

def rate (uptimePct outagePct : F) : ReliabilityRating :=
  if uptimePct ≥ 99.0 ∧ outagePct = 0.0 then .excellent
  else if uptimePct ≥ 95.0 ∧ outagePct < 2.0 then .good
  else if uptimePct ≥ 80.0 then .fair
  else .poor

def reliabilityRating (a : InterfaceAnalytics F) : ReliabilityRating :=
  if a.sampleCount = 0 then .unknown
  else
    let uptimePct := 100.0 - (a.degradedPeriods : F) / a.sampleCount * 100.0
    let outagePct := (a.outagePeriods : F) / a.sampleCount * 100.0
    rate uptimePct outagePct

structure PerformanceReport (F : Type) where
  interfaces : List (InterfaceAnalytics F)
  generatedAt : DateTime

def bestInterface (report : PerformanceReport F) : Option (InterfaceAnalytics F) :=
  maxBy (fun a => rank (reliabilityRating a)) report.interfaces

def problematicInterfaces (report : PerformanceReport F) : List (InterfaceAnalytics F) :=
  report.interfaces.filter (fun a =>
    reliabilityRating a = .poor ∨ reliabilityRating a = .fair)

/-- Each of the second samples scores at least what the one of the first does. -/
def NoWorse (first second : List (HealthSample F)) : Prop :=
  List.Forall₂ (fun a b => a.overall ≤ b.overall) first second

/-- No interface of the report has a better rating than the one that is returned. -/
def BestIsBest (report : PerformanceReport F) : Prop :=
  ∀ best, bestInterface report = some best → best ∈ report.interfaces ∧
    ¬ ∃ other ∈ report.interfaces, rank (reliabilityRating best) < rank (reliabilityRating other)

section

variable (uptimePct outagePct : F)

theorem two_le_rank : 2 ≤ rank (rate uptimePct outagePct) := by
  rw [rate]
  split_ifs <;> decide

theorem three_le_rank (h : uptimePct ≥ 80.0) : 3 ≤ rank (rate uptimePct outagePct) := by
  rw [rate]
  split_ifs <;> decide

theorem four_le_rank (h : uptimePct ≥ 95.0 ∧ outagePct < 2.0) :
    4 ≤ rank (rate uptimePct outagePct) := by
  rw [rate, if_pos h]
  split_ifs <;> decide

theorem five_le_rank (h : uptimePct ≥ 99.0 ∧ outagePct = 0.0) :
    5 ≤ rank (rate uptimePct outagePct) := by
  rw [rate, if_pos h]
  decide

end

omit [Field F] in
theorem countBelow_anti (limit : F) {first second : List (HealthSample F)}
    (h : NoWorse first second) : countBelow limit second ≤ countBelow limit first := by
  apply countP_le_opposite
  apply h.imp
  intro a b hab hb
  exact decide_eq_true (hab.trans_lt (of_decide_eq_true hb))

theorem rank_le_best {report : PerformanceReport F} {best : InterfaceAnalytics F}
    (h : bestInterface report = some best) :
    ∀ other ∈ report.interfaces, rank (reliabilityRating other) ≤ rank (reliabilityRating best) :=
  le_maxBy (fun a => rank (reliabilityRating a)) report.interfaces best h

theorem bestIsBest (report : PerformanceReport F) : BestIsBest report := by
  intro best h
  refine ⟨maxBy_mem _ _ _ h, ?_⟩
  rintro ⟨other, hmem, hless⟩
  exact absurd (rank_le_best h other hmem) (not_le.mpr hless)

theorem mem_problematic {report : PerformanceReport F} {a : InterfaceAnalytics F} :
    a ∈ problematicInterfaces report ↔ a ∈ report.interfaces ∧
      (reliabilityRating a = .poor ∨ reliabilityRating a = .fair) := by
  rw [problematicInterfaces, List.mem_filter, decide_eq_true_iff]

theorem problematic_iff_rank (rating : ReliabilityRating) :
    rating = .poor ∨ rating = .fair ↔ rating ≠ .unknown ∧ rank rating ≤ 3 := by
  cases rating <;> decide

theorem problematic_of_best {report : PerformanceReport F} {best : InterfaceAnalytics F}
    (h : bestInterface report = some best) (hbest : best ∈ problematicInterfaces report) :
    ∀ other ∈ report.interfaces, other.sampleCount ≠ 0 → other ∈ problematicInterfaces report := by
  intro other hmem hcount
  have hle := rank_le_best h other hmem
  have hlow := ((problematic_iff_rank _).mp (mem_problematic.mp hbest).2).2
  have hsampled : reliabilityRating other ≠ .unknown := by
    rw [reliabilityRating, if_neg hcount, rate]
    split_ifs <;> decide
  apply mem_problematic.mpr
  exact ⟨hmem, (problematic_iff_rank _).mpr ⟨hsampled, hle.trans hlow⟩⟩

variable [IsStrictOrderedRing F]

/-- Each branch of the cascade asks for what more uptime and fewer outages keep. -/
theorem rank_rate_mono {uptimePct uptimePct' outagePct outagePct' : F}
    (huptime : uptimePct ≤ uptimePct') (hpos : 0 ≤ outagePct') (houtage : outagePct' ≤ outagePct) :
    rank (rate uptimePct outagePct) ≤ rank (rate uptimePct' outagePct') := by
  have hzero : (0.0 : F) = 0 := by norm_num
  by_cases hexcellent : uptimePct ≥ 99.0 ∧ outagePct = 0.0
  · obtain ⟨hup, hout⟩ := hexcellent
    rw [rate, if_pos ⟨hup, hout⟩]
    apply five_le_rank
    rw [hout, hzero] at houtage
    rw [hzero]
    exact ⟨hup.trans huptime, le_antisymm houtage hpos⟩
  · by_cases hgood : uptimePct ≥ 95.0 ∧ outagePct < 2.0
    · rw [rate, if_neg hexcellent, if_pos hgood]
      apply four_le_rank
      exact ⟨hgood.1.trans huptime, houtage.trans_lt hgood.2⟩
    · by_cases hfair : uptimePct ≥ 80.0
      · rw [rate, if_neg hexcellent, if_neg hgood, if_pos hfair]
        apply three_le_rank
        exact hfair.trans huptime
      · rw [rate, if_neg hexcellent, if_neg hgood, if_neg hfair]
        exact two_le_rank uptimePct' outagePct'

theorem rank_mono {a b : InterfaceAnalytics F} (hcount : a.sampleCount = b.sampleCount)
    (hdegraded : b.degradedPeriods ≤ a.degradedPeriods)
    (houtage : b.outagePeriods ≤ a.outagePeriods) :
    rank (reliabilityRating a) ≤ rank (reliabilityRating b) := by
  have hdegraded' : (b.degradedPeriods : F) ≤ a.degradedPeriods := Nat.cast_le.mpr hdegraded
  have houtage' : (b.outagePeriods : F) ≤ a.outagePeriods := Nat.cast_le.mpr houtage
  have hcount' : (0 : F) ≤ b.sampleCount := Nat.cast_nonneg _
  have hhundred : (0 : F) ≤ 100.0 := by norm_num
  rw [reliabilityRating, reliabilityRating, hcount]
  split
  · exact Nat.le_refl _
  · apply rank_rate_mono
    · gcongr
    · positivity
    · gcongr

theorem compute_ok [FloorSemiring F] (sqrt : F → F) (values : List F) :
    ∃ stats, MetricStats.compute sqrt values = .ok stats := by
  by_cases h : values = []
  · subst h
    exact ⟨_, rfl⟩
  · exact ⟨_, compute_eq sqrt h⟩

theorem fromSamples_ok [FloorSemiring F] (sqrt : F → F) (clock : DateTime × DateTime)
    (interface : String) {samples : List (HealthSample F)} (h : samples ≠ []) :
    ∃ a, fromSamples sqrt clock interface samples = .ok a ∧ a.interface = interface ∧
      a.sampleCount = samples.length ∧ a.degradedPeriods = countBelow 50.0 samples ∧
      a.outagePeriods = countBelow 10.0 samples := by
  have hlength : 0 < samples.length := List.length_pos_iff.mpr h
  have hfull : ¬ samples.isEmpty = true := by
    rw [List.isEmpty_iff]
    exact h
  have hindex : ∀ i < samples.length, ∃ s, index samples i = .ok s := by
    intro i hi
    exact ⟨samples[i], by rw [index, List.getElem?_eq_getElem hi]⟩
  obtain ⟨first, hfirst⟩ := hindex 0 hlength
  obtain ⟨last, hlast⟩ := hindex (samples.length - 1) (Nat.sub_lt hlength one_pos)
  obtain ⟨health, hhealth⟩ := compute_ok sqrt (samples.map (·.overall))
  obtain ⟨rtt, hrtt⟩ := compute_ok sqrt (samples.map (·.rtt))
  obtain ⟨jitter, hjitter⟩ := compute_ok sqrt (samples.map (·.jitter))
  obtain ⟨loss, hloss⟩ := compute_ok sqrt (samples.map (·.loss))
  obtain ⟨throughput, hthroughput⟩ := compute_ok sqrt (samples.map (·.throughput))
  obtain ⟨stability, hstability⟩ := compute_ok sqrt (samples.map (·.stability))
  rw [fromSamples, if_neg hfull, hfirst, hlast, hhealth, hrtt, hjitter, hloss, hthroughput,
    hstability]
  exact ⟨_, rfl, rfl, rfl, rfl, rfl⟩

/-- Better samples are not rated worse, and no interface is the best of a
report while another one in it has a better rating. -/
theorem ratings_monotone [FloorSemiring F] (sqrt : F → F) (clock clock' : DateTime × DateTime)
    (interface interface' : String) (first second : List (HealthSample F)) (hne : first ≠ [])
    (hle : NoWorse first second) :
    (∃ a b, fromSamples sqrt clock interface first = .ok a ∧
      fromSamples sqrt clock' interface' second = .ok b ∧
      rank (reliabilityRating a) ≤ rank (reliabilityRating b)) ∧
    ∀ report : PerformanceReport F, BestIsBest report := by
  refine ⟨?_, bestIsBest⟩
  have hlength : first.length = second.length := hle.length_eq
  have hne' : second ≠ [] := by
    rintro rfl
    exact hne (List.length_eq_zero_iff.mp hlength)
  obtain ⟨a, ha, -, hcount, hdegraded, houtage⟩ := fromSamples_ok sqrt clock interface hne
  obtain ⟨b, hb, -, hcount', hdegraded', houtage'⟩ := fromSamples_ok sqrt clock' interface' hne'
  refine ⟨a, b, ha, hb, ?_⟩
  apply rank_mono
  · rw [hcount, hcount', hlength]
  · rw [hdegraded, hdegraded']
    exact countBelow_anti 50.0 hle
  · rw [houtage, houtage']
    exact countBelow_anti 10.0 hle

def makeSample (time : DateTime) (score : F) : HealthSample F :=
  ⟨time, score, 10.0, 1.0, 0.0, 100.0, 90.0⟩

theorem ratings_monotone_outage :
    (∃ a b, fromSamples Real.sqrt (0, 0) "eth0" [makeSample 0 5, makeSample 30 90] = .ok a ∧
      fromSamples Real.sqrt (0, 0) "eth1" [makeSample 0 40, makeSample 30 90] = .ok b ∧
      rank (reliabilityRating a) ≤ rank (reliabilityRating b)) ∧
    ∀ report : PerformanceReport ℝ, BestIsBest report := by
  apply ratings_monotone
  · exact List.cons_ne_nil _ _
  · apply List.Forall₂.cons
    · norm_num [makeSample]
    · exact .cons le_rfl .nil

end Netfusion.Core.Reliability
