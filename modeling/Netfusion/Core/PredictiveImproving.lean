import Netfusion.Core.PredictiveCoherence
import Netfusion.Lib.Averages

namespace Netfusion.Core.PredictiveImproving

open Netfusion.Lib.Averages Netfusion.Lib.Regression
open Netfusion.Core.Predictive Netfusion.Core.PredictiveTrend Netfusion.Core.PredictiveIndicators
open Netfusion.Core.PredictiveCoherence

variable {F : Type} [Field F] [LinearOrder F]

/-- The last of ten values or more is more than three standard deviations above
their mean. -/
def Jumps (sqrt : F → F) (vs : List F) : Prop :=
  10 ≤ vs.length ∧ tiny ≤ sqrt (variation vs / vs.length) ∧
    ∃ last, vs.getLast? = some last ∧
      meanOf vs + 3.0 * sqrt (variation vs / vs.length) < last

section

variable [IsStrictOrderedRing F] {vs : List F}

theorem timeline_time_ge (t : F) (vs : List F) {p : DataPoint F} (hp : p ∈ timeline t vs) :
    t ≤ p.time ∧ p.value ∈ vs := by
  induction vs generalizing t with
  | nil => cases hp
  | cons v vs ih =>
    rcases List.mem_cons.mp hp with rfl | hp
    · exact ⟨le_rfl, List.mem_cons_self⟩
    · obtain ⟨htime, hvalue⟩ := ih (t + 5) hp
      exact ⟨by linarith, List.mem_cons_of_mem v hvalue⟩

variable (h : vs.Pairwise (· ≤ ·))

include h

theorem coords_pairwise (t : F) :
    (coords (timeline t vs)).Pairwise (fun p q => p.1 ≤ q.1 ∧ p.2 ≤ q.2) := by
  induction vs generalizing t with
  | nil => exact .nil
  | cons v vs ih =>
    obtain ⟨hfirst, hrest⟩ := List.pairwise_cons.mp h
    apply List.pairwise_cons.mpr
    refine ⟨?_, ih hrest (t + 5)⟩
    intro q hq
    obtain ⟨p, hp, rfl⟩ := List.mem_map.mp hq
    obtain ⟨htime, hvalue⟩ := timeline_time_ge (t + 5) vs hp
    exact ⟨by dsimp only; linarith, hfirst p.value hvalue⟩

theorem slopeOf_nonneg (hlength : 2 ≤ vs.length) : 0 ≤ slopeOf vs :=
  lineSlope_nonneg (coords_pairwise h 0) (tiny_pos.trans_le (tiny_le_spread 0 hlength)).le

theorem not_steep : ¬ Steep vs := by
  intro ⟨hlength, hslope⟩
  have hnonneg := slopeOf_nonneg h (by omega)
  linarith

theorem not_accelerates : ¬ Accelerates vs := by
  intro ⟨hlength, _, hslope⟩
  have hnonneg := slopeOf_nonneg (h.drop (i := vs.length / 2)) (by
    rw [List.length_drop]
    omega)
  linarith

theorem meanOf_le {last : F} (hlast : vs.getLast? = some last) : meanOf vs ≤ last := by
  obtain ⟨init, rfl⟩ := List.getLast?_eq_some_iff.mp hlast
  apply mean_le (by simp)
  intro v hv
  rcases List.mem_append.mp hv with hv | hv
  · exact (List.pairwise_append.mp h).2.2 v hv last (List.mem_singleton_self last)
  · exact (List.mem_singleton.mp hv).le

theorem outlier_iff_jumps (sqrt : F → F) : Outlier sqrt 3 vs ↔ Jumps sqrt vs := by
  have habove : ∀ last, vs.getLast? = some last →
      (3 * sqrt (variation vs / vs.length) < |last - meanOf vs| ↔
        meanOf vs + 3 * sqrt (variation vs / vs.length) < last) := by
    intro last hlast
    rw [abs_of_nonneg (sub_nonneg.mpr (meanOf_le h hlast)), lt_sub_iff_add_lt']
  have hthree : (3.0 : F) = 3 := by norm_num
  rw [Outlier, Jumps, hthree]
  apply and_congr_right
  intro _
  apply and_congr_right
  intro _
  exact exists_congr (fun last => and_congr_right (habove last))

end

/-- Of values that never fall only a jump at the end is noticed. -/
theorem analyzePoints_improving [IsStrictOrderedRing F] (sqrt : F → F)
    (minSamples recentWindow : UInt64) (interface : String) (t : F) {vs : List F}
    (h : vs.Pairwise (· ≤ ·)) :
    let p := analyzePoints sqrt (PredictiveEngine.new minSamples recentWindow) interface
      (timeline t vs)
    (¬ (minSamples.toNat ≤ vs.length ∧ Jumps sqrt vs) → p = stable interface) ∧
      (minSamples.toNat ≤ vs.length ∧ Jumps sqrt vs →
        p = ⟨interface, none, 4 / 10, .medium, .anomaly⟩) := by
  dsimp only
  rw [analyzePoints, timeline_length]
  by_cases hfew : vs.length < minSamples.toNat
  · rw [PredictiveEngine.new, if_pos hfew]
    exact ⟨fun _ => rfl, fun hjump => absurd hjump.1 (not_le.mpr hfew)⟩
  · obtain ⟨u, hrecent⟩ := timeline_recent t recentWindow.toNat vs
    have hrising : (vs.rtake recentWindow.toNat).Pairwise (· ≤ ·) := h.drop
    obtain ⟨hdegrading, htime, -⟩ := analyzeTrend_timeline u (vs.rtake recentWindow.toNat)
    have haccelerating := detectAcceleration_timeline u (vs.rtake recentWindow.toNat)
    have hanomaly := detectAnomalies_timeline sqrt t vs (k := 3) (by norm_num)
    have hflat := not_steep hrising
    have hsteady := not_accelerates hrising
    rw [outlier_iff_jumps h] at hanomaly
    have hdegrading' : (analyzeTrend (timeline u (vs.rtake recentWindow.toNat))).isDegrading =
        false := Bool.eq_false_iff.mpr (fun hd => hflat (hdegrading.mp hd).1)
    have haccelerating' : detectAcceleration (timeline u (vs.rtake recentWindow.toNat)) = false :=
      Bool.eq_false_iff.mpr (fun ha => hsteady (haccelerating.mp ha))
    rw [PredictiveEngine.new, if_neg hfew]
    dsimp only
    rw [hrecent]
    constructor
    · intro hquiet
      have hnone : ¬ 3 < detectAnomalies sqrt (timeline t vs) :=
        fun ha => hquiet ⟨not_lt.mp hfew, hanomaly.mp ha⟩
      rw [combineIndicators_quiet interface hdegrading' haccelerating' hnone, htime.mpr hflat]
      rfl
    · rintro ⟨-, hjump⟩
      rw [combineIndicators_anomaly interface hdegrading' haccelerating' (hanomaly.mpr hjump),
        htime.mpr hflat]

/-- Kept readings that never fall are found stable, except that a jump at the
end is an anomaly. -/
theorem analyze_improving [IsStrictOrderedRing F] (sqrt : F → F) (checks : Bool)
    (minSamples recentWindow : UInt64) (readings : List (String × F)) (interface : String)
    (e : PredictiveEngine F)
    (h : feed checks (PredictiveEngine.new minSamples recentWindow) readings = .ok e)
    (hrising : (keptValues recentWindow readings interface).Pairwise (· ≤ ·)) :
    let kept := keptValues recentWindow readings interface
    (¬ (minSamples.toNat ≤ kept.length ∧ Jumps sqrt kept) →
        analyze sqrt e interface = stable interface) ∧
      (minSamples.toNat ≤ kept.length ∧ Jumps sqrt kept →
        analyze sqrt e interface = ⟨interface, none, 4 / 10, .medium, .anomaly⟩) := by
  rw [analyze_kept sqrt interface h]
  exact analyzePoints_improving sqrt minSamples recentWindow interface 0 hrising

/-- A link at 50 for a while that then gets better. -/
def recoveringLink : List (String × ℝ) :=
  List.replicate 10 ("eth0", 50.0) ++ [("eth0", 61.0)]

theorem values_recovering : values (readingsOf "eth0" recoveringLink) =
    [50, 50, 50, 50, 50, 50, 50, 50, 50, 50, 61] := by
  norm_num [recoveringLink, readingsOf, values, List.replicate]

theorem keptValues_recovering : keptValues 10 recoveringLink "eth0" =
    [50, 50, 50, 50, 50, 50, 50, 50, 50, 50, 61] := by
  rw [keptValues, values_recovering]
  rfl

theorem rising_recovering :
    ([50, 50, 50, 50, 50, 50, 50, 50, 50, 50, 61] : List ℝ).Pairwise (· ≤ ·) := by
  norm_num

theorem analyze_improving_recovering :
    ∃ e, feed true (PredictiveEngine.new 5 10) recoveringLink = .ok e ∧
      let kept := keptValues 10 recoveringLink "eth0"
      (¬ ((5 : UInt64).toNat ≤ kept.length ∧ Jumps Real.sqrt kept) →
          analyze Real.sqrt e "eth0" = stable "eth0") ∧
        ((5 : UInt64).toNat ≤ kept.length ∧ Jumps Real.sqrt kept →
          analyze Real.sqrt e "eth0" = ⟨"eth0", none, 4 / 10, .medium, .anomaly⟩) := by
  have hlimit : historyLimit true 10 = .ok 40 := by decide
  obtain ⟨e, he, -⟩ := feed_retains 5 hlimit recoveringLink
  exact ⟨e, he, analyze_improving Real.sqrt true 5 10 recoveringLink "eth0" e he
    (keptValues_recovering ▸ rising_recovering)⟩

theorem jumps_recovering :
    Jumps Real.sqrt ([50, 50, 50, 50, 50, 50, 50, 50, 50, 50, 61] : List ℝ) := by
  have hmean : meanOf ([50, 50, 50, 50, 50, 50, 50, 50, 50, 50, 61] : List ℝ) = 51 := by
    norm_num [meanOf]
  have hvariance : variation ([50, 50, 50, 50, 50, 50, 50, 50, 50, 50, 61] : List ℝ) /
      ([50, 50, 50, 50, 50, 50, 50, 50, 50, 50, 61] : List ℝ).length = 10 := by
    norm_num [variation, hmean]
  have hthree : (3 : ℝ) ≤ Real.sqrt 10 := Real.le_sqrt_of_sq_le (by norm_num)
  have hten : Real.sqrt 10 < 10 / 3 := by
    rw [Real.sqrt_lt' (by norm_num)]
    norm_num
  rw [Jumps, hmean, hvariance]
  refine ⟨by decide, ?_, 61, rfl, ?_⟩
  · rw [tiny]
    linarith
  · linarith

/-- The link only gets better, and a failure is predicted. -/
theorem recovering_predicted : ∃ e,
    feed true (PredictiveEngine.new 5 10) recoveringLink = .ok e ∧
      (values (readingsOf "eth0" recoveringLink)).Pairwise (· ≤ ·) ∧
      (analyze Real.sqrt e "eth0").severity ≠ .none ∧
      (analyze Real.sqrt e "eth0").reason ≠ .stable := by
  have hlimit : historyLimit true 10 = .ok 40 := by decide
  obtain ⟨e, he, -⟩ := feed_retains 5 hlimit recoveringLink
  have hanomaly := (analyzePoints_improving Real.sqrt 5 10 "eth0" 0 rising_recovering).2
    ⟨by decide, jumps_recovering⟩
  refine ⟨e, he, values_recovering ▸ rising_recovering, ?_⟩
  rw [analyze_kept Real.sqrt "eth0" he, keptValues_recovering, hanomaly]
  exact ⟨by decide, by decide⟩

end Netfusion.Core.PredictiveImproving
