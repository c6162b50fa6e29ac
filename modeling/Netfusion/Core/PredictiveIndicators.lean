import Netfusion.Core.PredictiveTrend

namespace Netfusion.Core.PredictiveIndicators

open Netfusion.Lib.Regression
open Netfusion.Core.Predictive Netfusion.Core.PredictiveTrend

variable {F : Type} [Field F]

def slopeOf (vs : List F) : F := lineSlope (coords (timeline 0 vs))

def meanOf (vs : List F) : F := vs.sum / vs.length

def variation (vs : List F) : F := (vs.map (fun v => (v - meanOf vs) ^ 2)).sum

def unexplained (vs : List F) : F := lineResidual (coords (timeline 0 vs))

variable [LinearOrder F]

def Steep (vs : List F) : Prop := 3 ≤ vs.length ∧ slopeOf vs < -0.01

/-- The line explains at most half of the variation. -/
def Scattered (vs : List F) : Prop := variation vs - unexplained vs ≤ unexplained vs

def Accelerates (vs : List F) : Prop :=
  10 ≤ vs.length ∧ slopeOf (vs.drop (vs.length / 2)) < slopeOf (vs.take (vs.length / 2)) ∧
    slopeOf (vs.drop (vs.length / 2)) < -0.02

/-- The last value is more than so many standard deviations from the mean. -/
def Outlier (sqrt : F → F) (k : F) (vs : List F) : Prop :=
  10 ≤ vs.length ∧ tiny ≤ sqrt (variation vs / vs.length) ∧
    ∃ last, vs.getLast? = some last ∧
      k * sqrt (variation vs / vs.length) < |last - meanOf vs|

section

omit [LinearOrder F]

theorem sumY_timeline (t : F) (vs : List F) : sumY (coords (timeline t vs)) = vs.sum := by
  induction vs generalizing t with
  | nil => rfl
  | cons v vs ih =>
    have hcons : sumY (coords (timeline t (v :: vs))) =
      v + sumY (coords (timeline (t + 5) vs)) := rfl
    rw [hcons, ih, List.sum_cons]

theorem values_timeline (t : F) (vs : List F) :
    (timeline t vs).map (fun p => p.value) = vs := by
  induction vs generalizing t with
  | nil => rfl
  | cons v vs ih => exact congrArg (v :: ·) (ih (t + 5))

theorem coords_length (t : F) (vs : List F) : (coords (timeline t vs)).length = vs.length := by
  rw [coords, List.length_map, timeline_length]

theorem coords_timeline (t : F) (vs : List F) :
    coords (timeline t vs) = translateX t (coords (timeline 0 vs)) := by
  rw [← coords_shift, ← timeline_shift, zero_add]

theorem slope_timeline (t : F) (vs : List F) :
    lineSlope (coords (timeline t vs)) = slopeOf vs := by
  rw [coords_timeline, lineSlope_translateX, slopeOf]

theorem unexplained_timeline (t : F) {vs : List F} (h : (vs.length : F) ≠ 0) :
    lineResidual (coords (timeline t vs)) = unexplained vs := by
  rw [coords_timeline, lineResidual_translateX, unexplained]
  rwa [coords_length]

end

omit [LinearOrder F] in
theorem flat_timeline (t : F) (vs : List F) :
    residualOf 0 (sumY (coords (timeline t vs)) / vs.length) (coords (timeline t vs)) =
      variation vs := by
  have hvalues : (coords (timeline t vs)).map Prod.snd = vs := by
    rw [coords, List.map_map]
    exact values_timeline t vs
  have hmean : sumY (coords (timeline t vs)) / vs.length = meanOf vs := by
    rw [sumY_timeline, meanOf]
  rw [hmean, residualOf, variation]
  simp only [zero_mul, zero_add]
  rw [← hvalues, List.map_map, hvalues]
  rfl

section

variable [IsStrictOrderedRing F] {vs : List F}

theorem hundredth : (0.01 : F) = 1 / 100 := by norm_num

theorem spread_timeline (t : F) (h : 2 ≤ vs.length) :
    vs.length * (5 / 2) ^ 2 ≤ spreadX (coords (timeline t vs)) := by
  have hpair : ∃ v v' rest, vs = v :: v' :: rest := by
    match vs, h with
    | v :: v' :: rest, _ => exact ⟨v, v', rest, rfl⟩
  obtain ⟨v, v', rest, rfl⟩ := hpair
  have hfirst : (t, v) ∈ coords (timeline t (v :: v' :: rest)) := List.mem_cons_self
  have hsecond : (t + 5, v') ∈ coords (timeline t (v :: v' :: rest)) :=
    List.mem_cons_of_mem _ List.mem_cons_self
  have hspread := spreadX_ge hfirst hsecond (d := 5) (by norm_num)
    (by norm_num [sub_add_cancel_left])
  rwa [coords_length] at hspread

theorem tiny_le_spread (t : F) (h : 2 ≤ vs.length) : tiny ≤ spreadX (coords (timeline t vs)) := by
  have hlength : (1 : F) ≤ vs.length := by exact_mod_cast (by omega : 1 ≤ vs.length)
  have htiny : (tiny : F) ≤ 1 * (5 / 2) ^ 2 := by
    rw [tiny]
    norm_num
  exact htiny.trans
    ((mul_le_mul_of_nonneg_right hlength (by positivity)).trans (spread_timeline t h))

theorem linearRegression_timeline (t : F) (h : 3 ≤ vs.length) :
    ∃ reg, linearRegression (timeline t vs) = some reg ∧ reg.slope = slopeOf vs ∧
      reg.rSquared = if |variation vs| < tiny then 1 else 1 - unexplained vs / variation vs := by
  have hspread := tiny_le_spread t (by omega : 2 ≤ vs.length)
  have hpos := tiny_pos.trans_le hspread
  have hcount : (vs.length : F) ≠ 0 := Nat.cast_ne_zero.mpr (by omega)
  have hflat := flat_timeline t vs
  rw [← squaredResiduals_eq, squaredResiduals] at hflat
  simp only [zero_mul, zero_add] at hflat
  rw [linearRegression_eq, timeline_length, if_neg]
  · dsimp only
    rw [hflat, unexplained_timeline t hcount]
    exact ⟨_, rfl, slope_timeline t vs, rfl⟩
  · rw [not_or, not_lt, not_lt, abs_of_pos hpos]
    exact ⟨h, hspread⟩

theorem variation_ge (h : Steep vs) : tiny ≤ variation vs := by
  obtain ⟨hlength, hslope⟩ := h
  have hcount : (0 : F) < vs.length := Nat.cast_pos.mpr (by omega)
  have hspread := spread_timeline 0 (by omega : 2 ≤ vs.length)
  have hwide : ((5 : F) / 2) ^ 2 ≤ spreadX (coords (timeline 0 vs)) / vs.length := by
    rwa [le_div_iff₀ hcount, mul_comm]
  have hne : ((coords (timeline 0 vs)).length : F) ≠ 0 := by
    rw [coords_length]
    exact hcount.ne'
  have hflat := residualOf_flat hne (tiny_pos.trans_le (tiny_le_spread 0 (by omega))).ne'
  rw [coords_length, flat_timeline] at hflat
  have hsteep : (1 / 100 : F) ^ 2 ≤ slopeOf vs ^ 2 := by
    rw [← neg_sq (slopeOf vs)]
    exact pow_le_pow_left₀ (by norm_num) (by linarith) 2
  have hexplained : (1 / 100 : F) ^ 2 * (5 / 2) ^ 2 ≤
      slopeOf vs ^ 2 * (spreadX (coords (timeline 0 vs)) / vs.length) :=
    mul_le_mul hsteep hwide (by positivity) (by positivity)
  have hleft : 0 ≤ lineResidual (coords (timeline 0 vs)) := residualOf_nonneg _ _
  have htiny : (tiny : F) ≤ (1 / 100) ^ 2 * (5 / 2) ^ 2 := by
    rw [tiny]
    norm_num
  rw [slopeOf] at hexplained
  linarith

theorem analyzeTrend_timeline (t : F) (vs : List F) :
    ((analyzeTrend (timeline t vs)).isDegrading = true ↔ Steep vs ∧ ¬ Scattered vs) ∧
      ((analyzeTrend (timeline t vs)).timeToCritical = none ↔ ¬ Steep vs) ∧
      ((analyzeTrend (timeline t vs)).isDegrading = true →
        1 / 2 < (analyzeTrend (timeline t vs)).rSquared ∧
          (analyzeTrend (timeline t vs)).rSquared ≤ 1) := by
  by_cases hlength : 3 ≤ vs.length
  · obtain ⟨reg, hreg, hslope, hfit⟩ := linearRegression_timeline t hlength
    have hrange := (linearRegression_cases hreg).2.2.2.2.2
    have hsteep : Steep vs ↔ reg.slope < -(1 / 100) := by
      rw [Steep, hslope, hundredth]
      exact and_iff_right hlength
    have hscattered : Steep vs → (1 / 2 < reg.rSquared ↔ ¬ Scattered vs) := by
      intro h
      have hge := variation_ge h
      have hpos := tiny_pos.trans_le hge
      rw [hfit, if_neg (not_lt.mpr (hge.trans (le_abs_self _))), Scattered, not_le,
        lt_sub_comm, div_lt_iff₀ hpos]
      constructor <;> intro hless <;> linarith
    rw [analyzeTrend, hreg]
    dsimp only
    rw [decide_eq_true_eq, hsteep, gt_iff_lt]
    refine ⟨?_, ?_, fun h => ⟨h.2, hrange⟩⟩
    · exact and_congr_right (fun h => hscattered (hsteep.mpr h))
    · split
      · rename_i hdown
        exact iff_of_false (by split <;> simp) (not_not.mpr hdown)
      · rename_i hflat
        exact iff_of_true rfl hflat
  · have hnone : linearRegression (timeline t vs) = none := by
      rw [linearRegression_eq, timeline_length, if_pos (.inl (not_le.mp hlength))]
    have hflat : ¬ Steep vs := fun h => hlength h.1
    rw [analyzeTrend, hnone]
    simp [hflat]

end

omit [LinearOrder F] in
theorem timeline_take (t : F) (k : ℕ) (vs : List F) :
    (timeline t vs).take k = timeline t (vs.take k) := by
  induction k generalizing t vs with
  | zero => rfl
  | succ k ih =>
    cases vs with
    | nil => rfl
    | cons v vs => exact congrArg (⟨t, v⟩ :: ·) (ih (t + 5) vs)

theorem detectAcceleration_timeline [IsStrictOrderedRing F] (t : F) (vs : List F) :
    detectAcceleration (timeline t vs) = true ↔ Accelerates vs := by
  rw [detectAcceleration, timeline_length, Accelerates]
  by_cases hlength : vs.length < 10
  · rw [if_pos hlength]
    simp [not_le.mpr hlength]
  · obtain ⟨u, hdrop⟩ := timeline_drop t (vs.length / 2) vs
    have hfirst : 3 ≤ (vs.take (vs.length / 2)).length := by
      rw [List.length_take]
      omega
    have hsecond : 3 ≤ (vs.drop (vs.length / 2)).length := by
      rw [List.length_drop]
      omega
    obtain ⟨r₁, hr₁, hs₁, -⟩ := linearRegression_timeline t hfirst
    obtain ⟨r₂, hr₂, hs₂, -⟩ := linearRegression_timeline u hsecond
    rw [if_neg hlength]
    dsimp only
    rw [timeline_take, hdrop, hr₁, hr₂]
    dsimp only
    have hsteep : (0.02 : F) = 2 / 100 := by norm_num
    rw [decide_eq_true_eq, hs₁, hs₂, hsteep]
    exact (and_iff_right (not_lt.mp hlength)).symm

theorem detectAnomalies_timeline [IsStrictOrderedRing F] (sqrt : F → F) (t : F) (vs : List F) {k : F}
    (hk : 2 ≤ k) : k < detectAnomalies sqrt (timeline t vs) ↔ Outlier sqrt k vs := by
  have hpos : (0 : F) < k := lt_of_lt_of_le (by norm_num) hk
  rw [detectAnomalies, timeline_length, Outlier]
  by_cases hlength : vs.length < 10
  · rw [if_pos hlength]
    simp [not_le.mpr hlength, hpos.le]
  · rw [if_neg hlength, values_timeline]
    have hne : vs ≠ [] := by
      rintro rfl
      simp at hlength
    dsimp only
    rw [List.getLast?_eq_some_getLast hne]
    dsimp only
    have hsd : sqrt ((vs.map (fun v => (v - vs.sum / vs.length) ^ 2)).sum / vs.length) =
        sqrt (variation vs / vs.length) := rfl
    rw [hsd, zScore]
    by_cases hspread : sqrt (variation vs / vs.length) < tiny
    · rw [if_pos hspread, abs_zero, if_neg (by norm_num)]
      exact iff_of_false (not_lt.mpr hpos.le) (fun h => absurd hspread (not_lt.mpr h.2.1))
    · have hdev := tiny_pos.trans_le (not_lt.mp hspread)
      have hscore : k < |vs.getLast hne - meanOf vs| / sqrt (variation vs / vs.length) ↔
          k * sqrt (variation vs / vs.length) < |vs.getLast hne - meanOf vs| := lt_div_iff₀ hdev
      have hall : (10 ≤ vs.length ∧ tiny ≤ sqrt (variation vs / vs.length) ∧
          ∃ last, some (vs.getLast hne) = some last ∧
            k * sqrt (variation vs / vs.length) < |last - meanOf vs|) ↔
          k < |vs.getLast hne - meanOf vs| / sqrt (variation vs / vs.length) := by
        rw [hscore]
        simp [not_lt.mp hlength, not_lt.mp hspread]
      rw [if_neg hspread, abs_div, abs_of_pos hdev, ← meanOf, hall]
      split
      · exact Iff.rfl
      · rename_i hnear
        exact iff_of_false (not_lt.mpr hpos.le)
          (fun h => hnear (lt_of_le_of_lt hk h))

end Netfusion.Core.PredictiveIndicators
