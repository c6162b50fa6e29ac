import Netfusion.Core.Predictive

namespace Netfusion.Core.PredictiveTrend

open Netfusion.Lib.Regression
open Netfusion.Core.Predictive

variable {F : Type} [Field F] [LinearOrder F]

def RegressionResult.line (reg : RegressionResult F) (time : F) : F :=
  reg.slope * time + reg.intercept

def squaredResiduals (points : List (DataPoint F)) (slope intercept : F) : F :=
  (points.map (fun p => (p.value - (slope * p.time + intercept)) ^ 2)).sum

omit [LinearOrder F] in
theorem squaredResiduals_eq (points : List (DataPoint F)) (slope intercept : F) :
    squaredResiduals points slope intercept = residualOf slope intercept (coords points) := by
  rw [squaredResiduals, residualOf, coords, List.map_map]
  rfl

section

variable [IsStrictOrderedRing F] {points : List (DataPoint F)}

theorem tiny_pos : (0 : F) < tiny := by
  rw [tiny]
  positivity

theorem spreadX_coords {p q : DataPoint F} (hp : p ∈ points) (hq : q ∈ points)
    (h : 1 ≤ |p.time - q.time|) : tiny ≤ spreadX (coords points) := by
  have hspread := spreadX_ge (List.mem_map_of_mem (f := fun p : DataPoint F => (p.time, p.value)) hp)
    (List.mem_map_of_mem (f := fun p : DataPoint F => (p.time, p.value)) hq) zero_le_one h
  have hlength : (1 : F) ≤ (points.map (fun p : DataPoint F => (p.time, p.value))).length := by
    rw [List.length_map]
    exact_mod_cast List.length_pos_of_mem hp
  have htiny : (tiny : F) ≤ 1 * (1 / 2) ^ 2 := by
    rw [tiny]
    norm_num
  exact htiny.trans ((mul_le_mul_of_nonneg_right hlength (by positivity)).trans hspread)

theorem linearRegression_some (hlength : 3 ≤ points.length)
    (hspread : tiny ≤ spreadX (coords points)) : ∃ reg, linearRegression points = some reg ∧
      reg.slope = lineSlope (coords points) ∧ reg.intercept = lineIntercept (coords points) := by
  have hpos := tiny_pos.trans_le hspread
  rw [linearRegression_eq, if_neg]
  · exact ⟨_, rfl, rfl, rfl⟩
  · rintro (hshort | hnone)
    · omega
    · rw [abs_of_pos hpos] at hnone
      exact absurd hspread (not_le.mpr hnone)

omit [LinearOrder F] [IsStrictOrderedRing F] in
theorem squaredResiduals_flat (height : F) :
    (points.map (fun p => (p.value - height) ^ 2)).sum = residualOf 0 height (coords points) := by
  rw [← squaredResiduals_eq, squaredResiduals]
  simp only [zero_mul, zero_add]

theorem coords_count (h : 3 ≤ points.length) : ((coords points).length : F) ≠ 0 := by
  rw [coords, List.length_map]
  exact Nat.cast_ne_zero.mpr (by omega)

theorem one_sub_ratio_mem {part whole : F} (hpart : 0 ≤ part) (hwhole : 0 < whole)
    (hle : part ≤ whole) : 0 ≤ 1 - part / whole ∧ 1 - part / whole ≤ 1 := by
  have hratio := (div_le_one hwhole).mpr hle
  have hratio' := div_nonneg hpart hwhole.le
  exact ⟨by linarith, by linarith⟩

theorem linearRegression_cases {reg : RegressionResult F} (h : linearRegression points = some reg) :
    3 ≤ points.length ∧ spreadX (coords points) ≠ 0 ∧
      reg.slope = lineSlope (coords points) ∧ reg.intercept = lineIntercept (coords points) ∧
      0 ≤ reg.rSquared ∧ reg.rSquared ≤ 1 := by
  rw [linearRegression_eq] at h
  split at h
  · cases h
  · rename_i hfits
    rw [not_or, not_lt, not_lt] at hfits
    obtain ⟨hlength, hspread⟩ := hfits
    have hne : spreadX (coords points) ≠ 0 := abs_pos.mp (tiny_pos.trans_le hspread)
    cases h
    refine ⟨hlength, hne, rfl, rfl, ?_⟩
    dsimp only
    split
    · exact ⟨zero_le_one, le_rfl⟩
    · rename_i htot
      have hnonneg : 0 ≤ residualOf 0 (sumY (coords points) / (points.length : F)) (coords points) :=
        residualOf_nonneg _ _
      rw [squaredResiduals_flat, abs_of_nonneg hnonneg, not_lt] at htot
      rw [squaredResiduals_flat]
      apply one_sub_ratio_mem
      · exact residualOf_nonneg _ _
      · exact tiny_pos.trans_le htot
      · exact lineResidual_le (coords_count hlength) hne 0 _

/-- The line of the regression is the nearest of all lines. -/
theorem linearRegression_nearest {reg : RegressionResult F} (h : linearRegression points = some reg)
    (slope intercept : F) : squaredResiduals points reg.slope reg.intercept ≤
      squaredResiduals points slope intercept := by
  obtain ⟨hlength, hspread, hslope, hintercept, -⟩ := linearRegression_cases h
  rw [squaredResiduals_eq, squaredResiduals_eq, hslope, hintercept]
  exact lineResidual_le (coords_count hlength) hspread _ _

theorem analyzeTrend_crossing (h : (analyzeTrend points).slope < -(1 / 100)) :
    ∃ reg last t, linearRegression points = some reg ∧ points.getLast? = some last ∧
      (analyzeTrend points).timeToCritical = some t ∧
      (0 < t ∧ RegressionResult.line reg (last.time + t) = 20 ∨
        t = 0 ∧ RegressionResult.line reg last.time ≤ 20) := by
  cases hreg : linearRegression points with
  | none =>
    rw [analyzeTrend, hreg] at h
    norm_num at h
  | some reg =>
    have hne : points ≠ [] := by
      rintro rfl
      have hlength := (linearRegression_cases hreg).1
      simp at hlength
    have hlast := List.getLast?_eq_some_getLast hne
    have hslope : reg.slope < -(1 / 100) := by
      rwa [analyzeTrend, hreg] at h
    have hneg : reg.slope < 0 := hslope.trans (by norm_num)
    have hcross : RegressionResult.line reg ((20 - reg.intercept) / reg.slope) = 20 := by
      rw [RegressionResult.line, mul_div_cancel₀ _ hneg.ne, sub_add_cancel]
    by_cases hahead : (20 - reg.intercept) / reg.slope - (points.getLast hne).time > 0
    · refine ⟨reg, _, (20 - reg.intercept) / reg.slope - (points.getLast hne).time, rfl, hlast, ?_,
        .inl ⟨hahead, ?_⟩⟩
      · simp only [analyzeTrend, hreg, hlast, Option.map_some, Option.getD_some, if_pos hslope,
          if_pos hahead]
      · rw [add_sub_cancel, hcross]
    · refine ⟨reg, _, 0, rfl, hlast, ?_, .inr ⟨rfl, ?_⟩⟩
      · simp only [analyzeTrend, hreg, hlast, Option.map_some, Option.getD_some, if_pos hslope,
          if_neg hahead]
      · have hpassed := sub_nonpos.mp (not_lt.mp hahead)
        have hdown := mul_le_mul_of_nonpos_left hpassed hneg.le
        rw [RegressionResult.line] at hcross ⊢
        linarith

end

/-- Points not all at one time get the least squares line with a fit between
zero and one, and where a line goes down the trend tells when it comes to the
threshold. -/
theorem trend_least_squares [IsStrictOrderedRing F] (points : List (DataPoint F)) :
    (3 ≤ points.length → (∃ p ∈ points, ∃ q ∈ points, p.time ≠ q.time) →
      (∀ p ∈ points, ∀ q ∈ points, p.time ≠ q.time → 1 ≤ |p.time - q.time|) →
      ∃ reg, linearRegression points = some reg ∧
        (∀ slope intercept, squaredResiduals points reg.slope reg.intercept ≤
          squaredResiduals points slope intercept) ∧
        0 ≤ reg.rSquared ∧ reg.rSquared ≤ 1) ∧
    ((analyzeTrend points).slope < -(1 / 100) →
      ∃ reg last t, linearRegression points = some reg ∧ points.getLast? = some last ∧
        (analyzeTrend points).timeToCritical = some t ∧
        (0 < t ∧ RegressionResult.line reg (last.time + t) = 20 ∨
          t = 0 ∧ RegressionResult.line reg last.time ≤ 20)) := by
  refine ⟨?_, analyzeTrend_crossing⟩
  intro hlength ⟨p, hp, q, hq, hne⟩ hunit
  obtain ⟨reg, hreg, -⟩ := linearRegression_some hlength
    (spreadX_coords hp hq (hunit p hp q hq hne))
  exact ⟨reg, hreg, linearRegression_nearest hreg, (linearRegression_cases hreg).2.2.2.2⟩

def fallingPoints : List (DataPoint ℚ) := [⟨0, 90⟩, ⟨5, 80⟩, ⟨10, 60⟩]

theorem trend_least_squares_falling :
    (∃ reg, linearRegression fallingPoints = some reg ∧
      (∀ slope intercept, squaredResiduals fallingPoints reg.slope reg.intercept ≤
        squaredResiduals fallingPoints slope intercept) ∧
      0 ≤ reg.rSquared ∧ reg.rSquared ≤ 1) ∧
    ∃ reg last t, linearRegression fallingPoints = some reg ∧
      fallingPoints.getLast? = some last ∧
      (analyzeTrend fallingPoints).timeToCritical = some t ∧
      (0 < t ∧ RegressionResult.line reg (last.time + t) = 20 ∨
        t = 0 ∧ RegressionResult.line reg last.time ≤ 20) :=
  ⟨(trend_least_squares fallingPoints).1 (by decide)
      ⟨⟨0, 90⟩, by simp [fallingPoints], ⟨5, 80⟩, by simp [fallingPoints], by norm_num⟩
      (by
        simp only [fallingPoints, List.mem_cons, List.not_mem_nil, or_false]
        rintro p (rfl | rfl | rfl) q (rfl | rfl | rfl) hne
        all_goals first | exact absurd rfl hne | norm_num),
    (trend_least_squares fallingPoints).2 (by decide +kernel)⟩

end Netfusion.Core.PredictiveTrend
