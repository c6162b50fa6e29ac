import Mathlib.Algebra.BigOperators.Group.List.Basic
import Mathlib.Algebra.Order.BigOperators.Group.List
import Mathlib.Algebra.Order.Field.Basic
import Mathlib.Tactic.FieldSimp
import Mathlib.Tactic.Linarith
import Mathlib.Tactic.LinearCombination
import Mathlib.Tactic.Ring

namespace Netfusion.Lib.Regression

variable {F : Type} [Field F]

def sumX (ps : List (F × F)) : F := (ps.map (fun p => p.1)).sum
def sumY (ps : List (F × F)) : F := (ps.map (fun p => p.2)).sum
def sumXY (ps : List (F × F)) : F := (ps.map (fun p => p.1 * p.2)).sum
def sumXX (ps : List (F × F)) : F := (ps.map (fun p => p.1 * p.1)).sum

def spreadX (ps : List (F × F)) : F := ps.length * sumXX ps - sumX ps * sumX ps

def lineSlope (ps : List (F × F)) : F := (ps.length * sumXY ps - sumX ps * sumY ps) / spreadX ps

def lineIntercept (ps : List (F × F)) : F := (sumY ps - lineSlope ps * sumX ps) / ps.length

/-- The squared distances of the points from their line. -/
def lineResidual (ps : List (F × F)) : F :=
  (ps.map (fun p => (p.2 - (lineSlope ps * p.1 + lineIntercept ps)) ^ 2)).sum

/-- The same distances from any line. -/
def residualOf (a b : F) (ps : List (F × F)) : F :=
  (ps.map (fun p => (p.2 - (a * p.1 + b)) ^ 2)).sum

def translateX (d : F) (ps : List (F × F)) : List (F × F) := ps.map (fun p => (p.1 + d, p.2))

section

variable (d : F) (ps : List (F × F))

theorem length_translateX : (translateX d ps).length = ps.length := List.length_map _

theorem sumY_translateX : sumY (translateX d ps) = sumY ps := by
  simp only [sumY, translateX, List.map_map, Function.comp_def]

theorem sumX_translateX : sumX (translateX d ps) = sumX ps + ps.length * d := by
  induction ps with
  | nil => simp [sumX, translateX]
  | cons p ps ih =>
    simp only [sumX, translateX, List.map_cons, List.sum_cons, List.length_cons] at *
    rw [ih]
    push_cast
    ring

theorem sumXY_translateX : sumXY (translateX d ps) = sumXY ps + d * sumY ps := by
  induction ps with
  | nil => simp [sumXY, sumY, translateX]
  | cons p ps ih =>
    simp only [sumXY, sumY, translateX, List.map_cons, List.sum_cons] at *
    rw [ih]
    ring

theorem sumXX_translateX :
    sumXX (translateX d ps) = sumXX ps + 2 * d * sumX ps + ps.length * (d * d) := by
  induction ps with
  | nil => simp [sumXX, sumX, translateX]
  | cons p ps ih =>
    simp only [sumXX, sumX, translateX, List.map_cons, List.sum_cons, List.length_cons] at *
    rw [ih]
    push_cast
    ring

theorem spreadX_translateX : spreadX (translateX d ps) = spreadX ps := by
  rw [spreadX, spreadX, length_translateX, sumX_translateX, sumXX_translateX]
  ring

theorem lineSlope_translateX : lineSlope (translateX d ps) = lineSlope ps := by
  rw [lineSlope, lineSlope, spreadX_translateX, length_translateX, sumX_translateX, sumXY_translateX,
    sumY_translateX]
  congr 1
  ring

theorem lineIntercept_translateX (h : (ps.length : F) ≠ 0) :
    lineIntercept (translateX d ps) = lineIntercept ps - lineSlope ps * d := by
  rw [lineIntercept, lineIntercept, lineSlope_translateX, length_translateX, sumX_translateX,
    sumY_translateX]
  field_simp
  ring

theorem lineResidual_translateX (h : (ps.length : F) ≠ 0) :
    lineResidual (translateX d ps) = lineResidual ps := by
  rw [lineResidual, lineResidual, lineSlope_translateX, lineIntercept_translateX d ps h]
  simp only [translateX, List.map_map, Function.comp_def]
  congr 2
  funext p
  ring

end

section

variable (ps : List (F × F))

theorem residualOf_eq (a b : F) : residualOf a b ps =
    (ps.map (fun p => p.2 ^ 2)).sum - 2 * a * sumXY ps - 2 * b * sumY ps + a ^ 2 * sumXX ps +
      2 * a * b * sumX ps + ps.length * b ^ 2 := by
  induction ps with
  | nil => simp [residualOf, sumXY, sumY, sumXX, sumX]
  | cons p ps ih =>
    simp only [residualOf, sumXY, sumY, sumXX, sumX, List.map_cons, List.sum_cons,
      List.length_cons] at *
    rw [ih]
    push_cast
    ring

theorem sum_cross (x y : F) : (ps.map (fun p => (p.1 - x) * (p.2 - y))).sum =
    sumXY ps - y * sumX ps - x * sumY ps + ps.length * (x * y) := by
  induction ps with
  | nil => simp [sumXY, sumX, sumY]
  | cons p ps ih =>
    simp only [sumXY, sumX, sumY, List.map_cons, List.sum_cons, List.length_cons] at *
    rw [ih]
    push_cast
    ring

theorem sum_line_sq (c d : F) : (ps.map (fun p => (c * p.1 + d) ^ 2)).sum =
    c ^ 2 * sumXX ps + 2 * c * d * sumX ps + ps.length * d ^ 2 := by
  induction ps with
  | nil => simp [sumXX, sumX]
  | cons p ps ih =>
    simp only [sumXX, sumX, List.map_cons, List.sum_cons, List.length_cons] at *
    rw [ih]
    push_cast
    ring

variable {ps} (hlength : (ps.length : F) ≠ 0)

include hlength

theorem normal_equation : ps.length * lineIntercept ps + lineSlope ps * sumX ps = sumY ps := by
  rw [lineIntercept]
  field_simp
  ring

theorem spreadX_eq :
    spreadX ps = ps.length * (ps.map (fun p => (p.1 - sumX ps / ps.length) ^ 2)).sum := by
  have hsum := sum_line_sq ps 1 (-(sumX ps / ps.length))
  simp only [one_mul, ← sub_eq_add_neg] at hsum
  rw [hsum, spreadX]
  field_simp
  ring

theorem normal_equation_weighted (hspread : spreadX ps ≠ 0) :
    lineSlope ps * sumXX ps + lineIntercept ps * sumX ps = sumXY ps := by
  have hslope : lineSlope ps * spreadX ps = ps.length * sumXY ps - sumX ps * sumY ps :=
    div_mul_cancel₀ _ hspread
  have hmean := normal_equation hlength
  apply mul_left_cancel₀ hlength
  rw [spreadX] at hslope
  linear_combination hslope + sumX ps * hmean

theorem residualOf_sub (hspread : spreadX ps ≠ 0) (a b : F) :
    residualOf a b ps - lineResidual ps =
      (ps.map (fun p => ((a - lineSlope ps) * p.1 + (b - lineIntercept ps)) ^ 2)).sum := by
  have hmean := normal_equation hlength
  have hweighted := normal_equation_weighted hlength hspread
  have hline : lineResidual ps = residualOf (lineSlope ps) (lineIntercept ps) ps := rfl
  rw [hline, residualOf_eq, residualOf_eq, sum_line_sq]
  linear_combination 2 * (a - lineSlope ps) * hweighted + 2 * (b - lineIntercept ps) * hmean

/-- What the line explains of the distances from the mean. -/
theorem residualOf_flat (hspread : spreadX ps ≠ 0) :
    residualOf 0 (sumY ps / ps.length) ps - lineResidual ps =
      lineSlope ps ^ 2 * (spreadX ps / ps.length) := by
  have hmean := normal_equation hlength
  have hoffset : sumY ps / ps.length - lineIntercept ps = lineSlope ps * (sumX ps / ps.length) := by
    rw [← hmean]
    field_simp
    ring
  rw [residualOf_sub hlength hspread, sum_line_sq, hoffset, spreadX]
  field_simp
  ring

end

section

variable [LinearOrder F] [IsStrictOrderedRing F] {ps : List (F × F)}

theorem sum_sq_nonneg (f : F × F → F) : 0 ≤ (ps.map (fun p => f p ^ 2)).sum := by
  apply List.sum_nonneg
  intro s hs
  obtain ⟨p, -, rfl⟩ := List.mem_map.mp hs
  exact sq_nonneg (f p)

theorem residualOf_nonneg (a b : F) : 0 ≤ residualOf a b ps := sum_sq_nonneg _

/-- No line is nearer to the points. -/
theorem lineResidual_le (hlength : (ps.length : F) ≠ 0) (hspread : spreadX ps ≠ 0) (a b : F) :
    lineResidual ps ≤ residualOf a b ps := by
  have hsub := residualOf_sub hlength hspread a b
  have hnonneg : 0 ≤ (ps.map (fun p =>
      ((a - lineSlope ps) * p.1 + (b - lineIntercept ps)) ^ 2)).sum := sum_sq_nonneg _
  linarith

theorem spreadX_ge {p q : F × F} (hp : p ∈ ps) (hq : q ∈ ps) {d : F} (hd : 0 ≤ d)
    (h : d ≤ |p.1 - q.1|) : ps.length * (d / 2) ^ 2 ≤ spreadX ps := by
  have hpos : (0 : F) < ps.length := Nat.cast_pos.mpr (List.length_pos_of_mem hp)
  have hmember : ∀ r ∈ ps, d / 2 ≤ |r.1 - sumX ps / ps.length| →
      (d / 2) ^ 2 ≤ (ps.map (fun p => (p.1 - sumX ps / ps.length) ^ 2)).sum := by
    intro r hr hfar
    have hsq : (d / 2) ^ 2 ≤ (r.1 - sumX ps / ps.length) ^ 2 := by
      rw [← sq_abs (r.1 - _)]
      exact pow_le_pow_left₀ (by linarith) hfar 2
    apply hsq.trans
    apply List.single_le_sum
    · intro s hs
      obtain ⟨t, -, rfl⟩ := List.mem_map.mp hs
      exact sq_nonneg _
    · exact List.mem_map_of_mem (f := fun p => (p.1 - sumX ps / ps.length) ^ 2) hr
  rw [spreadX_eq hpos.ne']
  apply mul_le_mul_of_nonneg_left _ hpos.le
  rcases le_total (d / 2) |p.1 - sumX ps / ps.length| with hfar | hnear
  · exact hmember p hp hfar
  · apply hmember q hq
    have htriangle := abs_sub_le p.1 (sumX ps / ps.length) q.1
    rw [abs_sub_comm (sumX ps / ps.length) q.1] at htriangle
    linarith

/-- Ordinates that go up with the abscissae (Chebyshev's inequality for sums). -/
theorem sum_mul_sum_le (h : ps.Pairwise (fun p q => p.1 ≤ q.1 ∧ p.2 ≤ q.2)) :
    sumX ps * sumY ps ≤ ps.length * sumXY ps := by
  induction ps with
  | nil => simp [sumX]
  | cons p ps ih =>
    obtain ⟨hfirst, hrest⟩ := List.pairwise_cons.mp h
    have hcross : 0 ≤ (ps.map (fun q => (q.1 - p.1) * (q.2 - p.2))).sum := by
      apply List.sum_nonneg
      intro s hs
      obtain ⟨q, hq, rfl⟩ := List.mem_map.mp hs
      obtain ⟨hx, hy⟩ := hfirst q hq
      exact mul_nonneg (sub_nonneg.mpr hx) (sub_nonneg.mpr hy)
    have hinduction := ih hrest
    rw [sum_cross] at hcross
    simp only [sumXY, sumX, sumY, List.map_cons, List.sum_cons, List.length_cons] at *
    push_cast
    linarith

theorem lineSlope_nonneg (h : ps.Pairwise (fun p q => p.1 ≤ q.1 ∧ p.2 ≤ q.2))
    (hspread : 0 ≤ spreadX ps) : 0 ≤ lineSlope ps :=
  div_nonneg (sub_nonneg.mpr (sum_mul_sum_le h)) hspread

end

end Netfusion.Lib.Regression
