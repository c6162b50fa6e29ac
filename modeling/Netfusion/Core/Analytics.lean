import Mathlib.Algebra.Order.Archimedean.Real.Basic
import Mathlib.Algebra.Order.BigOperators.Group.List
import Mathlib.Analysis.Real.Sqrt
import Netfusion.Lib.Averages
import Netfusion.Lib.Interpolation
import Netfusion.Lib.Sorting

namespace Netfusion.Core.Analytics

open Netfusion.Lib.Averages Netfusion.Lib.Interpolation Netfusion.Lib.Sorting

inductive Panic where
  | indexOutOfBounds
  deriving DecidableEq

structure MetricStats (F : Type) where
  mean : F
  stddev : F
  min : F
  max : F
  p50 : F
  p95 : F
  p99 : F
  sampleCount : ℕ
  deriving DecidableEq

def index {α : Type} (l : List α) (i : ℕ) : Except Panic α :=
  match l[i]? with
  | some v => .ok v
  | none => .error .indexOutOfBounds

variable {F : Type} [Field F] [LinearOrder F] [FloorSemiring F]

def percentile (sorted : List F) (pct : F) : Except Panic F :=
  if sorted.isEmpty then .ok 0
  else
    let idx := pct / 100.0 * (sorted.length - 1)
    let lower := ⌊idx⌋₊
    let upper := ⌈idx⌉₊
    if lower = upper then index sorted lower
    else do
      let frac := idx - lower
      let low ← index sorted lower
      let high ← index sorted upper
      .ok (low * (1 - frac) + high * frac)

/-- Numbers are exact, so a comparison never fails and the sort is in order. -/
def MetricStats.compute (sqrt : F → F) (values : List F) : Except Panic (MetricStats F) :=
  if values.isEmpty then .ok ⟨0, 0, 0, 0, 0, 0, 0, 0⟩
  else do
    let count : F := values.length
    let mean := values.sum / count
    let variance := (values.map (fun v => (v - mean) ^ 2)).sum / count
    let stddev := sqrt variance
    let sorted := sortByKey id values
    let min ← index sorted 0
    let max ← index sorted (sorted.length - 1)
    let p50 ← percentile sorted 50.0
    let p95 ← percentile sorted 95.0
    let p99 ← percentile sorted 99.0
    .ok ⟨mean, stddev, min, max, p50, p95, p99, sorted.length⟩

example : (MetricStats.compute id [(30 : ℚ), 10, 50, 20, 40]).map (fun s => (s.p50, s.p95)) =
    .ok (30, 48) := by decide +kernel

def position (sorted : List F) (i : ℕ) : F := sorted[i]?.getD (sorted.getLastD 0)

omit [LinearOrder F] [FloorSemiring F] in
theorem index_of_lt {sorted : List F} {i : ℕ} (h : i < sorted.length) :
    index sorted i = .ok (position sorted i) := by
  rw [index, position, List.getElem?_eq_getElem h]
  rfl

section

variable [IsStrictOrderedRing F] {sorted : List F}

omit [LinearOrder F] [FloorSemiring F] [IsStrictOrderedRing F] in
theorem position_beyond {i : ℕ} (h : sorted.length - 1 ≤ i) :
    position sorted i = position sorted (sorted.length - 1) := by
  rcases List.eq_nil_or_concat sorted with rfl | ⟨init, last, rfl⟩
  · simp [position]
  · rw [List.concat_eq_append, List.length_append, List.length_singleton] at *
    rcases h.lt_or_eq with hless | heq
    · rw [position, position, List.getElem?_eq_none (by simp; omega)]
      simp
    · rw [← heq]

omit [FloorSemiring F] [IsStrictOrderedRing F] in
theorem position_mono (h : sorted.Pairwise (· ≤ ·)) (i j : ℕ) (hij : i ≤ j) :
    position sorted i ≤ position sorted j := by
  rw [List.pairwise_iff_getElem] at h
  have hwithin : ∀ i j, i ≤ j → j < sorted.length → position sorted i ≤ position sorted j := by
    intro i j hij hj
    rw [position, position, List.getElem?_eq_getElem hj,
      List.getElem?_eq_getElem (hij.trans_lt hj), Option.getD_some, Option.getD_some]
    rcases hij.lt_or_eq with hless | heq
    · exact h i j _ hj hless
    · subst heq
      exact le_rfl
  by_cases hj : j < sorted.length
  · exact hwithin i j hij hj
  · rw [position_beyond (i := j) (by omega)]
    by_cases hi : i < sorted.length
    · exact hwithin i _ (by omega) (by omega)
    · rw [position_beyond (i := i) (by omega)]

theorem percentile_eq (hne : sorted ≠ []) {pct : F} (hhigh : pct ≤ 100) :
    percentile sorted pct =
      .ok (interpolate (position sorted) (pct / 100 * (sorted.length - 1))) := by
  have hlength : 0 < sorted.length := List.length_pos_iff.mpr hne
  have hlast : ((sorted.length - 1 : ℕ) : F) = sorted.length - 1 := by
    rw [Nat.cast_sub hlength, Nat.cast_one]
  have hspan : (0 : F) ≤ sorted.length - 1 := by
    rw [← hlast]
    exact Nat.cast_nonneg _
  have hpart : pct / 100 ≤ 1 := (div_le_one (by norm_num)).mpr hhigh
  have hidx : pct / 100 * (sorted.length - 1) ≤ (sorted.length - 1 : ℕ) := by
    rw [hlast]
    exact mul_le_of_le_one_left hspan hpart
  have hupper : ⌈pct / 100 * ((sorted.length : F) - 1)⌉₊ < sorted.length := by
    have hceil := Nat.ceil_le.mpr hidx
    omega
  have hlower := (Nat.floor_le_ceil (pct / 100 * ((sorted.length : F) - 1))).trans_lt hupper
  have hfull : ¬ sorted.isEmpty = true := by
    rw [List.isEmpty_iff]
    exact hne
  have hhundred : (100.0 : F) = 100 := by norm_num
  rw [percentile, if_neg hfull, hhundred]
  dsimp only
  rw [index_of_lt hlower, index_of_lt hupper]
  split
  · rename_i heq
    rw [interpolate, ← heq]
    congr 1
    ring
  · rfl

omit [LinearOrder F] [FloorSemiring F] [IsStrictOrderedRing F] in
theorem mem_iff_position {v : F} : v ∈ sorted ↔ ∃ i < sorted.length, position sorted i = v := by
  rw [List.mem_iff_getElem]
  apply exists_congr
  intro i
  constructor
  · rintro ⟨hi, rfl⟩
    exact ⟨hi, by rw [position, List.getElem?_eq_getElem hi, Option.getD_some]⟩
  · rintro ⟨hi, rfl⟩
    exact ⟨hi, by rw [position, List.getElem?_eq_getElem hi, Option.getD_some]⟩

theorem percentile_mono (h : sorted.Pairwise (· ≤ ·)) (hne : sorted ≠ []) {p q : F} (hp : 0 ≤ p)
    (hpq : p ≤ q) :
    interpolate (position sorted) (p / 100 * (sorted.length - 1)) ≤
      interpolate (position sorted) (q / 100 * (sorted.length - 1)) := by
  have hlength : (1 : F) ≤ sorted.length := by
    exact_mod_cast List.length_pos_iff.mpr hne
  have hspan : (0 : F) ≤ sorted.length - 1 := sub_nonneg.mpr hlength
  apply interpolate_mono (position_mono h)
  · positivity
  · gcongr

theorem percentile_ends (hne : sorted ≠ []) :
    interpolate (position sorted) (0 / 100 * (sorted.length - 1)) = position sorted 0 ∧
      interpolate (position sorted) (100 / 100 * (sorted.length - 1)) =
        position sorted (sorted.length - 1) := by
  have hlast : (100 / 100 * (sorted.length - 1) : F) = (sorted.length - 1 : ℕ) := by
    rw [div_self (by norm_num), one_mul, Nat.cast_sub (List.length_pos_iff.mpr hne), Nat.cast_one]
  have hfirst : (0 / 100 * (sorted.length - 1) : F) = (0 : ℕ) := by
    rw [zero_div, zero_mul, Nat.cast_zero]
  rw [hlast, hfirst, interpolate_natCast, interpolate_natCast]
  exact ⟨rfl, rfl⟩

end

/-- What is expected of the statistics of some values. -/
structure WellOrdered (values : List F) (s : MetricStats F) : Prop where
  percentiles : s.min ≤ s.p50 ∧ s.p50 ≤ s.p95 ∧ s.p95 ≤ s.p99 ∧ s.p99 ≤ s.max
  mean : s.min ≤ s.mean ∧ s.mean ≤ s.max
  stddev : 0 ≤ s.stddev
  min : s.min ∈ values ∧ ∀ v ∈ values, s.min ≤ v
  max : s.max ∈ values ∧ ∀ v ∈ values, v ≤ s.max

section

variable [IsStrictOrderedRing F] (sqrt : F → F) {values : List F}

theorem compute_eq (h : values ≠ []) :
    let sorted := sortByKey id values
    let rank := fun pct : F => interpolate (position sorted) (pct / 100 * (sorted.length - 1))
    let mean := values.sum / values.length
    MetricStats.compute sqrt values =
      .ok ⟨mean, sqrt ((values.map (fun v => (v - mean) ^ 2)).sum / values.length),
        position sorted 0, position sorted (sorted.length - 1), rank 50, rank 95, rank 99,
        sorted.length⟩ := by
  have hperm := sortByKey_perm id values
  have hlength : 0 < (sortByKey id values).length := by
    rw [hperm.length_eq]
    exact List.length_pos_iff.mpr h
  have hne := List.length_pos_iff.mp hlength
  have hfull : ¬ values.isEmpty = true := by
    rw [List.isEmpty_iff]
    exact h
  have hp50 : (50.0 : F) = 50 := by norm_num
  have hp95 : (95.0 : F) = 95 := by norm_num
  have hp99 : (99.0 : F) = 99 := by norm_num
  rw [MetricStats.compute, if_neg hfull, hp50, hp95, hp99]
  dsimp only
  rw [index_of_lt hlength, index_of_lt (Nat.sub_lt hlength one_pos),
    percentile_eq hne (by norm_num), percentile_eq hne (by norm_num),
    percentile_eq hne (by norm_num)]
  rfl

theorem compute_wellOrdered (hsqrt : ∀ x, 0 ≤ sqrt x) (h : values ≠ []) :
    ∃ s, MetricStats.compute sqrt values = .ok s ∧ WellOrdered values s := by
  have hperm := sortByKey_perm id values
  have hsorted : (sortByKey id values).Pairwise (· ≤ ·) := sortByKey_pairwise id values
  have hmem : ∀ v, v ∈ values ↔ ∃ i < (sortByKey id values).length,
      position (sortByKey id values) i = v := by
    intro v
    rw [← mem_iff_position, hperm.mem_iff]
  have hlength : 0 < (sortByKey id values).length := by
    rw [hperm.length_eq]
    exact List.length_pos_iff.mpr h
  have hne := List.length_pos_iff.mp hlength
  have hmin : ∀ v ∈ values, position (sortByKey id values) 0 ≤ v := by
    intro v hv
    obtain ⟨i, -, rfl⟩ := (hmem v).mp hv
    exact position_mono hsorted 0 i (Nat.zero_le i)
  have hmax : ∀ v ∈ values,
      v ≤ position (sortByKey id values) ((sortByKey id values).length - 1) := by
    intro v hv
    obtain ⟨i, hi, rfl⟩ := (hmem v).mp hv
    exact position_mono hsorted i _ (by omega)
  obtain ⟨hfirst, hlast⟩ := percentile_ends hne
  refine ⟨_, compute_eq sqrt h, ⟨?_, ?_, hsqrt _, ?_, ?_⟩⟩
  · dsimp only
    rw [← hfirst, ← hlast]
    exact ⟨percentile_mono hsorted hne (by norm_num) (by norm_num),
      percentile_mono hsorted hne (by norm_num) (by norm_num),
      percentile_mono hsorted hne (by norm_num) (by norm_num),
      percentile_mono hsorted hne (by norm_num) (by norm_num)⟩
  · exact ⟨le_mean h hmin, mean_le h hmax⟩
  · exact ⟨(hmem _).mpr ⟨0, hlength, rfl⟩, hmin⟩
  · exact ⟨(hmem _).mpr ⟨_, by omega, rfl⟩, hmax⟩

theorem compute_perm {values' : List F} (h : values'.Perm values) :
    MetricStats.compute sqrt values' = MetricStats.compute sqrt values := by
  have hsorted : sortByKey id values' = sortByKey id values := by
    apply List.Perm.eq_of_pairwise' (r := (· ≤ ·))
    · exact sortByKey_pairwise id values'
    · exact sortByKey_pairwise id values
    · exact (sortByKey_perm id values').trans (h.trans (sortByKey_perm id values).symm)
  by_cases hempty : values = []
  · subst hempty
    rw [h.eq_nil]
  · have hne : values' ≠ [] := by
      rintro rfl
      exact hempty h.nil_eq.symm
    rw [compute_eq sqrt hne, compute_eq sqrt hempty, hsorted, h.sum_eq, h.length_eq,
      (h.map _).sum_eq]

end

/-- The statistics of any values never index out of bounds, come in order, and
do not depend on the order of the values. -/
theorem metric_stats_ordered (values : List ℝ) (h : values ≠ []) :
    ∃ s, MetricStats.compute Real.sqrt values = .ok s ∧ WellOrdered values s ∧
      ∀ values' : List ℝ, values'.Perm values → MetricStats.compute Real.sqrt values' = .ok s := by
  obtain ⟨s, hs, hordered⟩ := compute_wellOrdered Real.sqrt Real.sqrt_nonneg h
  exact ⟨s, hs, hordered, fun values' hperm => (compute_perm Real.sqrt hperm).trans hs⟩

theorem metric_stats_ordered_three : ∃ s,
    MetricStats.compute Real.sqrt [30, 10, 20] = .ok s ∧ WellOrdered [30, 10, 20] s ∧
      ∀ values' : List ℝ, values'.Perm [30, 10, 20] →
        MetricStats.compute Real.sqrt values' = .ok s :=
  metric_stats_ordered [30, 10, 20] (by simp)

end Netfusion.Core.Analytics
