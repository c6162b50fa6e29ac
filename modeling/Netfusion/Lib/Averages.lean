import Mathlib.Algebra.BigOperators.Field
import Mathlib.Algebra.Order.BigOperators.Group.List
import Mathlib.Analysis.Convex.Jensen
import Mathlib.Data.List.Induction

namespace Netfusion.Lib.Averages

variable {ι F : Type} [Fintype ι] [Field F] [LinearOrder F] [IsStrictOrderedRing F]

def weightedMean (w z : ι → F) : F := (∑ i, w i * z i) / ∑ i, w i

omit [LinearOrder F] [IsStrictOrderedRing F] in
theorem weightedMean_eq_centerMass (w z : ι → F) :
    weightedMean w z = Finset.univ.centerMass w z := by
  rw [weightedMean, Finset.centerMass, div_eq_inv_mul, smul_eq_mul]
  rfl

section

variable {w z : ι → F} (hw : ∀ i, 0 ≤ w i) (h : 0 < ∑ i, w i)

include hw h

theorem exists_le_weightedMean : ∃ i, z i ≤ weightedMean w z := by
  rw [weightedMean_eq_centerMass]
  obtain ⟨i, -, hi⟩ := (concaveOn_id convex_univ).exists_le_of_centerMass (t := Finset.univ)
    (fun i _ => hw i) h (fun i _ => Set.mem_univ (z i))
  exact ⟨i, hi⟩

theorem exists_weightedMean_le : ∃ i, weightedMean w z ≤ z i := by
  rw [weightedMean_eq_centerMass]
  obtain ⟨i, -, hi⟩ := (convexOn_id convex_univ).exists_ge_of_centerMass (t := Finset.univ)
    (fun i _ => hw i) h (fun i _ => Set.mem_univ (z i))
  exact ⟨i, hi⟩

theorem weightedMean_mem_Icc {lo hi : F} (hz : ∀ i, z i ∈ Set.Icc lo hi) :
    weightedMean w z ∈ Set.Icc lo hi := by
  rw [weightedMean_eq_centerMass]
  exact (convex_Icc lo hi).centerMass_mem (fun i _ => hw i) h (fun i _ => hz i)

end

theorem weightedMean_mono {w z z' : ι → F} (hw : ∀ i, 0 ≤ w i) (hz : ∀ i, z i ≤ z' i) :
    weightedMean w z ≤ weightedMean w z' := by
  apply div_le_div_of_nonneg_right
  · apply Finset.sum_le_sum
    intro i _
    exact mul_le_mul_of_nonneg_left (hz i) (hw i)
  · exact Finset.sum_nonneg (fun i _ => hw i)

/-- A sum reaches a bound of its values exactly if all that have weight reach it. -/
theorem weightedSum_eq_iff {w z : ι → F} {b : F} (hw : ∀ i, 0 ≤ w i) (hz : ∀ i, z i ≤ b) :
    ∑ i, w i * z i = b * ∑ i, w i ↔ ∀ i, 0 < w i → z i = b := by
  have hgap : b * ∑ i, w i - ∑ i, w i * z i = ∑ i, w i * (b - z i) := by
    rw [Finset.mul_sum, ← Finset.sum_sub_distrib]
    apply Finset.sum_congr rfl
    intro i _
    ring
  rw [eq_comm, ← sub_eq_zero, hgap, Finset.sum_eq_zero_iff_of_nonneg]
  · constructor
    · intro h i hi
      rcases mul_eq_zero.mp (h i (Finset.mem_univ i)) with hzero | hzero
      · exact absurd hzero hi.ne'
      · exact (sub_eq_zero.mp hzero).symm
    · intro h i _
      rcases (hw i).eq_or_lt with hzero | hpos
      · rw [← hzero, zero_mul]
      · rw [h i hpos, sub_self, mul_zero]
  · intro i _
    exact mul_nonneg (hw i) (sub_nonneg.mpr (hz i))

theorem mean_le {l : List F} (h : l ≠ []) {hi : F} (hl : ∀ x ∈ l, x ≤ hi) :
    l.sum / l.length ≤ hi := by
  have hsum := List.sum_le_card_nsmul l hi hl
  rw [nsmul_eq_mul, mul_comm] at hsum
  exact (div_le_iff₀ (Nat.cast_pos.mpr (List.length_pos_iff.mpr h))).mpr hsum

theorem le_mean {l : List F} (h : l ≠ []) {lo : F} (hl : ∀ x ∈ l, lo ≤ x) :
    lo ≤ l.sum / l.length := by
  have hsum := List.card_nsmul_le_sum l lo hl
  rw [nsmul_eq_mul, mul_comm] at hsum
  exact (le_div_iff₀ (Nat.cast_pos.mpr (List.length_pos_iff.mpr h))).mpr hsum

omit [LinearOrder F] [IsStrictOrderedRing F] in
/-- The terms of a list, each divided by its ordinal, add up to this. -/
def harmonicSum (l : List F) : F := (l.zipIdx.map (fun (x, i) => x / (i + 1))).sum

omit [LinearOrder F] [IsStrictOrderedRing F] in
theorem harmonicSum_concat (l : List F) (x : F) :
    harmonicSum (l ++ [x]) = harmonicSum l + x / (l.length + 1) := by
  simp [harmonicSum, List.zipIdx_append]

theorem harmonicSum_nonneg {l : List F} (h : ∀ x ∈ l, 0 ≤ x) : 0 ≤ harmonicSum l := by
  apply List.sum_nonneg
  intro y hy
  obtain ⟨⟨x, i⟩, hmem, rfl⟩ := List.mem_map.mp hy
  exact div_nonneg (h x (List.fst_mem_of_mem_zipIdx hmem)) (by positivity)

theorem harmonicSum_nonpos {l : List F} (h : ∀ x ∈ l, x ≤ 0) : harmonicSum l ≤ 0 := by
  induction l using List.reverseRecOn with
  | nil => exact le_refl 0
  | append_singleton l x ih =>
    rw [harmonicSum_concat]
    have hl := ih (fun y hy => h y (List.mem_append_left _ hy))
    have hx : x / (l.length + 1) ≤ 0 :=
      div_nonpos_of_nonpos_of_nonneg (h x (by simp)) (by positivity)
    exact add_nonpos hl hx

omit [LinearOrder F] [IsStrictOrderedRing F] in
theorem sum_harmonicSum {α : Type} (l : List α) (f : ι → α → F) :
    ∑ i, harmonicSum (l.map (f i)) = harmonicSum (l.map (fun a => ∑ i, f i a)) := by
  induction l using List.reverseRecOn with
  | nil => simp [harmonicSum]
  | append_singleton l a ih =>
    simp only [List.map_append, List.map_cons, List.map_nil, harmonicSum_concat,
      Finset.sum_add_distrib, ih, ← Finset.sum_div, List.length_map]

end Netfusion.Lib.Averages
