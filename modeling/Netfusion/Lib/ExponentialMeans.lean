import Mathlib.Algebra.BigOperators.Ring.Finset
import Mathlib.LinearAlgebra.AffineSpace.Ordered
import Mathlib.Tactic.Linarith
import Mathlib.Tactic.Ring

namespace Netfusion.Lib.ExponentialMeans

variable {F : Type} [Field F]

/-- The mean of a first reading and the readings after it, where each takes the
mean the share `a` of the way to itself. -/
def ewma (a first : F) (rest : List F) : F :=
  rest.foldl (fun mean reading => AffineMap.lineMap mean reading a) first

@[simp] theorem ewma_nil (a first : F) : ewma a first [] = first := rfl

theorem ewma_concat (a first : F) (rest : List F) (reading : F) :
    ewma a first (rest ++ [reading]) = AffineMap.lineMap (ewma a first rest) reading a := by
  rw [ewma, List.foldl_append]
  rfl

/-- The reading that came `i` readings before the last one has the weight
`a * (1 - a) ^ i`, and what is left of the weights is that of the first one. -/
theorem ewma_eq_sum (a first : F) (rest : List F) :
    ewma a first rest = (1 - a) ^ rest.length * first +
      ∑ i ∈ Finset.range rest.length, a * (1 - a) ^ i * rest.reverse.getD i 0 := by
  induction rest using List.reverseRecOn with
  | nil => simp
  | append_singleton rest reading ih =>
    have hshift : ∀ i, a * (1 - a) ^ (i + 1) * (reading :: rest.reverse).getD (i + 1) 0 =
        (1 - a) * (a * (1 - a) ^ i * rest.reverse.getD i 0) := by
      intro i
      rw [List.getD_cons_succ]
      ring
    rw [ewma_concat, AffineMap.lineMap_apply_ring, ih, List.reverse_append, List.length_append,
      List.length_singleton, List.reverse_singleton, List.singleton_append,
      Finset.sum_range_succ', Finset.sum_congr rfl (fun i _ => hshift i), ← Finset.mul_sum,
      List.getD_cons_zero]
    ring

variable [LinearOrder F] [IsStrictOrderedRing F]

/-- A reading of at most `r` takes a mean that is above `r` at least the share
`a` of the way down to it. -/
theorem ewma_singleton_sub_le (mean : F) {a reading r : F} (ha : 0 ≤ a) (h : reading ≤ r) :
    ewma a mean [reading] - r ≤ (1 - a) * (mean - r) := by
  have hpull : a * reading ≤ a * r := mul_le_mul_of_nonneg_left h ha
  rw [ewma, List.foldl_cons, List.foldl_nil, AffineMap.lineMap_apply_ring]
  linarith

theorem le_ewma_singleton {a mean reading low : F} (ha : 0 ≤ a) (ha' : a ≤ 1)
    (hmean : low ≤ mean) (hreading : low ≤ reading) : low ≤ ewma a mean [reading] := by
  calc low = AffineMap.lineMap low low a := (AffineMap.lineMap_same_apply low a).symm
    _ ≤ AffineMap.lineMap mean reading a := lineMap_mono_endpoints hmean hreading ha ha'

end Netfusion.Lib.ExponentialMeans
