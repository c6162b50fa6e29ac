import Mathlib.Algebra.Order.BigOperators.Group.List
import Mathlib.Algebra.Order.Round
import Mathlib.Data.Rat.Floor
import Mathlib.Tactic.Linarith
import Mathlib.Tactic.Ring

namespace Netfusion.Lib.Rounding

section

variable {F : Type} [Field F] [LinearOrder F] [IsStrictOrderedRing F] [FloorRing F]

/-- The nearest integer, and of two the one that is farther from zero. -/
def roundHalfAway (x : F) : ℤ := if 0 ≤ x then round x else -round (-x)

theorem abs_roundHalfAway_sub (x : F) : |(roundHalfAway x : F) - x| ≤ 1 / 2 := by
  rw [roundHalfAway]
  split
  · rw [abs_sub_comm]
    exact abs_sub_round x
  · have h := abs_sub_round (-x)
    rw [Int.cast_neg]
    have hflip : (-(round (-x) : F) - x) = -x - round (-x) := by ring
    rwa [hflip]

theorem round_le_round {x y : F} (h : x ≤ y) : round x ≤ round y := by
  rw [round_eq, round_eq]
  apply Int.floor_mono
  linarith

theorem roundHalfAway_mono {x y : F} (h : x ≤ y) : roundHalfAway x ≤ roundHalfAway y := by
  have hzero : round (0 : F) = 0 := round_zero
  rw [roundHalfAway, roundHalfAway]
  by_cases hx : 0 ≤ x
  · rw [if_pos hx, if_pos (hx.trans h)]
    exact round_le_round h
  · have hneg : 0 ≤ round (-x) := by
      rw [← hzero]
      exact round_le_round (by linarith)
    rw [if_neg hx]
    split
    · rename_i hy
      have hpos := round_le_round hy
      rw [hzero] at hpos
      omega
    · have hflip : round (-y) ≤ round (-x) := round_le_round (by linarith)
      omega

theorem roundHalfAway_natCast (n : ℕ) : roundHalfAway (n : F) = n := by
  rw [roundHalfAway, if_pos (Nat.cast_nonneg n), round_natCast]

theorem roundHalfAway_mem {x : F} {n : ℕ} (hx : 0 ≤ x) (hn : x ≤ n) :
    0 ≤ roundHalfAway x ∧ roundHalfAway x ≤ n := by
  have hfull := roundHalfAway_mono hn
  rw [roundHalfAway_natCast] at hfull
  refine ⟨?_, hfull⟩
  have hzero := roundHalfAway_mono hx
  rwa [← Nat.cast_zero, roundHalfAway_natCast] at hzero

theorem lt_half_of_roundHalfAway_eq_zero {x : F} (h : roundHalfAway x = 0) : x < 1 / 2 := by
  by_cases hx : 0 ≤ x
  · rw [roundHalfAway, if_pos hx, round_eq_zero_iff] at h
    exact h.2
  · linarith

omit [FloorRing F] in
theorem abs_sum_sub_sum_le {ι : Type} (l : List ι) (f g : ι → F) (ε : F)
    (h : ∀ i ∈ l, |f i - g i| ≤ ε) : |(l.map f).sum - (l.map g).sum| ≤ l.length * ε := by
  induction l with
  | nil => simp
  | cons i l ih =>
    have hi := h i (.head l)
    have hl := ih (fun j hj => h j (.tail i hj))
    rw [List.map_cons, List.map_cons, List.sum_cons, List.sum_cons, List.length_cons]
    have hsplit : f i + (l.map f).sum - (g i + (l.map g).sum) =
        (f i - g i) + ((l.map f).sum - (l.map g).sum) := by ring
    rw [hsplit]
    apply (abs_add_le _ _).trans
    push_cast
    linarith

end

/-- The conversion to a byte, which is cut off at both ends of its range. -/
def toU8 (z : ℤ) : UInt8 := UInt8.ofNat (min z.toNat 255)

theorem toU8_toNat (z : ℤ) : (toU8 z).toNat = min z.toNat 255 := by
  rw [toU8, UInt8.toNat_ofNat']
  omega

end Netfusion.Lib.Rounding
