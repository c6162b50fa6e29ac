import Mathlib.Algebra.Order.Floor.Semiring
import Mathlib.Algebra.Order.Field.Basic
import Mathlib.Tactic.Linarith
import Mathlib.Tactic.Ring

namespace Netfusion.Lib.Interpolation

variable {F : Type} [Field F] [LinearOrder F] [IsStrictOrderedRing F] [FloorSemiring F]

/-- Between two positions the values lie on a line. -/
def interpolate (a : ℕ → F) (x : F) : F :=
  a ⌊x⌋₊ * (1 - (x - ⌊x⌋₊)) + a ⌈x⌉₊ * (x - ⌊x⌋₊)

section

variable (a : ℕ → F)

theorem interpolate_eq {x : F} (hx : 0 ≤ x) :
    interpolate a x = a ⌊x⌋₊ + (a (⌊x⌋₊ + 1) - a ⌊x⌋₊) * (x - ⌊x⌋₊) := by
  rw [interpolate]
  rcases (Nat.ceil_le_floor_add_one x).lt_or_eq with hless | heq
  · have hceil : ⌈x⌉₊ = ⌊x⌋₊ := le_antisymm (Nat.lt_succ_iff.mp hless) (Nat.floor_le_ceil x)
    have hwhole : x = ⌊x⌋₊ := le_antisymm (hceil ▸ Nat.le_ceil x) (Nat.floor_le hx)
    rw [hceil, ← hwhole]
    ring
  · rw [heq]
    ring

theorem interpolate_natCast (n : ℕ) : interpolate a n = a n := by
  rw [interpolate, Nat.floor_natCast, Nat.ceil_natCast]
  ring

variable {a} (ha : ∀ i j, i ≤ j → a i ≤ a j)

include ha

theorem le_interpolate {x : F} (hx : 0 ≤ x) : a ⌊x⌋₊ ≤ interpolate a x := by
  have hstep := sub_nonneg.mpr (ha _ _ (Nat.le_succ ⌊x⌋₊))
  have hpart := sub_nonneg.mpr (Nat.floor_le hx)
  rw [interpolate_eq a hx]
  linarith [mul_nonneg hstep hpart]

theorem interpolate_le {x : F} (hx : 0 ≤ x) : interpolate a x ≤ a (⌊x⌋₊ + 1) := by
  have hstep := sub_nonneg.mpr (ha _ _ (Nat.le_succ ⌊x⌋₊))
  have hpart : x - ⌊x⌋₊ ≤ 1 := by
    have hnext := Nat.lt_floor_add_one x
    linarith
  rw [interpolate_eq a hx]
  linarith [mul_le_of_le_one_right hstep hpart]

theorem interpolate_mono {x y : F} (hx : 0 ≤ x) (h : x ≤ y) :
    interpolate a x ≤ interpolate a y := by
  have hy := hx.trans h
  rcases (Nat.floor_le_floor h).lt_or_eq with hless | heq
  · calc interpolate a x ≤ a (⌊x⌋₊ + 1) := interpolate_le ha hx
      _ ≤ a ⌊y⌋₊ := ha _ _ hless
      _ ≤ interpolate a y := le_interpolate ha hy
  · have hstep := sub_nonneg.mpr (ha _ _ (Nat.le_succ ⌊x⌋₊))
    have hscaled := mul_le_mul_of_nonneg_left (sub_le_sub_right h (⌊x⌋₊ : F)) hstep
    rw [interpolate_eq a hx, interpolate_eq a hy, ← heq]
    linarith

end

end Netfusion.Lib.Interpolation
