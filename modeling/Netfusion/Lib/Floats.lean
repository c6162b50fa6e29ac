import Mathlib.Data.Rat.Floor

namespace Netfusion.Lib.Floats

variable {F : Type}

/-- The values of a floating format: numbers, and one that is in no comparison. -/
inductive WithNaN (F : Type) where
  | nan
  | num (x : F)
deriving DecidableEq

namespace WithNaN

protected def Less [LT F] : WithNaN F → WithNaN F → Prop
  | num x, num y => x < y
  | _, _ => False

protected def AtMost [LE F] : WithNaN F → WithNaN F → Prop
  | num x, num y => x ≤ y
  | _, _ => False

protected def minus [Sub F] : WithNaN F → WithNaN F → WithNaN F
  | num x, num y => num (x - y)
  | _, _ => nan

/-- The total order of the format, in which the value apart comes last. -/
protected def totalCmp [Ord F] : WithNaN F → WithNaN F → Ordering
  | num x, num y => compare x y
  | num _, nan => .lt
  | nan, num _ => .gt
  | nan, nan => .eq

instance [LT F] : LT (WithNaN F) := ⟨WithNaN.Less⟩

instance [LE F] : LE (WithNaN F) := ⟨WithNaN.AtMost⟩

instance [Sub F] : Sub (WithNaN F) := ⟨WithNaN.minus⟩

instance [Ord F] : Ord (WithNaN F) := ⟨WithNaN.totalCmp⟩

instance [LT F] [DecidableLT F] : DecidableLT (WithNaN F)
  | num x, num y => inferInstanceAs (Decidable (x < y))
  | num _, nan => .isFalse id
  | nan, num _ => .isFalse id
  | nan, nan => .isFalse id

instance [LE F] [DecidableLE F] : DecidableLE (WithNaN F)
  | num x, num y => inferInstanceAs (Decidable (x ≤ y))
  | num _, nan => .isFalse id
  | nan, num _ => .isFalse id
  | nan, nan => .isFalse id

def number : WithNaN F → Option F
  | num x => some x
  | nan => none

theorem compared_iff [LinearOrder F] (x y : WithNaN F) : x < y ∨ y ≤ x ↔ x ≠ nan ∧ y ≠ nan := by
  cases x with
  | nan => cases y <;> exact iff_of_false (fun h => h.elim id id) (fun h => h.1 rfl)
  | num x =>
    cases y with
    | nan => exact iff_of_false (fun h => h.elim id id) (fun h => h.2 rfl)
    | num y => exact iff_of_true (lt_or_ge x y) (by simp)

end WithNaN

/-- The nearest whole number, and of two the even one. -/
def roundHalfEven (x : ℚ) : ℤ :=
  if x - ⌊x⌋ < 1 / 2 ∨ x - ⌊x⌋ = 1 / 2 ∧ ⌊x⌋ % 2 = 0 then ⌊x⌋ else ⌊x⌋ + 1

def twoToThe (k : ℤ) : ℚ := if 0 ≤ k then (2 ^ k.toNat : ℕ) else 1 / (2 ^ (-k).toNat : ℕ)

/-- The exponent of the greatest power of two that is not above `x`. -/
def exponentOf (x : ℚ) : ℤ :=
  let k : ℤ := x.num.natAbs.log2 - x.den.log2
  if twoToThe k ≤ |x| then k else k - 1

/-- The nearest number with 53 binary digits, down to the smallest exponent of
the format. Nothing is said of overflow. -/
def binary64 (x : ℚ) : ℚ :=
  let k := max (exponentOf x - 52) (-1074)
  roundHalfEven (x / twoToThe k) * twoToThe k

example : binary64 (1 / 10) = 3602879701896397 / 36028797018963968 := by decide +kernel

end Netfusion.Lib.Floats
