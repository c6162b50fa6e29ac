import Mathlib.Algebra.Order.Field.Rat
import Mathlib.Data.List.TakeWhile
import Mathlib.Data.Nat.Digits.Defs
import Mathlib.Tactic.NormNum
import Netfusion.Lib.Text

namespace Netfusion.Lib.Decimal

open Netfusion.Lib.Text

def splitSign : List Char → ℚ × List Char
  | '+' :: s => (1, s)
  | '-' :: s => (-1, s)
  | s => (1, s)

def isExponent (c : Char) : Bool := c = 'e' || c = 'E'

/-- No exponent is an exponent of zero. -/
def parseExponent : List Char → Option ℤ
  | [] => some 0
  | _ :: s =>
    let (sign, digits) := splitSign s
    if digits ≠ [] ∧ digits.all Char.isDigit then
      some (if sign < 0 then -digitsValue digits else digitsValue digits)
    else none

/-- The number a text stands for, read without rounding. The texts of the
infinities and of NaN are no numbers here. -/
def parseF64 (s : List Char) : Option ℚ :=
  let (sign, s) := splitSign s
  let mantissa := s.takeWhile (fun c => !isExponent c)
  let exponent := s.dropWhile (fun c => !isExponent c)
  let whole := mantissa.takeWhile (· ≠ '.')
  let fraction := (mantissa.dropWhile (· ≠ '.')).tail
  if whole ++ fraction ≠ [] ∧ (whole ++ fraction).all Char.isDigit then
    (parseExponent exponent).map (fun e =>
      sign * digitsValue (whole ++ fraction) * (10 : ℚ) ^ (e - (fraction.length : ℤ)))
  else none

example : parseF64 "-12.5e-1".toList = some (-1.25) := by decide +kernel

def digitChars (digits : List (Fin 10)) : List Char := digits.map (fun d : Fin 10 => Nat.digitChar d)

structure Numeral where
  whole : List (Fin 10)
  fraction : List (Fin 10)
  started : whole ≠ []

def Numeral.text (n : Numeral) : List Char :=
  digitChars n.whole ++ if n.fraction = [] then [] else '.' :: digitChars n.fraction

def Numeral.value (n : Numeral) : ℚ :=
  (Nat.ofDigits 10 ((n.whole ++ n.fraction).reverse.map Fin.val) : ℕ) / 10 ^ n.fraction.length

theorem isDigit_of_mem_digitChars {digits : List (Fin 10)} {c : Char}
    (h : c ∈ digitChars digits) : c.isDigit := by
  obtain ⟨d, -, rfl⟩ := List.mem_map.mp h
  exact (by decide : ∀ d : Fin 10, (Nat.digitChar d).isDigit) d

theorem digitsValue_digitChars (digits : List (Fin 10)) :
    digitsValue (digitChars digits) = Nat.ofDigits 10 (digits.reverse.map Fin.val) := by
  have hdigit : ∀ d : Fin 10, (Nat.digitChar d).toNat - '0'.toNat = d := by decide
  rw [digitsValue, digitChars, List.foldl_map, List.map_reverse, Nat.ofDigits_eq_foldr,
    List.foldr_reverse, List.foldl_map]
  simp only [hdigit, Nat.cast_id]
  congr 1
  funext v d
  omega

theorem numeral_chars (n : Numeral) {c : Char} (h : c ∈ n.text) : c.isDigit ∨ c = '.' := by
  rw [Numeral.text, List.mem_append] at h
  rcases h with h | h
  · exact .inl (isDigit_of_mem_digitChars h)
  · split at h
    · cases h
    · rcases List.mem_cons.mp h with rfl | h
      · exact .inr rfl
      · exact .inl (isDigit_of_mem_digitChars h)

theorem numeral_ne_nil (n : Numeral) : n.text ≠ [] := by
  simp [Numeral.text, digitChars, n.started]

theorem not_isExponent {c : Char} (h : c.isDigit ∨ c = '.') : !isExponent c := by
  by_cases he : c = 'e' ∨ c = 'E'
  · rcases he with rfl | rfl <;> simp at h
  · simpa [isExponent] using he

theorem not_isWhitespace_numeral (n : Numeral) : ∀ c ∈ n.text, ¬ isWhitespace c := by
  intro c hc
  rcases numeral_chars n hc with hdigit | rfl
  · have hrange := Char.isDigit_iff_toNat.mp hdigit
    simp [isWhitespace] at hrange ⊢
    omega
  · decide

theorem trim_numeral (n : Numeral) : trim n.text = n.text := by
  apply trim_of_ends
  · exact fun c hc => not_isWhitespace_numeral n c (List.mem_of_mem_head? hc)
  · exact fun c hc => not_isWhitespace_numeral n c (List.mem_of_mem_getLast? hc)

theorem splitSign_unsigned {c : Char} {s : List Char} (h : c.isDigit ∨ c = '.') :
    splitSign (c :: s) = (1, c :: s) := by
  rw [splitSign]
  · intro _ hsign
    cases hsign
    simp at h
  · intro _ hsign
    cases hsign
    simp at h

theorem parseF64_numeral (n : Numeral) : parseF64 n.text = some n.value := by
  have hwhole : ∀ c ∈ digitChars n.whole, c ≠ '.' := by
    rintro c hc rfl
    exact absurd (isDigit_of_mem_digitChars hc) (by decide)
  have htaken : n.text.takeWhile (· ≠ '.') = digitChars n.whole := by
    rw [Numeral.text, List.takeWhile_append_of_pos (by simpa using hwhole)]
    split <;> simp
  have hdropped : (n.text.dropWhile (· ≠ '.')).tail = digitChars n.fraction := by
    rw [Numeral.text, List.dropWhile_append_of_pos (by simpa using hwhole)]
    split
    · next h => simp [h, digitChars]
    · simp
  have hdigits : digitChars n.whole ++ digitChars n.fraction =
      digitChars (n.whole ++ n.fraction) := List.map_append.symm
  have hmantissa : ∀ c ∈ n.text, !isExponent c := fun c hc => not_isExponent (numeral_chars n hc)
  obtain ⟨c, s, hs⟩ := List.exists_cons_of_ne_nil (numeral_ne_nil n)
  have hsign : splitSign n.text = (1, n.text) := by
    rw [hs]
    exact splitSign_unsigned (numeral_chars n (by rw [hs]; exact List.mem_cons_self))
  rw [parseF64, hsign]
  dsimp only
  rw [List.takeWhile_eq_self_iff.mpr hmantissa, List.dropWhile_eq_nil_iff.mpr hmantissa, htaken,
    hdropped, hdigits, if_pos, digitsValue_digitChars, parseExponent, Option.map_some]
  · rw [one_mul, zero_sub, zpow_neg, zpow_natCast, digitChars, List.length_map, Numeral.value,
      div_eq_mul_inv]
  · constructor
    · simp [digitChars, n.started]
    · exact List.all_eq_true.mpr (fun c hc => isDigit_of_mem_digitChars hc)

theorem mem_around_point {c : Char} {s : List Char} (h : c ∈ s) (hc : c ≠ '.') :
    c ∈ s.takeWhile (· ≠ '.') ++ (s.dropWhile (· ≠ '.')).tail := by
  induction s with
  | nil => cases h
  | cons d s ih =>
    by_cases hd : d = '.'
    · subst hd
      simpa [hc] using h
    · rcases List.mem_cons.mp h with rfl | h
      · simp [hd]
      · simpa [hd] using Or.inr (by simpa using ih h)

/-- A number does not go on with another character than a digit, a point or an exponent. -/
theorem parseF64_broken (n : Numeral) (c : Char) (s : List Char) (hdigit : ¬ c.isDigit)
    (hpoint : c ≠ '.') (hexp : !isExponent c) : parseF64 (n.text ++ c :: s) = none := by
  have hmantissa : ∀ c ∈ n.text, !isExponent c := fun c hc => not_isExponent (numeral_chars n hc)
  have hmem : c ∈ (n.text ++ c :: s).takeWhile (fun c => !isExponent c) := by
    rw [List.takeWhile_append_of_pos hmantissa]
    simp [hexp]
  obtain ⟨d, r, hr⟩ := List.exists_cons_of_ne_nil (numeral_ne_nil n)
  have hsign : splitSign (n.text ++ c :: s) = (1, n.text ++ c :: s) := by
    rw [hr]
    exact splitSign_unsigned (numeral_chars n (by rw [hr]; exact List.mem_cons_self))
  rw [parseF64, hsign]
  apply if_neg
  rintro ⟨-, hall⟩
  exact hdigit (List.all_eq_true.mp hall c (mem_around_point hmem hpoint))

end Netfusion.Lib.Decimal
