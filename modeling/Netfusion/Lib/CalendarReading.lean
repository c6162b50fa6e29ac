import Netfusion.Lib.Calendar
import Netfusion.Lib.Text

namespace Netfusion.Lib.CalendarReading

open Netfusion.Lib.Calendar Netfusion.Lib.Text

/-- A reader of timestamps, whatever it makes of texts that are never written. -/
structure Rfc3339 where
  parse : String → Option ℤ
  parse_written : ∀ t, FourDigits t → parse (toRfc3339 t) = some t

def readDigits (w : ℕ) (s : List Char) : Option (ℕ × List Char) :=
  if (s.take w).length = w ∧ (s.take w).all Char.isDigit then
    some (digitsValue (s.take w), s.drop w)
  else none

def skip (c : Char) : List Char → Option (List Char)
  | [] => none
  | c' :: s => if c' = c then some s else none

def readFraction (s : List Char) : ℕ × List Char :=
  match skip '.' s with
  | none => (0, s)
  | some s =>
    let digits := s.takeWhile Char.isDigit
    (digitsValue digits * 10 ^ (9 - digits.length), s.dropWhile Char.isDigit)

def instantOf (year month day nano : ℕ) : ℤ :=
  (daysPerCycle * (year / 400 : ℕ) + daysBeforeYear (year % 400) +
    daysBeforeMonth (isLeap (year % 400)) month + day - epochDay) * nanosPerDay + nano

def readInstant (text : String) : Option ℤ := do
  let (year, s) ← readDigits 4 text.toList
  let (month, s) ← (skip '-' s).bind (readDigits 2)
  let (day, s) ← (skip '-' s).bind (readDigits 2)
  let (hour, s) ← (skip 'T' s).bind (readDigits 2)
  let (minute, s) ← (skip ':' s).bind (readDigits 2)
  let (second, s) ← (skip ':' s).bind (readDigits 2)
  let (nanos, s) := readFraction s
  if s = "+00:00".toList then
    some (instantOf year (month - 1) (day - 1)
      (hour * (3600 * 10 ^ 9) + minute * (60 * 10 ^ 9) + second * 10 ^ 9 + nanos))
  else none

theorem digitsValue_pad (w n : ℕ) : digitsValue (pad w n) = n % 10 ^ w := by
  have hdigit : ∀ d : Fin 10, (Nat.digitChar d).toNat - '0'.toNat = d := by decide
  have hfold : ∀ acc, (pad w n).foldl (fun acc c => acc * 10 + (c.toNat - '0'.toNat)) acc =
      acc * 10 ^ w + n % 10 ^ w := by
    induction w with
    | zero => simp [pad, Nat.mod_one]
    | succ w ih =>
      intro acc
      have hhead := hdigit ⟨n / 10 ^ w % 10, Nat.mod_lt _ (by decide)⟩
      dsimp only at hhead
      rw [pad, List.foldl_cons, hhead, ih, Nat.mod_pow_succ, Nat.pow_succ]
      ring
  rw [digitsValue, hfold, Nat.zero_mul, Nat.zero_add]

theorem readDigits_pad {w n : ℕ} (h : n < 10 ^ w) (s : List Char) :
    readDigits w (pad w n ++ s) = some (n, s) := by
  have htake : (pad w n ++ s).take w = pad w n := List.take_left' (pad_length w n)
  have hdrop : (pad w n ++ s).drop w = s := List.drop_left' (pad_length w n)
  rw [readDigits, htake, hdrop, digitsValue_pad, Nat.mod_eq_of_lt h, if_pos]
  exact ⟨pad_length w n, List.all_eq_true.mpr (isDigit_pad w n)⟩

theorem skip_cons (c : Char) (s : List Char) : skip c (c :: s) = some s := if_pos rfl

theorem readFraction_point {digits : List Char} (h : ∀ c ∈ digits, c.isDigit) (s : List Char) :
    readFraction ('.' :: (digits ++ '+' :: s)) =
      (digitsValue digits * 10 ^ (9 - digits.length), '+' :: s) := by
  have htake : (digits ++ '+' :: s).takeWhile Char.isDigit = digits := by
    rw [List.takeWhile_append_of_pos h, List.takeWhile_cons_of_neg (by decide), List.append_nil]
  have hdrop : (digits ++ '+' :: s).dropWhile Char.isDigit = '+' :: s := by
    rw [List.dropWhile_append_of_pos h, List.dropWhile_cons_of_neg (by decide)]
  rw [readFraction, skip_cons]
  dsimp only
  rw [htake, hdrop]

theorem readFraction_pad (w n : ℕ) (s : List Char) :
    readFraction ('.' :: pad w n ++ '+' :: s) = (n % 10 ^ w * 10 ^ (9 - w), '+' :: s) := by
  rw [List.cons_append, readFraction_point (isDigit_pad w n), digitsValue_pad, pad_length]

theorem readFraction_fraction {nanos : ℕ} (h : nanos < 10 ^ 9) (s : List Char) :
    readFraction (fraction nanos ++ '+' :: s) = (nanos, '+' :: s) := by
  rw [fraction]
  split
  · rename_i hzero
    rw [hzero]
    rfl
  · split
    · rw [readFraction_pad]
      congr 1
      omega
    · split
      · rw [readFraction_pad]
        congr 1
        omega
      · rw [readFraction_pad]
        congr 1
        omega

theorem dayOf_eq (t : ℤ) : dayOf t = daysPerCycle * (dayOf t / daysPerCycle) +
    daysBeforeYear (yearOfCycle t) + daysBeforeMonth (isLeap (yearOfCycle t)) (monthOf t) +
      dayOfMonth t := by
  have hbegun : ∀ (f : ℕ → ℕ) (n day : ℕ), f 0 = 0 → f (lastBefore f n day) ≤ day :=
    fun f n day hzero => Nat.findGreatest_spec (P := fun k => f k ≤ day) (Nat.zero_le n)
      (hzero.trans_le (Nat.zero_le day))
  have hyear : daysBeforeYear (yearOfCycle t) ≤ dayOfCycle t := hbegun _ _ _ (by decide)
  have hmonth : daysBeforeMonth (isLeap (yearOfCycle t)) (monthOf t) ≤ dayOfYear t :=
    hbegun _ _ _ rfl
  have hcycle : (dayOfCycle t : ℤ) = dayOf t % daysPerCycle :=
    Int.toNat_of_nonneg (Int.emod_nonneg _ (by decide))
  have hsplit := Int.mul_ediv_add_emod (dayOf t) daysPerCycle
  rw [dayOfMonth]
  rw [dayOfYear] at hmonth ⊢
  omega

theorem instantOf_parts {t : ℤ} (h : FourDigits t) :
    instantOf (yearOf t).toNat (monthOf t) (dayOfMonth t) (nanoOfDay t) = t := by
  have hyear : yearOfCycle t ≤ 399 := lastBefore_le _ _ _
  have hday := dayOf_eq t
  obtain ⟨hlow, -⟩ := h
  have hof : yearOf t = 400 * (dayOf t / daysPerCycle) + yearOfCycle t := rfl
  have hmod : (yearOf t).toNat % 400 = yearOfCycle t := by omega
  have hdiv : (((yearOf t).toNat / 400 : ℕ) : ℤ) = dayOf t / daysPerCycle := by omega
  rw [instantOf, hmod, hdiv, ← hday, dayOf, nanoOfDay]
  rw [nanosPerDay]
  omega

theorem readInstant_toRfc3339 (t : ℤ) (h : FourDigits t) : readInstant (toRfc3339 t) = some t := by
  have hfour : 0 ≤ yearOf t ∧ yearOf t ≤ 9999 := h
  have hyear : (yearOf t).toNat < 10 ^ 4 := by omega
  have hnano := nanoOfDay_lt t
  have hhour : nanoOfDay t / (3600 * 10 ^ 9) < 10 ^ 2 := by omega
  have hminute : nanoOfDay t % (3600 * 10 ^ 9) / (60 * 10 ^ 9) < 10 ^ 2 := by omega
  have hsecond : nanoOfDay t % (60 * 10 ^ 9) / 10 ^ 9 < 10 ^ 2 := by omega
  have hfraction : nanoOfDay t % 10 ^ 9 < 10 ^ 9 := Nat.mod_lt _ (by decide)
  have hend : "+00:00".toList = '+' :: "00:00".toList := rfl
  have hwhole : nanoOfDay t / (3600 * 10 ^ 9) * (3600 * 10 ^ 9) +
      nanoOfDay t % (3600 * 10 ^ 9) / (60 * 10 ^ 9) * (60 * 10 ^ 9) +
      nanoOfDay t % (60 * 10 ^ 9) / 10 ^ 9 * 10 ^ 9 + nanoOfDay t % 10 ^ 9 = nanoOfDay t := by
    omega
  rw [readInstant, toRfc3339, String.toList_ofList, yearText, if_pos hfour]
  simp only [timeText, readDigits_pad hyear, readDigits_pad (monthOf_lt t),
    readDigits_pad (dayOfMonth_lt t), readDigits_pad hhour, readDigits_pad hminute,
    readDigits_pad hsecond, skip_cons, readFraction_fraction hfraction, Option.bind_eq_bind,
    Option.bind_some, hend, if_true, Nat.add_sub_cancel, hwhole, instantOf_parts h]

def Rfc3339.written : Rfc3339 := ⟨readInstant, readInstant_toRfc3339⟩

example : readInstant "2000-02-29T00:00:00.500+00:00" = some 951782400500000000 := by
  decide +kernel

end Netfusion.Lib.CalendarReading
