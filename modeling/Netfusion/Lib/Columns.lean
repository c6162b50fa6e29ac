import Mathlib.Data.List.DropRight
import Mathlib.Data.Nat.Digits.Defs
import Netfusion.Lib.Text

namespace Netfusion.Lib.Columns

open Netfusion.Lib.Text

/-- A text that is read as one cell. -/
structure Solid (cell : List Char) : Prop where
  ne_nil : cell ≠ []
  unbroken : ∀ c ∈ cell, isWhitespace c = false

theorem solid_of_all {cell : List Char} (hne : cell ≠ [])
    (h : cell.all (fun c => !isWhitespace c) = true) : Solid cell :=
  ⟨hne, fun c hc => by simpa using List.all_eq_true.mp h c hc⟩

/-- Cells aligned to the right of their widths, with one separator between them. -/
def rowText (sep : Char) (cells : List (Nat × List Char)) : List Char :=
  [sep].intercalate (cells.map (fun cell => cell.2.leftpad cell.1 ' '))

def linesText (rows : List (List Char)) : String :=
  String.ofList (rows.flatMap (fun row => row ++ ['\n']))

theorem splitWhitespace_blank {c : Char} (h : isWhitespace c = true) (s : List Char) :
    splitWhitespace (c :: s) = splitWhitespace s := by
  rw [splitWhitespace, List.splitOnP_cons_eq_if_modifyHead, if_pos h]
  rfl

theorem splitWhitespace_blanks (n : Nat) (s : List Char) :
    splitWhitespace (List.replicate n ' ' ++ s) = splitWhitespace s := by
  induction n with
  | zero => rfl
  | succ n ih => rw [List.replicate_succ, List.cons_append, splitWhitespace_blank rfl, ih]

theorem splitWhitespace_solid {cell : List Char} (h : Solid cell) :
    splitWhitespace cell = [cell] := by
  rw [splitWhitespace, List.splitOnP_eq_singleton h.unbroken]
  simp [h.ne_nil]

theorem splitWhitespace_solid_cons {cell : List Char} (h : Solid cell) {sep : Char}
    (hsep : isWhitespace sep = true) (s : List Char) :
    splitWhitespace (cell ++ sep :: s) = cell :: splitWhitespace s := by
  rw [splitWhitespace, List.splitOnP_append_cons_of_forall_mem h.unbroken sep hsep,
    List.filter_cons_of_pos (by simp [h.ne_nil])]
  rfl

theorem splitWhitespace_rowText {sep : Char} (hsep : isWhitespace sep = true)
    (cells : List (Nat × List Char)) (h : ∀ cell ∈ cells, Solid cell.2) :
    splitWhitespace (rowText sep cells) = cells.map Prod.snd := by
  induction cells with
  | nil => rfl
  | cons cell cells ih =>
    have hcell := h cell List.mem_cons_self
    have hrest := ih (fun other hother => h other (List.mem_cons_of_mem _ hother))
    rw [List.map_cons, ← hrest, rowText, rowText, List.map_cons]
    cases cells with
    | nil =>
      rw [List.map_nil, List.intercalate_singleton, List.leftpad, splitWhitespace_blanks,
        splitWhitespace_solid hcell]
      rfl
    | cons next cells =>
      rw [List.map_cons, List.intercalate_cons_cons, List.leftpad, List.append_assoc,
        List.append_assoc, splitWhitespace_blanks, List.singleton_append,
        splitWhitespace_solid_cons hcell hsep]

theorem not_mem_rowText {sep c : Char} (hc : isWhitespace c = true) (hsep : c ≠ sep)
    (hblank : c ≠ ' ') (cells : List (Nat × List Char)) (h : ∀ cell ∈ cells, Solid cell.2) :
    c ∉ rowText sep cells := by
  intro hmem
  rcases mem_intercalate hmem with heq | ⟨part, hpart, hmem⟩
  · exact hsep heq
  · obtain ⟨cell, hcell, rfl⟩ := List.mem_map.mp hpart
    rcases List.mem_append.mp hmem with hpad | hin
    · exact hblank (List.eq_of_mem_replicate hpad)
    · exact absurd hc (by simp [(h cell hcell).unbroken c hin])

def stripPrefix (pat : String) (s : List Char) : Option (List Char) :=
  if pat.toList <+: s then some (s.drop pat.toList.length) else none

theorem stripPrefix_append (pat : String) (s : List Char) :
    stripPrefix pat (pat.toList ++ s) = some s := by
  rw [stripPrefix, if_pos (List.prefix_append _ _), List.drop_left]

/-- Of two labels that do not begin with each other a text has only one in front. -/
theorem stripPrefix_other {pat label : String} (h : ¬ pat.toList <+: label.toList)
    (h' : ¬ label.toList <+: pat.toList) (s : List Char) :
    stripPrefix pat (label.toList ++ s) = none := by
  apply if_neg
  intro hpat
  exact (List.prefix_or_prefix_of_prefix hpat (List.prefix_append _ s)).elim h h'

def trimEnd (s : List Char) : List Char := s.rdropWhile isWhitespace

theorem trim_blank_cons {c : Char} (h : isWhitespace c = true) (s : List Char) :
    trim (c :: s) = trim s := by
  rw [trim, List.dropWhile_cons_of_pos h, trim]

theorem trim_solid_cons {c : Char} (h : isWhitespace c = false) (s : List Char) :
    trim (c :: s) = trimEnd (c :: s) := by
  rw [trim, List.dropWhile_cons_of_neg (by simp [h])]
  rfl

theorem trimEnd_append {t : List Char} (h : trimEnd t ≠ []) (s : List Char) :
    trimEnd (s ++ t) = s ++ trimEnd t := by
  have hne : ¬ (t.reverse.dropWhile isWhitespace).isEmpty := by
    intro hempty
    rw [List.isEmpty_iff] at hempty
    exact h (by rw [trimEnd, List.rdropWhile, hempty, List.reverse_nil])
  rw [trimEnd, List.rdropWhile, List.reverse_append, List.dropWhile_append, if_neg hne,
    List.reverse_append, List.reverse_reverse]
  rfl

theorem trimEnd_append_blank {t : List Char} (h : trimEnd t = []) (s : List Char) :
    trimEnd (s ++ t) = trimEnd s := by
  have hempty : (t.reverse.dropWhile isWhitespace).isEmpty := by
    rw [List.isEmpty_iff, ← List.reverse_eq_nil_iff]
    exact h
  rw [trimEnd, List.rdropWhile, List.reverse_append, List.dropWhile_append, if_pos hempty]
  rfl

theorem trimEnd_eq_nil_iff {s : List Char} : trimEnd s = [] ↔ trim s = [] := by
  have htrim : trim s = trimEnd (s.dropWhile isWhitespace) := rfl
  rw [htrim, trimEnd, trimEnd, List.rdropWhile_eq_nil_iff, List.rdropWhile_eq_nil_iff]
  constructor
  · intro hblank c hc
    exact hblank c ((List.dropWhile_suffix _).subset hc)
  · intro hblank c hc
    rw [← List.takeWhile_append_dropWhile (p := isWhitespace) (l := s)] at hc
    exact (List.mem_append.mp hc).elim List.mem_takeWhile_imp (hblank c)

theorem trim_trimEnd (s : List Char) : trim (trimEnd s) = trim s := by
  induction s with
  | nil => rfl
  | cons c s ih =>
    have happend : c :: s = [c] ++ s := rfl
    cases hc : isWhitespace c with
    | true =>
      rw [trim_blank_cons hc, ← ih, happend]
      by_cases hs : trimEnd s = []
      · rw [trimEnd_append_blank hs, hs, trimEnd, List.rdropWhile_singleton, if_pos hc]
      · rw [trimEnd_append hs, List.singleton_append, trim_blank_cons hc]
    | false =>
      have hne : trimEnd (c :: s) ≠ [] := by
        intro hnil
        rw [trimEnd, List.rdropWhile_eq_nil_iff] at hnil
        exact absurd (hnil c List.mem_cons_self) (by simp [hc])
      obtain ⟨t, ht⟩ : ∃ t, trimEnd (c :: s) = c :: t := by
        obtain ⟨u, hu⟩ := List.rdropWhile_prefix (p := isWhitespace) (l := c :: s)
        rw [← trimEnd] at hu
        obtain ⟨first, t, ht⟩ := List.exists_cons_of_ne_nil hne
        rw [ht, List.cons_append] at hu
        exact ⟨t, ht.trans (by rw [(List.cons.inj hu).1])⟩
      rw [trim_solid_cons hc, ht, trim_solid_cons hc, ← ht, trimEnd, trimEnd,
        List.rdropWhile_idempotent]

theorem trim_solid_break {cell : List Char} (h : Solid cell) {c : Char}
    (hc : isWhitespace c = true) : trim (cell ++ [c]) = cell := by
  have hhead : ∀ s : List Char, (cell ++ s).dropWhile isWhitespace = cell ++ s := by
    intro s
    obtain ⟨first, rest, rfl⟩ := List.exists_cons_of_ne_nil h.ne_nil
    apply List.dropWhile_cons_of_neg
    simp [h.unbroken first List.mem_cons_self]
  have hlast : cell.reverse.dropWhile isWhitespace = cell.reverse := by
    obtain ⟨last, rest, hrev⟩ := List.exists_cons_of_ne_nil (List.reverse_ne_nil_iff.mpr h.ne_nil)
    rw [hrev]
    apply List.dropWhile_cons_of_neg
    simp [h.unbroken last (List.mem_reverse.mp (hrev ▸ List.mem_cons_self))]
  rw [trim, hhead, List.reverse_append, List.reverse_singleton, List.singleton_append,
    List.dropWhile_cons_of_pos hc, hlast, List.reverse_reverse]

theorem splitOn_linesText (rows : List (List Char)) (h : ∀ row ∈ rows, '\n' ∉ row) :
    (rows.flatMap (fun row => row ++ ['\n'])).splitOn '\n' = rows ++ [[]] := by
  induction rows with
  | nil => rfl
  | cons row rows ih =>
    rw [List.flatMap_cons, List.append_assoc, List.singleton_append,
      List.splitOn_append_cons_self_of_not_mem (h row List.mem_cons_self),
      ih (fun other hother => h other (List.mem_cons_of_mem _ hother)), List.cons_append]

theorem lines_linesText (rows : List (List Char)) (h : ∀ row ∈ rows, '\n' ∉ row ∧ '\r' ∉ row) :
    lines (linesText rows) = rows := by
  have hreturn : rows.map dropCarriageReturn = rows := by
    conv_rhs => rw [← List.map_id rows]
    apply List.map_congr_left
    exact fun row hrow => dropCarriageReturn_of_not_mem (h row hrow).2
  rw [lines, linesText, String.toList_ofList,
    splitOn_linesText rows (fun row hrow => (h row hrow).1)]
  simp [hreturn]

theorem digitsValue_toDigits (n : Nat) : digitsValue (Nat.toDigits 10 n) = n := by
  have hvalue := Nat.ofDigitChars_ten_toDigits (n := n)
  rw [Nat.ofDigitChars] at hvalue
  rw [digitsValue]
  conv_rhs => rw [← hvalue]
  simp only [Nat.mul_comm]

theorem parseUint_toDigits {bound n : Nat} (h : n < bound) :
    parseUint bound (Nat.toDigits 10 n) = some n := by
  have hdigits : ∀ c ∈ Nat.toDigits 10 n, c.isDigit :=
    fun c hc => Nat.isDigit_of_mem_toDigits (by decide) (by decide) hc
  have hplus : (Nat.toDigits 10 n).head? ≠ some '+' := by
    intro hhead
    exact absurd (hdigits '+' (List.mem_of_mem_head? hhead)) (by decide)
  rw [parseUint, if_neg hplus, if_pos, digitsValue_toDigits]
  exact ⟨Nat.toDigits_ne_nil, List.all_eq_true.mpr hdigits, by rwa [digitsValue_toDigits]⟩

theorem solid_toDigits (n : Nat) : Solid (Nat.toDigits 10 n) := by
  refine ⟨Nat.toDigits_ne_nil, ?_⟩
  intro c hc
  have hdigit := Nat.isDigit_of_mem_toDigits (b := 10) (by decide) (by decide) hc
  have hrange : 48 ≤ c.toNat ∧ c.toNat ≤ 57 := by
    simpa [Char.isDigit, UInt32.le_iff_toNat_le] using hdigit
  simp [isWhitespace]
  omega

end Netfusion.Lib.Columns
