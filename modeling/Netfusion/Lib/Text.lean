import Mathlib.Data.List.Infix

namespace Netfusion.Lib.Text

/-- Every copy of the pattern at the front of the text goes, one for each unit
of fuel. -/
def trimFront (pat : List Char) : Nat → List Char → List Char
  | 0, s => s
  | n + 1, s => if pat.isPrefixOf s then trimFront pat n (s.drop pat.length) else s

def trimStartMatches (s pat : String) : String :=
  String.ofList (trimFront pat.toList s.length s.toList)

theorem trimFront_spent (pat : List Char) (hpat : pat ≠ []) (n : Nat) (s : List Char)
    (hn : s.length ≤ n) : ¬ pat.isPrefixOf (trimFront pat n s) := by
  induction n generalizing s with
  | zero =>
    have hs : s = [] := List.length_eq_zero_iff.mp (Nat.le_zero.mp hn)
    simpa [trimFront, hs] using hpat
  | succ n ih =>
    rw [trimFront]
    split
    · apply ih
      have hpos : 0 < pat.length := List.length_pos_iff.mpr hpat
      rw [List.length_drop]
      omega
    · assumption

def copies (pat : List Char) (n : Nat) : List Char := (List.replicate n pat).flatten

theorem copies_succ (pat : List Char) (n : Nat) : copies pat (n + 1) = pat ++ copies pat n := by
  rw [copies, List.replicate_succ, List.flatten_cons, copies]

theorem copies_add (pat : List Char) (m n : Nat) :
    copies pat (m + n) = copies pat m ++ copies pat n := by
  rw [copies, List.replicate_add, List.flatten_append, copies, copies]

theorem trimFront_split (pat : List Char) (n : Nat) (s : List Char) :
    ∃ k, s = copies pat k ++ trimFront pat n s := by
  induction n generalizing s with
  | zero => exact ⟨0, rfl⟩
  | succ n ih =>
    rw [trimFront]
    split
    · rename_i hpat
      obtain ⟨k, hk⟩ := ih (s.drop pat.length)
      refine ⟨k + 1, ?_⟩
      rw [copies_succ, List.append_assoc, ← hk]
      exact List.prefix_iff_eq_append.mp (List.isPrefixOf_iff_prefix.mp hpat) |>.symm
    · exact ⟨0, rfl⟩

theorem rest_unique {pat rest rest' : List Char} (hrest : ¬ pat.isPrefixOf rest)
    (hrest' : ¬ pat.isPrefixOf rest') (k k' : Nat)
    (h : copies pat k ++ rest = copies pat k' ++ rest') : rest = rest' := by
  rw [List.isPrefixOf_iff_prefix] at hrest hrest'
  induction k generalizing k' with
  | zero =>
    cases k' with
    | zero => exact h
    | succ k' =>
      rw [copies_succ, List.append_assoc] at h
      exact absurd ⟨_, h.symm⟩ hrest
  | succ k ih =>
    rw [copies_succ, List.append_assoc] at h
    cases k' with
    | zero => exact absurd ⟨_, h⟩ hrest'
    | succ k' =>
      rw [copies_succ, List.append_assoc] at h
      exact ih k' (List.append_cancel_left h)

/-- One text is the other with copies of the pattern in front. -/
def SameButCopies (pat s t : List Char) : Prop :=
  ∃ n, s = copies pat n ++ t ∨ t = copies pat n ++ s

theorem trimFront_copies {pat : List Char} (hpat : pat ≠ []) (n : Nat) (s : List Char) :
    trimFront pat (copies pat n ++ s).length (copies pat n ++ s) = trimFront pat s.length s := by
  obtain ⟨k, hk⟩ := trimFront_split pat (copies pat n ++ s).length (copies pat n ++ s)
  obtain ⟨k', hk'⟩ := trimFront_split pat s.length s
  apply rest_unique _ _ k (n + k')
  · rw [← hk, copies_add, List.append_assoc, ← hk']
  · exact trimFront_spent pat hpat _ _ (Nat.le_refl _)
  · exact trimFront_spent pat hpat _ _ (Nat.le_refl _)

theorem trimFront_eq_iff {pat : List Char} (hpat : pat ≠ []) (s t : List Char) :
    trimFront pat s.length s = trimFront pat t.length t ↔ SameButCopies pat s t := by
  constructor
  · intro h
    obtain ⟨k, hk⟩ := trimFront_split pat s.length s
    obtain ⟨k', hk'⟩ := trimFront_split pat t.length t
    rw [← h] at hk'
    rcases Nat.le_total k k' with hle | hle
    · obtain ⟨d, rfl⟩ := Nat.exists_eq_add_of_le' hle
      refine ⟨d, .inr ?_⟩
      rw [copies_add, List.append_assoc, ← hk] at hk'
      exact hk'
    · obtain ⟨d, rfl⟩ := Nat.exists_eq_add_of_le' hle
      refine ⟨d, .inl ?_⟩
      rw [copies_add, List.append_assoc, ← hk'] at hk
      exact hk
  · rintro ⟨n, rfl | rfl⟩
    · exact trimFront_copies hpat n t
    · exact (trimFront_copies hpat n s).symm

theorem trimStartMatches_eq_iff {pat : String} (hpat : pat ≠ "") (s t : String) :
    trimStartMatches s pat = trimStartMatches t pat ↔
      SameButCopies pat.toList s.toList t.toList := by
  have hlist : pat.toList ≠ [] := by
    intro hnil
    exact hpat (String.toList_injective hnil)
  rw [← trimFront_eq_iff hlist, trimStartMatches, trimStartMatches, String.length_toList,
    String.length_toList]
  exact String.ofList_inj

example : trimStartMatches "bondbond0" "bond" = "0" := by decide

def contains (s pat : String) : Bool := decide (pat.toList <:+: s.toList)

def startsWith (s pat : String) : Bool := pat.toList.isPrefixOf s.toList

def hasInfix (pat : String) (s : List Char) : Bool := decide (pat.toList <:+: s)

theorem not_hasInfix_of_not_mem {pat : String} {s : List Char} (c : Char) (hc : c ∈ pat.toList)
    (h : c ∉ s) : hasInfix pat s = false :=
  decide_eq_false (fun hfound => h (hfound.subset hc))

theorem not_hasInfix_of_part {pat : String} {s s' : List Char} (h : s <:+: s')
    (hs' : hasInfix pat s' = false) : hasInfix pat s = false :=
  decide_eq_false (fun hfound => of_decide_eq_false hs' (hfound.trans h))

def stripSuffix (pat s : List Char) : Option (List Char) :=
  if pat <:+ s then some (s.take (s.length - pat.length)) else none

theorem stripSuffix_append (pat s : List Char) : stripSuffix pat (s ++ pat) = some s := by
  simp [stripSuffix]

def trimEndMatches (pat s : List Char) : List Char :=
  (trimFront pat.reverse s.length s.reverse).reverse

theorem trimFront_of_not_prefix {pat s : List Char} (h : ¬ pat.isPrefixOf s) (n : Nat) :
    trimFront pat n s = s := by
  cases n with
  | zero => rfl
  | succ n => rw [trimFront, if_neg h]

theorem trimEndMatches_of_not_suffix {pat s : List Char} (h : ¬ pat <:+ s) :
    trimEndMatches pat s = s := by
  rw [trimEndMatches, trimFront_of_not_prefix, List.reverse_reverse]
  rwa [List.isPrefixOf_iff_prefix, List.reverse_prefix]

theorem trimEndMatches_append {pat s : List Char} (h : ¬ pat <:+ s) :
    trimEndMatches pat (s ++ pat) = s := by
  obtain ⟨n, hn⟩ : ∃ n, (s ++ pat).length = n + 1 := by
    apply Nat.exists_eq_succ_of_ne_zero
    intro hzero
    rw [List.length_eq_zero_iff, List.append_eq_nil_iff] at hzero
    exact h (hzero.2 ▸ List.nil_suffix)
  rw [trimEndMatches, hn, trimFront, if_pos]
  · rw [List.reverse_append, List.drop_left, trimFront_of_not_prefix, List.reverse_reverse]
    rwa [List.isPrefixOf_iff_prefix, List.reverse_prefix]
  · rw [List.isPrefixOf_iff_prefix, List.reverse_append]
    exact List.prefix_append _ _

/-- The code points with the Unicode property White_Space. -/
def isWhitespace (c : Char) : Bool :=
  let n := c.toNat
  (9 ≤ n && n ≤ 13) || n = 32 || n = 0x85 || n = 0xA0 || n = 0x1680 ||
  (0x2000 ≤ n && n ≤ 0x200A) || n = 0x2028 || n = 0x2029 || n = 0x202F || n = 0x205F || n = 0x3000

def trim (s : List Char) : List Char :=
  ((s.dropWhile isWhitespace).reverse.dropWhile isWhitespace).reverse

theorem trim_blank (s : List Char) : trim (' ' :: s) = trim s := rfl

theorem trim_of_ends {s : List Char} (hhead : ∀ c ∈ s.head?, ¬ isWhitespace c)
    (hlast : ∀ c ∈ s.getLast?, ¬ isWhitespace c) : trim s = s := by
  have hdrop : ∀ l : List Char, (∀ c ∈ l.head?, ¬ isWhitespace c) →
      l.dropWhile isWhitespace = l := by
    intro l hl
    cases l with
    | nil => rfl
    | cons c l => exact List.dropWhile_cons_of_neg (hl c rfl)
  rw [trim, hdrop s hhead, hdrop s.reverse, List.reverse_reverse]
  rwa [List.head?_reverse]

theorem mem_intercalate {sep c : Char} {parts : List (List Char)}
    (h : c ∈ [sep].intercalate parts) : c = sep ∨ ∃ part ∈ parts, c ∈ part := by
  induction parts with
  | nil => cases h
  | cons part parts ih =>
    cases parts with
    | nil => exact .inr ⟨part, List.mem_cons_self, by simpa using h⟩
    | cons next parts =>
      rw [List.intercalate_cons_cons, List.mem_append, List.mem_append, List.mem_singleton] at h
      rcases h with (h | h) | h
      · exact .inr ⟨part, List.mem_cons_self, h⟩
      · exact .inl h
      · exact (ih h).imp_right (fun ⟨part, hpart, hc⟩ => ⟨part, List.mem_cons_of_mem _ hpart, hc⟩)

theorem intercalate_ne_nil {sep : Char} {part : List Char} {parts : List (List Char)}
    (h : part ≠ []) : [sep].intercalate (part :: parts) ≠ [] := by
  cases parts with
  | nil => simpa using h
  | cons next parts => simp [h]

theorem part_of_mem_splitOn {sep : Char} {piece s : List Char} (h : piece ∈ s.splitOn sep) :
    piece <:+: s := by
  have hjoin : ∀ parts : List (List Char), piece ∈ parts → piece <:+: [sep].intercalate parts := by
    intro parts hpiece
    induction parts with
    | nil => cases hpiece
    | cons part parts ih =>
      cases parts with
      | nil =>
        rw [List.mem_singleton.mp hpiece, List.intercalate_singleton]
      | cons next parts =>
        rw [List.intercalate_cons_cons]
        rcases List.mem_cons.mp hpiece with rfl | hpiece
        · exact ((List.prefix_append _ _).trans (List.prefix_append _ _)).isInfix
        · exact (ih hpiece).trans (List.suffix_append _ _).isInfix
  have hs := hjoin _ h
  rwa [List.intercalate_splitOn] at hs

def commaSeparated (s : String) : List String :=
  (s.toList.splitOn ',').map (fun piece => String.ofList (trim piece))

def dropCarriageReturn (line : List Char) : List Char :=
  if line.getLast? = some '\r' then line.dropLast else line

theorem dropCarriageReturn_part (line : List Char) : dropCarriageReturn line <:+: line := by
  rw [dropCarriageReturn]
  split
  · exact (List.dropLast_prefix line).isInfix
  · exact List.infix_rfl

theorem dropCarriageReturn_of_not_mem {line : List Char} (h : '\r' ∉ line) :
    dropCarriageReturn line = line :=
  if_neg (fun hlast => h (List.mem_of_getLast? hlast))

/-- The lines of a text; a final line break does not begin another line, and
only a carriage return before a line break goes. -/
def lines (s : String) : List (List Char) :=
  let pieces := s.toList.splitOn '\n'
  pieces.dropLast.map dropCarriageReturn ++ (pieces.getLast?.toList.filter (· ≠ []))

/-- A step that takes nothing from an empty line and overlooks the carriage
returns can run over the pieces between the line breaks. -/
theorem foldl_lines {β : Type} (step : β → List Char → β) (start : β) {s : String}
    {pieces : List (List Char)} (hpieces : s.toList.splitOn '\n' = pieces)
    (hreturn : ∀ b, ∀ piece ∈ pieces, step b (dropCarriageReturn piece) = step b piece)
    (hnil : ∀ b, step b [] = b) : (lines s).foldl step start = pieces.foldl step start := by
  have hne : pieces ≠ [] := hpieces ▸ List.splitOn_ne_nil _ _
  have hinit : ∀ b, (pieces.dropLast.map dropCarriageReturn).foldl step b =
      pieces.dropLast.foldl step b := by
    intro b
    rw [List.foldl_map]
    exact List.foldl_ext _ _ _ (fun b piece h => hreturn b piece (List.mem_of_mem_dropLast h))
  rw [lines, hpieces]
  conv_rhs => rw [← List.dropLast_append_getLast hne]
  rw [List.foldl_append, List.foldl_append, hinit, List.getLast?_eq_some_getLast hne]
  by_cases hlast : pieces.getLast hne = []
  · simp [hlast, hnil]
  · simp [hlast]

def splitWhitespace (line : List Char) : List (List Char) :=
  (line.splitOnP isWhitespace).filter (· ≠ [])

def digitsValue (digits : List Char) : Nat :=
  digits.foldl (fun acc c => acc * 10 + (c.toNat - '0'.toNat)) 0

/-- A decimal number below `bound`, with or without a plus sign. -/
def parseUint (bound : Nat) (s : List Char) : Option Nat :=
  let digits := if s.head? = some '+' then s.tail else s
  if digits ≠ [] ∧ digits.all Char.isDigit ∧ digitsValue digits < bound then
    some (digitsValue digits)
  else none

/-- One to three digits, no leading zero, at most 255. -/
def isOctet (s : List Char) : Bool :=
  s.all Char.isDigit && 1 ≤ s.length && s.length ≤ 3 && (s.head? ≠ some '0' || s.length = 1) &&
  digitsValue s ≤ 255

def isIpv4Addr (s : String) : Bool :=
  let parts := s.toList.splitOn '.'
  parts.length = 4 && parts.all isOctet

example : (lines "peer\t1700000000\n").map splitWhitespace =
    ["peer".toList :: "1700000000".toList :: []] := by decide

end Netfusion.Lib.Text
