import Mathlib.Data.List.Count
import Netfusion.Lib.Collections

namespace Netfusion.Lib.Netfilter

open Netfusion.Lib.Collections

structure ChainBlock (C R : Type) where
  name : C
  rules : List R

structure TableBlock (T C R : Type) where
  name : T
  chains : List (ChainBlock C R)

/-- The tables with their chains, each with its rules in order. -/
abbrev Ruleset (T C R : Type) := HashMap T (HashMap C (List R))

variable {T C R : Type} [DecidableEq T] [DecidableEq C]

/-- The rules of a chain that is there already come before the new ones. -/
def addChain (m : HashMap C (List R)) (b : ChainBlock C R) : HashMap C (List R) :=
  m.insert b.name ((m.lookup b.name).getD [] ++ b.rules)

def load (r : Ruleset T C R) (b : TableBlock T C R) : Ruleset T C R :=
  r.insert b.name (b.chains.foldl addChain ((r.lookup b.name).getD ∅))

def deleteTable (r : Ruleset T C R) (name : T) : Ruleset T C R := r.erase name

def Loaded (r : Ruleset T C R) (table : T) (chain : C) : Prop :=
  ∃ chains, r.lookup table = some chains ∧ chain ∈ chains

theorem mem_addChains (bs : List (ChainBlock C R)) (m : HashMap C (List R)) (chain : C) :
    chain ∈ bs.foldl addChain m ↔ chain ∈ m ∨ chain ∈ bs.map (·.name) := by
  induction bs generalizing m with
  | nil => simp
  | cons b bs ih =>
    rw [List.foldl_cons, ih, addChain, AList.mem_insert, List.map_cons, List.mem_cons]
    tauto

theorem loaded_load (r : Ruleset T C R) (b : TableBlock T C R) (table : T) (chain : C) :
    Loaded (load r b) table chain ↔
      Loaded r table chain ∨ table = b.name ∧ chain ∈ b.chains.map (·.name) := by
  simp only [Loaded, load, lookup_insert_eq]
  by_cases h : table = b.name
  · subst h
    simp only [if_true, Option.some.injEq, exists_eq_left', mem_addChains, true_and]
    cases r.lookup b.name with
    | none => simp
    | some chains => simp
  · simp only [h, if_false, false_and, or_false]

omit [DecidableEq C] in
theorem loaded_deleteTable (r : Ruleset T C R) (name table : T) (chain : C) :
    Loaded (deleteTable r name) table chain ↔ table ≠ name ∧ Loaded r table chain := by
  simp only [Loaded, deleteTable, lookup_erase_eq]
  by_cases h : table = name
  · simp [h]
  · simp [h]

section

variable {α : Type} [DecidableEq α]

def addRules (l rules : List α) : List α := rules.foldl (fun l r => l.insert r) l

theorem mem_addRules (l rules : List α) (a : α) : a ∈ addRules l rules ↔ a ∈ l ∨ a ∈ rules := by
  induction rules generalizing l with
  | nil => simp [addRules]
  | cons r rules ih =>
    have hrest := ih (l.insert r)
    rw [addRules] at hrest ⊢
    rw [List.foldl_cons, hrest, List.mem_insert_iff, List.mem_cons]
    tauto

theorem count_addRules (l rules : List α) (a : α) (h : l.count a ≤ 1) :
    (addRules l rules).count a ≤ 1 := by
  induction rules generalizing l with
  | nil => exact h
  | cons r rules ih =>
    apply ih
    rw [List.count_insert]
    split <;> omega

/-- A rule that was not there is left after some are added and some deleted if
it is among the first and not among the second. -/
theorem mem_addRules_diff (l added deleted : List α) (a : α) (h : a ∉ l) :
    a ∈ (addRules l added).diff deleted ↔ a ∈ added ∧ a ∉ deleted := by
  have hadded := mem_addRules l added a
  have hcount := count_addRules l added a (by rw [List.count_eq_zero_of_not_mem h]; omega)
  rw [← List.count_pos_iff, List.count_diff]
  rw [← List.count_pos_iff] at hadded
  rw [← List.count_pos_iff (l := deleted)]
  have hmem : 0 < (addRules l added).count a ↔ a ∈ added := by
    rw [hadded]
    exact or_iff_right h
  rw [← hmem]
  omega

end

end Netfusion.Lib.Netfilter
