import Mathlib.Algebra.Order.Group.Int
import Mathlib.Data.Int.Interval
import Mathlib.Data.List.Induction
import Mathlib.Tactic.Ring

namespace Netfusion.Lib.Tables

inductive SqliteError where
  | full | mismatch | notNull
  deriving DecidableEq

structure Row (α : Type) where
  id : ℤ
  value : α

def Row.map {α β : Type} (f : α → β) (row : Row α) : Row β := ⟨row.id, f row.value⟩

def maxId : ℤ := 2 ^ 63 - 1

def rowsOf {α : Type} (values : List α) : List (Row α) :=
  (values.take maxId.toNat).mapIdx (fun i value => ⟨i + 1, value⟩)

theorem rowsOf_map {α β : Type} (f : α → β) (values : List α) :
    rowsOf (values.map f) = (rowsOf values).map (Row.map f) := by
  apply List.ext_getElem?
  intro i
  rw [rowsOf, rowsOf, ← List.map_take, List.getElem?_map, List.getElem?_mapIdx,
    List.getElem?_mapIdx, List.getElem?_map]
  cases (values.take maxId.toNat)[i]? <;> rfl

theorem values_rowsOf {α : Type} (values : List α) :
    (rowsOf values).map Row.value = values.take maxId.toNat := by
  apply List.ext_getElem?
  intro i
  rw [rowsOf, List.getElem?_map, List.getElem?_mapIdx]
  cases (values.take maxId.toNat)[i]? <;> rfl

theorem length_rowsOf_le {α : Type} (values : List α) : ((rowsOf values).length : ℤ) ≤ maxId := by
  have hpos : (maxId.toNat : ℤ) = maxId := Int.toNat_of_nonneg (by decide)
  rw [rowsOf, List.length_mapIdx, List.length_take]
  omega

theorem rowsOf_concat {α : Type} (values : List α) (value : α) : rowsOf (values ++ [value]) =
    if (values.length : ℤ) < maxId then rowsOf values ++ [⟨values.length + 1, value⟩]
    else rowsOf values := by
  have hpos : (maxId.toNat : ℤ) = maxId := Int.toNat_of_nonneg (by decide)
  split
  · rename_i hless
    rw [rowsOf, rowsOf, List.take_of_length_le, List.take_of_length_le, List.mapIdx_concat]
    · omega
    · rw [List.length_append, List.length_singleton]
      omega
  · rename_i hfull
    rw [rowsOf, rowsOf, List.take_append_of_le_length]
    omega

/-- A table whose rows are numbered in the order of their insertion, no number
twice. The sequence is the last number given. -/
structure Table (α : Type) where
  rows : List (Row α)
  sequence : ℤ
  increasing : rows.Pairwise (fun a b => a.id < b.id)
  numbered : ∀ row ∈ rows, 1 ≤ row.id ∧ row.id ≤ sequence
  bounded : 0 ≤ sequence ∧ sequence ≤ maxId

namespace Table

variable {α : Type}

def empty : Table α where
  rows := []
  sequence := 0
  increasing := .nil
  numbered _ h := by cases h
  bounded := by decide

/-- What is returned is the number of rows changed. -/
def insert (t : Table α) (value : α) : Except SqliteError ℕ × Table α :=
  if h : t.sequence < maxId then
    (.ok 1, {
      rows := t.rows ++ [⟨t.sequence + 1, value⟩]
      sequence := t.sequence + 1
      increasing := by
        rw [List.pairwise_append]
        refine ⟨t.increasing, List.pairwise_singleton _ _, ?_⟩
        intro row hrow new hnew
        have hnumber := t.numbered row hrow
        rw [List.mem_singleton.mp hnew]
        dsimp only
        omega
      numbered := by
        intro row hrow
        have hsequence := t.bounded.1
        rcases List.mem_append.mp hrow with hrow | hrow
        · have hnumber := t.numbered row hrow
          omega
        · rw [List.mem_singleton.mp hrow]
          dsimp only
          omega
      bounded := by
        have hsequence := t.bounded.1
        omega })
  else (.error .full, t)

/-- Without a value a column that takes no NULL would hold one. -/
def insertBound (t : Table α) (value : Option α) : Except SqliteError ℕ × Table α :=
  match value with
  | some value => t.insert value
  | none => (.error (if t.sequence < maxId then .notNull else .full), t)

def delete (t : Table α) (p : Row α → Bool) : ℕ × Table α :=
  ((t.rows.filter p).length, { t with
    rows := t.rows.filter (fun row => !p row)
    increasing := t.increasing.filter _
    numbered := fun row hrow => t.numbered row (List.mem_of_mem_filter hrow) })

theorem ids_nodup (t : Table α) : (t.rows.map Row.id).Nodup :=
  List.pairwise_map.mpr (t.increasing.imp (fun h => h.ne))

theorem insert_fits {t : Table α} (h : t.sequence < maxId) (value : α) :
    (t.insert value).1 = .ok 1 ∧ (t.insert value).2.sequence = t.sequence + 1 ∧
      (t.insert value).2.rows = t.rows ++ [⟨t.sequence + 1, value⟩] := by
  rw [insert, dif_pos h]
  exact ⟨rfl, rfl, rfl⟩

theorem insert_full {t : Table α} (h : ¬ t.sequence < maxId) (value : α) :
    t.insert value = (.error .full, t) := dif_neg h

theorem insert_cases (t : Table α) (value : α) :
    ((t.insert value).1 = .ok 1 ∧ (t.insert value).2.rows = t.rows ++ [⟨t.sequence + 1, value⟩]) ∨
    ((t.insert value).1 = .error .full ∧ (t.insert value).2 = t) := by
  by_cases h : t.sequence < maxId
  · exact .inl ⟨(insert_fits h value).1, (insert_fits h value).2.2⟩
  · rw [insert_full h]
    exact .inr ⟨rfl, rfl⟩

def insertAll (t : Table α) (values : List α) : Table α :=
  values.foldl (fun t value => (t.insert value).2) t

theorem insertAll_concat (t : Table α) (values : List α) (value : α) :
    t.insertAll (values ++ [value]) = ((t.insertAll values).insert value).2 := by
  rw [insertAll, List.foldl_append]
  rfl

theorem insertAll_rows (values : List α) : (empty.insertAll values).rows = rowsOf values ∧
    (empty.insertAll values).sequence = min (values.length : ℤ) maxId := by
  induction values using List.reverseRecOn with
  | nil => exact ⟨rfl, rfl⟩
  | append_singleton values value ih =>
    obtain ⟨hrows, hsequence⟩ := ih
    rw [insertAll_concat, rowsOf_concat, ← hrows, List.length_append, List.length_singleton]
    by_cases hless : (values.length : ℤ) < maxId
    · obtain ⟨-, hnext, hadded⟩ := insert_fits (t := empty.insertAll values) (by omega) value
      rw [if_pos hless, hadded, hnext, hsequence, min_eq_left hless.le]
      exact ⟨rfl, by omega⟩
    · rw [insert_full (by omega), if_neg hless]
      dsimp only
      exact ⟨rfl, by omega⟩

theorem row_eq (t : Table α) {a b : Row α} (ha : a ∈ t.rows) (hb : b ∈ t.rows)
    (h : a.id = b.id) : a = b := List.inj_on_of_nodup_map t.ids_nodup ha hb h

theorem delete_count (t : Table α) (p : Row α → Bool) :
    (t.delete p).1 + (t.delete p).2.rows.length = t.rows.length :=
  (List.length_eq_length_filter_add p).symm

theorem length_le (t : Table α) : (t.rows.length : ℤ) ≤ maxId := by
  have hsub : (t.rows.map Row.id).toFinset ⊆ Finset.Icc 1 t.sequence := by
    intro id hid
    obtain ⟨row, hrow, rfl⟩ := List.mem_map.mp (List.mem_toFinset.mp hid)
    exact Finset.mem_Icc.mpr (t.numbered row hrow)
  have hcard := Finset.card_le_card hsub
  rw [List.toFinset_card_of_nodup t.ids_nodup, List.length_map, Int.card_Icc] at hcard
  have hbound := t.bounded
  omega

end Table

end Netfusion.Lib.Tables
