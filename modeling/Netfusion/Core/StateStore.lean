import Netfusion.Lib.Calendar
import Netfusion.Lib.Sorting
import Netfusion.Lib.Tables
import Netfusion.Shared.Types

namespace Netfusion.Core.StateStore

open Netfusion.Lib.Calendar Netfusion.Lib.Sorting Netfusion.Lib.Tables
open Netfusion.Shared.Types

inductive StateStoreError where
  | db (e : SqliteError)
  deriving DecidableEq

structure EventRow where
  eventType : String
  data : String
  timestamp : String
  deriving DecidableEq

abbrev Events := Table EventRow

/-- What comes back is the number of rows changed, not the number of the row. -/
def appendEvent (events : Events) (eventType data : String) (now : DateTime) :
    Except StateStoreError ℤ × Events :=
  let (changed, events) := events.insert ⟨eventType, data, toRfc3339 now⟩
  (match changed with
    | .ok n => .ok n
    | .error e => .error (.db e), events)

def asI64 (n : UInt64) : ℤ := n.toInt64.toInt

/-- `MAX(0, count - bound)` as a LIMIT. A difference above the signed range
becomes a real number, and that is no LIMIT. -/
def excess (count : ℕ) (bound : ℤ) : Except SqliteError ℕ :=
  if count - bound ≤ maxId then .ok (max 0 (count - bound)).toNat else .error .mismatch

/-- `ORDER BY timestamp ASC`, which compares texts. -/
def byTimestamp (events : Events) : List (Row EventRow) :=
  sortByKey (fun row => row.value.timestamp) events.rows

def oldest (events : Events) (limit : ℕ) : List ℤ := ((byTimestamp events).take limit).map Row.id

def trimEvents (events : Events) (maxCount : UInt64) : Except StateStoreError ℕ × Events :=
  match excess events.rows.length (asI64 maxCount) with
  | .error e => (.error (.db e), events)
  | .ok limit =>
    let trimmed := events.delete (fun row => row.id ∈ oldest events limit)
    (.ok trimmed.1, trimmed.2)

def StampedAt (row : Row EventRow) (t : DateTime) : Prop :=
  FourDigits t ∧ row.value.timestamp = toRfc3339 t

/-- Events of distinct instants in the years from 0 to 9999. -/
structure EventLog where
  events : Events
  stamped : ∀ row ∈ events.rows, ∃ t, StampedAt row t
  distinct : events.rows.Pairwise (fun a b => ∀ t, StampedAt a t → ¬ StampedAt b t)

/-- The rows left are the given number of the latest, or all, and the others
are counted. -/
def KeepsNewest (log : EventLog) (maxCount : UInt64) : Prop :=
  ∃ deleted remaining, trimEvents log.events maxCount = (.ok deleted, remaining) ∧
    remaining.rows.Sublist log.events.rows ∧
    remaining.rows.length = min log.events.rows.length maxCount.toNat ∧
    (∀ row ∈ log.events.rows, row ∉ remaining.rows → ∀ kept ∈ remaining.rows,
      ∀ t t', StampedAt row t → StampedAt kept t' → t < t') ∧
    deleted + remaining.rows.length = log.events.rows.length

theorem asI64_eq (n : UInt64) :
    asI64 n = if n.toNat < 2 ^ 63 then (n.toNat : ℤ) else n.toNat - 2 ^ 64 := by
  have hbits : asI64 n = n.toBitVec.toInt := rfl
  have hnat : n.toNat = n.toBitVec.toNat := rfl
  rw [hbits, hnat, BitVec.toInt_eq_toNat_cond]
  split <;> split <;> omega

theorem stamped_lt {a b : Row EventRow} {t t' : DateTime} (h : StampedAt a t)
    (h' : StampedAt b t') (hlt : a.value.timestamp < b.value.timestamp) : t < t' := by
  rw [h.2, h'.2] at hlt
  exact (toRfc3339_lt_iff h.1 h'.1).mp hlt

theorem stamped_inj {row : Row EventRow} {t t' : DateTime} (h : StampedAt row t)
    (h' : StampedAt row t') : t = t' :=
  (toRfc3339_inj h.1 h'.1).mp (h.2.symm.trans h'.2)

theorem appendEvent_log (log : EventLog) (eventType data : String) {now : DateTime}
    (hyears : FourDigits now) (hnew : ∀ row ∈ log.events.rows, ¬ StampedAt row now) :
    ∃ log' : EventLog, log'.events = (appendEvent log.events eventType data now).2 := by
  have hstamp : StampedAt ⟨log.events.sequence + 1, eventType, data, toRfc3339 now⟩ now :=
    ⟨hyears, rfl⟩
  rcases log.events.insert_cases ⟨eventType, data, toRfc3339 now⟩ with ⟨-, hrows⟩ | ⟨-, hsame⟩
  · refine ⟨⟨(appendEvent log.events eventType data now).2, ?_, ?_⟩, rfl⟩
    · intro row hrow
      rw [appendEvent, hrows, List.mem_append, List.mem_singleton] at hrow
      rcases hrow with hrow | rfl
      · exact log.stamped row hrow
      · exact ⟨now, hstamp⟩
    · rw [appendEvent, hrows, List.pairwise_append]
      refine ⟨log.distinct, List.pairwise_singleton _ _, ?_⟩
      intro row hrow new hmem t ht ht'
      rw [List.mem_singleton.mp hmem] at ht'
      exact hnew row hrow (stamped_inj ht' hstamp ▸ ht)
  · exact ⟨log, hsame.symm⟩

theorem trimEvents_log (log : EventLog) (maxCount : UInt64) :
    ∃ log' : EventLog, log'.events = (trimEvents log.events maxCount).2 := by
  rw [trimEvents]
  split
  · exact ⟨log, rfl⟩
  · exact ⟨⟨_, fun row hrow => log.stamped row (List.mem_of_mem_filter hrow),
      log.distinct.filter _⟩, rfl⟩

theorem timestamp_ne (log : EventLog) {a b : Row EventRow} (ha : a ∈ log.events.rows)
    (hb : b ∈ log.events.rows) (hab : a ≠ b) : a.value.timestamp ≠ b.value.timestamp := by
  intro heq
  obtain ⟨t, ht⟩ := log.stamped a ha
  have hsymm : Std.Symm (fun a b : Row EventRow => ∀ t, StampedAt a t → ¬ StampedAt b t) :=
    ⟨fun a b hdistinct t hb ha => hdistinct t ha hb⟩
  exact log.distinct.forall ha hb hab t ht ⟨ht.1, heq ▸ ht.2⟩

theorem delete_oldest_perm (events : Events) (limit : ℕ) :
    (events.delete (fun row => row.id ∈ oldest events limit)).2.rows.Perm
      ((byTimestamp events).drop limit) := by
  have hperm := filter_not_mem_take (sortByKey_perm (fun row => row.value.timestamp) events.rows)
    events.ids_nodup limit
  simpa [Table.delete, oldest, byTimestamp] using hperm

theorem delete_oldest_older (log : EventLog) (limit : ℕ) {row kept : Row EventRow}
    (hrow : row ∈ log.events.rows)
    (hgone : row ∉ (log.events.delete (fun row => row.id ∈ oldest log.events limit)).2.rows)
    (hkept : kept ∈ (log.events.delete (fun row => row.id ∈ oldest log.events limit)).2.rows) :
    row.value.timestamp < kept.value.timestamp := by
  have hperm := delete_oldest_perm log.events limit
  have hall := sortByKey_perm (fun row : Row EventRow => row.value.timestamp) log.events.rows
  have hsorted := sortByKey_pairwise (fun row : Row EventRow => row.value.timestamp)
    log.events.rows
  rw [hperm.mem_iff] at hgone hkept
  have hin : row ∈ byTimestamp log.events := hall.mem_iff.mpr hrow
  rw [← List.take_append_drop limit (byTimestamp log.events)] at hin
  rw [← List.take_append_drop limit (sortByKey _ _)] at hsorted
  have hold := (List.mem_append.mp hin).resolve_right hgone
  have hle := (List.pairwise_append.mp hsorted).2.2 row hold kept hkept
  apply lt_of_le_of_ne hle
  apply timestamp_ne log hrow (hall.mem_iff.mp (List.mem_of_mem_drop hkept))
  rintro rfl
  exact hgone hkept

theorem delete_oldest_length (events : Events) (limit : ℕ) :
    (events.delete (fun row => row.id ∈ oldest events limit)).2.rows.length =
      events.rows.length - limit := by
  have hall := (sortByKey_perm (fun row : Row EventRow => row.value.timestamp) events.rows)
  rw [(delete_oldest_perm events limit).length_eq, List.length_drop, byTimestamp, hall.length_eq]

theorem keepsNewest_iff_limit (log : EventLog) (maxCount : UInt64) : KeepsNewest log maxCount ↔
    ∃ limit, excess log.events.rows.length (asI64 maxCount) = .ok limit ∧
      log.events.rows.length - limit = min log.events.rows.length maxCount.toNat := by
  constructor
  · rintro ⟨deleted, remaining, htrim, -, hlength, -⟩
    rw [trimEvents] at htrim
    cases hlimit : excess log.events.rows.length (asI64 maxCount) with
    | error e =>
      rw [hlimit] at htrim
      cases htrim
    | ok limit =>
      rw [hlimit] at htrim
      rw [← (Prod.mk.inj htrim).2, delete_oldest_length] at hlength
      exact ⟨limit, rfl, hlength⟩
  · rintro ⟨limit, hlimit, hlength⟩
    refine ⟨_, _, by rw [trimEvents, hlimit], List.filter_sublist, ?_, ?_, ?_⟩
    · rw [delete_oldest_length, hlength]
    · intro row hrow hgone kept hkept t t' ht ht'
      exact stamped_lt ht ht' (delete_oldest_older log limit hrow hgone hkept)
    · exact Table.delete_count _ _

/-- Only a bound beyond the signed range is taken for a negative one, and then
every event is deleted, or none with an error. -/
theorem keepsNewest_iff (log : EventLog) (maxCount : UInt64) : KeepsNewest log maxCount ↔
    maxCount.toNat < 2 ^ 63 ∨ log.events.rows = [] ∧ maxCount.toNat ≠ 2 ^ 63 := by
  have hcount := log.events.length_le
  have hmax := maxCount.toNat_lt
  rw [keepsNewest_iff_limit, excess, asI64_eq, ← List.length_eq_zero_iff]
  generalize log.events.rows.length = count at *
  rw [maxId] at *
  by_cases hsigned : maxCount.toNat < 2 ^ 63
  · refine iff_of_true ⟨_, if_pos ?_, ?_⟩ (.inl hsigned)
    all_goals
      rw [if_pos hsigned]
      omega
  · rw [if_neg hsigned]
    constructor
    · rintro ⟨limit, hlimit, hlength⟩
      split at hlimit
      · cases hlimit
        omega
      · cases hlimit
    · rintro (hless | ⟨hempty, hne⟩)
      · exact absurd hless hsigned
      · refine ⟨_, if_pos ?_, ?_⟩
        all_goals omega

def oneEvent : EventLog where
  events := (appendEvent Table.empty "failover" "" 1704067200000000000).2
  stamped := by
    intro row hrow
    rw [List.mem_singleton.mp hrow]
    exact ⟨1704067200000000000, by decide +kernel, rfl⟩
  distinct := List.pairwise_singleton _ _

/-- With the greatest bound, meant to keep everything, every event is deleted. -/
theorem greatest_bound_deletes : ¬ KeepsNewest oneEvent 18446744073709551615 := by
  rintro ⟨deleted, remaining, htrim, -, hlength, -⟩
  have hgone : (trimEvents oneEvent.events 18446744073709551615).2.rows.length = 0 := by
    decide +kernel
  rw [htrim, hlength] at hgone
  exact absurd hgone (by decide +kernel)

end Netfusion.Core.StateStore
