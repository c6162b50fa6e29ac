import Netfusion.Core.StateHistory

namespace Netfusion.Core.StateRowIds

open Netfusion.Lib.Calendar Netfusion.Lib.CalendarReading Netfusion.Lib.Tables
open Netfusion.Shared.Types
open Netfusion.Core.StateStore Netfusion.Core.StateHistory

variable {F : Type}

inductive Call (F : Type) where
  | insert (insertion : Insertion F)
  | trimEvents (maxCount : UInt64)

/-- The answer to an insertion is the number that is meant to be the row's id. -/
def callStep (store : StateStore F) : Call F → Except StateStoreError ℤ × StateStore F
  | .insert insertion => insertionStep store insertion
  | .trimEvents maxCount =>
    let (deleted, events) := trimEvents store.events maxCount
    (deleted.map (fun n => n), { store with events })

/-- A row that a call has stored, with what the call was given and what it
returned. -/
structure Receipt (α : Type) where
  given : α
  returned : ℤ
  row : Row α

def receipt {α : Type} (given : α) (result : Except StateStoreError ℤ) (after : Table α) :
    List (Receipt α) :=
  match result, after.rows.getLast? with
  | .ok n, some row => [⟨given, n, row⟩]
  | _, _ => []

structure Ledger (F : Type) where
  store : StateStore F
  events : List (Receipt EventRow)
  health : List (Receipt (HealthRow F))

def record (ledger : Ledger F) (call : Call F) : Ledger F :=
  let (result, store) := callStep ledger.store call
  match call with
  | .insert (.appendEvent eventType data now) =>
    { ledger with
      store := store
      events := ledger.events ++
        receipt (eventColumns ⟨0, eventType, data, now⟩) result store.events }
  | .insert (.recordHealth entry) =>
    { ledger with
      store := store
      health := ledger.health ++ (entry.bound.map healthColumns).elim []
        (fun given => receipt given result store.healthHistory) }
  | .trimEvents _ => { ledger with store := store }

def ledgerOf (calls : List (Call F)) : Ledger F := calls.foldl record ⟨StateStore.empty, [], []⟩

/-- The number a call returned is its row's, no other call has returned it, and
a row that is still there is read under it with what the call was given. -/
structure Identifies {α β : Type} (table : Table α) (receipts : List (Receipt α))
    (content : α → β) (read : α → UInt64 → Except StateStoreError (List (ℤ × β))) : Prop where
  own : ∀ r ∈ receipts, r.returned = r.row.id
  distinct : (receipts.map Receipt.returned).Nodup
  found : ∀ r ∈ receipts, r.row ∈ table.rows → ∀ limit : UInt64, ∃ rows,
    read r.given limit = .ok rows ∧ (∀ c, (r.returned, c) ∈ rows → c = content r.given) ∧
      (table.rows.length ≤ limit.toNat → (r.returned, content r.given) ∈ rows)

def eventContent (row : EventRow) : String × String := (row.eventType, row.data)

def healthContent (row : HealthRow F) : String × F × F × F × F × F × F :=
  (row.interface, row.overall, row.rtt, row.jitter, row.loss, row.throughput, row.stability)

section

variable (reader : Rfc3339)

def readEvents (store : StateStore F) (limit : UInt64) :
    Except StateStoreError (List (ℤ × String × String)) :=
  (getRecentEvents reader store.events limit).map
    (List.map (fun e => (e.id, e.eventType, e.data)))

def readHistory (store : StateStore F) (given : HealthRow F) (limit : UInt64) :
    Except StateStoreError (List (ℤ × String × F × F × F × F × F × F)) :=
  (getHealthHistory reader store.healthHistory given.interface limit).map
    (List.map (fun e =>
      (e.id, e.interface, e.overall, e.rtt, e.jitter, e.loss, e.throughput, e.stability)))

/-- In every state of the run, of both tables. -/
def RowsIdentified (calls : List (Call F)) : Prop :=
  ∀ done, done <+: calls →
    Identifies (ledgerOf done).store.events (ledgerOf done).events eventContent
        (fun _ => readEvents reader (ledgerOf done).store) ∧
      Identifies (ledgerOf done).store.healthHistory (ledgerOf done).health healthContent
        (readHistory reader (ledgerOf done).store)

end

def Call.isAppend : Call F → Bool
  | .insert (.appendEvent _ _ _) => true
  | _ => false

def Call.isRecord : Call F → Bool
  | .insert (.recordHealth entry) => entry.bound.isSome
  | _ => false

/-- A table that so many calls have tried to insert into. Every one of them
that succeeded has returned the same number. -/
structure Accounted {α : Type} (table : Table α) (receipts : List (Receipt α)) (calls : ℕ) :
    Prop where
  sequence : (receipts.length : ℤ) = table.sequence
  issued : table.sequence = min (calls : ℤ) maxId
  one : ∀ r ∈ receipts, r.returned = 1
  stored : ∀ r ∈ receipts, r.row.value = r.given ∧ 1 ≤ r.row.id ∧ r.row.id ≤ table.sequence

section

variable {α : Type} {table : Table α} {receipts : List (Receipt α)} {calls : ℕ}
  (h : Accounted table receipts calls)

include h

theorem accounted_fits (hfits : table.sequence < maxId) (given : α) :
    Accounted (table.insert given).2 (receipts ++ [⟨given, 1, ⟨table.sequence + 1, given⟩⟩])
      (calls + 1) := by
  have hsequence := h.sequence
  have hissued := h.issued
  obtain ⟨-, hnext, -⟩ := Table.insert_fits hfits given
  refine ⟨?_, ?_, ?_, ?_⟩
  · rw [hnext, List.length_append, List.length_singleton]
    omega
  · rw [hnext]
    omega
  · intro r hr
    rcases List.mem_append.mp hr with hr | hr
    · exact h.one r hr
    · rw [List.mem_singleton.mp hr]
  · intro r hr
    rw [hnext]
    rcases List.mem_append.mp hr with hr | hr
    · obtain ⟨hvalue, hlow, hhigh⟩ := h.stored r hr
      exact ⟨hvalue, hlow, by omega⟩
    · rw [List.mem_singleton.mp hr]
      exact ⟨rfl, by dsimp only; omega, le_refl _⟩

theorem accounted_insert (given : α) {result : Except StateStoreError ℤ}
    (hresult : result = ((table.insert given).1.map Nat.cast).mapError .db) :
    Accounted (table.insert given).2 (receipts ++ receipt given result (table.insert given).2)
      (calls + 1) := by
  by_cases hfits : table.sequence < maxId
  · obtain ⟨hone, -, hrows⟩ := Table.insert_fits hfits given
    have hnew : receipt given result (table.insert given).2 =
        [⟨given, 1, ⟨table.sequence + 1, given⟩⟩] := by
      simp only [receipt, hresult, hone, hrows, List.getLast?_concat, Except.map, Except.mapError,
        Nat.cast_one]
    rw [hnew]
    exact accounted_fits h hfits given
  · have hsame := Table.insert_full hfits given
    have hnone : receipt given result (table.insert given).2 = [] := by
      simp only [receipt, hresult, hsame, Except.map, Except.mapError]
    have hissued := h.issued
    rw [hnone, List.append_nil, hsame]
    exact ⟨h.sequence, by dsimp only; omega, h.one, h.stored⟩

theorem accounted_insertBound (value : Option α) {result : Except StateStoreError ℤ}
    (hresult : result = ((table.insertBound value).1.map Nat.cast).mapError .db) :
    Accounted (table.insertBound value).2 (receipts ++ value.elim []
      (fun given => receipt given result (table.insertBound value).2))
      (calls + if value.isSome then 1 else 0) := by
  cases value with
  | none => exact (List.append_nil receipts).symm ▸ h
  | some given => exact accounted_insert h given hresult

theorem accounted_delete (p : Row α → Bool) : Accounted (table.delete p).2 receipts calls :=
  ⟨h.sequence, h.issued, h.one, h.stored⟩

theorem identifies_of_one {β : Type} {content : α → β}
    {read : α → UInt64 → Except StateStoreError (List (ℤ × β))} (hcalls : calls ≤ 1)
    (hread : ∀ given limit, ∃ rows, read given limit = .ok rows ∧
      (∀ p ∈ rows, ∃ row ∈ table.rows, p = (row.id, content row.value)) ∧
      (table.rows.length ≤ limit.toNat → ∀ row ∈ table.rows, row.value = given →
        (row.id, content row.value) ∈ rows)) :
    Identifies table receipts content read := by
  have hsequence := h.sequence
  have hissued := h.issued
  have hown : ∀ r ∈ receipts, r.returned = r.row.id := by
    intro r hr
    obtain ⟨-, hlow, hhigh⟩ := h.stored r hr
    rw [h.one r hr]
    omega
  refine ⟨hown, ?_, ?_⟩
  · match receipts, hsequence with
    | [], _ => exact List.nodup_nil
    | [r], _ => exact List.nodup_singleton _
    | r :: r' :: rest, hsequence =>
      push_cast [List.length_cons] at hsequence
      omega
  · intro r hr hrow limit
    obtain ⟨hvalue, -, -⟩ := h.stored r hr
    obtain ⟨rows, hrows, honly, hall⟩ := hread r.given limit
    refine ⟨rows, hrows, ?_, ?_⟩
    · intro c hc
      obtain ⟨row, hmem, heq⟩ := honly _ hc
      obtain ⟨hid, hcontent⟩ := Prod.mk.inj heq
      rw [hown r hr] at hid
      rw [hcontent, ← table.row_eq hrow hmem hid, hvalue]
    · intro hlimit
      rw [hown r hr, ← hvalue]
      exact hall hlimit r.row hrow hvalue

theorem one_of_identifies {β : Type} {content : α → β}
    {read : α → UInt64 → Except StateStoreError (List (ℤ × β))}
    (hids : Identifies table receipts content read) : calls ≤ 1 := by
  have hsequence := h.sequence
  have hissued := h.issued
  have hdistinct := hids.distinct
  have hmax : (1 : ℤ) < maxId := by decide
  have hreplicate : receipts.map Receipt.returned = List.replicate receipts.length 1 := by
    apply List.eq_replicate_iff.mpr
    refine ⟨List.length_map _, ?_⟩
    intro n hn
    obtain ⟨r, hr, rfl⟩ := List.mem_map.mp hn
    exact h.one r hr
  rw [hreplicate, List.nodup_replicate] at hdistinct
  omega

end

theorem ledgerOf_concat (calls : List (Call F)) (call : Call F) :
    ledgerOf (calls ++ [call]) = record (ledgerOf calls) call := by
  rw [ledgerOf, List.foldl_append]
  rfl

theorem accounted_trim {events : Events} {receipts : List (Receipt EventRow)} {calls : ℕ}
    (h : Accounted events receipts calls) (maxCount : UInt64) :
    Accounted (trimEvents events maxCount).2 receipts calls := by
  rw [trimEvents]
  split
  · exact h
  · exact accounted_delete h _

theorem answer_eq (changed : Except SqliteError ℕ) :
    (match changed with
      | .ok n => .ok n
      | .error e => .error (.db e) : Except StateStoreError ℤ) =
        (changed.map Nat.cast).mapError .db := by
  cases changed with
  | ok n => rfl
  | error e => rfl

theorem accounted_empty {α : Type} : Accounted (Table.empty : Table α) [] 0 :=
  ⟨rfl, rfl, fun _ h => absurd h List.not_mem_nil, fun _ h => absurd h List.not_mem_nil⟩

theorem ledgerOf_accounted (calls : List (Call F)) :
    Accounted (ledgerOf calls).store.events (ledgerOf calls).events
        (calls.countP Call.isAppend) ∧
      Accounted (ledgerOf calls).store.healthHistory (ledgerOf calls).health
        (calls.countP Call.isRecord) := by
  induction calls using List.reverseRecOn with
  | nil => exact ⟨accounted_empty, accounted_empty⟩
  | append_singleton calls call ih =>
    obtain ⟨hevents, hhealth⟩ := ih
    rw [ledgerOf_concat, List.countP_append, List.countP_append]
    generalize ledgerOf calls = ledger at *
    match call with
    | .insert (.appendEvent eventType data now) =>
      exact ⟨accounted_insert hevents _ (answer_eq _), hhealth⟩
    | .insert (.recordHealth entry) =>
      have hrecord := accounted_insertBound hhealth (entry.bound.map healthColumns) (answer_eq _)
      rw [Option.isSome_map] at hrecord
      simp only [List.countP_singleton]
      exact ⟨hevents, hrecord⟩
    | .trimEvents maxCount => exact ⟨accounted_trim hevents maxCount, hhealth⟩

theorem queried_rows {α β : Type} (timestamp : α → String) {rows : List (Row α)}
    (hlength : (rows.length : ℤ) ≤ maxId) (limit : UInt64) (f : Row α → β) :
    (∀ b ∈ (limited (asI64 limit) (newestFirst timestamp rows)).map f, ∃ row ∈ rows, b = f row) ∧
    (rows.length ≤ limit.toNat → ∀ row ∈ rows,
      f row ∈ (limited (asI64 limit) (newestFirst timestamp rows)).map f) := by
  have hperm := newestFirst_perm timestamp rows
  rw [limited_asI64 (hperm.length_eq ▸ hlength)]
  constructor
  · intro b hb
    obtain ⟨row, hrow, rfl⟩ := List.mem_map.mp hb
    exact ⟨row, hperm.mem_iff.mp (List.mem_of_mem_take hrow), rfl⟩
  · intro hlimit row hrow
    rw [List.take_of_length_le (hperm.length_eq ▸ hlimit)]
    exact List.mem_map_of_mem (hperm.mem_iff.mpr hrow)

section

variable (reader : Rfc3339) (store : StateStore F)

theorem readEvents_rows (limit : UInt64) : ∃ rows, readEvents reader store limit = .ok rows ∧
    (∀ p ∈ rows, ∃ row ∈ store.events.rows, p = (row.id, eventContent row.value)) ∧
    (store.events.rows.length ≤ limit.toNat → ∀ row ∈ store.events.rows,
      (row.id, eventContent row.value) ∈ rows) := by
  refine ⟨_, rfl, ?_⟩
  rw [List.map_map]
  exact queried_rows EventRow.timestamp store.events.length_le limit _

theorem readHistory_rows (given : HealthRow F) (limit : UInt64) : ∃ rows,
    readHistory reader store given limit = .ok rows ∧
    (∀ p ∈ rows, ∃ row ∈ store.healthHistory.rows, p = (row.id, healthContent row.value)) ∧
    (store.healthHistory.rows.length ≤ limit.toNat → ∀ row ∈ store.healthHistory.rows,
      row.value = given → (row.id, healthContent row.value) ∈ rows) := by
  have hfilter := List.length_filter_le (fun row => decide (row.value.interface = given.interface))
    store.healthHistory.rows
  have htable := store.healthHistory.length_le
  have hlength : ((store.healthHistory.rows.filter
      (fun row => row.value.interface = given.interface)).length : ℤ) ≤ maxId := by
    omega
  obtain ⟨honly, hall⟩ := queried_rows HealthRow.timestamp hlength limit
    (fun row => (row.id, healthContent row.value))
  refine ⟨_, rfl, ?_, ?_⟩
  · intro p hp
    rw [List.map_map] at hp
    obtain ⟨row, hrow, rfl⟩ := honly p hp
    exact ⟨row, List.mem_of_mem_filter hrow, rfl⟩
  · intro hlimit row hrow hvalue
    rw [List.map_map]
    apply hall (by omega) row
    rw [List.mem_filter, hvalue, decide_eq_true_eq]
    exact ⟨hrow, rfl⟩

end

/-- What comes back is the number of rows changed, so only the first row of a
table is named by it. -/
theorem rowsIdentified_iff (reader : Rfc3339) (calls : List (Call F)) :
    RowsIdentified reader calls ↔
      calls.countP Call.isAppend ≤ 1 ∧ calls.countP Call.isRecord ≤ 1 := by
  constructor
  · intro h
    obtain ⟨hevents, hhealth⟩ := h calls (List.prefix_refl calls)
    obtain ⟨hevents', hhealth'⟩ := ledgerOf_accounted calls
    exact ⟨one_of_identifies hevents' hevents, one_of_identifies hhealth' hhealth⟩
  · intro ⟨happends, hrecords⟩ done hdone
    obtain ⟨hevents, hhealth⟩ := ledgerOf_accounted done
    constructor
    · apply identifies_of_one hevents (hdone.sublist.countP_le.trans happends)
      intro given limit
      obtain ⟨rows, hrows, honly, hall⟩ := readEvents_rows reader (ledgerOf done).store limit
      exact ⟨rows, hrows, honly, fun hlimit row hrow _ => hall hlimit row hrow⟩
    · apply identifies_of_one hhealth (hdone.sublist.countP_le.trans hrecords)
      exact readHistory_rows reader (ledgerOf done).store

def twoEvents : List (Call ℕ) :=
  [.insert (.appendEvent "interface_up" "" 1704067200000000000),
    .insert (.appendEvent "failover" "" 1704067201000000000)]

/-- The second event is stored under two, but both calls return one. -/
theorem second_event_misnamed : ¬ RowsIdentified Rfc3339.written twoEvents := by
  intro h
  have hown := (h twoEvents (List.prefix_refl _)).1.own
  have hsecond : (⟨⟨"failover", "", toRfc3339 1704067201000000000⟩, 1,
      ⟨2, ⟨"failover", "", toRfc3339 1704067201000000000⟩⟩⟩ : Receipt EventRow) ∈
        (ledgerOf twoEvents).events := List.mem_cons_of_mem _ List.mem_cons_self
  exact absurd (hown _ hsecond) (by decide)

end Netfusion.Core.StateRowIds
