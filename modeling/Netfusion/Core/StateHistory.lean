import Netfusion.Core.StateStore
import Netfusion.Lib.CalendarReading
import Netfusion.Lib.Floats

namespace Netfusion.Core.StateHistory

open Netfusion.Lib.Calendar Netfusion.Lib.CalendarReading Netfusion.Lib.Floats
open Netfusion.Lib.Sorting Netfusion.Lib.Tables
open Netfusion.Shared.Types
open Netfusion.Core.StateStore

structure StoredEvent where
  id : ℤ
  eventType : String
  data : String
  timestamp : DateTime
  deriving DecidableEq

structure StoredHealthEntry (F : Type) where
  id : ℤ
  interface : String
  overall : F
  rtt : F
  jitter : F
  loss : F
  throughput : F
  stability : F
  timestamp : DateTime
  deriving DecidableEq

structure HealthRow (F : Type) where
  interface : String
  overall : F
  rtt : F
  jitter : F
  loss : F
  throughput : F
  stability : F
  timestamp : String
  deriving DecidableEq

structure StateStore (F : Type) where
  events : Events
  healthHistory : Table (HealthRow F)

variable {F : Type}

def StateStore.empty : StateStore F := ⟨Table.empty, Table.empty⟩

def eventColumns (e : StoredEvent) : EventRow := ⟨e.eventType, e.data, toRfc3339 e.timestamp⟩

/-- NaN is bound as NULL, which none of the columns takes. -/
def StoredHealthEntry.bound (entry : StoredHealthEntry (WithNaN F)) :
    Option (StoredHealthEntry F) := do
  let overall ← entry.overall.number
  let rtt ← entry.rtt.number
  let jitter ← entry.jitter.number
  let loss ← entry.loss.number
  let throughput ← entry.throughput.number
  let stability ← entry.stability.number
  return ⟨entry.id, entry.interface, overall, rtt, jitter, loss, throughput, stability,
    entry.timestamp⟩

def healthColumns (entry : StoredHealthEntry F) : HealthRow F where
  interface := entry.interface
  overall := entry.overall
  rtt := entry.rtt
  jitter := entry.jitter
  loss := entry.loss
  throughput := entry.throughput
  stability := entry.stability
  timestamp := toRfc3339 entry.timestamp

/-- As for events, the number of rows changed comes back. -/
def recordHealth (history : Table (HealthRow F)) (entry : StoredHealthEntry (WithNaN F)) :
    Except StateStoreError ℤ × Table (HealthRow F) :=
  let (changed, history) := history.insertBound (entry.bound.map healthColumns)
  (match changed with
    | .ok n => .ok n
    | .error e => .error (.db e), history)

/-- `LIMIT`, where a negative number is no limit. -/
def limited {α : Type} (limit : ℤ) (rows : List α) : List α :=
  if limit < 0 then rows else rows.take limit.toNat

/-- `ORDER BY timestamp DESC`, which compares texts. -/
def newestFirst {α : Type} (timestamp : α → String) (rows : List (Row α)) : List (Row α) :=
  (sortByKey (fun row => timestamp row.value) rows).reverse

section

variable (reader : Rfc3339)

/-- The beginning of 1970 stands for a timestamp that cannot be read. -/
def readTimestamp (timestamp : String) : DateTime := (reader.parse timestamp).getD 0

def readEvent (row : Row EventRow) : StoredEvent :=
  ⟨row.id, row.value.eventType, row.value.data, readTimestamp reader row.value.timestamp⟩

def readHealth (row : Row (HealthRow F)) : StoredHealthEntry F where
  id := row.id
  interface := row.value.interface
  overall := row.value.overall
  rtt := row.value.rtt
  jitter := row.value.jitter
  loss := row.value.loss
  throughput := row.value.throughput
  stability := row.value.stability
  timestamp := readTimestamp reader row.value.timestamp

def getRecentEvents (events : Events) (limit : UInt64) :
    Except StateStoreError (List StoredEvent) :=
  .ok ((limited (asI64 limit) (newestFirst EventRow.timestamp events.rows)).map (readEvent reader))

def getHealthHistory (history : Table (HealthRow F)) (interface : String) (maxEntries : UInt64) :
    Except StateStoreError (List (StoredHealthEntry F)) :=
  .ok ((limited (asI64 maxEntries) (newestFirst HealthRow.timestamp
    (history.rows.filter (fun row => row.value.interface = interface)))).map (readHealth reader))

end

inductive Insertion (F : Type) where
  | appendEvent (eventType data : String) (now : DateTime)
  | recordHealth (entry : StoredHealthEntry (WithNaN F))

def Insertion.instant : Insertion F → DateTime
  | .appendEvent _ _ now => now
  | .recordHealth entry => entry.timestamp

def insertionStep (store : StateStore F) :
    Insertion F → Except StateStoreError ℤ × StateStore F
  | .appendEvent eventType data now =>
    let (id, events) := appendEvent store.events eventType data now
    (id, { store with events })
  | .recordHealth entry =>
    let (id, healthHistory) := recordHealth store.healthHistory entry
    (id, { store with healthHistory })

def insertions (calls : List (Insertion F)) : StateStore F :=
  calls.foldl (fun store call => (insertionStep store call).2) StateStore.empty

def Insertion.event : Insertion F → Option StoredEvent
  | .appendEvent eventType data now => some ⟨0, eventType, data, now⟩
  | .recordHealth _ => none

/-- Nothing is stored of an entry with NaN in it. -/
def Insertion.healthEntry : Insertion F → Option (StoredHealthEntry F)
  | .appendEvent _ _ _ => none
  | .recordHealth entry => entry.bound

def appendedEvents (calls : List (Insertion F)) : List StoredEvent :=
  (rowsOf (calls.filterMap Insertion.event)).map (fun row => { row.value with id := row.id })

def recordedHealth (calls : List (Insertion F)) : List (StoredHealthEntry F) :=
  (rowsOf (calls.filterMap Insertion.healthEntry)).map (fun row => { row.value with id := row.id })

/-- What is read is the given number of the latest that are stored, or all,
newest first. -/
def Newest {β : Type} (limit : UInt64) (time : β → DateTime) (stored : List β)
    (read : Except StateStoreError (List β)) : Prop :=
  ∃ es, read = .ok es ∧ es.length = min limit.toNat stored.length ∧
    es.Pairwise (fun a b => time b < time a) ∧ (∀ e ∈ es, e ∈ stored) ∧
    ∀ e ∈ stored, e ∉ es → ∀ e' ∈ es, time e < time e'

/-- A limit beyond the signed range exceeds every number of rows, and is taken
for none. -/
theorem limited_asI64 {α : Type} {rows : List α} (h : (rows.length : ℤ) ≤ maxId) (limit : UInt64) :
    limited (asI64 limit) rows = rows.take limit.toNat := by
  have hmax := limit.toNat_lt
  rw [maxId] at h
  rw [limited, asI64_eq]
  by_cases hsigned : limit.toNat < 2 ^ 63
  · rw [if_pos hsigned, if_neg (by omega), Int.toNat_natCast]
  · rw [if_neg hsigned, if_pos (by omega), List.take_of_length_le (by omega)]

theorem newestFirst_perm {α : Type} (timestamp : α → String) (rows : List (Row α)) :
    (newestFirst timestamp rows).Perm rows :=
  (List.reverse_perm _).trans (sortByKey_perm _ rows)

section

variable {α β : Type} {timestamp : α → String} {read : Row α → β} {time : β → DateTime}
  {rows : List (Row α)}
  (hstamps : ∀ row ∈ rows, FourDigits (time (read row)) ∧
    timestamp row.value = toRfc3339 (time (read row)))
  (hdistinct : ((rows.map read).map time).Nodup)

include hstamps hdistinct

theorem newestFirst_pairwise :
    ((newestFirst timestamp rows).map read).Pairwise (fun a b => time b < time a) := by
  have hperm := newestFirst_perm timestamp rows
  have hsorted := sortByKey_pairwise (fun row : Row α => timestamp row.value) rows
  have hne : (newestFirst timestamp rows).Pairwise (fun a b => time (read a) ≠ time (read b)) := by
    rw [← List.pairwise_map (R := (· ≠ ·)) (f := fun row => time (read row))]
    rw [List.map_map] at hdistinct
    exact (hperm.map _).nodup_iff.mpr hdistinct
  rw [List.pairwise_map]
  apply (hne.and (List.pairwise_reverse.mpr hsorted)).imp_of_mem
  intro a b ha hb ⟨hne, hle⟩
  obtain ⟨hyears, htext⟩ := hstamps a (hperm.mem_iff.mp ha)
  obtain ⟨hyears', htext'⟩ := hstamps b (hperm.mem_iff.mp hb)
  rw [htext, htext'] at hle
  rw [← toRfc3339_lt_iff hyears' hyears]
  apply lt_of_le_of_ne hle
  exact fun heq => hne ((toRfc3339_inj hyears' hyears).mp heq).symm

theorem query_newest (h : (rows.length : ℤ) ≤ maxId) (limit : UInt64) :
    Newest limit time (rows.map read)
      (.ok ((limited (asI64 limit) (newestFirst timestamp rows)).map read)) := by
  have hperm := newestFirst_perm timestamp rows
  have hsorted := newestFirst_pairwise hstamps hdistinct
  have hall := hperm.map read
  rw [limited_asI64 (hperm.length_eq ▸ h), List.map_take]
  generalize (newestFirst timestamp rows).map read = sorted at *
  refine ⟨_, rfl, ?_, hsorted.sublist (List.take_sublist _ _), ?_, ?_⟩
  · rw [List.length_take, hall.length_eq]
  · exact fun e he => hall.mem_iff.mp (List.mem_of_mem_take he)
  · intro e he hlater e' he'
    rw [← hall.mem_iff, ← List.take_append_drop limit.toNat sorted, List.mem_append] at he
    rw [← List.take_append_drop limit.toNat sorted] at hsorted
    exact (List.pairwise_append.mp hsorted).2.2 e' he' e (he.resolve_left hlater)

end

theorem insertions_concat (calls : List (Insertion F)) (call : Insertion F) :
    insertions (calls ++ [call]) = (insertionStep (insertions calls) call).2 := by
  rw [insertions, List.foldl_append]
  rfl

theorem insertions_eq (calls : List (Insertion F)) :
    (insertions calls).events =
        Table.empty.insertAll ((calls.filterMap Insertion.event).map eventColumns) ∧
      (insertions calls).healthHistory =
        Table.empty.insertAll ((calls.filterMap Insertion.healthEntry).map healthColumns) := by
  induction calls using List.reverseRecOn with
  | nil => exact ⟨rfl, rfl⟩
  | append_singleton calls call ih =>
    obtain ⟨hevents, hhealth⟩ := ih
    rw [insertions_concat, List.filterMap_append, List.filterMap_append, List.map_append,
      List.map_append]
    cases call with
    | appendEvent eventType data now =>
      simp only [List.filterMap_cons, List.filterMap_nil, Insertion.event, Insertion.healthEntry,
        List.map_singleton, List.map_nil, List.append_nil]
      rw [Table.insertAll_concat, ← hevents, ← hhealth]
      exact ⟨rfl, rfl⟩
    | recordHealth entry =>
      simp only [List.filterMap_cons, List.filterMap_nil, Insertion.event, Insertion.healthEntry,
        List.map_nil, List.append_nil, ← hevents]
      refine ⟨rfl, ?_⟩
      rw [insertionStep, recordHealth]
      cases entry.bound with
      | none =>
        rw [List.map_nil, List.append_nil, ← hhealth]
        rfl
      | some numbers =>
        rw [List.map_singleton, Table.insertAll_concat, ← hhealth]
        rfl

theorem bound_timestamp {entry : StoredHealthEntry (WithNaN F)} {numbers : StoredHealthEntry F}
    (h : entry.bound = some numbers) : numbers.timestamp = entry.timestamp := by
  simp only [StoredHealthEntry.bound, Option.bind_eq_bind, Option.bind_eq_some_iff,
    Option.pure_def, Option.some.injEq] at h
  obtain ⟨_, _, _, _, _, _, _, _, _, _, _, _, rfl⟩ := h
  rfl

theorem filter_rowsOf_sublist {β : Type} (values : List β) (asked : Row β → Bool) :
    (((rowsOf values).filter asked).map Row.value).Sublist values := by
  apply (List.filter_sublist.map Row.value).trans
  rw [values_rowsOf]
  exact List.take_sublist _ _

theorem query_rowsOf {α β : Type} {values : List β} {columns : β → α} {number : Row β → β}
    (timestamp : α → String) {read : Row α → β} {time : β → DateTime}
    (hyears : ∀ v ∈ values, FourDigits (time v)) (hdistinct : (values.map time).Nodup)
    (hread : ∀ row : Row β, FourDigits (time row.value) → read (row.map columns) = number row)
    (htime : ∀ row, time (number row) = time row.value)
    (htext : ∀ v, timestamp (columns v) = toRfc3339 (time v))
    (asked : Row β → Bool) (limit : UInt64) :
    Newest limit time (((rowsOf values).filter asked).map number)
      (.ok ((limited (asI64 limit) (newestFirst timestamp
        (((rowsOf values).filter asked).map (Row.map columns)))).map read)) := by
  have hsub := filter_rowsOf_sublist values asked
  have hvalue : ∀ row ∈ (rowsOf values).filter asked, FourDigits (time row.value) := by
    intro row hrow
    exact hyears row.value (hsub.subset (List.mem_map_of_mem hrow))
  have hrows : ((rowsOf values).filter asked).map number =
      (((rowsOf values).filter asked).map (Row.map columns)).map read := by
    rw [List.map_map]
    exact List.map_congr_left (fun row hrow => (hread row (hvalue row hrow)).symm)
  rw [hrows]
  apply query_newest
  · intro mapped hmapped
    obtain ⟨row, hrow, rfl⟩ := List.mem_map.mp hmapped
    rw [hread row (hvalue row hrow), htime]
    exact ⟨hvalue row hrow, htext row.value⟩
  · have htimes := hdistinct.sublist (hsub.map time)
    rw [← hrows, List.map_map]
    rw [List.map_map] at htimes
    exact (congrArg List.Nodup (List.map_congr_left (fun row _ => htime row))).mpr htimes
  · have hlength := List.length_filter_le asked (rowsOf values)
    have hfits := length_rowsOf_le values
    rw [List.length_map]
    omega

section

variable (reader : Rfc3339) (calls : List (Insertion F))
  (hinstants : (calls.map Insertion.instant).Nodup)
  (hyears : ∀ call ∈ calls, FourDigits call.instant)

include hinstants hyears

omit hinstants hyears in
theorem readEvent_columns (row : Row StoredEvent) (h : FourDigits row.value.timestamp) :
    readEvent reader (row.map eventColumns) = { row.value with id := row.id } := by
  simp [readEvent, readTimestamp, Row.map, eventColumns, reader.parse_written _ h]

omit hinstants hyears in
theorem readHealth_columns (row : Row (StoredHealthEntry F)) (h : FourDigits row.value.timestamp) :
    readHealth reader (row.map healthColumns) = { row.value with id := row.id } := by
  simp [readHealth, readTimestamp, Row.map, healthColumns, reader.parse_written _ h]

theorem instants_of_kind {β : Type} (kind : Insertion F → Option β) (time : β → DateTime)
    (h : ∀ call b, kind call = some b → time b = call.instant) :
    (∀ b ∈ calls.filterMap kind, FourDigits (time b)) ∧
      ((calls.filterMap kind).map time).Nodup := by
  constructor
  · intro b hb
    obtain ⟨call, hcall, hkind⟩ := List.mem_filterMap.mp hb
    rw [h call b hkind]
    exact hyears call hcall
  · rw [List.Nodup, List.pairwise_map] at hinstants ⊢
    apply List.Pairwise.filterMap _ _ hinstants
    intro call call' hne b hb b' hb'
    rw [h call b hb, h call' b' hb']
    exact hne

/-- After any calls at distinct instants both queries go back in time. -/
theorem recent_queries_chronological (interface : String) (limit : UInt64) :
    Newest limit StoredEvent.timestamp (appendedEvents calls)
        (getRecentEvents reader (insertions calls).events limit) ∧
      Newest limit StoredHealthEntry.timestamp
        ((recordedHealth calls).filter (fun entry => entry.interface = interface))
        (getHealthHistory reader (insertions calls).healthHistory interface limit) := by
  obtain ⟨hevents, hhealth⟩ := insertions_eq calls
  constructor
  · obtain ⟨hyears', hdistinct⟩ := instants_of_kind calls hinstants hyears Insertion.event
      StoredEvent.timestamp (by
        intro call e he
        cases call <;> cases he
        rfl)
    have hnewest := query_rowsOf EventRow.timestamp hyears' hdistinct (readEvent_columns reader)
      (fun _ => rfl) (fun _ => rfl) (fun _ => true) limit
    rw [List.filter_true] at hnewest
    rw [getRecentEvents, hevents, (Table.insertAll_rows _).1, rowsOf_map]
    exact hnewest
  · obtain ⟨hyears', hdistinct⟩ := instants_of_kind calls hinstants hyears
      Insertion.healthEntry StoredHealthEntry.timestamp (by
        intro call e he
        cases call with
        | appendEvent _ _ _ => cases he
        | recordHealth entry => exact bound_timestamp he)
    have hnewest := query_rowsOf HealthRow.timestamp hyears' hdistinct
      (readHealth_columns reader) (fun _ => rfl) (fun _ => rfl)
      (fun row => row.value.interface = interface) limit
    rw [getHealthHistory, hhealth, (Table.insertAll_rows _).1, rowsOf_map, List.filter_map,
      recordedHealth, List.filter_map]
    exact hnewest

end

/-- Calls out of order, some at the whole second and some not, and one with NaN. -/
def scattered : List (Insertion ℕ) :=
  [.appendEvent "failover" "" 1704067200500000000,
    .recordHealth ⟨0, "eth0", .num 85, .num 95, .num 90, .num 100, .num 60, .num 80,
      1704067201000000000⟩,
    .appendEvent "interface_up" "" 1704067200000000000,
    .recordHealth ⟨0, "eth0", .num 80, .num 95, .num 90, .num 100, .num 60, .num 80,
      1704067200000001000⟩,
    .recordHealth ⟨0, "eth0", .nan, .num 95, .num 90, .num 100, .num 60, .num 80,
      1704067202000000000⟩]

theorem recent_queries_chronological_scattered :
    Newest 1 StoredEvent.timestamp (appendedEvents scattered)
        (getRecentEvents Rfc3339.written (insertions scattered).events 1) ∧
      Newest 1 StoredHealthEntry.timestamp
        ((recordedHealth scattered).filter (fun entry => entry.interface = "eth0"))
        (getHealthHistory Rfc3339.written (insertions scattered).healthHistory "eth0" 1) :=
  recent_queries_chronological Rfc3339.written scattered (by decide +kernel) (by decide +kernel)
    "eth0" 1

end Netfusion.Core.StateHistory
