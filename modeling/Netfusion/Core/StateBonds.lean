import Netfusion.Core.StateRowIds
import Netfusion.Lib.Collections
import Netfusion.Lib.Machine

namespace Netfusion.Core.StateBonds

open Netfusion.Lib.Calendar Netfusion.Lib.CalendarReading Netfusion.Lib.Collections
open Netfusion.Lib.Machine Netfusion.Lib.Tables
open Netfusion.Shared.Types
open Netfusion.Core.StateStore
open Netfusion.Core.StateHistory hiding StateStore

structure StoredBondState where
  name : String
  activeMembers : String
  standbyMembers : String
  failoverActive : Bool
  lastFailover : Option DateTime
  bondInterface : Option String
  deriving DecidableEq

/-- The columns beside the name, which is the primary key. -/
structure BondRow where
  activeMembers : String
  standbyMembers : String
  failoverActive : ℤ
  lastFailover : Option String
  bondInterface : Option String

structure SnapshotRow where
  config : String
  appliedAt : String

variable {F : Type}

/-- The tables of a state file. A snapshot has no number but one. -/
structure StateFile (F : Type) where
  bondState : HashMap String BondRow
  configSnapshot : HashMap ℤ SnapshotRow
  history : StateHistory.StateStore F

def StateFile.empty : StateFile F := ⟨∅, ∅, StateHistory.StateStore.empty⟩

def bondColumns (state : StoredBondState) : BondRow where
  activeMembers := state.activeMembers
  standbyMembers := state.standbyMembers
  failoverActive := if state.failoverActive then 1 else 0
  lastFailover := state.lastFailover.map toRfc3339
  bondInterface := state.bondInterface

def readBond (reader : Rfc3339) (name : String) (row : BondRow) : StoredBondState where
  name := name
  activeMembers := row.activeMembers
  standbyMembers := row.standbyMembers
  failoverActive := row.failoverActive ≠ 0
  lastFailover := row.lastFailover.bind reader.parse
  bondInterface := row.bondInterface

def attempt {α : Type} (failed : Option SqliteError) (result : α) : Except StateStoreError α :=
  match failed with
  | some e => .error (.db e)
  | none => .ok result

def unlessFailed {α : Type} (failed : Option SqliteError) (a changed : α) : α :=
  match failed with
  | some _ => a
  | none => changed

/-- `INSERT OR REPLACE` -/
def saveBondState (file : StateFile F) (state : StoredBondState) (failed : Option SqliteError) :
    Except StateStoreError Unit × StateFile F :=
  (attempt failed (), unlessFailed failed file
    { file with bondState := file.bondState.insert state.name (bondColumns state) })

def loadBondState (reader : Rfc3339) (file : StateFile F) (name : String)
    (failed : Option SqliteError) : Except StateStoreError (Option StoredBondState) :=
  attempt failed ((file.bondState.lookup name).map (readBond reader name))

/-- The rows come in no particular order. -/
def loadAllBondStates (reader : Rfc3339) (file : StateFile F)
    (order : Shuffle (Sigma (fun _ : String => BondRow))) (failed : Option SqliteError) :
    Except StateStoreError (List StoredBondState) :=
  attempt failed ((order.run file.bondState.entries).map (fun row => readBond reader row.1 row.2))

def deleteBondState (file : StateFile F) (name : String) (failed : Option SqliteError) :
    Except StateStoreError Unit × StateFile F :=
  (attempt failed (), unlessFailed failed file
    { file with bondState := file.bondState.erase name })

def saveConfigSnapshot (file : StateFile F) (configJson : String) (now : DateTime)
    (failed : Option SqliteError) : Except StateStoreError Unit × StateFile F :=
  (attempt failed (), unlessFailed failed file
    { file with configSnapshot := file.configSnapshot.insert 1 ⟨configJson, toRfc3339 now⟩ })

def loadConfigSnapshot (file : StateFile F) (failed : Option SqliteError) :
    Except StateStoreError (Option String) :=
  attempt failed ((file.configSnapshot.lookup 1).map SnapshotRow.config)

/-- Each statement comes with how it fails, if it does. -/
inductive Call (F : Type) where
  | saveBondState (state : StoredBondState) (failed : Option SqliteError)
  | loadBondState (name : String) (failed : Option SqliteError)
  | loadAllBondStates (order : Shuffle (Sigma (fun _ : String => BondRow)))
      (failed : Option SqliteError)
  | deleteBondState (name : String) (failed : Option SqliteError)
  | saveConfigSnapshot (configJson : String) (now : DateTime) (failed : Option SqliteError)
  | loadConfigSnapshot (failed : Option SqliteError)
  | history (call : StateRowIds.Call F) (failed : Option SqliteError)

inductive Answer (β : Type) where
  | done (result : Except StateStoreError Unit)
  | bond (result : Except StateStoreError (Option StoredBondState))
  | bonds (result : Except StateStoreError β)
  | config (result : Except StateStoreError (Option String))
  | rows (result : Except StateStoreError ℤ)

def step (reader : Rfc3339) (file : StateFile F) :
    Call F → Answer (List StoredBondState) × StateFile F
  | .saveBondState state failed =>
    let (result, file) := saveBondState file state failed
    (.done result, file)
  | .loadBondState name failed => (.bond (loadBondState reader file name failed), file)
  | .loadAllBondStates order failed => (.bonds (loadAllBondStates reader file order failed), file)
  | .deleteBondState name failed =>
    let (result, file) := deleteBondState file name failed
    (.done result, file)
  | .saveConfigSnapshot configJson now failed =>
    let (result, file) := saveConfigSnapshot file configJson now failed
    (.done result, file)
  | .loadConfigSnapshot failed => (.config (loadConfigSnapshot file failed), file)
  | .history call failed =>
    let (result, history) := StateRowIds.callStep file.history call
    (.rows ((attempt failed ()).bind (fun _ => result)),
      unlessFailed failed file { file with history })

/-- What a state file is for: the last state saved of each bond, and the last
configuration. -/
structure Saved (F : Type) where
  bonds : String → Option StoredBondState
  config : Option String
  history : StateHistory.StateStore F

def Saved.nothing : Saved F := ⟨fun _ => none, none, StateHistory.StateStore.empty⟩

def savedStep (saved : Saved F) :
    Call F → Answer (String → Option StoredBondState) × Saved F
  | .saveBondState state failed =>
    (.done (attempt failed ()), unlessFailed failed saved
      { saved with bonds := Function.update saved.bonds state.name (some state) })
  | .loadBondState name failed => (.bond (attempt failed (saved.bonds name)), saved)
  | .loadAllBondStates _ failed => (.bonds (attempt failed saved.bonds), saved)
  | .deleteBondState name failed =>
    (.done (attempt failed ()), unlessFailed failed saved
      { saved with bonds := Function.update saved.bonds name none })
  | .saveConfigSnapshot configJson _ failed =>
    (.done (attempt failed ()), unlessFailed failed saved { saved with config := some configJson })
  | .loadConfigSnapshot failed => (.config (attempt failed saved.config), saved)
  | .history call failed =>
    let (result, history) := StateRowIds.callStep saved.history call
    (.rows ((attempt failed ()).bind (fun _ => result)),
      unlessFailed failed saved { saved with history })

/-- The answers are the same, and all bonds are listed each once. -/
inductive Agrees : Answer (List StoredBondState) → Answer (String → Option StoredBondState) → Prop
  | done (result) : Agrees (.done result) (.done result)
  | bond (result) : Agrees (.bond result) (.bond result)
  | failed (e) : Agrees (.bonds (.error e)) (.bonds (.error e))
  | bonds {states : List StoredBondState} {bonds : String → Option StoredBondState}
      (names : (states.map StoredBondState.name).Nodup)
      (listed : ∀ state, state ∈ states ↔ bonds state.name = some state) :
      Agrees (.bonds (.ok states)) (.bonds (.ok bonds))
  | config (result) : Agrees (.config result) (.config result)
  | rows (result) : Agrees (.rows result) (.rows result)

def StoredBondState.Dated (state : StoredBondState) : Prop :=
  ∀ t ∈ state.lastFailover, FourDigits t

def Call.Dated : Call F → Prop
  | .saveBondState state _ => state.Dated
  | _ => True

/-- What is read back from the file is what was saved. -/
structure Holds (reader : Rfc3339) (file : StateFile F) (saved : Saved F) : Prop where
  bonds : ∀ name, (file.bondState.lookup name).map (readBond reader name) = saved.bonds name
  config : (file.configSnapshot.lookup 1).map SnapshotRow.config = saved.config
  history : file.history = saved.history

section

variable (reader : Rfc3339)

theorem readBond_columns {state : StoredBondState} (h : state.Dated) :
    readBond reader state.name (bondColumns state) = state := by
  obtain ⟨name, active, standby, failover, last, interface⟩ := state
  have hlast : (last.map toRfc3339).bind reader.parse = last := by
    cases last with
    | none => rfl
    | some t => exact reader.parse_written t (h t rfl)
  cases failover with
  | false => simp [readBond, bondColumns, hlast]
  | true => simp [readBond, bondColumns, hlast]

variable {reader} {file : StateFile F} {saved : Saved F}

theorem Holds.save (h : Holds reader file saved) {state : StoredBondState} (hdated : state.Dated) :
    Holds reader { file with bondState := file.bondState.insert state.name (bondColumns state) }
      { saved with bonds := Function.update saved.bonds state.name (some state) } := by
  refine ⟨fun name => ?_, h.config, h.history⟩
  dsimp only
  rw [lookup_insert_eq, Function.update_apply]
  by_cases hname : name = state.name
  · rw [if_pos hname, if_pos hname, hname, Option.map_some, readBond_columns reader hdated]
  · rw [if_neg hname, if_neg hname]
    exact h.bonds name

theorem Holds.delete (h : Holds reader file saved) (name : String) :
    Holds reader { file with bondState := file.bondState.erase name }
      { saved with bonds := Function.update saved.bonds name none } := by
  refine ⟨fun other => ?_, h.config, h.history⟩
  dsimp only
  rw [lookup_erase_eq, Function.update_apply]
  by_cases hother : other = name
  · rw [if_pos hother, if_pos hother, Option.map_none]
  · rw [if_neg hother, if_neg hother]
    exact h.bonds other

theorem Holds.snapshot (h : Holds reader file saved) (configJson : String) (now : DateTime) :
    Holds reader
      { file with configSnapshot := file.configSnapshot.insert 1 ⟨configJson, toRfc3339 now⟩ }
      { saved with config := some configJson } := by
  refine ⟨h.bonds, ?_, h.history⟩
  dsimp only
  rw [lookup_insert_eq, if_pos rfl]
  rfl

theorem Holds.unlessFailed {file' : StateFile F} {saved' : Saved F} (h : Holds reader file saved)
    (h' : Holds reader file' saved') (failed : Option SqliteError) :
    Holds reader (unlessFailed failed file file') (unlessFailed failed saved saved') := by
  cases failed with
  | some e => exact h
  | none => exact h'

theorem Holds.listed (h : Holds reader file saved)
    (order : Shuffle (Sigma (fun _ : String => BondRow))) (failed : Option SqliteError) :
    Agrees (.bonds (loadAllBondStates reader file order failed))
      (.bonds (attempt failed saved.bonds)) := by
  cases failed with
  | some e => exact .failed (.db e)
  | none =>
    apply Agrees.bonds
    · rw [List.map_map]
      exact shuffle_keys_nodup order file.bondState
    · intro state
      rw [← h.bonds, Option.map_eq_some_iff, List.mem_map]
      constructor
      · rintro ⟨⟨name, row⟩, hrow, rfl⟩
        exact ⟨row, (mem_shuffle_entries order file.bondState name row).mp hrow, rfl⟩
      · rintro ⟨row, hrow, hread⟩
        exact ⟨⟨state.name, row⟩,
          (mem_shuffle_entries order file.bondState state.name row).mpr hrow, hread⟩

theorem step_holds (h : Holds reader file saved) {call : Call F} (hdated : call.Dated) :
    Agrees (step reader file call).1 (savedStep saved call).1 ∧
      Holds reader (step reader file call).2 (savedStep saved call).2 := by
  cases call with
  | saveBondState state failed => exact ⟨.done _, h.unlessFailed (h.save hdated) failed⟩
  | loadBondState name failed =>
    refine ⟨?_, h⟩
    simp only [step, savedStep, loadBondState, h.bonds]
    exact .bond _
  | loadAllBondStates order failed => exact ⟨h.listed order failed, h⟩
  | deleteBondState name failed => exact ⟨.done _, h.unlessFailed (h.delete name) failed⟩
  | saveConfigSnapshot configJson now failed =>
    exact ⟨.done _, h.unlessFailed (h.snapshot configJson now) failed⟩
  | loadConfigSnapshot failed =>
    refine ⟨?_, h⟩
    simp only [step, savedStep, loadConfigSnapshot, h.config]
    exact .config _
  | history call failed =>
    simp only [step, savedStep, h.history]
    refine ⟨.rows _, ?_⟩
    cases failed with
    | some e => exact h
    | none => exact ⟨h.bonds, h.config, rfl⟩

/-- Over any calls, some of which may fail, a state file answers as the last
states saved and the last configuration do. -/
theorem state_file_refines (reader : Rfc3339) (calls : List (Call F))
    (hdated : ∀ call ∈ calls, call.Dated) :
    List.Forall₂ Agrees (outputs (step reader) StateFile.empty calls)
      (outputs savedStep Saved.nothing calls) := by
  have hsame : List.Forall₂ (fun call call' : Call F => call = call' ∧ call.Dated) calls calls :=
    List.forall₂_same.mpr (fun call hcall => ⟨rfl, hdated call hcall⟩)
  have hempty : Holds (F := F) reader StateFile.empty Saved.nothing := ⟨fun _ => rfl, rfl, rfl⟩
  apply outputs_related _ hempty hsame
  rintro file saved call _ h ⟨rfl, hcall⟩
  exact step_holds h hcall

end

/-- A bond that fails over, a configuration that is not written and one that is. -/
def recovery : List (Call ℕ) :=
  [.saveBondState ⟨"bond0", "[\"eth0\"]", "[\"eth1\"]", false, none, some "netfusion0"⟩ none,
    .saveConfigSnapshot "a" 0 none, .saveConfigSnapshot "b" 0 (some .full),
    .saveBondState ⟨"bond0", "[\"eth1\"]", "[\"eth0\"]", true, some 1704067200500000000,
      some "netfusion0"⟩ none,
    .history (.insert (.appendEvent "failover" "" 1704067200500000000)) none,
    .loadBondState "bond0" none, .loadAllBondStates (Shuffle.id _) none, .loadConfigSnapshot none]

theorem state_file_refines_recovery :
    List.Forall₂ Agrees (outputs (step Rfc3339.written) StateFile.empty recovery)
      (outputs savedStep Saved.nothing recovery) := by
  have hyear : FourDigits 1704067200500000000 := by decide +kernel
  have hdated : ∀ call ∈ recovery, call.Dated := by
    intro call hcall
    simp only [recovery, List.mem_cons, List.not_mem_nil, or_false] at hcall
    rcases hcall with rfl | rfl | rfl | rfl | rfl | rfl | rfl | rfl
    · exact fun t ht => nomatch ht
    · trivial
    · trivial
    · rintro t ⟨⟩
      exact hyear
    · trivial
    · trivial
    · trivial
    · trivial
  exact state_file_refines Rfc3339.written recovery hdated

end Netfusion.Core.StateBonds
