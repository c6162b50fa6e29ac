import Netfusion.Core.Discovery
import Netfusion.Daemon.ConfigStore

namespace Netfusion.Daemon.Answers

open Netfusion.Lib.Machine
open Netfusion.Shared.Config Netfusion.Shared.Validate Netfusion.Shared.Types
open Netfusion.Shared.Events Netfusion.Shared.Ipc
open Netfusion.Core.Discovery
open Netfusion.Daemon.Server Netfusion.Daemon.ConfigStore

variable {F : Type}

def rescanned : Input F → Option (List (InterfaceInfo F))
  | .rescan found => some found
  | _ => none

/-- What the interface table has held, the latest scan last. -/
def tables (server : IpcServer F) (is : List (Input F)) : List (List (InterfaceInfo F)) :=
  server.interfaces :: is.filterMap rescanned

theorem tables_append (server : IpcServer F) (is js : List (Input F)) :
    tables server (is ++ js) = tables server is ++ js.filterMap rescanned := by
  rw [tables, List.filterMap_append, tables, List.cons_append]

section

variable (parse : String → Except String (NetfusionConfig F))
  (display : ValidationErrors → String) (path : String)

theorem step_interfaces (server : IpcServer F) (i : Input F) :
    (step parse display path server i).2.interfaces =
      (rescanned i).getD server.interfaces := by
  cases i with
  | request clock now r =>
    simp only [step, Prod.map_snd, id_eq, processRequest_state, rescanned, Option.getD_none]
    split <;> rfl
  | fileChanged now file =>
    simp only [step, Prod.map_snd, id_eq, handleConfigChange, rescanned, Option.getD_none]
    split
    · rfl
    · split
      · rfl
      · split <;> rfl
  | rescan found => rfl

theorem run_interfaces (server : IpcServer F) (is : List (Input F)) :
    (run (step parse display path) server is).interfaces ∈ tables server is := by
  induction is using List.reverseRecOn with
  | nil => exact .head _
  | append_singleton is i ih =>
    rw [run_concat, step_interfaces, tables_append]
    cases hi : rescanned i with
    | none => exact List.mem_append_left _ ih
    | some found => exact List.mem_append_right _ (by simp [hi])

theorem trace_answer {server : IpcServer F} {is : List (Input F)} {i : Input F} {o : Output F}
    (h : (i, o) ∈ trace (step parse display path) server is) :
    ∃ pre post, is = pre ++ i :: post ∧
      o = (step parse display path (run (step parse display path) server pre) i).1 := by
  induction is generalizing server with
  | nil => cases h
  | cons first rest ih =>
    rcases List.mem_cons.mp h with hfirst | hrest
    · cases hfirst
      exact ⟨[], rest, rfl, rfl⟩
    · obtain ⟨pre, post, rfl, ho⟩ := ih hrest
      exact ⟨first :: pre, post, rfl, ho⟩

end

def Honest (table : List (InterfaceInfo F)) : ResponseData F → Prop
  | .status s => s.totalInterfaces = UInt64.ofNat table.length ∧ s.activeBonds = 0 ∧
      s.connectedTunnels = 0 ∧ s.health = none
  | .interfaces i => i = table
  | .interface i => i ∈ table
  | .bonds b => b = []
  | .tunnels t => t = []
  | .events e => e = []
  | .health h => ∃ i ∈ table, i.health = some h
  | .allHealth hs => ∀ h ∈ hs, ∃ i ∈ table, i.health = some h.2
  | .bond _ => False
  | .eventStream _ => False
  | .bondCreated _ => False
  | .bondDeleted _ => False
  | .config _ => True
  | .profile _ => True
  | .empty => True

theorem processRequest_honest (display : ValidationErrors → String) (server : IpcServer F)
    (clock : Nat) (now : DateTime) (r : DaemonRequest F) {data : ResponseData F}
    (h : (processRequest display server clock now r).1 = .ok (some data)) :
    Honest server.interfaces data := by
  cases r with
  | getInterface name =>
    simp only [processRequest] at h
    split at h
    · rename_i iface hfind
      cases h
      exact List.mem_of_find?_eq_some hfind
    · cases h
  | applyConfig config =>
    simp only [processRequest] at h
    split at h <;> cases h
    trivial
  | dryRunConfig config =>
    simp only [processRequest] at h
    split at h <;> cases h
    trivial
  | getHealth interface =>
    simp only [processRequest] at h
    split at h
    · rename_i iface hfind
      split at h
      · rename_i health hhealth
        cases h
        exact ⟨iface, List.mem_of_find?_eq_some hfind, hhealth⟩
      · cases h
    · cases h
  | getAllHealth =>
    cases h
    intro p hp
    obtain ⟨i, hi, hsome⟩ := List.mem_filterMap.mp hp
    obtain ⟨health, hhealth, rfl⟩ := Option.map_eq_some_iff.mp hsome
    exact ⟨i, hi, hhealth⟩
  | getStatus =>
    cases h
    exact ⟨rfl, rfl, rfl, rfl⟩
  | _ => cases h <;> first | rfl | trivial

section

theorem describe_health (addresses : List AddressEntry) (routes : List RouteEntry)
    (stats : Lib.Collections.HashMap UInt32 InterfaceStats) (metadata : String → Metadata F)
    (link : LinkEntry) : (describe addresses routes stats metadata link).health = none := by
  obtain ⟨speed, duplex, hfields⟩ := collectDetailedMetadata_eq (metadata link.name) _
  rw [describe, hfields]

theorem scan_health {answers : Core.Discovery.Answers F} {found : List (InterfaceInfo F)}
    (h : scan answers = .ok found) : ∀ i ∈ found, i.health = none := by
  obtain ⟨links, addresses, routes, -, -, -, rfl⟩ := scan_ok h
  intro i hi
  obtain ⟨link, -, rfl⟩ := List.mem_map.mp hi
  exact describe_health addresses routes answers.stats answers.metadata link

end

/-- What happens to the daemon after its start. A scan that fails changes nothing. -/
inductive DaemonEvent (F : Type) where
  | request (clock : Nat) (now : DateTime) (r : DaemonRequest F)
  | fileChanged (now : DateTime) (file : ConfigFile)
  | scanned (answers : Core.Discovery.Answers F)

def DaemonEvent.input : DaemonEvent F → Option (Input F)
  | .request clock now r => some (.request clock now r)
  | .fileChanged now file => some (.fileChanged now file)
  | .scanned answers => (scan answers).toOption.map .rescan

/-- The table is empty when the first scan fails. -/
def firstTable (answers : Core.Discovery.Answers F) : List (InterfaceInfo F) :=
  (scan answers).toOption.getD []

def eventScores : NetfusionEvent F → List (HealthScore F)
  | .healthChanged e => [e.newScore]
  | _ => []

def scores : ResponseData F → List (HealthScore F)
  | .status s => s.health.toList
  | .interfaces i => i.filterMap InterfaceInfo.health
  | .interface i => i.health.toList
  | .bonds b => b.filterMap BondState.health
  | .bond b => b.health.toList
  | .events es => es.flatMap eventScores
  | .eventStream e => eventScores e
  | .health h => [h]
  | .allHealth hs => hs.map Prod.snd
  | _ => []

theorem scores_honest {table : List (InterfaceInfo F)} (htable : ∀ i ∈ table, i.health = none)
    {data : ResponseData F} (h : Honest table data) : scores data = [] := by
  cases data with
  | status s =>
    obtain ⟨-, -, -, hnone⟩ := h
    rw [scores, hnone, Option.toList_none]
  | interfaces i =>
    cases h
    exact List.filterMap_eq_nil_iff.mpr htable
  | interface i => rw [scores, htable i h, Option.toList_none]
  | bonds b =>
    cases h
    rfl
  | health score =>
    obtain ⟨i, hi, hsome⟩ := h
    rw [htable i hi] at hsome
    cases hsome
  | allHealth hs =>
    rw [scores, List.map_eq_nil_iff, List.eq_nil_iff_forall_not_mem]
    intro p hp
    obtain ⟨i, hi, hsome⟩ := h p hp
    rw [htable i hi] at hsome
    cases hsome
  | bond b => cases h
  | events es =>
    cases h
    rfl
  | eventStream e => cases h
  | _ => rfl

theorem tables_scanned {s : IpcServer F} (hs : ∀ i ∈ s.interfaces, i.health = none)
    (es : List (DaemonEvent F)) :
    ∀ table ∈ tables s (es.filterMap DaemonEvent.input), ∀ i ∈ table, i.health = none := by
  intro table htable
  rcases List.mem_cons.mp htable with rfl | hscan
  · exact hs
  · rw [List.filterMap_filterMap] at hscan
    obtain ⟨e, -, he⟩ := List.mem_filterMap.mp hscan
    cases e with
    | request clock now r => cases he
    | fileChanged now file => cases he
    | scanned answers =>
      cases hfound : scan answers with
      | error e =>
        rw [DaemonEvent.input, hfound] at he
        cases he
      | ok found =>
        rw [DaemonEvent.input, hfound] at he
        cases he
        exact scan_health hfound

/-- No answer that the daemon ever gives carries a health score: the table is
always that of a scan, and a scan knows of none. -/
theorem never_a_score (parse : String → Except String (NetfusionConfig F))
    (display : ValidationErrors → String) (path : String) (file : ConfigFile)
    (first : Core.Discovery.Answers F) (clock : Nat) {s : IpcServer F}
    (hstart : startUp parse file (firstTable first) clock = .ok s) (es : List (DaemonEvent F)) :
    ∀ o ∈ outputs (step parse display path) s (es.filterMap DaemonEvent.input),
      ∀ data, o = .response (.ok (some data)) → scores data = [] := by
  have hfirst : ∀ i ∈ s.interfaces, i.health = none := by
    have htable : s.interfaces = firstTable first := by
      rw [startUp] at hstart
      cases hload : loadConfig parse file with
      | error e =>
        rw [hload] at hstart
        cases hstart
      | ok config =>
        rw [hload] at hstart
        cases hstart
        rfl
    rw [htable, firstTable]
    cases hscan : scan first with
    | error e => exact fun i hi => by cases hi
    | ok found => exact scan_health hscan
  intro o ho data hdata
  rw [← trace_outputs] at ho
  obtain ⟨⟨i, o⟩, hmem, rfl⟩ := List.mem_map.mp ho
  obtain ⟨pre, post, hsplit, hanswer⟩ := trace_answer parse display path hmem
  have htable : (run (step parse display path) s pre).interfaces ∈
      tables s (es.filterMap DaemonEvent.input) := by
    rw [hsplit, tables_append]
    exact List.mem_append_left _ (run_interfaces parse display path s pre)
  cases i with
  | request clock now r =>
    have hresponse := Output.response.inj (hanswer.symm.trans hdata)
    exact scores_honest (tables_scanned hfirst es _ htable)
      (processRequest_honest display _ clock now r hresponse)
  | fileChanged now file => cases hanswer.symm.trans hdata
  | rescan found => cases hanswer.symm.trans hdata

def wiredScan : Core.Discovery.Answers ℚ where
  links := .ok [⟨2, "eth0", some "52:54:00:12:34:56", 1500, .up, none⟩]
  addresses := .ok []
  routes := []
  stats := ∅
  metadata := fun _ => ⟨[.speed 1000], some "virtio_net", none⟩

theorem never_a_score_wired :
    let is := [DaemonEvent.scanned wiredScan, .request 0 0 .getInterfaces].filterMap
      DaemonEvent.input
    let o := .response (.ok (some (.interfaces (firstTable wiredScan))))
    (outputs (step (fun _ => .error "") (fun _ => "") "")
        ⟨firstTable wiredScan, NetfusionConfig.default ℚ, 0⟩ is).getLast? = some o ∧
      scores (.interfaces (firstTable wiredScan)) = [] :=
  ⟨rfl, never_a_score (fun _ => .error "") (fun _ => "") "" .missing wiredScan 0 rfl
    [.scanned wiredScan, .request 0 0 .getInterfaces] _ (List.mem_of_getLast? rfl) _ rfl⟩

end Netfusion.Daemon.Answers
