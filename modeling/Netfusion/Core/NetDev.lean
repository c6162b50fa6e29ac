import Mathlib.Data.Rat.Defs
import Netfusion.Lib.Columns
import Netfusion.Core.Discovery

namespace Netfusion.Core.NetDev

open Netfusion.Lib.Collections Netfusion.Lib.Columns Netfusion.Lib.Fallible Netfusion.Lib.Text
open Netfusion.Shared.Types Netfusion.Core.Discovery

def indexPath (name : String) : String := "/sys/class/net/" ++ name ++ "/ifindex"

abbrev Sysfs := String → Option String

def nameToIndex (sysfs : Sysfs) (name : String) : Option UInt32 :=
  (sysfs (indexPath name)).bind (fun s =>
    (parseUint (2 ^ 32) (trim s.toList)).map UInt32.ofNat)

def counter (parts : List (List Char)) (i : Nat) : UInt64 :=
  UInt64.ofNat ((parts[i]?.bind (parseUint (2 ^ 64))).getD 0)

def readStats (sysfs : Sysfs) (stats : HashMap UInt32 InterfaceStats) (line : List Char) :
    HashMap UInt32 InterfaceStats :=
  let parts := splitWhitespace line
  if parts.length < 17 then stats
  else
    let name := String.ofList (trimEndMatches [':'] (parts.getD 0 []))
    let index := (nameToIndex sysfs name).getD 0
    if index = 0 then stats
    else
      stats.insert index
        { rxBytes := counter parts 1
          rxPackets := counter parts 2
          rxErrors := counter parts 3
          rxDropped := counter parts 4
          txBytes := counter parts 9
          txPackets := counter parts 10
          txErrors := counter parts 11
          txDropped := counter parts 12 }

def collectStats (sysfs : Sysfs) (netDev : Option String) : HashMap UInt32 InterfaceStats :=
  match netDev with
  | none => ∅
  | some content => ((lines content).drop 2).foldl (readStats sysfs) ∅

structure Device where
  index : UInt32
  name : String
  stats : InterfaceStats
  rxFifo : UInt64
  rxFrame : UInt64
  rxCompressed : UInt64
  multicast : UInt64
  txFifo : UInt64
  collisions : UInt64
  carrier : UInt64
  txCompressed : UInt64
  numbered : index ≠ 0
  solid : Solid name.toList
  noColon : ':' ∉ name.toList

namespace Device

def numbers (d : Device) : List (Nat × UInt64) :=
  [(7, d.stats.rxBytes), (7, d.stats.rxPackets), (4, d.stats.rxErrors), (4, d.stats.rxDropped),
    (4, d.rxFifo), (5, d.rxFrame), (10, d.rxCompressed), (9, d.multicast),
    (8, d.stats.txBytes), (7, d.stats.txPackets), (4, d.stats.txErrors), (4, d.stats.txDropped),
    (4, d.txFifo), (5, d.collisions), (7, d.carrier), (10, d.txCompressed)]

def cells (d : Device) : List (Nat × List Char) :=
  (7, d.name.toList ++ [':']) ::
    d.numbers.map (fun number => (number.1, Nat.toDigits 10 number.2.toNat))

def row (d : Device) : List Char := rowText ' ' d.cells

def indexText (d : Device) : String := String.ofList (Nat.toDigits 10 d.index.toNat ++ ['\n'])

def known (sysfs : Sysfs) (d : Device) : Bool := (sysfs (indexPath d.name)).isSome

/-- A device may be gone when its index is asked for. -/
def Agrees (sysfs : Sysfs) (d : Device) : Prop :=
  d.known sysfs → sysfs (indexPath d.name) = some d.indexText

theorem cells_solid (d : Device) : ∀ cell ∈ d.cells, Solid cell.2 := by
  intro cell hcell
  rcases List.mem_cons.mp hcell with rfl | hcell
  · refine ⟨by simp, ?_⟩
    intro c hc
    rcases List.mem_append.mp hc with hc | hc
    · exact d.solid.unbroken c hc
    · rw [List.mem_singleton.mp hc]
      decide
  · obtain ⟨number, -, rfl⟩ := List.mem_map.mp hcell
    exact solid_toDigits number.2.toNat

theorem row_unbroken (d : Device) : '\n' ∉ d.row ∧ '\r' ∉ d.row :=
  ⟨not_mem_rowText (by decide) (by decide) (by decide) d.cells d.cells_solid,
    not_mem_rowText (by decide) (by decide) (by decide) d.cells d.cells_solid⟩

theorem split_row (d : Device) : splitWhitespace d.row =
    (d.name.toList ++ [':']) :: d.numbers.map (fun number => Nat.toDigits 10 number.2.toNat) := by
  rw [row, splitWhitespace_rowText (by decide) d.cells d.cells_solid, cells, List.map_cons,
    List.map_map]
  rfl

theorem trimmed_name (d : Device) :
    trimEndMatches [':'] (d.name.toList ++ [':']) = d.name.toList := by
  apply trimEndMatches_append
  intro hsuffix
  exact d.noColon (hsuffix.subset (List.mem_singleton_self _))

theorem nameToIndex_agrees {sysfs : Sysfs} {d : Device} (h : d.Agrees sysfs) :
    nameToIndex sysfs d.name = if d.known sysfs then some d.index else none := by
  rw [nameToIndex]
  by_cases hknown : d.known sysfs
  · rw [if_pos hknown, h hknown, Option.bind_some, indexText, String.toList_ofList,
      trim_solid_break (solid_toDigits _) (by decide), parseUint_toDigits d.index.toNat_lt,
      Option.map_some, UInt32.ofNat_toNat]
  · rw [if_neg hknown]
    rw [known, Option.not_isSome_iff_eq_none] at hknown
    rw [hknown, Option.bind_none]

theorem counter_number {parts : List (List Char)} {i : Nat} {n : UInt64}
    (h : parts[i]? = some (Nat.toDigits 10 n.toNat)) : counter parts i = n := by
  rw [counter, h, Option.bind_some, parseUint_toDigits n.toNat_lt, Option.getD_some,
    UInt64.ofNat_toNat]

theorem readStats_row {sysfs : Sysfs} {d : Device} (h : d.Agrees sysfs)
    (stats : HashMap UInt32 InterfaceStats) : readStats sysfs stats d.row =
      if d.known sysfs then stats.insert d.index d.stats else stats := by
  rw [readStats, split_row]
  simp only [List.length_cons, List.length_map, numbers, List.length_nil, List.getD_cons_zero,
    trimmed_name, String.ofList_toList, nameToIndex_agrees h]
  rw [if_neg (by decide)]
  by_cases hknown : d.known sysfs
  · rw [if_pos hknown, if_pos hknown, Option.getD_some, if_neg d.numbered]
    congr 1
    rw [counter_number (n := d.stats.rxBytes) rfl, counter_number (n := d.stats.txBytes) rfl,
      counter_number (n := d.stats.rxPackets) rfl, counter_number (n := d.stats.txPackets) rfl,
      counter_number (n := d.stats.rxErrors) rfl, counter_number (n := d.stats.txErrors) rfl,
      counter_number (n := d.stats.rxDropped) rfl, counter_number (n := d.stats.txDropped) rfl]
  · rw [if_neg hknown, if_neg hknown, Option.getD_none, if_pos rfl]

end Device

/-- The report of the kernel: two lines of headings, and a row for each device. -/
structure Report where
  headings : List (List Char)
  devices : List Device
  two : headings.length = 2
  unbroken : ∀ line ∈ headings, '\n' ∉ line ∧ '\r' ∉ line

namespace Report

def text (report : Report) : String :=
  linesText (report.headings ++ report.devices.map Device.row)

def known (report : Report) (sysfs : Sysfs) : List Device :=
  report.devices.filter (fun d => d.known sysfs)

theorem rows_text (report : Report) :
    (lines report.text).drop 2 = report.devices.map Device.row := by
  rw [text, lines_linesText]
  · rw [← report.two, List.drop_left]
  · intro line hline
    rcases List.mem_append.mp hline with hline | hline
    · exact report.unbroken line hline
    · obtain ⟨d, -, rfl⟩ := List.mem_map.mp hline
      exact d.row_unbroken

theorem collectStats_text (report : Report) {sysfs : Sysfs}
    (h : ∀ d ∈ report.devices, d.Agrees sysfs) : collectStats sysfs (some report.text) =
      collect ((report.known sysfs).map (fun d => (d.index, d.stats))) := by
  have hread : ∀ devices : List Device, (∀ d ∈ devices, d.Agrees sysfs) → ∀ stats,
      (devices.map Device.row).foldl (readStats sysfs) stats =
        ((devices.filter (fun d => d.known sysfs)).map (fun d => (d.index, d.stats))).foldl
          (fun m e => m.insert e.1 e.2) stats := by
    intro devices
    induction devices with
    | nil => exact fun _ _ => rfl
    | cons d devices ih =>
      intro hagrees stats
      have hrest := ih (fun other hother => hagrees other (List.mem_cons_of_mem _ hother))
      rw [List.map_cons, List.foldl_cons, Device.readStats_row (hagrees d List.mem_cons_self), hrest]
      by_cases hknown : d.known sysfs
      · rw [if_pos hknown, List.filter_cons_of_pos hknown, List.map_cons, List.foldl_cons]
      · rw [if_neg hknown, List.filter_cons_of_neg hknown]
  rw [collectStats, rows_text, hread report.devices h, collect]
  rfl

end Report

def countersOf (devices : List Device) (index : UInt32) : InterfaceStats :=
  ((devices.find? (fun d => d.index = index)).map Device.stats).getD ⟨0, 0, 0, 0, 0, 0, 0, 0⟩

theorem lookup_devices {devices : List Device} (h : (devices.map Device.index).Nodup)
    (index : UInt32) : (collect (devices.map (fun d => (d.index, d.stats)))).lookup index =
      (devices.find? (fun d => d.index = index)).map Device.stats := by
  rw [lookup_collect, List.filter_map, List.getLast?_map, Option.map_map]
  induction devices with
  | nil => rfl
  | cons d devices ih =>
    obtain ⟨hnew, hrest⟩ := List.nodup_cons.mp h
    by_cases hindex : d.index = index
    · have hnone : devices.filter (fun other => decide (other.index = index)) = [] := by
        rw [List.filter_eq_nil_iff]
        intro other hother heq
        have hsame : other.index = d.index := (of_decide_eq_true heq).trans hindex.symm
        exact hnew (hsame ▸ List.mem_map_of_mem hother)
      rw [List.find?_cons_of_pos (by simp [hindex]), List.filter_cons_of_pos (by simp [hindex])]
      simp only [Function.comp_def]
      rw [hnone]
      rfl
    · rw [List.find?_cons_of_neg (by simp [hindex]), List.filter_cons_of_neg (by simp [hindex])]
      exact ih hrest

section

variable {F : Type}

/-- After a scan the counters of an interface are those that the kernel reported
for its index, or all zero if it reported none or the device was gone. -/
theorem scan_counters {answers : Answers F} {found : List (InterfaceInfo F)} (report : Report)
    (sysfs : Sysfs) (hagrees : ∀ d ∈ report.devices, d.Agrees sysfs)
    (hdistinct : (report.devices.map Device.index).Nodup)
    (hstats : answers.stats = collectStats sysfs (some report.text))
    (hscan : scan answers = .ok found) : ∃ links, answers.links = .ok links ∧
      found.map (fun i => (i.name, i.stats)) =
        (links.filter (fun link => !skipped link)).map
          (fun link => (link.name, countersOf (report.known sysfs) link.index)) := by
  obtain ⟨links, addresses, routes, hlinks, -, -, rfl⟩ := scan_ok hscan
  refine ⟨links, hlinks, ?_⟩
  have hknown : ((report.known sysfs).map Device.index).Nodup :=
    hdistinct.sublist (List.filter_sublist.map Device.index)
  rw [List.map_map]
  apply List.map_congr_left
  intro link hlink
  obtain ⟨speed, duplex, hfields⟩ := collectDetailedMetadata_eq (answers.metadata link.name) _
  rw [Function.comp_apply, describe, hfields, hstats, report.collectStats_text hagrees,
    lookup_devices hknown, countersOf]

end

/-- A network card, and the device of a tunnel that is gone before its index is read. -/
def card : Device where
  index := 2
  name := "eth0"
  stats := ⟨18446744073709551615, 7300, 42, 21, 1, 2, 3, 4⟩
  rxFifo := 0
  rxFrame := 0
  rxCompressed := 0
  multicast := 5
  txFifo := 0
  collisions := 6
  carrier := 0
  txCompressed := 0
  numbered := by decide
  solid := solid_of_all (by decide) (by decide)
  noColon := by decide

def gone : Device :=
  { card with
    index := 3
    name := "wg0"
    numbered := by decide
    solid := solid_of_all (by decide) (by decide)
    noColon := by decide }

example : String.ofList card.row = "  eth0: 18446744073709551615      42    1    3" ++
    "    0     0          0         5     7300      21    2    4    0     6       0          0" := by
  decide +kernel

def shortReport : Report where
  headings := ["Inter-|   Receive".toList, " face |bytes".toList]
  devices := [card, gone]
  two := rfl
  unbroken := by decide

def cardOnly : Sysfs := fun path => if path = indexPath "eth0" then some "2\n" else none

theorem shortReport_agrees : ∀ d ∈ shortReport.devices, d.Agrees cardOnly := by
  intro d hd
  rcases List.mem_cons.mp hd with rfl | hd
  · intro _
    decide +kernel
  · intro hknown
    rw [List.mem_singleton.mp hd] at hknown
    exact absurd hknown (by decide +kernel)

def cardLinks : List LinkEntry :=
  [⟨2, "eth0", none, 1500, .up, none⟩, ⟨3, "wg0", none, 1420, .up, none⟩]

def cardScan (stats : HashMap UInt32 InterfaceStats) : Answers ℚ :=
  ⟨.ok cardLinks, .ok [], [], stats, fun _ => ⟨[], none, none⟩⟩

def cardFound (stats : HashMap UInt32 InterfaceStats) : List (InterfaceInfo ℚ) :=
  (cardLinks.filter (fun link => !skipped link)).map
    (describe [] [] stats (fun _ => ⟨[], none, none⟩))

theorem cardScan_eq (stats : HashMap UInt32 InterfaceStats) : (cardScan stats).stats = stats ∧
    scan (cardScan stats) = .ok (cardFound stats) := by
  exact ⟨rfl, rfl⟩

theorem scan_counters_card :
    let stats := collectStats cardOnly (some shortReport.text)
    ∃ links, (cardScan stats).links = .ok links ∧
      (cardFound stats).map (fun i => (i.name, i.stats)) =
        (links.filter (fun link => !skipped link)).map
          (fun link => (link.name, countersOf (shortReport.known cardOnly) link.index)) :=
  scan_counters shortReport cardOnly shortReport_agrees (by decide) (cardScan_eq _).1
    (cardScan_eq _).2

end Netfusion.Core.NetDev
