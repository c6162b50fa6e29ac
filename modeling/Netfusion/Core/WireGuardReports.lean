import Netfusion.Lib.Columns
import Netfusion.Core.WireGuard

namespace Netfusion.Core.WireGuardReports

open Netfusion.Lib.Columns Netfusion.Lib.Text
open Netfusion.Core.Command Netfusion.Core.WireGuard

def transferOf (line : List Char) : Option (UInt64 × UInt64) :=
  match splitWhitespace line with
  | _ :: rx :: tx :: _ => do
    let rx ← parseUint (2 ^ 64) rx
    let tx ← parseUint (2 ^ 64) tx
    return (UInt64.ofNat rx, UInt64.ofNat tx)
  | _ => none

/-- Every line that can be read replaces what the lines before it said. -/
def getTransferBytes (result : CommandOutput) : Except CoreError (UInt64 × UInt64) :=
  match result with
  | .error e => .error (.internal e)
  | .ok out =>
    if out.success then
      .ok ((lines out.stdout).foldl (fun bytes line => (transferOf line).getD bytes) (0, 0))
    else .error (.internal ("Failed to get WireGuard transfer stats: " ++ out.stderr))

/-- A peer of an interface as `wg` shows it; without a handshake its time is zero. -/
structure ShownPeer where
  publicKey : String
  rxBytes : UInt64
  txBytes : UInt64
  latestHandshake : UInt64
  solid : Solid publicKey.toList

namespace ShownPeer

def transferCells (p : ShownPeer) : List (Nat × List Char) :=
  [(0, p.publicKey.toList), (0, Nat.toDigits 10 p.rxBytes.toNat),
    (0, Nat.toDigits 10 p.txBytes.toNat)]

def handshakeCells (p : ShownPeer) : List (Nat × List Char) :=
  [(0, p.publicKey.toList), (0, Nat.toDigits 10 p.latestHandshake.toNat)]

theorem transferCells_solid (p : ShownPeer) : ∀ cell ∈ p.transferCells, Solid cell.2 := by
  simp only [transferCells, List.forall_mem_cons]
  exact ⟨p.solid, solid_toDigits _, solid_toDigits _, fun _ h => by cases h⟩

theorem handshakeCells_solid (p : ShownPeer) : ∀ cell ∈ p.handshakeCells, Solid cell.2 := by
  simp only [handshakeCells, List.forall_mem_cons]
  exact ⟨p.solid, solid_toDigits _, fun _ h => by cases h⟩

end ShownPeer

def shownText (cells : ShownPeer → List (Nat × List Char)) (peers : List ShownPeer) : String :=
  linesText (peers.map (fun p => rowText '\t' (cells p)))

theorem lines_shownText {cells : ShownPeer → List (Nat × List Char)}
    (h : ∀ p, ∀ cell ∈ cells p, Solid cell.2) (peers : List ShownPeer) :
    lines (shownText cells peers) = peers.map (fun p => rowText '\t' (cells p)) := by
  apply lines_linesText
  intro line hline
  obtain ⟨p, -, rfl⟩ := List.mem_map.mp hline
  exact ⟨not_mem_rowText (by decide) (by decide) (by decide) (cells p) (h p),
    not_mem_rowText (by decide) (by decide) (by decide) (cells p) (h p)⟩

theorem transferOf_row (p : ShownPeer) :
    transferOf (rowText '\t' p.transferCells) = some (p.rxBytes, p.txBytes) := by
  rw [transferOf, splitWhitespace_rowText (by decide) p.transferCells p.transferCells_solid]
  simp only [ShownPeer.transferCells, List.map_cons]
  rw [parseUint_toDigits p.rxBytes.toNat_lt, parseUint_toDigits p.txBytes.toNat_lt]
  simp

theorem handshakeOf_row (p : ShownPeer) : handshakeOf (rowText '\t' p.handshakeCells) =
    if 0 < p.latestHandshake.toNat then some p.latestHandshake.toNat else none := by
  rw [handshakeOf, splitWhitespace_rowText (by decide) p.handshakeCells p.handshakeCells_solid]
  simp only [ShownPeer.handshakeCells, List.map_cons, List.map_nil]
  rw [parseUint_toDigits p.latestHandshake.toNat_lt, Option.filter_some]
  simp

/-- Of the peers that `wg` shows the last one gives the bytes, and the first one
that has had a handshake gives its time. -/
theorem shown_peers_read (peers : List ShownPeer) (stderr : String) :
    getTransferBytes (exited true (shownText ShownPeer.transferCells peers) stderr) =
        .ok ((peers.getLast?.map (fun p => (p.rxBytes, p.txBytes))).getD (0, 0)) ∧
      checkHandshake (exited true (shownText ShownPeer.handshakeCells peers) stderr) =
        .ok ((peers.find? (fun p => 0 < p.latestHandshake.toNat)).map
          (fun p => p.latestHandshake.toNat)) := by
  constructor
  · simp only [getTransferBytes, exited, if_true]
    rw [lines_shownText ShownPeer.transferCells_solid, List.foldl_map]
    congr 1
    induction peers using List.reverseRecOn with
    | nil => rfl
    | append_singleton peers p ih =>
      rw [List.foldl_append, List.foldl_cons, List.foldl_nil, transferOf_row,
        List.getLast?_concat]
      rfl
  · simp only [checkHandshake, exited, if_true]
    rw [lines_shownText ShownPeer.handshakeCells_solid]
    congr 1
    induction peers with
    | nil => rfl
    | cons p peers ih =>
      rw [List.map_cons, List.findSome?_cons, handshakeOf_row]
      by_cases hshaken : 0 < p.latestHandshake.toNat
      · rw [if_pos hshaken, List.find?_cons_of_pos (by simpa using hshaken)]
        rfl
      · rw [if_neg hshaken, List.find?_cons_of_neg (by simpa using hshaken)]
        exact ih

end Netfusion.Core.WireGuardReports
