import Netfusion.Lib.Text

namespace Netfusion.Lib.Addresses

open Netfusion.Lib.Text

structure Ipv4Addr where
  a : UInt8
  b : UInt8
  c : UInt8
  d : UInt8
deriving DecidableEq

def Ipv4Addr.octets (addr : Ipv4Addr) : List UInt8 := [addr.a, addr.b, addr.c, addr.d]

def Ipv4Addr.text (addr : Ipv4Addr) : List Char :=
  ['.'].intercalate (addr.octets.map (fun octet => Nat.toDigits 10 octet.toNat))

structure Ipv6Addr where
  segments : List UInt16
  eight : segments.length = 8
deriving DecidableEq

structure Span where
  start : Nat
  len : Nat

def extendSpan (spans : Span × Span) (segment : UInt16 × Nat) : Span × Span :=
  if segment.1 = 0 then
    let current : Span :=
      ⟨if spans.2.len = 0 then segment.2 else spans.2.start, spans.2.len + 1⟩
    (if current.len > spans.1.len then current else spans.1, current)
  else (spans.1, ⟨0, 0⟩)

/-- Of two spans of zeros with the same length, the first counts as the
longest. -/
def longestZeros (segments : List UInt16) : Span :=
  (segments.zipIdx.foldl extendSpan (⟨0, 0⟩, ⟨0, 0⟩)).1

def hexSegments (chunk : List UInt16) : List Char :=
  [':'].intercalate (chunk.map (fun segment => Nat.toDigits 16 segment.toNat))

def Ipv6Addr.toIpv4Mapped (addr : Ipv6Addr) : Option Ipv4Addr :=
  match addr.segments with
  | [0, 0, 0, 0, 0, 0xffff, ab, cd] =>
    some ⟨(ab >>> 8).toUInt8, ab.toUInt8, (cd >>> 8).toUInt8, cd.toUInt8⟩
  | _ => none

/-- The longest span of zeros is left out, unless it is a single one. -/
def Ipv6Addr.text (addr : Ipv6Addr) : List Char :=
  match addr.toIpv4Mapped with
  | some mapped => "::ffff:".toList ++ mapped.text
  | none =>
    let zeros := longestZeros addr.segments
    if zeros.len > 1 then
      hexSegments (addr.segments.take zeros.start) ++ "::".toList ++
        hexSegments (addr.segments.drop (zeros.start + zeros.len))
    else hexSegments addr.segments

inductive IpAddr where
  | v4 (addr : Ipv4Addr)
  | v6 (addr : Ipv6Addr)
deriving DecidableEq

def IpAddr.text : IpAddr → List Char
  | .v4 addr => addr.text
  | .v6 addr => addr.text

theorem ipv4_text_ne_nil (addr : Ipv4Addr) : addr.text ≠ [] :=
  intercalate_ne_nil Nat.toDigits_ne_nil

theorem hexSegments_ne_nil {chunk : List UInt16} (h : chunk ≠ []) : hexSegments chunk ≠ [] := by
  cases chunk with
  | nil => exact absurd rfl h
  | cons segment chunk => exact intercalate_ne_nil Nat.toDigits_ne_nil

theorem ipv6_text_ne_nil (addr : Ipv6Addr) : addr.text ≠ [] := by
  rw [Ipv6Addr.text]
  cases addr.toIpv4Mapped with
  | some mapped => simp
  | none =>
    dsimp only
    split
    · simp
    · apply hexSegments_ne_nil
      intro hnil
      have height := addr.eight
      rw [hnil] at height
      cases height

example : Ipv6Addr.text ⟨[0x2001, 0xdb8, 0, 0, 1, 0, 0, 1], rfl⟩ = "2001:db8::1:0:0:1".toList := by
  decide +kernel

end Netfusion.Lib.Addresses
