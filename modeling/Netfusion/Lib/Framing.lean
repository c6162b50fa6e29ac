import Netfusion.Lib.Bincode

namespace Netfusion.Lib.Framing

open Netfusion.Lib.Bincode

def toBeBytes (n : Nat) : List UInt8 := (leBytes 4 n).reverse

def fromBeBytes (bs : List UInt8) : Nat := ofLeBytes bs.reverse

/-- All of the next `n` bytes, or nothing if the stream ends before. -/
def readExact (n : Nat) (bs : List UInt8) : Option (List UInt8 × List UInt8) :=
  if bs.length < n then none else some (bs.take n, bs.drop n)

/-- A body behind its length. -/
def frame (body : List UInt8) : List UInt8 := toBeBytes body.length ++ body

theorem toBeBytes_length (n : Nat) : (toBeBytes n).length = 4 := by
  rw [toBeBytes, List.length_reverse, leBytes_length]

theorem fromBeBytes_toBeBytes {n : Nat} (h : n < 256 ^ 4) : fromBeBytes (toBeBytes n) = n := by
  rw [fromBeBytes, toBeBytes, List.reverse_reverse, ofLeBytes_leBytes, Nat.mod_eq_of_lt h]

theorem readExact_append {n : Nat} {front : List UInt8} (h : front.length = n) (rest : List UInt8) :
    readExact n (front ++ rest) = some (front, rest) := by
  have hlen : ¬ (front ++ rest).length < n := by
    rw [List.length_append]
    omega
  rw [readExact, if_neg hlen, List.take_left' h, List.drop_left' h]

theorem readExact_length {n : Nat} {bs front rest : List UInt8}
    (h : readExact n bs = some (front, rest)) : rest.length + n = bs.length := by
  rw [readExact] at h
  split at h
  · cases h
  · cases h
    rw [List.length_drop]
    omega

theorem readExact_frame (body rest : List UInt8) :
    readExact 4 (frame body ++ rest) = some (toBeBytes body.length, body ++ rest) := by
  rw [frame, List.append_assoc]
  exact readExact_append (toBeBytes_length _) _

end Netfusion.Lib.Framing
