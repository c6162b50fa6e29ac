import Netfusion.Lib.Framing
import Netfusion.Shared.WireMessages
import Netfusion.Daemon.Server

namespace Netfusion.Daemon.Session

open Netfusion.Lib.Bincode Netfusion.Lib.Framing
open Netfusion.Shared Netfusion.Shared.Config Netfusion.Shared.Validate Netfusion.Shared.Types
open Netfusion.Shared.Ipc Netfusion.Shared.Wire
open Netfusion.Daemon.Server

inductive SessionError where
  | io (e : String)
  | encode (e : Error)

structure Frame where
  size : UInt32
  body : List UInt8

variable {F : Type}

/-- What the handling of one frame meets: what the other connections have done
to the shared state by then, the clock readings, the id drawn for the response,
and whether the stream takes the response. -/
structure Turn (F : Type) where
  others : IpcServer F → IpcServer F
  clock : Nat
  asked : DateTime
  id : Uuid
  now : DateTime
  written : Except String Unit

structure Incoming where
  bytes : List UInt8
  broken : Option String

def maxFrameSize : Nat := 10 * 1024 * 1024

variable (fmt : Format F) (display : ValidationErrors → String)

/-- A frame that is not written as a whole counts as none. -/
def respond (turn : Turn F) (request : WireMessage (DaemonRequest F)) (s : IpcServer F) :
    Except SessionError Frame × IpcServer F :=
  let (response, s) := processRequest display (turn.others s) turn.clock turn.asked request.payload
  match encodeResponse fmt (WireMessage.new turn.id turn.now response) with
  | .error e => (.error (.encode e), s)
  | .ok bytes =>
    match turn.written with
    | .error e => (.error (.io e), s)
    | .ok _ => (.ok ⟨UInt32.ofNat bytes.length, bytes⟩, s)

variable (decode : List UInt8 → Option (WireMessage (DaemonRequest F)))

/-- The connection from its `k`-th frame on: the frames that are written, how
it ends, and what it leaves of the shared state. A request of another protocol
version is handled like any other. -/
def serve (turns : Nat → Turn F) (k : Nat) (incoming : Incoming) (s : IpcServer F) :
    List Frame × Except SessionError Unit × IpcServer F :=
  match _hheader : readExact 4 incoming.bytes with
  | none =>
    match incoming.broken with
    | none => ([], .ok (), s)
    | some e => ([], .error (.io e), s)
  | some (header, rest) =>
    if fromBeBytes header > maxFrameSize then ([], .ok (), s)
    else match _hbody : readExact (fromBeBytes header) rest with
      | none => ([], .error (.io (incoming.broken.getD "early eof")), s)
      | some (body, rest) =>
        match decode body with
        | none => serve turns (k + 1) { incoming with bytes := rest } s
        | some request =>
          match respond fmt display (turns k) request s with
          | (.error e, s) => ([], .error e, s)
          | (.ok response, s) =>
            let (frames, result, s) := serve turns (k + 1) { incoming with bytes := rest } s
            (response :: frames, result, s)
termination_by incoming.bytes.length
decreasing_by
  all_goals
    have hfirst := readExact_length _hheader
    have hsecond := readExact_length _hbody
    omega

def handleConnection (turns : Nat → Turn F) (incoming : Incoming) (s : IpcServer F) :
    List Frame × Except SessionError Unit × IpcServer F :=
  serve fmt display decode turns 0 incoming s

theorem serve_frame (turns : Nat → Turn F) (k : Nat) {body : List UInt8}
    (hsize : body.length ≤ maxFrameSize) (rest : List UInt8) (broken : Option String)
    (s : IpcServer F) :
    serve fmt display decode turns k ⟨frame body ++ rest, broken⟩ s =
      match decode body with
      | none => serve fmt display decode turns (k + 1) ⟨rest, broken⟩ s
      | some request =>
        match respond fmt display (turns k) request s with
        | (.error e, s) => ([], .error e, s)
        | (.ok response, s) =>
          let (frames, result, s) := serve fmt display decode turns (k + 1) ⟨rest, broken⟩ s
          (response :: frames, result, s) := by
  have hlen : fromBeBytes (toBeBytes body.length) = body.length := by
    apply fromBeBytes_toBeBytes
    rw [maxFrameSize] at hsize
    omega
  rw [serve]
  split
  · rename_i hheader
    rw [readExact_frame] at hheader
    cases hheader
  · rename_i header rest' hheader
    rw [readExact_frame] at hheader
    cases hheader
    rw [if_neg (by rw [hlen]; exact not_lt.mpr hsize)]
    split
    · rename_i hbody
      rw [hlen, readExact_append rfl] at hbody
      cases hbody
    · rename_i body' rest'' hbody
      rw [hlen, readExact_append rfl] at hbody
      cases hbody
      rfl

theorem serve_end (turns : Nat → Turn F) (k : Nat) (broken : Option String) (s : IpcServer F) :
    (serve fmt display decode turns k ⟨[], broken⟩ s).1 = [] := by
  rw [serve]
  split
  · split <;> rfl
  · rename_i hheader
    cases hheader

end Netfusion.Daemon.Session
