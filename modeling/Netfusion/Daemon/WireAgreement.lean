import Mathlib.Data.Rat.Defs
import Netfusion.Shared.WireCodec
import Netfusion.Daemon.Server

namespace Netfusion.Daemon.WireAgreement

open Netfusion.Lib.Bincode
open Netfusion.Shared Netfusion.Shared.Config Netfusion.Shared.Validate Netfusion.Shared.Types
open Netfusion.Shared.Ipc Netfusion.Shared.WireCodec
open Netfusion.Daemon.Server

variable {F : Type} (fmt : Format F)

def RequestAgrees (visit : Value → Except Error (DaemonRequest F))
    (m : WireMessage (DaemonRequest F)) : Prop :=
  ∃ bytes, encodeRequest fmt m = .ok bytes ∧ decodeRequest fmt visit bytes = .ok m

def ResponseAgrees (visit : Value → Except Error (DaemonResponse F))
    (m : WireMessage (DaemonResponse F)) : Prop :=
  ∃ bytes n, encodeResponse fmt m = .ok bytes ∧ decodeResponse fmt visit bytes = .ok n ∧
    n.payload = m.payload

/-- No bytes at all decode to a message with an internally tagged payload. -/
theorem tagged_not_decoded {α : Type} (visit : Value → Except Error α) (bs : List UInt8)
    (m : WireMessage α) : deserialize (readWireMessage fmt (deserializeAny visit)) bs ≠ .ok m := by
  intro h
  have herror := readWireMessage_error fmt (deserializeAny visit) (fun _ => rfl) bs
  rw [← isOk_map Prod.fst, ← deserialize, h] at herror
  cases herror

theorem not_requestAgrees (visit : Value → Except Error (DaemonRequest F))
    (m : WireMessage (DaemonRequest F)) : ¬ RequestAgrees fmt visit m := by
  rintro ⟨bytes, -, hdec⟩
  exact tagged_not_decoded fmt visit bytes m hdec

theorem not_responseAgrees (visit : Value → Except Error (DaemonResponse F))
    (m : WireMessage (DaemonResponse F)) : ¬ ResponseAgrees fmt visit m := by
  rintro ⟨bytes, n, -, hdec, -⟩
  exact tagged_not_decoded fmt visit bytes n hdec

/-- The header of an encoded message reads back, and the payload after it is
where the reader is asked for a self-describing value. -/
theorem decodeRequest_encoded (visit : Value → Except Error (DaemonRequest F))
    (m : WireMessage (DaemonRequest F)) (bytes : List UInt8)
    (hdate : fmt.fromRfc3339 (fmt.toRfc3339 m.timestamp) = some m.timestamp)
    (hlen : (utf8 (fmt.toRfc3339 m.timestamp)).length < 256 ^ 8)
    (henc : encodeRequest fmt m = .ok bytes) :
    decodeRequest fmt visit bytes = .error .deserializeAnyNotSupported := by
  obtain ⟨body, rfl⟩ := encode_wireMessage fmt (DaemonRequest.serialize fmt) m henc
  have hu := readUuid_withLength m.id (withLength (utf8 (fmt.toRfc3339 m.timestamp)) ++ body)
  have ht : readDateTime fmt (withLength (utf8 (fmt.toRfc3339 m.timestamp)) ++ body) =
      .ok (m.timestamp, body) := by
    simp [readDateTime, readStr_withLength _ _ hlen, bind, Except.bind, hdate]
  simp [decodeRequest, deserialize, readWireMessage, readUint_leBytes, hu, ht, bind,
    Except.bind, DaemonRequest.deserialize, deserializeAny, Except.map]

/-- The two ends never agree: not on a single request, and not on a single
response the server makes. -/
theorem wire_never_agrees (visitRequest : Value → Except Error (DaemonRequest F))
    (visitResponse : Value → Except Error (DaemonResponse F)) (display : ValidationErrors → String) :
    (∀ id now (r : DaemonRequest F),
      ¬ RequestAgrees fmt visitRequest (WireMessage.new id now r)) ∧
    (∀ id now (s : IpcServer F) clock now' (r : DaemonRequest F),
      ¬ ResponseAgrees fmt visitResponse
        (WireMessage.new id now (processRequest display s clock now' r).1)) :=
  ⟨fun _ _ _ => not_requestAgrees fmt visitRequest _,
    fun _ _ _ _ _ _ => not_responseAgrees fmt visitResponse _⟩

def nilUuid : Uuid := ⟨List.replicate 16 0, rfl⟩

def epochFormat : Format ℚ where
  toBits := fun _ => 0
  toRfc3339 := fun _ => "1970-01-01T00:00:00Z"
  fromRfc3339 := fun _ => some 0

theorem getStatus_not_delivered :
    (encodeRequest epochFormat (WireMessage.new nilUuid 0 .getStatus)).isOk = true ∧
    (¬ ∃ visit, RequestAgrees epochFormat visit (WireMessage.new nilUuid 0 .getStatus)) ∧
    (encodeResponse epochFormat (WireMessage.new nilUuid 0 (processRequest (fun _ => "")
      ⟨[], NetfusionConfig.default ℚ, 0⟩ 0 0 .getInterfaces).1)).isOk = false := by
  refine ⟨encodeRequest_isOk _ _, ?_, ?_⟩
  · rintro ⟨visit, h⟩
    exact not_requestAgrees epochFormat visit _ h
  · rw [encodeResponse_isOk]
    rfl

end Netfusion.Daemon.WireAgreement
