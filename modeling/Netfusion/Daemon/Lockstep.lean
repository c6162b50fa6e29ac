import Mathlib.Data.List.Forall2
import Netfusion.Daemon.Session
import Netfusion.Daemon.WireAgreement

namespace Netfusion.Daemon.Lockstep

open Netfusion.Lib.Bincode Netfusion.Lib.Framing
open Netfusion.Shared Netfusion.Shared.Config Netfusion.Shared.Validate Netfusion.Shared.Types
open Netfusion.Shared.Ipc Netfusion.Shared.Wire Netfusion.Shared.WireCodec
open Netfusion.Daemon.Server Netfusion.Daemon.Session Netfusion.Daemon.WireAgreement

variable {F : Type} (fmt : Format F) (display : ValidationErrors → String)
  (decode : List UInt8 → Option (WireMessage (DaemonRequest F)))

def messageId (bs : List UInt8) : Except Error Uuid := do
  let (_, bs) ← readUint 4 bs
  let (id, _) ← readUuid bs
  return id

/-- The frame is complete, and carries the id of the request if there is one. -/
def Answers (body : List UInt8) (response : Frame) : Prop :=
  response.size.toNat = response.body.length ∧
  ∀ request, decode body = some request → messageId response.body = .ok request.id

/-- One response for each request, in their order. -/
def InLockstep (bodies : List (List UInt8)) (frames : List Frame) : Prop :=
  List.Forall₂ (Answers decode) bodies frames

/-- The response can be encoded, its length fits in the header, and the stream
takes it. -/
def Delivered (turn : Turn F) (request : WireMessage (DaemonRequest F)) (s : IpcServer F) : Prop :=
  turn.written = .ok () ∧
  ∃ bytes, encodeResponse fmt (WireMessage.new turn.id turn.now
      (processRequest display (turn.others s) turn.clock turn.asked request.payload).1) = .ok bytes ∧
    bytes.length < 2 ^ 32

/-- Every body decodes, the id drawn for its response is that of the request,
and the response is delivered. -/
def AllAnswered (turns : Nat → Turn F) : Nat → IpcServer F → List (List UInt8) → Prop
  | _, _, [] => True
  | k, s, body :: bodies =>
    ∃ request, decode body = some request ∧ (turns k).id = request.id ∧
      Delivered fmt display (turns k) request s ∧
      AllAnswered turns (k + 1) (respond fmt display (turns k) request s).2 bodies

theorem messageId_encoded {m : WireMessage (DaemonResponse F)} {bytes : List UInt8}
    (h : encodeResponse fmt m = .ok bytes) : messageId bytes = .ok m.id := by
  obtain ⟨body, rfl⟩ := encode_wireMessage fmt (DaemonResponse.serialize fmt) m h
  simp [messageId, readUint_leBytes, readUuid_withLength, bind, Except.bind, pure, Except.pure]

theorem respond_ok {turn : Turn F} {request : WireMessage (DaemonRequest F)} {s s' : IpcServer F}
    {response : Frame} (h : respond fmt display turn request s = (.ok response, s')) :
    turn.written = .ok () ∧
    encodeResponse fmt (WireMessage.new turn.id turn.now
      (processRequest display (turn.others s) turn.clock turn.asked request.payload).1) =
        .ok response.body ∧
    response.size = UInt32.ofNat response.body.length := by
  simp only [respond] at h
  split at h
  · cases h
  · rename_i bytes henc
    split at h
    · cases h
    · rename_i hwritten
      cases h
      exact ⟨hwritten, henc, rfl⟩

theorem size_whole {n : Nat} : (UInt32.ofNat n).toNat = n ↔ n < 2 ^ 32 := by
  rw [UInt32.toNat_ofNat']
  exact Nat.mod_eq_iff_lt (by decide)

theorem respond_delivered {turn : Turn F} {request : WireMessage (DaemonRequest F)}
    {s : IpcServer F} (h : Delivered fmt display turn request s) :
    ∃ response, (respond fmt display turn request s).1 = .ok response := by
  obtain ⟨hwritten, bytes, henc, -⟩ := h
  refine ⟨⟨UInt32.ofNat bytes.length, bytes⟩, ?_⟩
  simp only [respond, henc, hwritten]

/-- A response answers its request exactly when the id drawn for it is that of
the request, and it is delivered. -/
theorem answers_iff {turn : Turn F} {body : List UInt8} {request : WireMessage (DaemonRequest F)}
    (hdec : decode body = some request) {s s' : IpcServer F} {response : Frame}
    (hr : respond fmt display turn request s = (.ok response, s')) :
    Answers decode body response ↔ turn.id = request.id ∧ Delivered fmt display turn request s := by
  obtain ⟨hwritten, henc, hlen⟩ := respond_ok fmt display hr
  have hid : messageId response.body = .ok turn.id := messageId_encoded fmt henc
  rw [Answers, hlen, size_whole]
  constructor
  · rintro ⟨hwhole, hcarries⟩
    have heq := hid.symm.trans (hcarries request hdec)
    exact ⟨Except.ok.inj heq, hwritten, _, henc, hwhole⟩
  · rintro ⟨hsame, -, bytes, henc', hwhole⟩
    cases henc.symm.trans henc'
    refine ⟨hwhole, ?_⟩
    intro request' hsome
    cases hdec.symm.trans hsome
    exact hid.trans (congrArg Except.ok hsame)

section

variable (turns : Nat → Turn F) (broken : Option String)

def framesFor (k : Nat) (bodies : List (List UInt8)) (s : IpcServer F) : List Frame :=
  (serve fmt display decode turns k ⟨bodies.flatMap frame, broken⟩ s).1

section

variable {k : Nat} {body : List UInt8} (hsize : body.length ≤ maxFrameSize)
  {s s' : IpcServer F} {request : WireMessage (DaemonRequest F)}

include hsize

theorem framesFor_undecoded (bodies : List (List UInt8)) (hdec : decode body = none) :
    framesFor fmt display decode turns broken k (body :: bodies) s =
      framesFor fmt display decode turns broken (k + 1) bodies s := by
  rw [framesFor, List.flatMap_cons, serve_frame fmt display decode turns k hsize]
  simp only [hdec]
  rfl

theorem framesFor_failed (bodies : List (List UInt8)) (hdec : decode body = some request)
    {e : SessionError} (hr : respond fmt display (turns k) request s = (.error e, s')) :
    framesFor fmt display decode turns broken k (body :: bodies) s = [] := by
  rw [framesFor, List.flatMap_cons, serve_frame fmt display decode turns k hsize]
  simp only [hdec, hr]

theorem framesFor_answered (bodies : List (List UInt8)) (hdec : decode body = some request)
    {response : Frame} (hr : respond fmt display (turns k) request s = (.ok response, s')) :
    framesFor fmt display decode turns broken k (body :: bodies) s =
      response :: framesFor fmt display decode turns broken (k + 1) bodies s' := by
  rw [framesFor, List.flatMap_cons, serve_frame fmt display decode turns k hsize]
  simp only [hdec, hr]
  rfl

end

theorem framesFor_length (bodies : List (List UInt8))
    (hsize : ∀ body ∈ bodies, body.length ≤ maxFrameSize) (k : Nat) (s : IpcServer F) :
    (framesFor fmt display decode turns broken k bodies s).length ≤ bodies.length := by
  induction bodies generalizing k s with
  | nil =>
    rw [framesFor, List.flatMap_nil, serve_end]
    exact le_rfl
  | cons body bodies ih =>
    have hbody := hsize body (.head bodies)
    have hrest := fun s => ih (fun b hb => hsize b (.tail body hb)) (k + 1) s
    cases hdec : decode body with
    | none =>
      rw [framesFor_undecoded fmt display decode turns broken hbody bodies hdec]
      exact (hrest s).trans (Nat.le_succ _)
    | some request =>
      cases hr : respond fmt display (turns k) request s with
      | mk answer s' =>
        cases answer with
        | error e =>
          rw [framesFor_failed fmt display decode turns broken hbody bodies hdec hr]
          exact Nat.zero_le _
        | ok response =>
          rw [framesFor_answered fmt display decode turns broken hbody bodies hdec hr]
          exact Nat.succ_le_succ (hrest s')

theorem allAnswered_cons {body : List UInt8} {bodies : List (List UInt8)}
    {request : WireMessage (DaemonRequest F)} (hdec : decode body = some request) (k : Nat)
    (s : IpcServer F) :
    AllAnswered fmt display decode turns k s (body :: bodies) ↔
      ((turns k).id = request.id ∧ Delivered fmt display (turns k) request s) ∧
      AllAnswered fmt display decode turns (k + 1) (respond fmt display (turns k) request s).2
        bodies := by
  constructor
  · rintro ⟨request', hsome, hid, hdelivered, htail⟩
    cases hdec.symm.trans hsome
    exact ⟨⟨hid, hdelivered⟩, htail⟩
  · rintro ⟨⟨hid, hdelivered⟩, htail⟩
    exact ⟨request, hdec, hid, hdelivered, htail⟩

/-- A body that cannot be decoded is passed over, so there are too few responses. -/
theorem not_inLockstep_undecoded {body : List UInt8} {bodies : List (List UInt8)}
    (hsize : ∀ b ∈ body :: bodies, b.length ≤ maxFrameSize) (hdec : decode body = none) (k : Nat)
    (s : IpcServer F) :
    ¬ InLockstep decode (body :: bodies)
      (framesFor fmt display decode turns broken k (body :: bodies) s) := by
  rw [framesFor_undecoded fmt display decode turns broken (hsize body (.head bodies)) bodies hdec]
  intro h
  have hlen := h.length_eq
  have hle := framesFor_length fmt display decode turns broken bodies
    (fun b hb => hsize b (.tail body hb)) (k + 1) s
  rw [List.length_cons] at hlen
  omega

theorem inLockstep_iff (bodies : List (List UInt8))
    (hsize : ∀ body ∈ bodies, body.length ≤ maxFrameSize) (k : Nat) (s : IpcServer F) :
    InLockstep decode bodies (framesFor fmt display decode turns broken k bodies s) ↔
      AllAnswered fmt display decode turns k s bodies := by
  induction bodies generalizing k s with
  | nil =>
    rw [framesFor, List.flatMap_nil, serve_end]
    exact iff_of_true .nil trivial
  | cons body bodies ih =>
    have hbody := hsize body (.head bodies)
    have hrest : ∀ b ∈ bodies, b.length ≤ maxFrameSize := fun b hb => hsize b (.tail body hb)
    cases hdec : decode body with
    | none =>
      apply iff_of_false
        (not_inLockstep_undecoded fmt display decode turns broken hsize hdec k s)
      rintro ⟨request, hsome, -⟩
      cases hdec.symm.trans hsome
    | some request =>
      cases hr : respond fmt display (turns k) request s with
      | mk answer s' =>
        cases answer with
        | error e =>
          rw [framesFor_failed fmt display decode turns broken hbody bodies hdec hr]
          rw [allAnswered_cons fmt display decode turns hdec]
          constructor
          · intro h
            cases h
          · rintro ⟨⟨-, hdelivered⟩, -⟩
            obtain ⟨response, hok⟩ := respond_delivered fmt display hdelivered
            rw [hr] at hok
            cases hok
        | ok response =>
          rw [framesFor_answered fmt display decode turns broken hbody bodies hdec hr, InLockstep,
            List.forall₂_cons, answers_iff fmt display decode hdec hr, ← InLockstep,
            ih hrest (k + 1) s', allAnswered_cons fmt display decode turns hdec, hr]

end

/-- A session of complete frames is in lockstep exactly when every body
decodes, every drawn id is that of its request, and every response is
delivered. -/
theorem session_in_lockstep_iff (turns : Nat → Turn F) (broken : Option String)
    (s : IpcServer F) (bodies : List (List UInt8))
    (hsize : ∀ body ∈ bodies, body.length ≤ maxFrameSize) :
    InLockstep decode bodies
        (handleConnection fmt display decode turns ⟨bodies.flatMap frame, broken⟩ s).1 ↔
      AllAnswered fmt display decode turns 0 s bodies :=
  inLockstep_iff fmt display decode turns broken bodies hsize 0 s

def plainServer : IpcServer ℚ := ⟨[], NetfusionConfig.default ℚ, 0⟩

def statusRequest : WireMessage (DaemonRequest ℚ) := WireMessage.new nilUuid 0 .getStatus

def statusBody : List UInt8 := ((encodeRequest epochFormat statusRequest).toOption).getD []

/-- Every response happens to be drawn the id of the request. -/
def idTurn : Turn ℚ := ⟨id, 0, 0, nilUuid, 0, .ok ()⟩

def statusOf (s : IpcServer ℚ) : WireMessage (DaemonResponse ℚ) :=
  WireMessage.new nilUuid 0 (processRequest (fun _ => "") s 0 0 .getStatus).1

def statusAnswer : List UInt8 :=
  ((encodeResponse epochFormat (statusOf plainServer)).toOption).getD []

/-- What the client means by its bytes, which the decoder never says. -/
def meant (body : List UInt8) : Option (WireMessage (DaemonRequest ℚ)) :=
  if body = statusBody then some statusRequest else none

theorem statusBody_encoded : encodeRequest epochFormat statusRequest = .ok statusBody := by
  decide +kernel

theorem statusBody_length : statusBody.length ≤ maxFrameSize := by
  decide +kernel

/-- A well-formed request of the client is passed over, and the client is left
to wait. -/
theorem status_unanswered :
    encodeRequest epochFormat statusRequest = .ok statusBody ∧
    statusBody.length ≤ maxFrameSize ∧
    ¬ InLockstep (fun bs => (decodeRequest epochFormat (fun _ => .ok .getStatus) bs).toOption)
      [statusBody]
      (handleConnection epochFormat (fun _ => "")
        (fun bs => (decodeRequest epochFormat (fun _ => .ok .getStatus) bs).toOption)
        (fun _ => idTurn) ⟨[statusBody].flatMap frame, none⟩ plainServer).1 := by
  refine ⟨statusBody_encoded, statusBody_length, ?_⟩
  intro h
  have hdec : (decodeRequest epochFormat (fun _ => .ok .getStatus) statusBody).toOption = none := by
    cases hread : decodeRequest epochFormat (fun _ => .ok .getStatus) statusBody with
    | error e => rfl
    | ok m => exact absurd hread (tagged_not_decoded epochFormat _ statusBody m)
  rw [handleConnection, ← framesFor, framesFor_undecoded _ _ _ _ _ statusBody_length [] hdec,
    framesFor, List.flatMap_nil, serve_end] at h
  cases h

theorem session_in_lockstep_iff_status :
    InLockstep meant [statusBody, statusBody]
      (handleConnection epochFormat (fun _ => "") meant (fun _ => idTurn)
        ⟨[statusBody, statusBody].flatMap frame, none⟩ plainServer).1 := by
  apply (session_in_lockstep_iff epochFormat (fun _ => "") meant (fun _ => idTurn) none plainServer
    [statusBody, statusBody] (by simpa using statusBody_length)).mpr
  refine ⟨statusRequest, if_pos rfl, rfl, ⟨rfl, statusAnswer, ?_, ?_⟩,
    statusRequest, if_pos rfl, rfl, ⟨rfl, statusAnswer, ?_, ?_⟩, trivial⟩
  · decide +kernel
  · decide +kernel
  · decide +kernel
  · decide +kernel

end Netfusion.Daemon.Lockstep
