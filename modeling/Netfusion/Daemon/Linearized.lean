import Netfusion.Daemon.Conversation

namespace Netfusion.Daemon.Linearized

open Netfusion.Lib.Machine Netfusion.Lib.Calls
open Netfusion.Lib.Bincode Netfusion.Lib.Framing
open Netfusion.Shared Netfusion.Shared.Config Netfusion.Shared.Validate Netfusion.Shared.Types
open Netfusion.Shared.Ipc Netfusion.Shared.Wire
open Netfusion.Daemon.Server Netfusion.Daemon.Session Netfusion.Daemon.ConfigStore
open Netfusion.Daemon.Conversation

variable {F : Type} {ι : Type} [DecidableEq ι] (fmt : Format F)
  (display : ValidationErrors → String) (parse : String → Except String (NetfusionConfig F))
  (path : String) (decode : List UInt8 → Option (WireMessage (DaemonRequest F)))
  (decodeAnswer : List UInt8 → Except Error (WireMessage (DaemonResponse F)))

/-- What an operation of the server is to the shared state: a frame that is
dropped is nothing to it. -/
def operation : ((Stamp × List UInt8) ⊕ Background F) × Done F → Option (Input F × Output F)
  | (.inl (x, _), .handled request response _) =>
    some (.request x.clock x.asked request.payload, .response response)
  | (.inr y, .background output) => some (y.input, output)
  | _ => none

/-- The order in which requests, rescans and reloads took effect. -/
def history (os : List (Happened ι F)) : List (Input F × Output F) :=
  (os.filterMap effect).filterMap operation

structure Exchange (F : Type) where
  stamp : Stamp
  request : WireMessage (DaemonRequest F)
  response : DaemonResponse F

def exchange : Stamp × List UInt8 × Done F → Option (Exchange F)
  | (x, _, .handled request response _) => some ⟨x, request, response⟩
  | _ => none

def exchanges (i : ι) (os : List (Happened ι F)) : List (Exchange F) :=
  (taken i os).filterMap exchange

/-- What the client makes of the response, if it gets there. -/
def Exchange.read (e : Exchange F) : Option (DaemonResponse F) :=
  match encodeResponse fmt (WireMessage.new e.stamp.id e.stamp.now e.response), e.stamp.written with
  | .ok bytes, .ok _ => (readAnswer decodeAnswer bytes).toOption
  | _, _ => none

def accepted (body : List UInt8) : Option (WireMessage (DaemonRequest F)) :=
  if body.length > maxFrameSize then none else decode body

section

variable {fmt display parse path decode decodeAnswer}

theorem serve_exchange (s : IpcServer F) (x : Stamp) (body : List UInt8) :
    (exchange (x, body, (serveBody fmt display decode s x body).1)).map Exchange.request =
      accepted decode body := by
  rw [serveBody, accepted]
  split
  · rfl
  · cases decode body <;> rfl

theorem respond_turn (s : IpcServer F) (x : Stamp) (request : WireMessage (DaemonRequest F)) :
    (respond fmt display x.turn request s).1 =
      match encodeResponse fmt (WireMessage.new x.id x.now
        (processRequest display s x.clock x.asked request.payload).1), x.written with
      | .error e, _ => .error (.encode e)
      | .ok _, .error e => .error (.io e)
      | .ok bytes, .ok _ => .ok ⟨UInt32.ofNat bytes.length, bytes⟩ := by
  simp only [respond, Stamp.turn]
  cases encodeResponse fmt (WireMessage.new x.id x.now
      (processRequest display s x.clock x.asked request.payload).1) with
  | error e => rfl
  | ok bytes =>
    cases x.written with
    | error e => rfl
    | ok _ => rfl

variable (fmt display decode decodeAnswer) in
theorem serve_read (s : IpcServer F) (x : Stamp) (body : List UInt8) :
    (answerOf (reply (serveBody fmt display decode s x body).1)).bind
        (fun bytes => (readAnswer decodeAnswer bytes).toOption) =
      (exchange (x, body, (serveBody fmt display decode s x body).1)).bind
        (Exchange.read fmt decodeAnswer) := by
  rw [serveBody]
  split
  · rfl
  · cases decode body with
    | none => rfl
    | some request =>
      simp only [exchange, Option.bind_some, Exchange.read, respond_turn]
      cases encodeResponse fmt (WireMessage.new x.id x.now
          (processRequest display s x.clock x.asked request.payload).1) with
      | error e => rfl
      | ok bytes =>
        cases x.written with
        | error e => rfl
        | ok _ => rfl

/-- Whether or not the answer gets to the client, the request has taken effect. -/
theorem respond_server (turn : Turn F) (request : WireMessage (DaemonRequest F))
    (s : IpcServer F) :
    (respond fmt display turn request s).2 =
      (processRequest display (turn.others s) turn.clock turn.asked request.payload).2 := by
  simp only [respond]
  split
  · rfl
  · split <;> rfl

theorem perform_skip (s : IpcServer F) (e : (Stamp × List UInt8) ⊕ Background F)
    (h : operation (e, (perform (service fmt display parse path decode) s e).1) = none) :
    (perform (service fmt display parse path decode) s e).2 = s := by
  cases e with
  | inl request =>
    obtain ⟨x, body⟩ := request
    simp only [perform, service, serveBody] at h ⊢
    split
    · rfl
    · rename_i hsmall
      simp only [hsmall, if_false] at h
      cases hdec : decode body with
      | none => rfl
      | some request =>
        rw [hdec] at h
        cases h
  | inr y => cases h

variable (fmt display parse path decode) in
theorem perform_operation (s : IpcServer F) (e : (Stamp × List UInt8) ⊕ Background F)
    (p : Input F × Output F)
    (h : operation (e, (perform (service fmt display parse path decode) s e).1) = some p) :
    ConfigStore.step parse display path s p.1 =
      (p.2, (perform (service fmt display parse path decode) s e).2) := by
  cases e with
  | inl request =>
    obtain ⟨x, body⟩ := request
    simp only [perform, service, serveBody] at h ⊢
    split at h
    · cases h
    · rename_i hsmall
      simp only [hsmall, if_false]
      cases hdec : decode body with
      | none =>
        rw [hdec] at h
        cases h
      | some request =>
        rw [hdec] at h
        cases h
        exact Prod.ext rfl (respond_server x.turn request s).symm
  | inr y =>
    cases h
    rfl

variable (decodeAnswer)

omit [DecidableEq ι] in
theorem view_effect (o : Outcome ι (List UInt8) (List UInt8) IpcError Stamp (Background F)
    (Done F)) : effect (view decodeAnswer o) = effect o := by
  cases o <;> rfl

theorem view_sent (i : ι) (os : List (Outcome ι (List UInt8) (List UInt8) IpcError Stamp
    (Background F) (Done F))) : sent i (os.map (view decodeAnswer)) = sent i os := by
  rw [sent, List.filterMap_map, sent]
  congr 1
  funext o
  cases o <;> rfl

theorem view_taken (i : ι) (os : List (Outcome ι (List UInt8) (List UInt8) IpcError Stamp
    (Background F) (Done F))) : taken i (os.map (view decodeAnswer)) = taken i os := by
  rw [taken, List.filterMap_map, taken]
  congr 1
  funext o
  cases o <;> rfl

theorem view_ended (i : ι) (os : List (Outcome ι (List UInt8) (List UInt8) IpcError Stamp
    (Background F) (Done F))) : ended i (os.map (view decodeAnswer)) = ended i os := by
  rw [ended, List.filterMap_map, ended]
  congr 1
  funext o
  cases o <;> rfl

theorem view_received (i : ι) (os : List (Outcome ι (List UInt8) (List UInt8) IpcError Stamp
    (Background F) (Done F))) :
    received i (os.map (view decodeAnswer)) =
      (received i os).filterMap (fun bytes => (readAnswer decodeAnswer bytes).toOption) := by
  rw [received, List.filterMap_map, received, List.filterMap_filterMap]
  congr 1
  funext o
  cases o with
  | returned j r =>
    cases r with
    | error e => rfl
    | ok bytes =>
      simp only [Function.comp, view, Except.bind]
      by_cases hj : j = i
      · cases hread : readAnswer decodeAnswer bytes <;> simp [receivedBy, hj, hread, Except.toOption]
      · cases hread : readAnswer decodeAnswer bytes <;> simp [receivedBy, hj]
  | _ => rfl

end

section

variable {fmt display parse path decode decodeAnswer} {s : IpcServer F} {es : List (Event ι F)}
  (hfits : EachStep (step fmt display parse path decode decodeAnswer) (start s) es
    (fun _ t e => Fits fmt display decode t e))

include hfits

theorem history_sequential :
    history (outputs (step fmt display parse path decode decodeAnswer) (start s) es) =
        trace (ConfigStore.step parse display path) s ((history
          (outputs (step fmt display parse path decode decodeAnswer) (start s) es)).map
            Prod.fst) ∧
      (run (step fmt display parse path decode decodeAnswer) (start s) es).1 =
        run (ConfigStore.step parse display path) s ((history
          (outputs (step fmt display parse path decode decodeAnswer) (start s) es)).map
            Prod.fst) := by
  obtain ⟨hos, hserver, -⟩ := run_framed s es hfits
  have hhistory : (outputs (step fmt display parse path decode decodeAnswer) (start s)
        es).filterMap effect =
      (outputs (Lib.Calls.step (service fmt display parse path decode)) (Lib.Calls.start s)
        (es.map (Event.toCall fmt))).filterMap effect := by
    rw [hos, List.filterMap_map]
    congr 1
    funext o
    exact view_effect decodeAnswer o
  obtain ⟨hanswers, hstate⟩ := sequential_run (service fmt display parse path decode) s
    (es.map (Event.toCall fmt))
  rw [← hhistory] at hanswers hstate
  have htrace := trace_eq s rfl hanswers
  obtain ⟨hcompact, hfinal⟩ := trace_filterMap perform_skip
    (perform_operation fmt display parse path decode) s
    (((outputs (step fmt display parse path decode decodeAnswer)
        (start s) es).filterMap effect).map Prod.fst)
  rw [← htrace, ← history] at hcompact hfinal
  exact ⟨hcompact, hserver.trans (hstate.trans hfinal)⟩

variable (i : ι)

theorem taken_body : ∀ t ∈ taken i
      (outputs (step fmt display parse path decode decodeAnswer) (start s) es),
    ∃ before, t.2.2 = (serveBody fmt display decode before t.1 t.2.1).1 := by
  rw [(run_framed s es hfits).1, view_taken]
  exact taken_served (service fmt display parse path decode) i (Lib.Calls.start s)
    (es.map (Event.toCall fmt))

theorem exchanges_sent :
    (exchanges i (outputs (step fmt display parse path decode decodeAnswer) (start s) es)).map
        Exchange.request <+:
      (sent i (outputs (step fmt display parse path decode decodeAnswer) (start s)
        es)).filterMap (accepted decode) := by
  have horder := (inOrder_run (service fmt display parse path decode) s
    (es.map (Event.toCall fmt)) i).sent_eq
  rw [← view_sent decodeAnswer, ← view_taken decodeAnswer,
    ← (run_framed s es hfits).1] at horder
  have hrequests : (exchanges i
        (outputs (step fmt display parse path decode decodeAnswer) (start s) es)).map
          Exchange.request =
      ((taken i (outputs (step fmt display parse path decode decodeAnswer) (start s) es)).map
        (fun t => t.2.1)).filterMap (accepted decode) := by
    rw [exchanges, List.map_filterMap, List.filterMap_map]
    apply List.filterMap_congr
    intro t ht
    obtain ⟨before, hdone⟩ := taken_body hfits i t ht
    rw [Function.comp, ← serve_exchange before t.1 t.2.1, ← hdone]
  rw [hrequests, horder, List.filterMap_append]
  exact List.prefix_append _ _

theorem received_exchanges :
    received i (outputs (step fmt display parse path decode decodeAnswer) (start s) es) <+:
      (exchanges i (outputs (step fmt display parse path decode decodeAnswer) (start s)
        es)).filterMap (Exchange.read fmt decodeAnswer) := by
  have horder := (inOrder_run (service fmt display parse path decode) s
    (es.map (Event.toCall fmt)) i).answered
  rw [← view_taken decodeAnswer, ← (run_framed s es hfits).1] at horder
  have hread : (exchanges i (outputs (step fmt display parse path decode decodeAnswer) (start s)
        es)).filterMap (Exchange.read fmt decodeAnswer) =
      ((taken i (outputs (step fmt display parse path decode decodeAnswer) (start s)
        es)).filterMap (fun t => answerOf ((service fmt display parse path decode).reply
          t.2.2))).filterMap (fun bytes => (readAnswer decodeAnswer bytes).toOption) := by
    rw [exchanges, List.filterMap_filterMap, List.filterMap_filterMap]
    apply List.filterMap_congr
    intro t ht
    obtain ⟨before, hdone⟩ := taken_body hfits i t ht
    have hserve := serve_read fmt display decode decodeAnswer before t.1 t.2.1
    rw [← hdone] at hserve
    exact hserve.symm
  have hreceived : received i
        (outputs (step fmt display parse path decode decodeAnswer) (start s) es) = _ :=
    (congrArg (received i) (run_framed s es hfits).1).trans (view_received decodeAnswer i _)
  rw [hread, hreceived, horder, List.filterMap_append]
  exact List.prefix_append _ _

theorem sent_ended :
    (sent i (outputs (step fmt display parse path decode decodeAnswer) (start s) es)).length ≤
      (ended i (outputs (step fmt display parse path decode decodeAnswer) (start s)
        es)).length + 1 := by
  have horder := (inOrder_run (service fmt display parse path decode) s
    (es.map (Event.toCall fmt)) i).ended_le
  rw [← view_sent decodeAnswer, ← view_ended decodeAnswer,
    ← (run_framed s es hfits).1] at horder
  refine horder.trans (Nat.add_le_add_left ?_ _)
  split
  · exact le_rfl
  · exact Nat.zero_le 1

end

/-- Whatever the interleaving of any number of clients with the rescans and
reloads, there is one order in which everything took effect, and the answers
are those of the server alone in that order. Each client gets the answers to
its own requests in the order of its calls, none twice, and has one call under
way at most. -/
theorem conversation_linear (s : IpcServer F) (es : List (Event ι F))
    (hfits : EachStep (step fmt display parse path decode decodeAnswer) (start s) es
      (fun _ t e => Fits fmt display decode t e)) :
    let os := outputs (step fmt display parse path decode decodeAnswer) (start s) es
    history os =
        trace (ConfigStore.step parse display path) s ((history os).map Prod.fst) ∧
      (run (step fmt display parse path decode decodeAnswer) (start s) es).1 =
        run (ConfigStore.step parse display path) s ((history os).map Prod.fst) ∧
      ∀ i, (exchanges i os).map Exchange.request <+: (sent i os).filterMap (accepted decode) ∧
        received i os <+: (exchanges i os).filterMap (Exchange.read fmt decodeAnswer) ∧
        (sent i os).length ≤ (ended i os).length + 1 := by
  intro os
  obtain ⟨hhistory, hserver⟩ := history_sequential hfits
  exact ⟨hhistory, hserver, fun i =>
    ⟨exchanges_sent hfits i, received_exchanges hfits i, sent_ended hfits i⟩⟩

section

open Netfusion.Daemon.WireAgreement Netfusion.Daemon.Lockstep

def idStamp : Stamp := ⟨0, 0, nilUuid, 0, .ok ()⟩

theorem nextRequest_meant {l : Stream} {request : WireMessage (DaemonRequest ℚ)}
    (h : request ∈ nextRequest meant l) : request = statusRequest := by
  simp only [nextRequest, Option.mem_def, bind, Option.bind_eq_some_iff] at h
  obtain ⟨_, -, _, -, hmeant⟩ := h
  rw [meant] at hmeant
  split at hmeant
  · exact (Option.some.inj hmeant).symm
  · cases hmeant

theorem withLength_length (bs : List UInt8) : (withLength bs).length = 8 + bs.length := by
  rw [withLength, List.length_append, leBytes_length]

theorem status_short (id : Uuid) (now : DateTime) (s : IpcServer ℚ) (clock : Nat)
    (asked : DateTime) {bytes : List UInt8}
    (h : encodeResponse epochFormat (WireMessage.new id now
      (processRequest (fun _ => "") s clock asked .getStatus).1) = .ok bytes) :
    bytes.length < 2 ^ 32 := by
  have hid := id.length_eq
  simp only [encodeResponse, WireMessage.serialize, WireMessage.new, processRequest, success,
    DaemonResponse.serialize, ResponseData.serialize, SystemStatus.serialize, variant, encode,
    encodeFields, encodeTagged, encodeTags, append, bind, Except.bind, pure, Except.pure,
    Except.map, option, u32, u64, dateTime, epochFormat, Except.ok.injEq] at h
  subst h
  simp [withLength_length, hid, leBytes_length]
  decide +kernel

theorem respond_encoded {x : Stamp} {request : WireMessage (DaemonRequest F)} {s : IpcServer F}
    {answer : Frame} (h : (respond fmt display x.turn request s).1 = .ok answer) :
    encodeResponse fmt (WireMessage.new x.id x.now
      (processRequest display s x.clock x.asked request.payload).1) = .ok answer.body :=
  (respond_ok fmt display (Prod.ext h rfl)).2.1

theorem status_fits {ι : Type} [DecidableEq ι] (s : State ι ℚ) {e : Event ι ℚ}
    (he : ∀ i id now r, e = .request i id now r → WireMessage.new id now r = statusRequest) :
    Fits epochFormat (fun _ => "") meant s e := by
  cases e with
  | request i id now r =>
    intro bytes henc
    rw [he i id now r rfl] at henc
    cases henc.symm.trans statusBody_encoded
    have hlength := statusBody_length
    rw [maxFrameSize] at hlength
    omega
  | handle i x =>
    intro request hrequest answer hanswer
    obtain rfl := nextRequest_meant hrequest
    have henc := respond_encoded epochFormat _ hanswer
    have hpayload : statusRequest.payload = .getStatus := rfl
    rw [hpayload] at henc
    exact status_short x.id x.now s.1 x.clock x.asked henc
  | _ => trivial

def understood (servers : List (IpcServer ℚ)) (bytes : List UInt8) :
    Except Error (WireMessage (DaemonResponse ℚ)) :=
  match servers.find? (fun s => encodeResponse epochFormat (statusOf s) = .ok bytes) with
  | some s => .ok (statusOf s)
  | none => .error .unexpectedEof

def card : InterfaceInfo ℚ :=
  ⟨"eth0", .ethernet, none, none, none, none, 1500, [], none, [], .up, true, false, none, none,
    ⟨0, 0, 0, 0, 0, 0, 0, 0⟩, none, none⟩

def cardServer : IpcServer ℚ := { plainServer with interfaces := [card] }

/-- Two clients ask for the status, and a rescan comes between the answers. -/
def twoClients : List (Conversation.Event Bool ℚ) :=
  [.request true nilUuid 0 .getStatus, .request false nilUuid 0 .getStatus,
    .handle false idStamp, .background (.rescan [card]), .handle true idStamp, .receive true,
    .receive false]

def twoOutcomes : List (Happened Bool ℚ) :=
  outputs (step epochFormat (fun _ => "") (fun _ => .error "") "" meant
    (understood [plainServer, cardServer])) (start plainServer) twoClients

def told (i : Bool) : List UInt64 :=
  (received i twoOutcomes).filterMap (fun
    | .ok (some (.status s)) => some s.totalInterfaces
    | _ => none)

theorem conversation_linear_two :
    (history twoOutcomes = trace (ConfigStore.step (fun _ => .error "") (fun _ => "") "")
        plainServer ((history twoOutcomes).map Prod.fst) ∧
      (run (step epochFormat (fun _ => "") (fun _ => .error "") "" meant
          (understood [plainServer, cardServer])) (start plainServer) twoClients).1 =
        run (ConfigStore.step (fun _ => .error "") (fun _ => "") "") plainServer
          ((history twoOutcomes).map Prod.fst) ∧
      ∀ i, (exchanges i twoOutcomes).map Exchange.request <+:
          (sent i twoOutcomes).filterMap (accepted meant) ∧
        received i twoOutcomes <+: (exchanges i twoOutcomes).filterMap
          (Exchange.read epochFormat (understood [plainServer, cardServer])) ∧
        (sent i twoOutcomes).length ≤ (ended i twoOutcomes).length + 1) ∧
    told true = [1] ∧ told false = [0] := by
  constructor
  · apply conversation_linear epochFormat (fun _ => "") (fun _ => .error "") "" meant
      (understood [plainServer, cardServer]) plainServer twoClients
    intro pre e post he
    apply status_fits
    rintro i id now r rfl
    have hmem : Event.request i id now r ∈ twoClients := by simp [he]
    simp only [twoClients, List.mem_cons, Event.request.injEq, reduceCtorEq,
      List.not_mem_nil, or_false] at hmem
    rcases hmem with ⟨-, rfl, rfl, rfl⟩ | ⟨-, rfl, rfl, rfl⟩ <;> rfl
  · constructor
    · decide +kernel
    · decide +kernel

end

end Netfusion.Daemon.Linearized
