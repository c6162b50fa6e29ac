import Netfusion.Lib.Calls
import Netfusion.Daemon.ConfigStore
import Netfusion.Daemon.Lockstep

namespace Netfusion.Daemon.Conversation

open Netfusion.Lib.Machine Netfusion.Lib.Calls
open Netfusion.Lib.Bincode Netfusion.Lib.Framing
open Netfusion.Shared Netfusion.Shared.Config Netfusion.Shared.Validate Netfusion.Shared.Types
open Netfusion.Shared.Ipc Netfusion.Shared.Wire
open Netfusion.Daemon.Server Netfusion.Daemon.Session Netfusion.Daemon.ConfigStore

inductive IpcError where
  | connect (e : String)
  | io (e : String)
  | encode (e : Error)
  | server (message : String)

/-- What one handled request draws on. -/
structure Stamp where
  clock : Nat
  asked : DateTime
  id : Uuid
  now : DateTime
  written : Except String Unit

variable {F : Type}

/-- The other connections act between two frames, not during one. -/
def Stamp.turn (x : Stamp) : Turn F := ⟨fun s => s, x.clock, x.asked, x.id, x.now, x.written⟩

inductive Background (F : Type) where
  | rescan (found : List (InterfaceInfo F))
  | fileChanged (now : DateTime) (file : ConfigFile)

def Background.input : Background F → Input F
  | .rescan found => .rescan found
  | .fileChanged now file => .fileChanged now file

inductive Done (F : Type) where
  | tooLarge
  | undecoded
  | handled (request : WireMessage (DaemonRequest F)) (response : DaemonResponse F)
      (answer : Except SessionError Frame)
  | background (output : Output F)

/-- The bytes on one connection that are not read yet, and whether its client
is inside a call. -/
structure Stream where
  toServer : List UInt8
  toClient : List UInt8
  waiting : Bool
  lost : Bool

def Stream.fresh : Stream := ⟨[], [], false, false⟩

inductive Event (ι F : Type) where
  | request (i : ι) (id : Uuid) (now : DateTime) (r : DaemonRequest F)
  | handle (i : ι) (x : Stamp)
  | receive (i : ι)
  | lose (i : ι)
  | background (y : Background F)

variable {ι : Type} [DecidableEq ι]

abbrev Happened (ι F : Type) :=
  Outcome ι (List UInt8) (DaemonResponse F) IpcError Stamp (Background F) (Done F)

abbrev State (ι F : Type) := IpcServer F × (ι → Stream)

variable (fmt : Format F) (display : ValidationErrors → String)
  (parse : String → Except String (NetfusionConfig F)) (path : String)
  (decode : List UInt8 → Option (WireMessage (DaemonRequest F)))
  (decodeAnswer : List UInt8 → Except Error (WireMessage (DaemonResponse F)))

def brokenPipe : IpcError := .io "Broken pipe (os error 32)"

def earlyEof : IpcError := .io "early eof"

def send (s : State ι F) (i : ι) (m : WireMessage (DaemonRequest F)) :
    Happened ι F × State ι F :=
  match encodeRequest fmt m with
  | .error e => (.returned i (.error (.encode e)), s)
  | .ok bytes =>
    if (s.2 i).lost then (.returned i (.error brokenPipe), s)
    else (.called i bytes, s.1, Function.update s.2 i
      { s.2 i with toServer := (s.2 i).toServer ++ frame bytes, waiting := true })

/-- One round of the server's loop over a connection, once its frame is there
as a whole. -/
def handle (s : State ι F) (i : ι) (x : Stamp) : Happened ι F × State ι F :=
  match readExact 4 (s.2 i).toServer with
  | none => (.nothing, s)
  | some (header, rest) =>
    if fromBeBytes header > maxFrameSize then
      (.took i x (rest.take (fromBeBytes header)) .tooLarge, s.1,
        Function.update s.2 i { s.2 i with lost := true })
    else match readExact (fromBeBytes header) rest with
      | none => (.nothing, s)
      | some (body, rest) =>
        match decode body with
        | none =>
          (.took i x body .undecoded, s.1, Function.update s.2 i { s.2 i with toServer := rest })
        | some request =>
          let response := (processRequest display s.1 x.clock x.asked request.payload).1
          let (answer, server) := respond fmt display x.turn request s.1
          (.took i x body (.handled request response answer), server, Function.update s.2 i
            (match answer with
              | .error _ => { s.2 i with toServer := rest, lost := true }
              | .ok response =>
                { s.2 i with
                  toServer := rest
                  toClient := (s.2 i).toClient ++
                    toBeBytes response.size.toNat ++ response.body }))

def readAnswer (body : List UInt8) : Except IpcError (DaemonResponse F) :=
  match decodeAnswer body with
  | .error e => .error (.encode e)
  | .ok message => .ok message.payload

def receive (s : State ι F) (i : ι) : Happened ι F × State ι F :=
  match readExact 4 (s.2 i).toClient with
  | none => ended
  | some (header, rest) =>
    match readExact (fromBeBytes header) rest with
    | none => ended
    | some (body, rest) =>
      (.returned i (readAnswer decodeAnswer body), s.1,
        Function.update s.2 i { s.2 i with toClient := rest, waiting := false })
where
  /-- The answer is not there: the client goes on waiting unless no more can come. -/
  ended :=
    if (s.2 i).lost then
      (.returned i (.error earlyEof), s.1, Function.update s.2 i
        { s.2 i with toClient := [], waiting := false })
    else (.nothing, s)

/-- The daemon, its clients and what they have written to each other. -/
def step (s : State ι F) : Event ι F → Happened ι F × State ι F
  | .request i id now r =>
    if (s.2 i).waiting then (.nothing, s) else send fmt s i (WireMessage.new id now r)
  | .handle i x => if (s.2 i).lost then (.nothing, s) else handle fmt display decode s i x
  | .receive i => if (s.2 i).waiting then receive decodeAnswer s i else (.nothing, s)
  | .lose i => (.nothing, s.1, Function.update s.2 i { s.2 i with lost := true })
  | .background y =>
    let (output, server) := ConfigStore.step parse display path s.1 y.input
    (.changed y (.background output), server, s.2)

def start (s : IpcServer F) : State ι F := (s, fun _ => .fresh)

section

def nextRequest (l : Stream) : Option (WireMessage (DaemonRequest F)) := do
  let (header, rest) ← readExact 4 l.toServer
  let (body, _) ← readExact (fromBeBytes header) rest
  decode body

/-- The length of what is written fits in the four bytes before it. -/
def Fits (s : State ι F) : Event ι F → Prop
  | .request _ id now r =>
    ∀ bytes, encodeRequest fmt (WireMessage.new id now r) = .ok bytes → bytes.length < 2 ^ 32
  | .handle i x =>
    ∀ request ∈ nextRequest decode (s.2 i), ∀ answer,
      (respond fmt display x.turn request s.1).1 = .ok answer → answer.body.length < 2 ^ 32
  | _ => True

def serveBody (s : IpcServer F) (x : Stamp) (body : List UInt8) : Done F × IpcServer F :=
  if body.length > maxFrameSize then (.tooLarge, s)
  else match decode body with
    | none => (.undecoded, s)
    | some request =>
      (.handled request (processRequest display s x.clock x.asked request.payload).1
        (respond fmt display x.turn request s).1, (respond fmt display x.turn request s).2)

def reply : Done F → Reply (List UInt8)
  | .handled _ _ (.ok answer) => .answer answer.body
  | .handled _ _ (.error _) => .hangUp
  | .tooLarge => .hangUp
  | .undecoded => .silence
  | .background _ => .silence

/-- The server without its socket. -/
def service :
    Service (List UInt8) (List UInt8) IpcError Stamp (Background F) (Done F) (IpcServer F) where
  serve := serveBody fmt display decode
  reply := reply
  disturb s y :=
    (.background (ConfigStore.step parse display path s y.input).1,
      (ConfigStore.step parse display path s y.input).2)
  refused := brokenPipe
  gone := earlyEof

def Event.toCall : Event ι F → Lib.Calls.Event ι (List UInt8) IpcError Stamp (Background F)
  | .request i id now r =>
    .call i ((encodeRequest fmt (WireMessage.new id now r)).mapError .encode)
  | .handle i x => .take i x
  | .receive i => .receive i
  | .lose i => .lose i
  | .background y => .outside y

def view : Outcome ι (List UInt8) (List UInt8) IpcError Stamp (Background F) (Done F) →
    Happened ι F
  | .called i m => .called i m
  | .took i x m w => .took i x m w
  | .returned i r => .returned i (r.bind (readAnswer decodeAnswer))
  | .changed y w => .changed y w
  | .nothing => .nothing

/-- The bytes on a connection are the frames of its messages. -/
structure Carries (l : Stream) (k : Link (List UInt8) (List UInt8)) : Prop where
  toServer : l.lost = false → l.toServer = k.requests.flatMap frame
  toClient : l.toClient = k.answers.flatMap frame
  waiting : l.waiting = k.waiting
  lost : l.lost = k.lost
  requests_fit : ∀ body ∈ k.requests, body.length < 2 ^ 32
  answers_fit : ∀ body ∈ k.answers, body.length < 2 ^ 32

def Framed (s : State ι F) (t : IpcServer F × (ι → Link (List UInt8) (List UInt8))) : Prop :=
  s.1 = t.1 ∧ ∀ i, Carries (s.2 i) (t.2 i)

variable {fmt display parse path decode decodeAnswer}

theorem framed_update {s : State ι F} {t : IpcServer F × (ι → Link (List UInt8) (List UInt8))}
    {server : IpcServer F} {i : ι} {l : Stream} {k : Link (List UInt8) (List UInt8)}
    (h : Framed s t) (hlink : Carries l k) :
    Framed (server, Function.update s.2 i l) (server, Function.update t.2 i k) := by
  refine ⟨rfl, ?_⟩
  intro j
  by_cases hj : j = i
  · subst hj
    simpa using hlink
  · simpa [Function.update_of_ne hj] using h.2 j

theorem readExact_frames {body : List UInt8} (h : body.length < 2 ^ 32)
    (bodies : List (List UInt8)) :
    readExact 4 ((body :: bodies).flatMap frame) =
        some (toBeBytes body.length, body ++ bodies.flatMap frame) ∧
      fromBeBytes (toBeBytes body.length) = body.length ∧
      readExact body.length (body ++ bodies.flatMap frame) =
        some (body, bodies.flatMap frame) := by
  refine ⟨?_, fromBeBytes_toBeBytes (by omega), readExact_append rfl _⟩
  rw [List.flatMap_cons, readExact_frame]

theorem send_framed {s : State ι F} {t : IpcServer F × (ι → Link (List UInt8) (List UInt8))}
    (h : Framed s t) (i : ι) (id : Uuid) (now : DateTime) (r : DaemonRequest F)
    (hfits : Fits fmt display decode s (.request i id now r)) :
    (step fmt display parse path decode decodeAnswer s (.request i id now r)).1 =
        view decodeAnswer (Lib.Calls.step (service fmt display parse path decode) t
          (Event.toCall fmt (.request i id now r))).1 ∧
      Framed (step fmt display parse path decode decodeAnswer s (.request i id now r)).2
        (Lib.Calls.step (service fmt display parse path decode) t
          (Event.toCall fmt (.request i id now r))).2 := by
  have hlink := h.2 i
  simp only [step, Event.toCall, Lib.Calls.step, ← hlink.waiting]
  cases hwait : (s.2 i).waiting with
  | true => exact ⟨rfl, h⟩
  | false =>
    simp only [Bool.false_eq_true, if_false, send]
    cases henc : encodeRequest fmt (WireMessage.new id now r) with
    | error e => exact ⟨rfl, h⟩
    | ok bytes =>
      simp only [Except.mapError, ← hlink.lost]
      cases hlost : (s.2 i).lost with
      | true => exact ⟨rfl, h⟩
      | false =>
        simp only [Bool.false_eq_true, if_false, ← h.1]
        refine ⟨rfl, framed_update h ?_⟩
        constructor
        · intro _
          simp [hlink.toServer hlost]
        · exact hlink.toClient
        · rfl
        · rfl
        · intro body hbody
          rcases List.mem_append.mp hbody with hold | hnew
          · exact hlink.requests_fit body hold
          · rw [List.mem_singleton.mp hnew]
            exact hfits bytes henc
        · exact hlink.answers_fit

theorem receive_framed {s : State ι F} {t : IpcServer F × (ι → Link (List UInt8) (List UInt8))}
    (h : Framed s t) (i : ι) :
    (step fmt display parse path decode decodeAnswer s (.receive i)).1 =
        view decodeAnswer (Lib.Calls.step (service fmt display parse path decode) t
          (.receive i)).1 ∧
      Framed (step fmt display parse path decode decodeAnswer s (.receive i)).2
        (Lib.Calls.step (service fmt display parse path decode) t (.receive i)).2 := by
  have hlink := h.2 i
  simp only [step, Lib.Calls.step, ← hlink.waiting]
  cases hwait : (s.2 i).waiting with
  | false => exact ⟨rfl, h⟩
  | true =>
    simp only [if_true, receive, hlink.toClient]
    cases hanswers : (t.2 i).answers with
    | nil =>
      have hnone : readExact 4 (([] : List (List UInt8)).flatMap frame) = none := rfl
      simp only [hnone, receive.ended, ← hlink.lost]
      cases hlost : (s.2 i).lost with
      | false => exact ⟨rfl, h⟩
      | true =>
        simp only [if_true, ← h.1]
        refine ⟨rfl, framed_update h ?_⟩
        constructor
        · intro hopen
          cases hopen
        · rfl
        · rfl
        · rfl
        · exact hlink.requests_fit
        · intro body hbody
          cases hbody
    | cons body rest =>
      have hfit := hlink.answers_fit
      rw [hanswers] at hfit
      obtain ⟨hheader, hsize, hbody⟩ := readExact_frames (hfit body (.head rest)) rest
      simp only [hheader, hsize, hbody, ← h.1]
      refine ⟨rfl, framed_update h ?_⟩
      constructor
      · exact hlink.toServer
      · rfl
      · rfl
      · exact hlink.lost
      · exact hlink.requests_fit
      · exact fun b hb => hfit b (.tail body hb)

theorem answer_frame {x : Stamp} {request : WireMessage (DaemonRequest F)} {s : IpcServer F}
    {answer : Frame} (h : (respond fmt display x.turn request s).1 = .ok answer)
    (hfits : answer.body.length < 2 ^ 32) :
    toBeBytes answer.size.toNat ++ answer.body = frame answer.body := by
  obtain ⟨-, -, hsize⟩ := Lockstep.respond_ok fmt display (Prod.ext h rfl)
  rw [frame, hsize, Lockstep.size_whole.mpr hfits]

theorem handle_framed {s : State ι F} {t : IpcServer F × (ι → Link (List UInt8) (List UInt8))}
    (h : Framed s t) (i : ι) (x : Stamp) (hfits : Fits fmt display decode s (.handle i x)) :
    (step fmt display parse path decode decodeAnswer s (.handle i x)).1 =
        view decodeAnswer (Lib.Calls.step (service fmt display parse path decode) t
          (.take i x)).1 ∧
      Framed (step fmt display parse path decode decodeAnswer s (.handle i x)).2
        (Lib.Calls.step (service fmt display parse path decode) t (.take i x)).2 := by
  have hlink := h.2 i
  simp only [step, Lib.Calls.step, ← hlink.lost]
  cases hlost : (s.2 i).lost with
  | true => exact ⟨rfl, h⟩
  | false =>
    simp only [Bool.false_eq_true, if_false, handle, hlink.toServer hlost]
    cases hrequests : (t.2 i).requests with
    | nil => exact ⟨rfl, h⟩
    | cons body rest =>
      have hfit := hlink.requests_fit
      rw [hrequests] at hfit
      obtain ⟨hheader, hsize, hbody⟩ := readExact_frames (hfit body (.head rest)) rest
      simp only [hheader, hsize, hbody, service, serveBody, h.1]
      by_cases hlarge : body.length > maxFrameSize
      · simp only [hlarge, if_true, List.take_left]
        refine ⟨rfl, framed_update h ?_⟩
        constructor
        · intro hopen
          cases hopen
        · exact hlink.toClient
        · exact hlink.waiting
        · rfl
        · exact fun b hb => hfit b (.tail body hb)
        · exact hlink.answers_fit
      · simp only [hlarge, if_false]
        cases hdec : decode body with
        | none =>
          refine ⟨rfl, framed_update h ?_⟩
          constructor
          · exact fun _ => rfl
          · exact hlink.toClient
          · exact hlink.waiting
          · exact hlink.lost
          · exact fun b hb => hfit b (.tail body hb)
          · exact hlink.answers_fit
        | some request =>
          have hnext : nextRequest decode (s.2 i) = some request := by
            rw [nextRequest, hlink.toServer hlost, hrequests, hheader]
            simp [hsize, hbody, hdec]
          have hanswer := hfits request hnext
          rw [h.1] at hanswer
          cases hr : (respond fmt display x.turn request t.1).1 with
          | error e =>
            simp only [hr, reply]
            refine ⟨rfl, framed_update h ?_⟩
            constructor
            · intro hopen
              cases hopen
            · exact hlink.toClient
            · exact hlink.waiting
            · rfl
            · exact fun b hb => hfit b (.tail body hb)
            · exact hlink.answers_fit
          | ok answer =>
            have hwritten := answer_frame hr (hanswer answer hr)
            simp only [hr, reply, List.append_assoc, hwritten]
            refine ⟨rfl, framed_update h ?_⟩
            constructor
            · exact fun _ => rfl
            · simp [hlink.toClient, Link.taken]
            · exact hlink.waiting
            · exact hlink.lost
            · exact fun b hb => hfit b (.tail body hb)
            · intro b hb
              rcases List.mem_append.mp hb with hold | hnew
              · exact hlink.answers_fit b hold
              · rw [List.mem_singleton.mp hnew]
                exact hanswer answer hr

variable (parse path decodeAnswer) in
/-- What goes over the socket is what the two ends exchange, frame by frame. -/
theorem step_framed {s : State ι F} {t : IpcServer F × (ι → Link (List UInt8) (List UInt8))}
    (h : Framed s t) (e : Event ι F) (hfits : Fits fmt display decode s e) :
    (step fmt display parse path decode decodeAnswer s e).1 =
        view decodeAnswer (Lib.Calls.step (service fmt display parse path decode) t
          (e.toCall fmt)).1 ∧
      Framed (step fmt display parse path decode decodeAnswer s e).2
        (Lib.Calls.step (service fmt display parse path decode) t (e.toCall fmt)).2 := by
  cases e with
  | request i id now r => exact send_framed h i id now r hfits
  | handle i x => exact handle_framed h i x hfits
  | receive i => exact receive_framed h i
  | lose i =>
    simp only [step, Event.toCall, Lib.Calls.step, ← h.1]
    refine ⟨rfl, framed_update h ?_⟩
    have hlink := h.2 i
    constructor
    · intro hopen
      cases hopen
    · exact hlink.toClient
    · exact hlink.waiting
    · rfl
    · exact hlink.requests_fit
    · exact hlink.answers_fit
  | background y =>
    simp only [step, Event.toCall, Lib.Calls.step, service, h.1]
    exact ⟨rfl, rfl, h.2⟩

/-- The run of the bytes is the run of the messages. -/
theorem run_framed (s : IpcServer F) (es : List (Event ι F))
    (hfits : EachStep (step fmt display parse path decode decodeAnswer) (start s) es
      (fun _ t e => Fits fmt display decode t e)) :
    outputs (step fmt display parse path decode decodeAnswer) (start s) es =
        (outputs (Lib.Calls.step (service fmt display parse path decode)) (Lib.Calls.start s)
          (es.map (Event.toCall fmt))).map (view decodeAnswer) ∧
      Framed (run (step fmt display parse path decode decodeAnswer) (start s) es)
        (run (Lib.Calls.step (service fmt display parse path decode)) (Lib.Calls.start s)
          (es.map (Event.toCall fmt))) := by
  induction es using List.reverseRecOn with
  | nil =>
    refine ⟨rfl, rfl, ?_⟩
    intro i
    constructor <;> simp [start, Stream.fresh, Link.fresh, run, Lib.Calls.start]
  | append_singleton es e ih =>
    obtain ⟨houtputs, hframed⟩ := ih (eachStep_front [e] hfits)
    obtain ⟨houtput, hnext⟩ := step_framed parse path decodeAnswer hframed e
      (eachStep_last hfits)
    rw [outputs_concat, run_concat, List.map_append, List.map_singleton, outputs_concat,
      run_concat, List.map_append, List.map_singleton, houtputs, houtput]
    exact ⟨rfl, hnext⟩

end

end Netfusion.Daemon.Conversation
