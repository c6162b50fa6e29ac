import Netfusion.Daemon.Answers
import Netfusion.Tui.Sources

namespace Netfusion.Tui.Screen

open Netfusion.Lib.Machine Netfusion.Lib.Calls Netfusion.Lib.Bincode Netfusion.Lib.Framing
open Netfusion.Shared Netfusion.Shared.Config Netfusion.Shared.Validate Netfusion.Shared.Types
open Netfusion.Shared.Ipc Netfusion.Shared.Wire
open Netfusion.Daemon.Server Netfusion.Daemon.ConfigStore Netfusion.Daemon.Answers
open Netfusion.Daemon.Conversation Netfusion.Daemon.Linearized Netfusion.Daemon.Client
open Netfusion.Tui.Fetcher Netfusion.Tui.Sources

variable {F ι : Type} [DecidableEq ι]

section

variable {fmt : Format F} {display : ValidationErrors → String}
  {parse : String → Except String (NetfusionConfig F)} {path : String}
  {decode : List UInt8 → Option (WireMessage (DaemonRequest F))}
  {decodeAnswer : List UInt8 → Except Error (WireMessage (DaemonResponse F))}
  {displayError : Error → String} {me : ι}

theorem exchange_history {i : ι} {os : List (Happened ι F)} {e : Exchange F}
    (h : e ∈ exchanges i os) :
    (.request e.stamp.clock e.stamp.asked e.request.payload, .response e.response) ∈ history os := by
  obtain ⟨t, ht, hexchange⟩ := List.mem_filterMap.mp h
  obtain ⟨o, ho, htaken⟩ := List.mem_filterMap.mp ht
  obtain ⟨x, body, w⟩ := t
  cases w with
  | handled request response answer =>
    cases hexchange
    cases o with
    | took j x' m w' =>
      rw [takenFrom] at htaken
      split at htaken
      · cases htaken
        exact List.mem_filterMap.mpr ⟨(.inl (x, body), .handled request response answer),
          List.mem_filterMap.mpr ⟨_, ho, rfl⟩, rfl⟩
      · cases htaken
    | _ => cases htaken
  | _ => cases hexchange

/-- The answers of these exchanges decode, if at all, to the responses that
were encoded. -/
def ReadsBack (fmt : Format F)
    (decodeAnswer : List UInt8 → Except Error (WireMessage (DaemonResponse F)))
    (exchanged : List (Exchange F)) : Prop :=
  ∀ e ∈ exchanged, ∀ bytes n,
    encodeResponse fmt (WireMessage.new e.stamp.id e.stamp.now e.response) = .ok bytes →
    decodeAnswer bytes = .ok n → n.payload = e.response

theorem read_response {exchanged : List (Exchange F)}
    (hcodec : ReadsBack fmt decodeAnswer exchanged) {e : Exchange F} (he : e ∈ exchanged)
    {a : DaemonResponse F} (h : e.read fmt decodeAnswer = some a) : a = e.response := by
  rw [Exchange.read] at h
  split at h
  · rename_i bytes _ hencode hwritten
    rw [readAnswer] at h
    cases hdecode : decodeAnswer bytes with
    | error err =>
      rw [hdecode] at h
      cases h
    | ok n =>
      rw [hdecode] at h
      cases h
      exact hcodec e he bytes n hencode hdecode
  · cases h

theorem received_honest {server : IpcServer F} {es : List (Daemon.Conversation.Event ι F)}
    (hcodec : ReadsBack fmt decodeAnswer (exchanges me
      (outputs (Daemon.Conversation.step fmt display parse path decode decodeAnswer)
        (Daemon.Conversation.start server) es)))
    (hfits : EachStep (Daemon.Conversation.step fmt display parse path decode decodeAnswer)
      (Daemon.Conversation.start server) es (fun _ t e => Fits fmt display decode t e))
    {data : ResponseData F}
    (h : .ok (some data) ∈ received me
      (outputs (Daemon.Conversation.step fmt display parse path decode decodeAnswer)
        (Daemon.Conversation.start server) es)) :
    ∃ table ∈ tables server ((history
        (outputs (Daemon.Conversation.step fmt display parse path decode decodeAnswer)
          (Daemon.Conversation.start server) es)).map Prod.fst), Honest table data := by
  obtain ⟨e, he, hread⟩ := List.mem_filterMap.mp ((received_exchanges hfits me).subset h)
  have hresponse := read_response hcodec he hread
  have hhistory := exchange_history he
  rw [(history_sequential hfits).1] at hhistory
  obtain ⟨pre, post, hsplit, hanswer⟩ := trace_answer parse display path hhistory
  refine ⟨(run (Daemon.ConfigStore.step parse display path) server pre).interfaces, ?_, ?_⟩
  · rw [hsplit, tables_append]
    exact List.mem_append_left _ (run_interfaces parse display path server pre)
  · apply processRequest_honest display _ e.stamp.clock e.stamp.asked e.request.payload
    rw [hresponse]
    exact (Output.response.inj hanswer).symm

end

variable (fmt : Format F) (display : ValidationErrors → String)
  (parse : String → Except String (NetfusionConfig F)) (path : String)
  (decode : List UInt8 → Option (WireMessage (DaemonRequest F)))
  (decodeAnswer : List UInt8 → Except Error (WireMessage (DaemonResponse F)))
  (displayError : Error → String) (me : ι)

/-- Whatever the daemon, its other clients, the keys and the redraws do in
between, the screen shows interfaces that the daemon has found in one scan, a
status that was true of one, and scores that were in one. It never shows a
bond or a tunnel. -/
theorem screen_sourced (server : IpcServer F) (area : Size) (es : List (SystemEvent ι F)) :
    let os := passed (outputs
      (Fetcher.step fmt display parse path decode decodeAnswer displayError me)
      (Fetcher.start server area) es)
    let app := (run (Fetcher.step fmt display parse path decode decodeAnswer displayError me)
      (Fetcher.start server area) es).tui.app
    let held := tables server ((history (os.map Prod.snd)).map Prod.fst)
    ReadsBack fmt decodeAnswer (exchanges me (os.map Prod.snd)) →
    EachStep (Daemon.Conversation.step fmt display parse path decode decodeAnswer)
        (Daemon.Conversation.start server) (os.map Prod.fst)
        (fun _ t e => Fits fmt display decode t e) →
      (app.interfaces = [] ∨ app.interfaces ∈ held) ∧ app.bonds = [] ∧ app.tunnels = [] ∧
        (∀ s, app.status = some s → ∃ table ∈ held, Honest table (.status s)) ∧
        ∀ x ∈ app.healthHistory, ∃ table ∈ held, ∃ i ∈ table, ∃ h, i.health = some h ∧
          x = h.overall := by
  intro os app held hcodec hfits
  have hshown := (run_sourced fmt display parse path decode decodeAnswer displayError me server
    area es).shown
  obtain ⟨hanswers, -⟩ := run_passed fmt display parse path decode decodeAnswer displayError me
    server area es
  have hhonest : ∀ data, .ok (some data) ∈ received me (os.map Prod.snd) →
      ∃ table ∈ held, Honest table data := by
    intro data hdata
    have hos : os.map Prod.snd = _ := hanswers
    rw [hos] at hdata hcodec
    obtain ⟨table, htable, hholds⟩ := received_honest hcodec hfits hdata
    refine ⟨table, ?_, hholds⟩
    rw [← hos] at htable
    exact htable
  refine ⟨?_, ?_, ?_, ?_, ?_⟩
  · apply hshown.interfaces.imp_right
    intro hbacked
    obtain ⟨table, htable, rfl⟩ := hhonest _ hbacked
    exact htable
  · rcases hshown.bonds with hnone | hbacked
    · exact hnone
    · obtain ⟨table, -, hnone⟩ := hhonest _ hbacked
      exact hnone
  · rcases hshown.tunnels with hnone | hbacked
    · exact hnone
    · obtain ⟨table, -, hnone⟩ := hhonest _ hbacked
      exact hnone
  · intro s hs
    exact hhonest _ (hshown.status s hs)
  · intro x hx
    obtain ⟨u, hbacked, hmem⟩ := hshown.history x hx
    cases u with
    | status s =>
      obtain ⟨table, -, -, -, -, hnone⟩ := hhonest _ hbacked
      simp [samples, hnone] at hmem
    | interfaces i =>
      obtain ⟨table, htable, rfl⟩ := hhonest _ hbacked
      obtain ⟨iface, hiface, hscore⟩ := List.mem_filterMap.mp hmem
      obtain ⟨h, hhealth, rfl⟩ := Option.map_eq_some_iff.mp hscore
      exact ⟨i, htable, iface, hiface, h, hhealth, rfl⟩
    | _ => cases hmem

section

open Netfusion.Daemon.WireAgreement Netfusion.Daemon.Lockstep

/-- The fetcher asks for the status, a rescan comes before the answer, and the
main loop shows it. -/
def statusFetch : List (SystemEvent Bool ℚ) :=
  [.fetch nilUuid 0, .fetch nilUuid 0, .fetch nilUuid 0, .daemon (.background (.rescan [card])),
    .daemon (.handle true idStamp), .fetch nilUuid 0, .fetch nilUuid 0, .update 0, .update 0,
    .tick (.ok ())]

abbrev statusStep : System Bool ℚ → SystemEvent Bool ℚ → Passed Bool ℚ × System Bool ℚ :=
  Fetcher.step epochFormat (fun _ => "") (fun _ => .error "") "" meant (understood [cardServer])
    (fun _ => "") true

abbrev statusStart : System Bool ℚ := Fetcher.start plainServer ⟨80, 24⟩

abbrev statusPassed : List (Daemon.Conversation.Event Bool ℚ × Happened Bool ℚ) :=
  passed (outputs statusStep statusStart statusFetch)

def sameStatus : DaemonResponse ℚ → DaemonResponse ℚ → Bool
  | .ok (some (.status s)), .ok (some (.status t)) => s = t
  | _, _ => false

theorem sameStatus_eq {a b : DaemonResponse ℚ} (h : sameStatus a b = true) : a = b := by
  unfold sameStatus at h
  split at h
  · rw [of_decide_eq_true h]
  · cases h

def asksStatus : Daemon.Conversation.Event Bool ℚ → Bool
  | .request _ id now .getStatus => id.bytes = nilUuid.bytes ∧ now = 0
  | .request _ _ _ _ => false
  | _ => true

theorem asksStatus_request {i : Bool} {id : Uuid} {now : DateTime} {r : DaemonRequest ℚ}
    (h : asksStatus (.request i id now r) = true) : WireMessage.new id now r = statusRequest := by
  cases r with
  | getStatus =>
    obtain ⟨hid, rfl⟩ := of_decide_eq_true h
    obtain rfl : id = nilUuid := by
      cases id
      cases hid
      rfl
    rfl
  | _ => cases h

theorem understood_card {bytes : List UInt8} {n : WireMessage (DaemonResponse ℚ)}
    (h : understood [cardServer] bytes = .ok n) : n = statusOf cardServer := by
  rw [understood, List.find?_singleton] at h
  split at h
  · rename_i s hs
    split at hs
    · cases hs
      exact (Except.ok.inj h).symm
    · cases hs
  · cases h

theorem statusPassed_readsBack :
    ReadsBack epochFormat (understood [cardServer])
      (exchanges true (statusPassed.map Prod.snd)) := by
  have hanswers : (exchanges true (statusPassed.map Prod.snd)).all (fun e =>
      sameStatus e.response (statusOf cardServer).payload) = true := by
    decide +kernel
  intro e he bytes n _ hdecode
  rw [understood_card hdecode]
  exact (sameStatus_eq (List.all_eq_true.mp hanswers e he)).symm

/-- The client shows the interface that the rescan has found. -/
theorem screen_sourced_rescan :
    ∃ s, (run statusStep statusStart statusFetch).tui.app.status = some s ∧
      s.totalInterfaces = 1 ∧
      ∃ table ∈ tables plainServer ((history (statusPassed.map Prod.snd)).map Prod.fst),
        Honest table (.status s) := by
  have hasked : (statusPassed.map Prod.fst).all asksStatus = true := by
    decide +kernel
  have hfits : EachStep (Daemon.Conversation.step epochFormat (fun _ => "") (fun _ => .error "") ""
      meant (understood [cardServer])) (Daemon.Conversation.start plainServer)
      (statusPassed.map Prod.fst) (fun _ t e => Fits epochFormat (fun _ => "") meant t e) := by
    intro pre e post he
    apply status_fits
    rintro i id now r rfl
    apply asksStatus_request
    apply List.all_eq_true.mp hasked
    rw [he]
    exact List.mem_append_right pre (.head post)
  obtain ⟨-, -, -, hstatus, -⟩ := screen_sourced epochFormat (fun _ => "") (fun _ => .error "") ""
    meant (understood [cardServer]) (fun _ => "") true plainServer ⟨80, 24⟩ statusFetch
    statusPassed_readsBack hfits
  have hshown : (run statusStep statusStart statusFetch).tui.app.status.map
      SystemStatus.totalInterfaces = some 1 := by
    decide +kernel
  obtain ⟨s, hs, hone⟩ := Option.map_eq_some_iff.mp hshown
  refine ⟨s, hs, hone, ?_⟩
  unfold statusStart statusStep at hs
  exact hstatus s hs

end

section

variable {fmt display parse path decode decodeAnswer}

/-- Where no frame decodes, nothing is ever handled and nothing written back. -/
theorem step_undecoded (hdecode : ∀ body, decode body = none) (s : State ι F)
    (e : Daemon.Conversation.Event ι F) (h : ∀ i, (s.2 i).toClient = []) :
    (∀ i, ((Daemon.Conversation.step fmt display parse path decode decodeAnswer s
        e).2.2 i).toClient = []) ∧
      ∀ i, receivedBy i (Daemon.Conversation.step fmt display parse path decode decodeAnswer s
        e).1 = none := by
  have hupdate : ∀ (i : ι) (l : Stream), l.toClient = [] →
      ∀ j, (Function.update s.2 i l j).toClient = [] := by
    intro i l hl j
    by_cases hj : j = i
    · subst hj
      rw [Function.update_self, hl]
    · rw [Function.update_of_ne hj, h j]
  cases e with
  | request i id now r =>
    simp only [Daemon.Conversation.step, send]
    split
    · exact ⟨h, fun _ => rfl⟩
    · split
      · exact ⟨h, fun _ => rfl⟩
      · split
        · exact ⟨h, fun _ => rfl⟩
        · exact ⟨hupdate i _ (h i), fun _ => rfl⟩
  | handle i x =>
    simp only [Daemon.Conversation.step, handle]
    split
    · exact ⟨h, fun _ => rfl⟩
    · split
      · exact ⟨h, fun _ => rfl⟩
      · split
        · exact ⟨hupdate i _ (h i), fun _ => rfl⟩
        · split
          · exact ⟨h, fun _ => rfl⟩
          · rename_i body rest _
            simp only [hdecode]
            exact ⟨hupdate i _ (h i), fun _ => rfl⟩
  | receive i =>
    have hnone : readExact 4 (s.2 i).toClient = none := by
      rw [h i]
      rfl
    simp only [Daemon.Conversation.step, receive, hnone, receive.ended]
    split
    · split
      · exact ⟨hupdate i _ rfl, fun _ => rfl⟩
      · exact ⟨h, fun _ => rfl⟩
    · exact ⟨h, fun _ => rfl⟩
  | lose i => exact ⟨hupdate i _ (h i), fun _ => rfl⟩
  | background y => exact ⟨h, fun _ => rfl⟩

theorem received_undecoded (hdecode : ∀ body, decode body = none) (server : IpcServer F)
    (es : List (Daemon.Conversation.Event ι F)) (i : ι) :
    received i (outputs (Daemon.Conversation.step fmt display parse path decode decodeAnswer)
      (Daemon.Conversation.start server) es) = [] := by
  have hrun : received i (outputs
        (Daemon.Conversation.step fmt display parse path decode decodeAnswer)
        (Daemon.Conversation.start server) es) = [] ∧
      ∀ j, ((run (Daemon.Conversation.step fmt display parse path decode decodeAnswer)
        (Daemon.Conversation.start server) es).2 j).toClient = [] := by
    apply run_always (J := fun os (s : State ι F) =>
      received i os = [] ∧ ∀ j, (s.2 j).toClient = [])
    · exact ⟨rfl, fun _ => rfl⟩
    · rintro os s e ⟨hnone, hempty⟩
      obtain ⟨hstill, hnothing⟩ := step_undecoded hdecode s e hempty
      refine ⟨?_, hstill⟩
      rw [received_concat, hnone, hnothing i]
      rfl
  exact hrun.1

end

theorem backed_quiet {me : ι} {os : List (Happened ι F)} (h : received me os = [])
    {u : DataUpdate F} (hu : Backed me os u) : (∃ l, u = .loading l) ∨ ∃ e, u = .error e := by
  cases u with
  | loading l => exact .inl ⟨l, rfl⟩
  | error e => exact .inr ⟨e, rfl⟩
  | _ =>
    rw [Backed, h] at hu
    cases hu

omit [DecidableEq ι] in
theorem shown_quiet {P : DataUpdate F → Prop} {app : App F}
    (hP : ∀ u, P u → (∃ l, u = .loading l) ∨ ∃ e, u = .error e) (h : Shown P app) :
    app.status = none ∧ app.interfaces = [] ∧ app.bonds = [] ∧ app.tunnels = [] ∧
      app.healthHistory = [] := by
  refine ⟨?_, ?_, ?_, ?_, ?_⟩
  · cases hstatus : app.status with
    | none => rfl
    | some s => rcases hP _ (h.status s hstatus) with ⟨l, hl⟩ | ⟨e, he⟩ <;> contradiction
  · rcases h.interfaces with hnone | hsome
    · exact hnone
    · rcases hP _ hsome with ⟨l, hl⟩ | ⟨e, he⟩ <;> contradiction
  · rcases h.bonds with hnone | hsome
    · exact hnone
    · rcases hP _ hsome with ⟨l, hl⟩ | ⟨e, he⟩ <;> contradiction
  · rcases h.tunnels with hnone | hsome
    · exact hnone
    · rcases hP _ hsome with ⟨l, hl⟩ | ⟨e, he⟩ <;> contradiction
  · rw [List.eq_nil_iff_forall_not_mem]
    intro x hx
    obtain ⟨u, hu, hmem⟩ := h.history x hx
    rcases hP u hu with ⟨l, rfl⟩ | ⟨e, rfl⟩ <;> cases hmem

/-- With the encoding that the daemon and its client use, the screen stays
blank whatever happens. -/
theorem screen_blank (visit : Value → Except Error (DaemonRequest F)) (server : IpcServer F)
    (area : Size) (es : List (SystemEvent ι F)) :
    let app := (run (Fetcher.step fmt display parse path
      (fun body => (decodeRequest fmt visit body).toOption) decodeAnswer displayError me)
      (Fetcher.start server area) es).tui.app
    app.status = none ∧ app.interfaces = [] ∧ app.bonds = [] ∧ app.tunnels = [] ∧
      app.healthHistory = [] := by
  intro app
  have hdecode : ∀ body, (decodeRequest fmt visit body).toOption = none := by
    intro body
    cases hread : decodeRequest fmt visit body with
    | error e => rfl
    | ok m => exact absurd hread (Daemon.WireAgreement.tagged_not_decoded fmt visit body m)
  have hshown := (run_sourced fmt display parse path
    (fun body => (decodeRequest fmt visit body).toOption) decodeAnswer displayError me server
    area es).shown
  rw [(run_passed fmt display parse path (fun body => (decodeRequest fmt visit body).toOption)
    decodeAnswer displayError me server area es).1] at hshown
  exact shown_quiet (fun u hu => backed_quiet (received_undecoded hdecode server _ me) hu) hshown

end Netfusion.Tui.Screen
