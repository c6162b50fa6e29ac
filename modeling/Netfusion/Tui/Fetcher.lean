import Netfusion.Daemon.Client
import Netfusion.Daemon.Linearized
import Netfusion.Tui.MainLoop

namespace Netfusion.Tui.Fetcher

open Netfusion.Lib.Machine Netfusion.Lib.Calls Netfusion.Lib.Bincode
open Netfusion.Shared Netfusion.Shared.Config Netfusion.Shared.Validate Netfusion.Shared.Types
open Netfusion.Shared.Ipc Netfusion.Shared.Wire
open Netfusion.Daemon.Server Netfusion.Daemon.ConfigStore
open Netfusion.Daemon.Conversation Netfusion.Daemon.Linearized Netfusion.Daemon.Client

inductive Fetch where
  | status
  | interfaces
  | bonds
  | tunnels

variable {F ι : Type} [DecidableEq ι]

def Fetch.request : Fetch → DaemonRequest F
  | .status => .getStatus
  | .interfaces => .getInterfaces
  | .bonds => .getBonds
  | .tunnels => .getTunnels

inductive Phase (F : Type) where
  | sleeping
  | begin
  | call (f : Fetch)
  | waiting (f : Fetch)
  | report (f : Fetch) (r : Except IpcError (DaemonResponse F))
  | finish

def Fetch.next : Fetch → Phase F
  | .status => .call .interfaces
  | .interfaces => .call .bonds
  | .bonds => .call .tunnels
  | .tunnels => .finish

/-- What is sent to the main loop after a call. A failure to get the bonds or
the tunnels is silent. -/
def Fetch.update (displayError : Error → String) (f : Fetch)
    (r : Except IpcError (DaemonResponse F)) : Option (DataUpdate F) :=
  match f with
  | .status =>
    match getStatus r with
    | .ok s => some (.status s)
    | .error e => some (.error ("Status fetch failed: " ++ IpcError.display displayError e))
  | .interfaces =>
    match getInterfaces r with
    | .ok i => some (.interfaces i)
    | .error e => some (.error ("Interface fetch failed: " ++ IpcError.display displayError e))
  | .bonds =>
    match getBonds r with
    | .ok b => some (.bonds b)
    | .error _ => none
  | .tunnels =>
    match getTunnels r with
    | .ok t => some (.tunnels t)
    | .error _ => none

/-- The daemon with all its clients, and one of the clients in full: its
fetcher, the channel to its main loop, and the main loop. -/
structure System (ι F : Type) where
  daemon : State ι F
  phase : Phase F
  channel : List (DataUpdate F)
  tui : MainLoop F

inductive SystemEvent (ι F : Type) where
  | daemon (e : Daemon.Conversation.Event ι F)
  | fetch (id : Uuid) (now : DateTime)
  | update (now : DateTime)
  | event (e : TerminalEvent)
  | tick (drawn : Except String Unit)
  | resize (area : Size)

def channelCapacity : Nat := 4

/-- A full channel makes the fetcher wait. -/
def System.send (s : System ι F) (u : DataUpdate F) (next : Phase F) : System ι F :=
  if s.channel.length < channelCapacity then
    { s with
      channel := s.channel ++ [u]
      phase := next }
  else s

def isOwn (me : ι) : Daemon.Conversation.Event ι F → Bool
  | .request i _ _ _ => i = me
  | .receive i => i = me
  | _ => false

abbrev Passed (ι F : Type) := Option (Daemon.Conversation.Event ι F × Happened ι F)

variable (fmt : Format F) (display : ValidationErrors → String)
  (parse : String → Except String (NetfusionConfig F)) (path : String)
  (decode : List UInt8 → Option (WireMessage (DaemonRequest F)))
  (decodeAnswer : List UInt8 → Except Error (WireMessage (DaemonResponse F)))
  (displayError : Error → String) (me : ι)

def System.talk (s : System ι F) (e : Daemon.Conversation.Event ι F) : Happened ι F × System ι F :=
  let (o, daemon) := Daemon.Conversation.step fmt display parse path decode decodeAnswer s.daemon e
  (o, { s with daemon := daemon })

def Phase.after (f : Fetch) (stay : Phase F) : Happened ι F → Phase F
  | .returned _ r => .report f r
  | .called _ _ => .waiting f
  | _ => stay

def fetch (s : System ι F) (id : Uuid) (now : DateTime) : Passed ι F × System ι F :=
  match s.phase with
  | .sleeping => (none, { s with phase := .begin })
  | .begin => (none, s.send (.loading true) (.call .status))
  | .call f =>
    let e : Daemon.Conversation.Event ι F := .request me id now f.request
    let (o, s) := s.talk fmt display parse path decode decodeAnswer e
    (some (e, o), { s with phase := Phase.after f (.call f) o })
  | .waiting f =>
    let e : Daemon.Conversation.Event ι F := .receive me
    let (o, s) := s.talk fmt display parse path decode decodeAnswer e
    (some (e, o), { s with phase := Phase.after f (.waiting f) o })
  | .report f r =>
    match f.update displayError r with
    | some u => (none, s.send u f.next)
    | none => (none, { s with phase := f.next })
  | .finish => (none, s.send (.loading false) .sleeping)

/-- The main loop ends when the application stops running. -/
def step (s : System ι F) : SystemEvent ι F → Passed ι F × System ι F
  | .daemon e =>
    if isOwn me e then (none, s)
    else
      let (o, s) := s.talk fmt display parse path decode decodeAnswer e
      (some (e, o), s)
  | .fetch id now => fetch fmt display parse path decode decodeAnswer displayError me s id now
  | .update now =>
    if s.tui.app.running then
      match s.channel with
      | [] => (none, s)
      | u :: rest =>
        (none, { s with
          channel := rest
          tui := (Tui.step s.tui (.update now u)).2 })
    else (none, s)
  | .event e => (none, { s with tui := (Tui.step s.tui (.event e)).2 })
  | .tick drawn => (none, { s with tui := (Tui.step s.tui (.tick drawn)).2 })
  | .resize area => (none, { s with tui := (Tui.step s.tui (.resize area)).2 })

def start (server : IpcServer F) (area : Size) : System ι F where
  daemon := Daemon.Conversation.start server
  phase := .sleeping
  channel := []
  tui := Tui.start (.ok ()) area

def passed (os : List (Passed ι F)) : List (Daemon.Conversation.Event ι F × Happened ι F) :=
  os.filterMap (fun o => o)

section

variable {fmt display parse path decode decodeAnswer displayError me}

/-- What is recorded of a step is what the daemon and its clients did in it. -/
def Records (fmt : Format F) (display : ValidationErrors → String)
    (parse : String → Except String (NetfusionConfig F)) (path : String)
    (decode : List UInt8 → Option (WireMessage (DaemonRequest F)))
    (decodeAnswer : List UInt8 → Except Error (WireMessage (DaemonResponse F)))
    (s : System ι F) : Passed ι F × System ι F → Prop
  | (none, s') => s'.daemon = s.daemon
  | (some (e, o), s') =>
    Daemon.Conversation.step fmt display parse path decode decodeAnswer s.daemon e = (o, s'.daemon)

theorem records_ite {s : System ι F} {p : Prop} [Decidable p] {a b : Passed ι F × System ι F}
    (ha : Records fmt display parse path decode decodeAnswer s a)
    (hb : Records fmt display parse path decode decodeAnswer s b) :
    Records fmt display parse path decode decodeAnswer s (if p then a else b) := by
  split
  · exact ha
  · exact hb

omit [DecidableEq ι] in
theorem send_daemon (s : System ι F) (u : DataUpdate F) (next : Phase F) :
    (s.send u next).daemon = s.daemon := by
  rw [System.send]
  split <;> rfl

variable (fmt display parse path decode decodeAnswer displayError me) in
theorem step_records (s : System ι F) (e : SystemEvent ι F) :
    Records fmt display parse path decode decodeAnswer s
      (step fmt display parse path decode decodeAnswer displayError me s e) := by
  cases e with
  | daemon e => exact records_ite rfl rfl
  | fetch id now =>
    simp only [step, fetch]
    cases s.phase with
    | sleeping => rfl
    | begin => exact send_daemon s _ _
    | call f => rfl
    | waiting f => rfl
    | report f r =>
      simp only
      cases f.update displayError r with
      | none => rfl
      | some u => exact send_daemon s _ _
    | finish => exact send_daemon s _ _
  | update now =>
    simp only [step]
    split
    · cases s.channel <;> rfl
    · rfl
  | event e => rfl
  | tick drawn => rfl
  | resize area => rfl

variable (fmt display parse path decode decodeAnswer displayError me) in
theorem run_passed (server : IpcServer F) (area : Size) (es : List (SystemEvent ι F)) :
    let cs := passed (outputs (step fmt display parse path decode decodeAnswer displayError me)
      (start server area) es)
    cs.map Prod.snd = outputs (Daemon.Conversation.step fmt display parse path decode decodeAnswer)
        (Daemon.Conversation.start server) (cs.map Prod.fst) ∧
      (run (step fmt display parse path decode decodeAnswer displayError me)
          (start server area) es).daemon =
        run (Daemon.Conversation.step fmt display parse path decode decodeAnswer)
          (Daemon.Conversation.start server) (cs.map Prod.fst) := by
  apply run_always (J := fun os (s : System ι F) =>
    (passed os).map Prod.snd =
      outputs (Daemon.Conversation.step fmt display parse path decode decodeAnswer)
        (Daemon.Conversation.start server) ((passed os).map Prod.fst) ∧
    s.daemon = run (Daemon.Conversation.step fmt display parse path decode decodeAnswer)
      (Daemon.Conversation.start server) ((passed os).map Prod.fst))
  · exact ⟨rfl, rfl⟩
  · rintro os s e ⟨hanswers, hdaemon⟩
    have hstep := step_records fmt display parse path decode decodeAnswer displayError me s e
    rw [passed, filterMap_concat, ← passed]
    cases hmove : step fmt display parse path decode decodeAnswer displayError me s e with
    | mk o s' =>
      rw [hmove] at hstep
      cases o with
      | none =>
        simp only [Option.toList_none, List.append_nil]
        exact ⟨hanswers, hstep.trans hdaemon⟩
      | some p =>
        obtain ⟨e', o'⟩ := p
        rw [Records] at hstep
        simp only [Option.toList_some, List.map_append, List.map_cons, List.map_nil,
          outputs_concat, run_concat, ← hdaemon, ← hanswers, hstep, and_self]

end

end Netfusion.Tui.Fetcher
