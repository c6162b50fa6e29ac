import Netfusion.Lib.Machine

namespace Netfusion.Relay.Server

open Netfusion.Lib.Machine

structure RelayConfig where
  /-- How many clients may be connected at a time. -/
  maxConnections : Nat

structure RelayServer where
  config : RelayConfig
  activeConnections : Nat

def RelayServer.new (config : RelayConfig) : RelayServer := ⟨config, 0⟩

inductive ConnectionError where
  | applicationClosed
  | other (e : String)

inductive ReadToEndError where
  | read (e : String)
  | tooLong

/-- A stream of a client: the bytes it finishes with, or what breaks it off,
and whether it takes the reply. -/
structure BiStream where
  received : Except String (List UInt8)
  taken : Except String Unit

def readToEnd (stream : BiStream) (limit : Nat) : Except ReadToEndError (List UInt8) :=
  match stream.received with
  | .error e => .error (.read e)
  | .ok buf => if buf.length > limit then .error .tooLong else .ok buf

/-- Where the task of an accepted connection is. -/
inductive ConnectionTask where
  | connecting
  | serving
  | finished
  deriving DecidableEq

inductive Outcome where
  | idle
  | rejected
  | spawned
  | connected
  | failed (e : String)
  | echoed (buf : List UInt8)
  | unsent (e : String)
  | closed
  deriving DecidableEq

/-- The task's first await. A task that is past it is left alone. -/
def ConnectionTask.handshake (result : Except String Unit) :
    ConnectionTask → Outcome × ConnectionTask
  | .connecting =>
    match result with
    | .ok _ => (.connected, .serving)
    | .error e => (.failed e, .finished)
  | task => (.idle, task)

/-- One round of the loop. A reply that is not taken does not end it. -/
def handleConnection (next : Except ConnectionError BiStream) :
    ConnectionTask → Outcome × ConnectionTask
  | .serving =>
    match next with
    | .ok stream =>
      match readToEnd stream (1024 * 1024) with
      | .ok buf =>
        match stream.taken with
        | .ok _ => (.echoed buf, .serving)
        | .error e => (.unsent e, .serving)
      | .error (.read e) => (.failed e, .finished)
      | .error .tooLong => (.failed "stream too long", .finished)
    | .error .applicationClosed => (.closed, .finished)
    | .error (.other e) => (.failed e, .finished)
  | task => (.idle, task)

/-- The accept loop and the tasks it has spawned, in the order of their
attempts. -/
structure AcceptLoop where
  server : RelayServer
  tasks : List ConnectionTask

def AcceptLoop.new (config : RelayConfig) : AcceptLoop := ⟨RelayServer.new config, []⟩

inductive Event where
  | incoming
  | handshake (k : Nat) (result : Except String Unit)
  | acceptBi (k : Nat) (next : Except ConnectionError BiStream)

/-- The `k`-th task runs to its next await. There may be none. -/
def advance (r : AcceptLoop) (k : Nat) (f : ConnectionTask → Outcome × ConnectionTask) :
    Outcome × AcceptLoop :=
  match r.tasks[k]? with
  | none => (.idle, r)
  | some task => ((f task).1, { r with tasks := r.tasks.set k (f task).2 })

def accept (r : AcceptLoop) : Outcome × AcceptLoop :=
  if r.server.activeConnections ≥ r.server.config.maxConnections then (.rejected, r)
  else
    (.spawned, ⟨{ r.server with activeConnections := r.server.activeConnections + 1 },
      r.tasks ++ [.connecting]⟩)

def step (r : AcceptLoop) : Event → Outcome × AcceptLoop
  | .incoming => accept r
  | .handshake k result => advance r k (ConnectionTask.handshake result)
  | .acceptBi k next => advance r k (handleConnection next)

theorem accept_rejected (r : AcceptLoop) :
    (accept r).1 = .rejected ↔ r.server.config.maxConnections ≤ r.server.activeConnections := by
  rw [accept]
  split
  · rename_i h
    exact iff_of_true rfl h
  · rename_i h
    exact iff_of_false Outcome.noConfusion h

theorem advance_server (r : AcceptLoop) (k : Nat) (f : ConnectionTask → Outcome × ConnectionTask) :
    (advance r k f).2.server = r.server := by
  rw [advance]
  split <;> rfl

theorem advance_length (r : AcceptLoop) (k : Nat) (f : ConnectionTask → Outcome × ConnectionTask) :
    (advance r k f).2.tasks.length = r.tasks.length := by
  rw [advance]
  split
  · rfl
  · exact List.length_set

theorem advance_not_spawned (r : AcceptLoop) (k : Nat)
    {f : ConnectionTask → Outcome × ConnectionTask} (hf : ∀ task, (f task).1 ≠ .spawned) :
    (advance r k f).1 ≠ .spawned := by
  rw [advance]
  split
  · exact Outcome.noConfusion
  · exact hf _

theorem handshake_not_spawned (result : Except String Unit) (task : ConnectionTask) :
    (task.handshake result).1 ≠ .spawned := by
  cases task with
  | connecting => cases result <;> exact Outcome.noConfusion
  | serving => exact Outcome.noConfusion
  | finished => exact Outcome.noConfusion

theorem handleConnection_not_spawned (next : Except ConnectionError BiStream)
    (task : ConnectionTask) : (handleConnection next task).1 ≠ .spawned := by
  cases task with
  | connecting => exact Outcome.noConfusion
  | finished => exact Outcome.noConfusion
  | serving =>
    simp only [handleConnection]
    cases next with
    | error e => cases e <;> exact Outcome.noConfusion
    | ok stream =>
      dsimp only
      cases readToEnd stream (1024 * 1024) with
      | error e => cases e <;> exact Outcome.noConfusion
      | ok buf => cases stream.taken <;> exact Outcome.noConfusion

theorem step_active (r : AcceptLoop) (e : Event) :
    (step r e).2.server.activeConnections =
      r.server.activeConnections + if (step r e).1 = .spawned then 1 else 0 := by
  cases e with
  | incoming =>
    rw [step, accept]
    split <;> rfl
  | handshake k result =>
    rw [step, advance_server, if_neg (advance_not_spawned r k (handshake_not_spawned result))]
    rfl
  | acceptBi k next =>
    rw [step, advance_server, if_neg (advance_not_spawned r k (handleConnection_not_spawned next))]
    rfl

theorem step_config (r : AcceptLoop) (e : Event) : (step r e).2.server.config = r.server.config := by
  cases e with
  | incoming =>
    rw [step, accept]
    split <;> rfl
  | handshake k result => exact congrArg _ (advance_server r k _)
  | acceptBi k next => exact congrArg _ (advance_server r k _)

theorem config_run (config : RelayConfig) (es : List Event) :
    (run step (AcceptLoop.new config) es).server.config = config := by
  induction es using List.reverseRecOn with
  | nil => rfl
  | append_singleton es e ih =>
    rw [run_concat, step_config]
    exact ih

end Netfusion.Relay.Server
