import Netfusion.Relay.Server

namespace Netfusion.Relay.ConnectionLimit

open Netfusion.Lib.Machine
open Netfusion.Relay.Server

def live (r : AcceptLoop) : Nat := r.tasks.countP (· ≠ .finished)

/-- The counter is that of the live connections, and the limit is one on them:
an attempt is rejected only when they are as many as may be, and is not when
there are none. -/
structure LimitsLive (r : AcceptLoop) : Prop where
  active : r.server.activeConnections = live r
  full : (accept r).1 = .rejected → live r = r.server.config.maxConnections
  free : 0 < r.server.config.maxConnections → live r = 0 → (accept r).1 ≠ .rejected

def ReadWhole : Except ConnectionError BiStream → Prop
  | .ok stream => ∃ buf, readToEnd stream (1024 * 1024) = .ok buf
  | .error _ => False

def EndsTask (r : AcceptLoop) : Event → Prop
  | .incoming => False
  | .handshake k result => r.tasks[k]? = some .connecting ∧ ∃ e, result = .error e
  | .acceptBi k next => r.tasks[k]? = some .serving ∧ ¬ ReadWhole next

structure CountsTasks (r : AcceptLoop) : Prop where
  active : r.server.activeConnections = r.tasks.length
  within : r.server.activeConnections ≤ r.server.config.maxConnections

def AllUnfinished (r : AcceptLoop) : Prop := ∀ task ∈ r.tasks, task ≠ .finished

theorem live_eq_length (r : AcceptLoop) : live r = r.tasks.length ↔ AllUnfinished r := by
  simp [live, AllUnfinished, List.countP_eq_length]

theorem countsTasks_advance {r : AcceptLoop} (h : CountsTasks r) (k : Nat)
    (f : ConnectionTask → Outcome × ConnectionTask) : CountsTasks (advance r k f).2 := by
  constructor
  · rw [advance_server, advance_length]
    exact h.active
  · rw [advance_server]
    exact h.within

theorem countsTasks_step {r : AcceptLoop} (e : Event) (h : CountsTasks r) :
    CountsTasks (step r e).2 := by
  cases e with
  | incoming =>
    rw [step, accept]
    split
    · exact h
    · rename_i hbelow
      constructor
      · simp [h.active]
      · dsimp only
        omega
  | handshake k result => exact countsTasks_advance h k _
  | acceptBi k next => exact countsTasks_advance h k _

theorem countsTasks_run (config : RelayConfig) (es : List Event) :
    CountsTasks (run step (AcceptLoop.new config) es) := by
  apply run_keeps
  · exact ⟨rfl, Nat.zero_le _⟩
  · intro r e
    exact countsTasks_step e

theorem limitsLive_iff {r : AcceptLoop} (h : CountsTasks r) : LimitsLive r ↔ AllUnfinished r := by
  rw [← live_eq_length, ← h.active]
  constructor
  · exact fun hl => hl.active.symm
  · intro hlive
    have hwithin := h.within
    constructor
    · exact hlive.symm
    · rw [accept_rejected]
      omega
    · rw [ne_eq, accept_rejected]
      omega

theorem allUnfinished_advance {r : AcceptLoop} (h : AllUnfinished r) (k : Nat)
    (f : ConnectionTask → Outcome × ConnectionTask) :
    AllUnfinished (advance r k f).2 ↔ ∀ task, r.tasks[k]? = some task → (f task).2 ≠ .finished := by
  rw [advance]
  split
  · rename_i hnone
    simp [hnone, h]
  · rename_i task hsome
    have hk : k < r.tasks.length := (List.getElem?_eq_some_iff.mp hsome).1
    constructor
    · intro hall task' htask'
      cases hsome.symm.trans htask'
      exact hall _ (List.mem_set hk _)
    · intro hf task' htask'
      rcases List.mem_or_eq_of_mem_set htask' with hold | rfl
      · exact h task' hold
      · exact hf task hsome

theorem handshake_finished {result : Except String Unit} {task : ConnectionTask}
    (h : task ≠ .finished) :
    (ConnectionTask.handshake result task).2 = .finished ↔
      task = .connecting ∧ ∃ e, result = .error e := by
  cases task with
  | finished => exact absurd rfl h
  | serving => simp [ConnectionTask.handshake]
  | connecting =>
    cases result with
    | ok _ => simp [ConnectionTask.handshake]
    | error e => simp [ConnectionTask.handshake]

theorem handleConnection_finished {next : Except ConnectionError BiStream} {task : ConnectionTask}
    (h : task ≠ .finished) :
    (handleConnection next task).2 = .finished ↔ task = .serving ∧ ¬ ReadWhole next := by
  cases task with
  | finished => exact absurd rfl h
  | connecting => simp [handleConnection]
  | serving =>
    simp only [handleConnection]
    cases next with
    | error e => cases e <;> simp [ReadWhole]
    | ok stream =>
      simp only [ReadWhole]
      cases readToEnd stream (1024 * 1024) with
      | error e => cases e <;> simp
      | ok buf => cases stream.taken <;> simp

/-- As long as no task is finished, the next step finishes one exactly when it
ends that task. -/
theorem allUnfinished_step {r : AcceptLoop} (h : AllUnfinished r) (e : Event) :
    AllUnfinished (step r e).2 ↔ ¬ EndsTask r e := by
  have hmem : ∀ {k : Nat} {task : ConnectionTask}, r.tasks[k]? = some task → task ≠ .finished :=
    fun hk => h _ (List.mem_of_getElem? hk)
  cases e with
  | incoming =>
    refine iff_of_true ?_ not_false
    rw [step, accept]
    split
    · exact h
    · intro task htask
      rcases List.mem_append.mp htask with hold | hnew
      · exact h task hold
      · cases List.mem_singleton.mp hnew
        exact ConnectionTask.noConfusion
  | handshake k result =>
    rw [step, allUnfinished_advance h, EndsTask]
    constructor
    · rintro hall ⟨hk, he⟩
      exact hall _ hk ((handshake_finished (hmem hk)).mpr ⟨rfl, he⟩)
    · rintro hno task hk hfin
      obtain ⟨rfl, he⟩ := (handshake_finished (hmem hk)).mp hfin
      exact hno ⟨hk, he⟩
  | acceptBi k next =>
    rw [step, allUnfinished_advance h, EndsTask]
    constructor
    · rintro hall ⟨hk, hbroken⟩
      exact hall _ hk ((handleConnection_finished (hmem hk)).mpr ⟨rfl, hbroken⟩)
    · rintro hno task hk hfin
      obtain ⟨rfl, hbroken⟩ := (handleConnection_finished (hmem hk)).mp hfin
      exact hno ⟨hk, hbroken⟩

/-- The counter holds how many attempts were ever accepted. -/
theorem accepted_ever (config : RelayConfig) (es : List Event) :
    (outputs step (AcceptLoop.new config) es).count .spawned =
      (run step (AcceptLoop.new config) es).server.activeConnections := by
  induction es using List.reverseRecOn with
  | nil => rfl
  | append_singleton es e ih =>
    rw [outputs_concat, run_concat, step_active, List.count_append, ih, List.count_singleton]
    simp only [beq_iff_eq]

/-- So the limit is on all clients together: once as many have been accepted,
nobody is accepted any more. -/
theorem full_for_good (config : RelayConfig) (done rest : List Event)
    (hfull : (outputs step (AcceptLoop.new config) done).count .spawned = config.maxConnections) :
    .spawned ∉ outputs step (run step (AcceptLoop.new config) done) rest := by
  have hall := accepted_ever config (done ++ rest)
  have hwithin := (countsTasks_run config (done ++ rest)).within
  rw [config_run] at hwithin
  rw [outputs_append, List.count_append] at hall
  apply List.count_eq_zero.mp
  omega

/-- The limit is one on the live connections through a whole run exactly when
no step of it ends a task. -/
theorem limits_live_iff (config : RelayConfig) (es : List Event) :
    (∀ pre post, es = pre ++ post → LimitsLive (run step (AcceptLoop.new config) pre)) ↔
      EachStep step (AcceptLoop.new config) es (fun _ r e => ¬ EndsTask r e) := by
  rw [← always_iff (I := fun _ r => AllUnfinished r)]
  · exact forall₃_congr (fun pre _ _ => limitsLive_iff (countsTasks_run config pre))
  · intro task htask
    cases htask
  · intro _ r e hr
    exact allUnfinished_step hr e

/-- The only client the relay may have connects, and closes its connection. -/
def visit : List Event :=
  [.incoming, .handshake 0 (.ok ()), .acceptBi 0 (.error .applicationClosed)]

theorem gone_still_counted :
    live (run step (AcceptLoop.new ⟨1⟩) visit) = 0 ∧
    (step (run step (AcceptLoop.new ⟨1⟩) visit) .incoming).1 = .rejected ∧
    ¬ ∀ pre post, visit = pre ++ post → LimitsLive (run step (AcceptLoop.new ⟨1⟩) pre) := by
  refine ⟨by decide, by decide, ?_⟩
  intro h
  have hactive := (h visit [] rfl).active
  revert hactive
  decide

end Netfusion.Relay.ConnectionLimit
