import Netfusion.Daemon.ConfigStore

namespace Netfusion.Daemon.ConfigReload

open Netfusion.Lib.Machine
open Netfusion.Shared.Config Netfusion.Shared.Validate Netfusion.Shared.Types
open Netfusion.Shared.Events
open Netfusion.Daemon.Server Netfusion.Daemon.ConfigStore

/-- How far a spawned reload has come. -/
inductive Task where
  | spawned
  | holding (file : ConfigFile)
  | finished

variable {F : Type}

/-- The file, the shared state, and the reloads in the order they were spawned. -/
structure Watcher (F : Type) where
  file : ConfigFile
  server : IpcServer F
  tasks : List Task

inductive Event where
  | modified (file : ConfigFile)
  | notified
  | reads (k : Nat)
  | stores (k : Nat) (now : DateTime)

variable (parse : String → Except String (NetfusionConfig F))
  (display : ValidationErrors → String) (path : String)

/-- A reload reads the file, and in a step of its own it stores what it has
read. A step that is not its next one does nothing. -/
def step (w : Watcher F) : Event → Option (Except String (NetfusionEvent F)) × Watcher F
  | .modified file => (none, { w with file := file })
  | .notified => (none, { w with tasks := w.tasks ++ [.spawned] })
  | .reads k =>
    match w.tasks[k]? with
    | some .spawned => (none, { w with tasks := w.tasks.set k (.holding w.file) })
    | _ => (none, w)
  | .stores k now =>
    match w.tasks[k]? with
    | some (.holding file) =>
      let (result, server) := handleConfigChange parse display path now file w.server
      (some result, { w with server := server, tasks := w.tasks.set k .finished })
    | _ => (none, w)

def reloaded : ConfigFile → Option (NetfusionConfig F)
  | .content text => (parse text).toOption
  | .missing => none
  | .unreadable _ => none

def stored (w : Watcher F) : Event → Option (NetfusionConfig F)
  | .stores k _ =>
    match w.tasks[k]? with
    | some (.holding file) => reloaded parse file
    | _ => none
  | _ => none

def AllFinished (w : Watcher F) : Prop := ∀ task ∈ w.tasks, task = .finished

/-- Every modification is followed by a notification. -/
def Notified (evs : List Event) : Prop :=
  ∀ pre file post, evs = pre ++ .modified file :: post → .notified ∈ post

/-- Every store of another configuration is followed by one of `c`. -/
def Overtaken (c : NetfusionConfig F) (w : Watcher F) (evs : List Event) : Prop :=
  ∀ front c' back, writes (step parse display path) (stored parse) w evs = front ++ c' :: back →
    c' ≠ c → c ∈ back

/-- The task has still to store what the file now holds. -/
def Pending (k : Nat) (file : ConfigFile) (w : Watcher F) : Prop :=
  w.file = file ∧ (w.tasks[k]? = some .spawned ∨ w.tasks[k]? = some (.holding file))

def Modifies : Event → Prop
  | .modified _ => True
  | _ => False

theorem offered_fileChanged (now : DateTime) (file : ConfigFile) :
    offered parse (.fileChanged now file) = reloaded parse file := by
  cases file <;> rfl

theorem startUp_config {file : ConfigFile} {found : List (InterfaceInfo F)} {clock : Nat}
    {s : IpcServer F} (hs : startUp parse file found clock = .ok s) {c : NetfusionConfig F}
    (hc : reloaded parse file = some c) : s.config = c := by
  cases file with
  | missing => cases hc
  | unreadable e => cases hc
  | content text =>
    cases h : parse text with
    | error e => simp [reloaded, h, Except.toOption] at hc
    | ok c' =>
      simp only [reloaded, h, Except.toOption, Option.some.injEq] at hc
      simp only [startUp, loadConfig, h, Except.map, Except.ok.injEq] at hs
      rw [← hs]
      exact hc

theorem step_stored (w : Watcher F) (e : Event) :
    (step parse display path w e).2.server.config = (stored parse w e).getD w.server.config := by
  cases e with
  | modified file => rfl
  | notified => rfl
  | reads k =>
    simp only [step]
    split <;> rfl
  | stores k now =>
    simp only [step, stored]
    split
    · rename_i file hk
      rw [← offered_fileChanged parse now file]
      exact handleConfigChange_config parse display path now file w.server
    · rfl

theorem step_file (w : Watcher F) (e : Event) (he : ¬ Modifies e) :
    (step parse display path w e).2.file = w.file := by
  cases e with
  | modified file => exact absurd trivial he
  | notified => rfl
  | reads k =>
    simp only [step]
    split <;> rfl
  | stores k now =>
    simp only [step]
    split <;> rfl

theorem file_run (w : Watcher F) (evs : List Event) (h : ∀ e ∈ evs, ¬ Modifies e) :
    (run (step parse display path) w evs).file = w.file := by
  induction evs generalizing w with
  | nil => rfl
  | cons e evs ih =>
    refine (ih _ (fun f hf => h f (.tail e hf))).trans ?_
    exact step_file parse display path w e (h e (.head evs))

theorem step_otherTask {j k : Nat} (hj : j ≠ k) (w : Watcher F) {e : Event}
    (he : e = .reads j ∨ ∃ now, e = .stores j now) :
    (step parse display path w e).2.tasks[k]? = w.tasks[k]? := by
  obtain rfl | ⟨now, rfl⟩ := he
  · simp only [step]
    split
    · exact List.getElem?_set_ne hj
    · rfl
  · simp only [step]
    split
    · exact List.getElem?_set_ne hj
    · rfl

theorem pending_step {k : Nat} {file : ConfigFile} {w : Watcher F} (h : Pending k file w) (e : Event)
    (he : ¬ Modifies e) :
    stored parse w e = reloaded parse file ∨ Pending k file (step parse display path w e).2 := by
  obtain ⟨hfile, hk⟩ := h
  have hfile' := (step_file parse display path w e he).trans hfile
  have hlt : k < w.tasks.length := by
    by_contra hge
    rw [List.getElem?_eq_none (not_lt.mp hge)] at hk
    simp at hk
  cases e with
  | modified file => exact absurd trivial he
  | notified =>
    refine .inr ⟨hfile', ?_⟩
    simpa only [step, List.getElem?_append_left hlt] using hk
  | reads j =>
    refine .inr ⟨hfile', ?_⟩
    by_cases hj : j = k
    · subst hj
      simp only [step]
      obtain hk | hk := hk
      · simp only [hk, List.getElem?_set_self hlt, hfile, or_true]
      · simp only [hk, or_true]
    · rw [step_otherTask parse display path hj w (.inl rfl)]
      exact hk
  | stores j now =>
    by_cases hj : j = k
    · subst hj
      obtain hk | hk := hk
      · refine .inr ⟨hfile', ?_⟩
        simp only [step, hk, true_or]
      · left
        simp only [stored, hk]
    · refine .inr ⟨hfile', ?_⟩
      rw [step_otherTask parse display path hj w (.inr ⟨now, rfl⟩)]
      exact hk

theorem pending_run {k : Nat} {file : ConfigFile} {c : NetfusionConfig F}
    (hc : reloaded parse file = some c) (evs : List Event) (hevs : ∀ e ∈ evs, ¬ Modifies e)
    (w : Watcher F) (h : Pending k file w) :
    c ∈ writes (step parse display path) (stored parse) w evs ∨
      Pending k file (run (step parse display path) w evs) := by
  induction evs generalizing w with
  | nil => exact .inr h
  | cons e evs ih =>
    rw [writes, run]
    obtain hstore | hnext := pending_step parse display path h e (hevs e (.head evs))
    · rw [hstore, hc]
      exact .inl (.head _)
    · obtain hmem | hpending := ih (fun f hf => hevs f (.tail e hf)) _ hnext
      · exact .inl (List.mem_append_right _ hmem)
      · exact .inr hpending

theorem not_pending_of_finished {k : Nat} {file : ConfigFile} {w : Watcher F} (h : AllFinished w) :
    ¬ Pending k file w := by
  rintro ⟨-, hk | hk⟩ <;> cases h _ (List.mem_of_getElem? hk)

theorem last_modification (evs : List Event) :
    (∀ e ∈ evs, ¬ Modifies e) ∨
    ∃ pre file post, evs = pre ++ .modified file :: post ∧ ∀ e ∈ post, ¬ Modifies e := by
  induction evs with
  | nil =>
    left
    intro e he
    cases he
  | cons e evs ih =>
    obtain hnone | ⟨pre, file, post, rfl, hpost⟩ := ih
    · by_cases he : Modifies e
      · cases e with
        | modified file => exact .inr ⟨[], file, evs, rfl, hnone⟩
        | notified => cases he
        | reads k => cases he
        | stores k now => cases he
      · left
        intro f hf
        cases hf with
        | head => exact he
        | tail _ hf => exact hnone f hf
    · exact .inr ⟨e :: pre, file, post, rfl, hpost⟩

/-- Once all reloads are finished, one of them has stored the final file. -/
theorem final_stored {w : Watcher F} {evs : List Event} (hnotified : Notified evs)
    (hdone : AllFinished (run (step parse display path) w evs)) {c : NetfusionConfig F}
    (hc : reloaded parse (run (step parse display path) w evs).file = some c) :
    (∀ e ∈ evs, ¬ Modifies e) ∨ c ∈ writes (step parse display path) (stored parse) w evs := by
  obtain hnone | ⟨pre, file, post, rfl, hpost⟩ := last_modification evs
  · exact .inl hnone
  right
  obtain ⟨mid, back, rfl⟩ := List.append_of_mem (hnotified pre file post rfl)
  have hsplit : pre ++ .modified file :: (mid ++ .notified :: back) =
      (pre ++ .modified file :: mid) ++ .notified :: back := by simp
  rw [hsplit, run_append] at hdone hc
  rw [hsplit, writes_append]
  have hback : ∀ e ∈ back, ¬ Modifies e :=
    fun e he => hpost e (List.mem_append_right mid (.tail _ he))
  generalize run (step parse display path) w (pre ++ .modified file :: mid) = t at hdone hc ⊢
  have hfile : (run (step parse display path) t (.notified :: back)).file = t.file := by
    apply file_run
    intro e he
    cases he with
    | head => exact id
    | tail _ he => exact hback e he
  rw [hfile] at hc
  have hpending : Pending t.tasks.length t.file (step parse display path t .notified).2 :=
    ⟨rfl, .inl (by simp [step])⟩
  obtain hmem | hpending := pending_run parse display path hc back hback _ hpending
  · exact List.mem_append_right _ (List.mem_append_right _ hmem)
  · exact absurd hpending (not_pending_of_finished hdone)

/-- The store ends with the final configuration exactly when no reload stores
another one after the last reload of it. -/
theorem newest_kept_iff (file : ConfigFile) (found : List (InterfaceInfo F)) (clock : Nat)
    (s : IpcServer F) (hs : startUp parse file found clock = .ok s) (evs : List Event)
    (hnotified : Notified evs)
    (hdone : AllFinished (run (step parse display path) ⟨file, s, []⟩ evs)) (c : NetfusionConfig F)
    (hc : reloaded parse (run (step parse display path) ⟨file, s, []⟩ evs).file = some c) :
    (run (step parse display path) ⟨file, s, []⟩ evs).server.config = c ↔
      Overtaken parse display path c ⟨file, s, []⟩ evs := by
  have hconfig := register_run (step parse display path) (stored parse)
    (g := fun w : Watcher F => w.server.config) (step_stored parse display path) ⟨file, s, []⟩ evs
  rw [hconfig, Overtaken]
  apply getLast?_getD_eq_iff
  intro hempty
  obtain hnone | hmem := final_stored parse display path hnotified hdone hc
  · rw [file_run parse display path _ evs hnone] at hc
    exact startUp_config parse hs hc
  · rw [hempty] at hmem
    cases hmem

theorem notified_nil : Notified [] := by
  intro pre file post h
  simp at h

theorem notified_cons {e : Event} {evs : List Event} (he : Modifies e → .notified ∈ evs)
    (h : Notified evs) : Notified (e :: evs) := by
  intro pre file post heq
  cases pre with
  | nil =>
    obtain ⟨rfl, rfl⟩ := List.cons.inj heq
    exact he trivial
  | cons f pre =>
    obtain ⟨rfl, rfl⟩ := List.cons.inj heq
    exact h pre file post rfl

def plainText : String :=
  "schema_version = 1\nbonds = []\npolicies = []\ntunnels = []\n[profiles]\n[daemon]\n" ++
  "[interfaces]\nselectors = []\nmanaged = []\nexclude = []\n"

def dryRunText : String :=
  "schema_version = 1\nbonds = []\npolicies = []\n" ++
  "tunnels = []\n[profiles]\n[daemon]\ndry_run = true\n" ++
  "[interfaces]\nselectors = []\nmanaged = []\nexclude = []\n"

def dryRunConfig : NetfusionConfig ℚ :=
  { NetfusionConfig.default ℚ with daemon := { DaemonConfig.default with dryRun := true } }

def parseTwo (text : String) : Except String (NetfusionConfig ℚ) :=
  if text = plainText then .ok (NetfusionConfig.default ℚ)
  else if text = dryRunText then .ok dryRunConfig
  else .error "expected a table"

/-- The first reload has read the plain file and stores it after the second
one has stored the newer file. -/
def lateStore : List Event :=
  [.modified (.content plainText), .notified, .reads 0, .modified (.content dryRunText), .notified,
    .reads 1, .stores 1 0, .stores 0 0]

def plainServer : IpcServer ℚ := ⟨[], NetfusionConfig.default ℚ, 0⟩

def lateWatcher : Watcher ℚ :=
  run (step parseTwo (fun _ => "") "/etc/netfusion/netfusion.toml")
    ⟨.content plainText, plainServer, []⟩ lateStore

theorem lateStore_notified : Notified lateStore := by
  repeat' apply notified_cons
  all_goals simp [Modifies, notified_nil]

theorem parseTwo_dryRun : parseTwo dryRunText = .ok dryRunConfig := by
  have hne : dryRunText ≠ plainText := by decide
  rw [parseTwo, if_neg hne, if_pos rfl]

theorem lateWatcher_eq : lateWatcher =
    ⟨.content dryRunText, plainServer, [.finished, .finished]⟩ := by
  have hplain : parseTwo plainText = .ok (NetfusionConfig.default ℚ) := if_pos rfl
  have hfirst := fun s => handleConfigChange_content parseTwo (fun _ => "")
    "/etc/netfusion/netfusion.toml" 0 plainText s (NetfusionConfig.default ℚ) hplain
  have hsecond := fun s => handleConfigChange_content parseTwo (fun _ => "")
    "/etc/netfusion/netfusion.toml" 0 dryRunText s dryRunConfig parseTwo_dryRun
  simp [lateWatcher, lateStore, run, step, hfirst, hsecond, plainServer]

theorem lateWatcher_finished : AllFinished lateWatcher := by
  simp [AllFinished, lateWatcher_eq]

theorem lateWatcher_reloaded : reloaded parseTwo lateWatcher.file = some dryRunConfig := by
  rw [lateWatcher_eq, reloaded, parseTwo_dryRun]
  rfl

theorem newest_lost :
    startUp parseTwo (.content plainText) [] 0 = .ok plainServer ∧ Notified lateStore ∧
    AllFinished lateWatcher ∧ reloaded parseTwo lateWatcher.file = some dryRunConfig ∧
    lateWatcher.server.config ≠ dryRunConfig := by
  refine ⟨rfl, lateStore_notified, lateWatcher_finished, lateWatcher_reloaded, ?_⟩
  rw [lateWatcher_eq]
  intro h
  have hdry := congrArg (fun c : NetfusionConfig ℚ => c.daemon.dryRun) h
  cases hdry

theorem newest_kept_iff_late :
    lateWatcher.server.config = dryRunConfig ↔
      Overtaken parseTwo (fun _ => "") "/etc/netfusion/netfusion.toml" dryRunConfig
        ⟨.content plainText, plainServer, []⟩ lateStore :=
  newest_kept_iff parseTwo (fun _ => "") "/etc/netfusion/netfusion.toml" (.content plainText) [] 0
    plainServer rfl lateStore lateStore_notified lateWatcher_finished dryRunConfig
    lateWatcher_reloaded

end Netfusion.Daemon.ConfigReload
