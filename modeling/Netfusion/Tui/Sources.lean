import Netfusion.Tui.Fetcher

namespace Netfusion.Tui.Sources

open Netfusion.Lib.Machine Netfusion.Lib.Calls Netfusion.Lib.Bincode Netfusion.Lib.Windows
open Netfusion.Shared Netfusion.Shared.Config Netfusion.Shared.Validate Netfusion.Shared.Types
open Netfusion.Shared.Ipc Netfusion.Shared.Wire
open Netfusion.Daemon.Server Netfusion.Daemon.ConfigStore
open Netfusion.Daemon.Conversation Netfusion.Daemon.Linearized Netfusion.Daemon.Client
open Netfusion.Tui.Fetcher

variable {F ι : Type} [DecidableEq ι]

/-- All that the application holds of the daemon has come in an update. -/
structure Shown (P : DataUpdate F → Prop) (app : App F) : Prop where
  status : ∀ s, app.status = some s → P (.status s)
  interfaces : app.interfaces = [] ∨ P (.interfaces app.interfaces)
  bonds : app.bonds = [] ∨ P (.bonds app.bonds)
  tunnels : app.tunnels = [] ∨ P (.tunnels app.tunnels)
  history : ∀ x ∈ app.healthHistory, ∃ u, P u ∧ x ∈ samples u

section

variable {P Q : DataUpdate F → Prop} {app : App F}

theorem shown_mono (hPQ : ∀ u, P u → Q u) (h : Shown P app) : Shown Q app where
  status s hs := hPQ _ (h.status s hs)
  interfaces := h.interfaces.imp_right (hPQ _)
  bonds := h.bonds.imp_right (hPQ _)
  tunnels := h.tunnels.imp_right (hPQ _)
  history x hx := by
    obtain ⟨u, hu, hmem⟩ := h.history x hx
    exact ⟨u, hPQ u hu, hmem⟩

/-- The part of the application that the keys leave alone. -/
def data (app : App F) :
    Option (SystemStatus F) × List (InterfaceInfo F) × List (BondState F) × List TunnelState ×
      List F :=
  (app.status, app.interfaces, app.bonds, app.tunnels, app.healthHistory)

theorem shown_data {app' : App F} (hdata : data app' = data app) (h : Shown P app) :
    Shown P app' := by
  simp only [data, Prod.mk.injEq] at hdata
  obtain ⟨hstatus, hinterfaces, hbonds, htunnels, hhistory⟩ := hdata
  constructor
  · rw [hstatus]
    exact h.status
  · rw [hinterfaces]
    exact h.interfaces
  · rw [hbonds]
    exact h.bonds
  · rw [htunnels]
    exact h.tunnels
  · rw [hhistory]
    exact h.history

theorem handleKey_data (app : App F) (e : TerminalEvent) : data (handleKey app e) = data app := by
  have hup : data app.selectInterfaceUp = data app := by
    rw [App.selectInterfaceUp]
    split <;> rfl
  have hdown : data app.selectInterfaceDown = data app := by
    rw [App.selectInterfaceDown]
    split <;> rfl
  cases e with
  | resize columns rows => rfl
  | other => rfl
  | key code press control =>
    simp only [handleKey]
    split
    · split
      · rfl
      · rfl
      · rfl
      · rfl
      · rfl
      · rfl
      · unfold tabKey
        split
        · unfold interfaceKey
          split
          · exact hup
          · exact hup
          · exact hdown
          · exact hdown
          · rfl
        · unfold logKey
          split
          · rfl
          · rfl
          · rfl
          · rfl
          · rfl
          · rfl
          · split <;> rfl
          · rfl
          · rfl
        · rfl
    · rfl

theorem foldl_history (app : App F) (scores : List F) :
    ∀ x ∈ (scores.foldl App.pushHealthSample app).healthHistory,
      x ∈ app.healthHistory ∨ x ∈ scores := by
  induction scores generalizing app with
  | nil => exact fun x hx => .inl hx
  | cons score scores ih =>
    intro x hx
    rcases ih (app.pushHealthSample score) x hx with hold | hnew
    · rw [App.pushHealthSample, keepLast_eq] at hold
      rcases List.mem_append.mp (List.mem_of_mem_drop hold) with hbefore | hlast
      · exact .inl hbefore
      · rw [List.mem_singleton.mp hlast]
        exact .inr (.head scores)
    · exact .inr (.tail score hnew)

theorem applyInterfaces_data (app : App F) (i : List (InterfaceInfo F)) :
    (app.applyInterfaces i).status = app.status ∧ (app.applyInterfaces i).interfaces = i ∧
      (app.applyInterfaces i).bonds = app.bonds ∧ (app.applyInterfaces i).tunnels = app.tunnels ∧
      ∀ x ∈ (app.applyInterfaces i).healthHistory,
        x ∈ app.healthHistory ∨ x ∈ samples (.interfaces i) := by
  simp only [App.applyInterfaces]
  rw [foldl_pushHealthSample_eq]
  have hhistory := foldl_history
    (if app.selectedInterfaceIdx ≥ i.length then
      { app with
        interfaces := i
        selectedInterfaceIdx := i.length - 1 }
    else { app with interfaces := i }) (samples (.interfaces i))
  split
  · rename_i hshort
    simp only [hshort, if_true] at hhistory
    exact ⟨rfl, rfl, rfl, rfl, hhistory⟩
  · rename_i hlong
    simp only [hlong, if_false] at hhistory
    exact ⟨rfl, rfl, rfl, rfl, hhistory⟩

theorem applyUpdate_shown (h : Shown P app) (now : DateTime) {u : DataUpdate F} (hu : P u) :
    Shown P (applyUpdate app now u) := by
  cases u with
  | status s =>
    simp only [applyUpdate, App.applyStatus]
    cases hhealth : s.health with
    | none =>
      refine ⟨?_, h.interfaces, h.bonds, h.tunnels, h.history⟩
      rintro _ ⟨⟩
      exact hu
    | some score =>
      refine ⟨?_, h.interfaces, h.bonds, h.tunnels, ?_⟩
      · rintro _ ⟨⟩
        exact hu
      · intro x hx
        rcases foldl_history app [score.overall] x hx with hold | hnew
        · exact h.history x hold
        · refine ⟨_, hu, ?_⟩
          simpa [samples, hhealth] using hnew
  | interfaces i =>
    obtain ⟨hstatus, hinterfaces, hbonds, htunnels, hhistory⟩ := applyInterfaces_data app i
    simp only [applyUpdate]
    constructor
    · rw [hstatus]
      exact h.status
    · rw [hinterfaces]
      exact .inr hu
    · rw [hbonds]
      exact h.bonds
    · rw [htunnels]
      exact h.tunnels
    · intro x hx
      rcases hhistory x hx with hold | hnew
      · exact h.history x hold
      · exact ⟨_, hu, hnew⟩
  | bonds b => exact ⟨h.status, h.interfaces, .inr hu, h.tunnels, h.history⟩
  | tunnels t => exact ⟨h.status, h.interfaces, h.bonds, .inr hu, h.history⟩
  | loading l =>
    refine shown_data ?_ h
    cases l <;> rfl
  | error e =>
    refine shown_data ?_ h
    rfl

theorem step_shown {t : MainLoop F} (h : Shown P t.app) (i : Input F)
    (hi : ∀ now u, i = .update now u → P u) : Shown P (Tui.step t i).2.app := by
  unfold Tui.step
  split
  · cases i with
    | update now u => exact applyUpdate_shown h now (hi now u rfl)
    | event e => exact shown_data (handleKey_data t.app e) h
    | tick drawn =>
      refine shown_data ?_ h
      simp only [App.takeDirty]
      cases t.app.dirty with
      | false => rfl
      | true => cases drawn <;> rfl
    | resize area => exact h
  · exact h

end

section

variable {fmt : Format F} {display : ValidationErrors → String}
  {parse : String → Except String (NetfusionConfig F)} {path : String}
  {decode : List UInt8 → Option (WireMessage (DaemonRequest F))}
  {decodeAnswer : List UInt8 → Except Error (WireMessage (DaemonResponse F))}
  {displayError : Error → String} {me : ι}

/-- An update that carries data was received as an answer. -/
def Backed (me : ι) (os : List (Happened ι F)) : DataUpdate F → Prop
  | .status s => .ok (some (.status s)) ∈ received me os
  | .interfaces i => .ok (some (.interfaces i)) ∈ received me os
  | .bonds b => .ok (some (.bonds b)) ∈ received me os
  | .tunnels t => .ok (some (.tunnels t)) ∈ received me os
  | .loading _ => True
  | .error _ => True

theorem backed_append {os : List (Happened ι F)} (more : List (Happened ι F)) {u : DataUpdate F}
    (h : Backed me os u) : Backed me (os ++ more) u := by
  have hkeep : ∀ r ∈ received me os, r ∈ received me (os ++ more) := by
    intro r hr
    rw [received, List.filterMap_append]
    exact List.mem_append_left _ hr
  cases u with
  | loading l => trivial
  | error e => trivial
  | _ => exact hkeep _ h

theorem update_backed {os : List (Happened ι F)} (f : Fetch)
    {r : Except IpcError (DaemonResponse F)} (hr : ∀ a, r = .ok a → a ∈ received me os)
    {u : DataUpdate F} (h : f.update displayError r = some u) : Backed me os u := by
  cases f with
  | status =>
    simp only [Fetch.update] at h
    split at h
    · rename_i s hs
      cases h
      exact hr _ (getStatus_ok hs)
    · cases h
      trivial
  | interfaces =>
    simp only [Fetch.update] at h
    split at h
    · rename_i i hi
      cases h
      exact hr _ (getInterfaces_ok hi)
    · cases h
      trivial
  | bonds =>
    simp only [Fetch.update] at h
    split at h
    · rename_i b hb
      cases h
      exact hr _ (getBonds_ok hb)
    · cases h
  | tunnels =>
    simp only [Fetch.update] at h
    split at h
    · rename_i t ht
      cases h
      exact hr _ (getTunnels_ok ht)
    · cases h

/-- Everything on its way to the screen was received by the fetcher. -/
structure Sourced (me : ι) (os : List (Passed ι F)) (s : System ι F) : Prop where
  phase : ∀ f a, s.phase = .report f (.ok a) → a ∈ received me ((passed os).map Prod.snd)
  channel : ∀ u ∈ s.channel, Backed me ((passed os).map Prod.snd) u
  shown : Shown (Backed me ((passed os).map Prod.snd)) s.tui.app

omit [DecidableEq ι] in
theorem passed_concat (os : List (Passed ι F)) (o : Passed ι F) :
    (passed (os ++ [o])).map Prod.snd = (passed os).map Prod.snd ++ (o.map Prod.snd).toList := by
  rw [passed, filterMap_concat, ← passed, List.map_append]
  cases o <;> rfl

theorem received_append (os more : List (Happened ι F)) {a : DaemonResponse F}
    (h : a ∈ received me os) : a ∈ received me (os ++ more) := by
  rw [received, List.filterMap_append]
  exact List.mem_append_left _ h

theorem sourced_passed {os : List (Passed ι F)} {s : System ι F} (h : Sourced me os s)
    (o : Passed ι F) (d : State ι F) : Sourced me (os ++ [o]) { s with daemon := d } := by
  constructor
  · intro f a hphase
    rw [passed_concat]
    exact received_append _ _ (h.phase f a hphase)
  · intro u hu
    rw [passed_concat]
    exact backed_append _ (h.channel u hu)
  · rw [passed_concat]
    exact shown_mono (fun u hu => backed_append _ hu) h.shown

theorem sourced_phase {os : List (Passed ι F)} {s : System ι F} (h : Sourced me os s)
    {next : Phase F}
    (hnext : ∀ f a, next = .report f (.ok a) → a ∈ received me ((passed os).map Prod.snd)) :
    Sourced me os { s with phase := next } := ⟨hnext, h.channel, h.shown⟩

theorem sourced_send {os : List (Passed ι F)} {s : System ι F} (h : Sourced me os s)
    {u : DataUpdate F} (hu : Backed me ((passed os).map Prod.snd) u) {next : Phase F}
    (hnext : ∀ f a, next = .report f (.ok a) → a ∈ received me ((passed os).map Prod.snd)) :
    Sourced me os (s.send u next) := by
  rw [System.send]
  split
  · refine ⟨hnext, ?_, h.shown⟩
    intro u' hu'
    rcases List.mem_append.mp hu' with hold | hnew
    · exact h.channel u' hold
    · rw [List.mem_singleton.mp hnew]
      exact hu
  · exact h

theorem next_call (f : Fetch) (g : Fetch) (r : Except IpcError (DaemonResponse F)) :
    (f.next : Phase F) ≠ .report g r := by
  cases f <;> exact fun h => by cases h

theorem returned_own (d : State ι F) (e : Daemon.Conversation.Event ι F) (he : isOwn me e = true)
    {i : ι} {r : Except IpcError (DaemonResponse F)}
    (h : (Daemon.Conversation.step fmt display parse path decode decodeAnswer d e).1 =
      .returned i r) : i = me := by
  cases e with
  | request j id now q =>
    have hj : j = me := by simpa [isOwn] using he
    simp only [Daemon.Conversation.step, send] at h
    split at h
    · cases h
    · split at h
      · cases h
        exact hj
      · split at h
        · cases h
          exact hj
        · cases h
  | receive j =>
    have hj : j = me := by simpa [isOwn] using he
    have hended : (receive.ended d j).1 = .returned i r → i = j := by
      intro hreturned
      rw [receive.ended] at hreturned
      split at hreturned
      · cases hreturned
        rfl
      · cases hreturned
    simp only [Daemon.Conversation.step, receive] at h
    split at h
    · split at h
      · exact (hended h).trans hj
      · split at h
        · exact (hended h).trans hj
        · cases h
          exact hj
    · cases h
  | handle j x => cases he
  | lose j => cases he
  | background y => cases he

/-- An answer that the fetcher is about to report is one it has just received. -/
theorem talk_sourced {os : List (Passed ι F)} {s : System ι F} (h : Sourced me os s) (f : Fetch)
    (stay : Phase F) (hstay : ∀ g a, stay ≠ .report g (.ok a))
    (e : Daemon.Conversation.Event ι F) (he : isOwn me e = true) :
    let o := (s.talk fmt display parse path decode decodeAnswer e).1
    Sourced me (os ++ [some (e, o)])
      { (s.talk fmt display parse path decode decodeAnswer e).2 with
        phase := Phase.after f stay o } := by
  intro o
  apply sourced_phase (sourced_passed h (some (e, o)) _)
  intro g a hafter
  rw [passed_concat]
  cases ho : o with
  | returned i r =>
    rw [ho, Phase.after] at hafter
    cases hafter
    rw [returned_own s.daemon e he ho, received, List.filterMap_append]
    exact List.mem_append_right _ (by simp [receivedBy])
  | called i m =>
    rw [ho] at hafter
    cases hafter
  | took i x m w =>
    rw [ho] at hafter
    exact absurd hafter (hstay g a)
  | changed y w =>
    rw [ho] at hafter
    exact absurd hafter (hstay g a)
  | nothing =>
    rw [ho] at hafter
    exact absurd hafter (hstay g a)

variable (fmt display parse path decode decodeAnswer displayError) in
theorem fetch_sourced {os : List (Passed ι F)} {s : System ι F} (h : Sourced me os s) (id : Uuid)
    (now : DateTime) :
    let p := fetch fmt display parse path decode decodeAnswer displayError me s id now
    Sourced me (os ++ [p.1]) p.2 := by
  have hquiet : Sourced me (os ++ [none]) s := sourced_passed h none s.daemon
  simp only [fetch]
  cases hphase : s.phase with
  | sleeping => exact sourced_phase hquiet (fun f a hf => by cases hf)
  | begin => exact sourced_send (u := .loading true) hquiet trivial (fun f a hf => by cases hf)
  | call f => exact talk_sourced h f (.call f) (fun g a hg => by cases hg) _ (by simp [isOwn])
  | waiting f => exact talk_sourced h f (.waiting f) (fun g a hg => by cases hg) _ (by simp [isOwn])
  | report f r =>
    simp only
    cases hupdate : f.update displayError r with
    | none => exact sourced_phase hquiet (fun g a hg => absurd hg (next_call f g _))
    | some u =>
      apply sourced_send hquiet
      · apply update_backed f _ hupdate
        rintro a rfl
        exact hquiet.phase f a hphase
      · exact fun g a hg => absurd hg (next_call f g _)
  | finish => exact sourced_send (u := .loading false) hquiet trivial (fun f a hf => by cases hf)

variable (fmt display parse path decode decodeAnswer displayError) in
theorem step_sourced {os : List (Passed ι F)} {s : System ι F} (h : Sourced me os s)
    (e : SystemEvent ι F) :
    let p := Fetcher.step fmt display parse path decode decodeAnswer displayError me s e
    Sourced me (os ++ [p.1]) p.2 := by
  have hquiet : Sourced me (os ++ [none]) s := sourced_passed h none s.daemon
  cases e with
  | daemon e =>
    simp only [Fetcher.step]
    split
    · exact hquiet
    · exact sourced_passed h _ _
  | fetch id now =>
    exact fetch_sourced fmt display parse path decode decodeAnswer displayError h id now
  | update now =>
    simp only [Fetcher.step]
    split
    · cases hchannel : s.channel with
      | nil => exact hquiet
      | cons u rest =>
        have hall := hquiet.channel
        rw [hchannel] at hall
        refine ⟨hquiet.phase, fun u' hu' => hall u' (.tail u hu'), ?_⟩
        apply step_shown hquiet.shown
        rintro _ _ ⟨⟩
        exact hall u (.head rest)
    · exact hquiet
  | event e =>
    refine ⟨hquiet.phase, hquiet.channel, step_shown hquiet.shown (.event e) ?_⟩
    rintro _ _ ⟨⟩
  | tick drawn =>
    refine ⟨hquiet.phase, hquiet.channel, step_shown hquiet.shown (.tick drawn) ?_⟩
    rintro _ _ ⟨⟩
  | resize area =>
    refine ⟨hquiet.phase, hquiet.channel, step_shown hquiet.shown (.resize area) ?_⟩
    rintro _ _ ⟨⟩

variable (fmt display parse path decode decodeAnswer displayError me) in
theorem run_sourced (server : IpcServer F) (area : Size)
    (es : List (SystemEvent ι F)) :
    Sourced me (outputs (Fetcher.step fmt display parse path decode decodeAnswer displayError me)
        (Fetcher.start server area) es)
      (run (Fetcher.step fmt display parse path decode decodeAnswer displayError me)
        (Fetcher.start server area)
        es) := by
  apply run_always (J := fun os s => Sourced me os s)
  · constructor
    · intro f a hphase
      cases hphase
    · intro u hu
      cases hu
    · constructor
      · intro s hs
        cases hs
      · exact .inl rfl
      · exact .inl rfl
      · exact .inl rfl
      · intro x hx
        cases hx
  · intro os s e h
    exact step_sourced fmt display parse path decode decodeAnswer displayError h e

end

end Netfusion.Tui.Sources
