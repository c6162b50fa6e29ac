import Mathlib.Data.Rat.Defs
import Netfusion.Tui.App

namespace Netfusion.Tui

open Netfusion.Lib.Machine Netfusion.Lib.Windows
open Netfusion.Shared.Types Netfusion.Shared.Events

structure Size where
  width : UInt16
  height : UInt16
deriving DecidableEq

/-- What the rendering reads, the area of the frame first. -/
structure View (F : Type) where
  area : Size
  selectedTab : Nat
  isLoading : Bool
  connected : Bool
  status : Option (SystemStatus F)
  healthHistory : List F
  interfaces : List (InterfaceInfo F)
  interfaceScrollPos : Nat
  selectedInterfaceIdx : Nat
  bonds : List (BondState F)
  events : List (NetfusionEvent F)
  logScrollPos : Nat
  lastRefresh : Option DateTime

variable {F : Type}

def view (area : Size) (app : App F) : View F where
  area := area
  selectedTab := app.selectedTab
  isLoading := app.isLoading
  connected := app.connected
  status := app.status
  healthHistory := app.healthHistory
  interfaces := app.interfaces
  interfaceScrollPos := app.interfaceScrollPos
  selectedInterfaceIdx := app.selectedInterfaceIdx
  bonds := app.bonds
  events := app.events
  logScrollPos := app.logScrollPos
  lastRefresh := app.lastRefresh

def View.detail (v : View F) : Option (InterfaceInfo F) := v.interfaces[v.selectedInterfaceIdx]?

/-- The application, the size of the terminal, what was drawn last, and whether
the last drawing failed. -/
structure MainLoop (F : Type) where
  app : App F
  area : Size
  screen : Option (View F)
  failed : Bool

/-- A branch of the main loop, or the terminal has another size. -/
inductive Input (F : Type) where
  | update (now : DateTime) (u : DataUpdate F)
  | event (e : TerminalEvent)
  | tick (drawn : Except String Unit)
  | resize (area : Size)

/-- The terminal has another size or says so, or a redraw could be made. -/
def Input.quiet : Input F → Bool
  | .resize _ => true
  | .event (.resize _ _) => true
  | .tick _ => true
  | _ => false

def samples : DataUpdate F → List F
  | .status s => (s.health.map HealthScore.overall).toList
  | .interfaces i => i.filterMap (fun iface => iface.health.map HealthScore.overall)
  | _ => []

/-- One step of the main loop, with the samples it takes in. A frame is drawn
for the size that the terminal has then. -/
def step (t : MainLoop F) (i : Input F) : List F × MainLoop F :=
  if t.app.running then
    match i with
    | .update now u => (samples u, { t with app := applyUpdate t.app now u })
    | .event e => ([], { t with app := handleKey t.app e })
    | .tick drawn =>
      match t.app.takeDirty with
      | (false, app) => ([], { t with app := app })
      | (true, app) =>
        match drawn with
        | .ok _ => ([], ⟨app, t.area, some (view t.area app), false⟩)
        | .error _ => ([], { t with app := app, failed := true })
    | .resize area => ([], { t with area := area })
  else ([], t)

def start (connect : Except String Unit) (area : Size) : MainLoop F :=
  let app := match connect with
    | .ok _ => { App.new with connected := true }
    | .error e => { App.new with error := some s!"Daemon not running: {e}" }
  ⟨app.setLoading true, area, none, false⟩

section

/-- A change that could be seen asks for a redraw. -/
def Marked (app app' : App F) : Prop :=
  app'.dirty = true ∨ (app'.dirty = app.dirty ∧ ∀ area, view area app' = view area app)

theorem marked_refl (app : App F) : Marked app app := .inr ⟨rfl, fun _ => rfl⟩

theorem marked_markDirty (app app' : App F) : Marked app app'.markDirty := .inl rfl

theorem marked_ite {app a b : App F} {p : Prop} [Decidable p] (ha : Marked app a)
    (hb : Marked app b) : Marked app (if p then a else b) := by
  split
  · exact ha
  · exact hb

theorem interfaceKey_marked (app : App F) (code : KeyCode) :
    Marked app (interfaceKey app code) := by
  unfold interfaceKey
  split
  · exact marked_ite (marked_markDirty app _) (marked_refl app)
  · exact marked_ite (marked_markDirty app _) (marked_refl app)
  · exact marked_ite (marked_markDirty app _) (marked_refl app)
  · exact marked_ite (marked_markDirty app _) (marked_refl app)
  · exact marked_refl app

theorem logKey_marked (app : App F) (code : KeyCode) (control : Bool) :
    Marked app (logKey app code control) := by
  unfold logKey
  split
  · exact marked_markDirty app _
  · exact marked_markDirty app _
  · exact marked_markDirty app _
  · exact marked_markDirty app _
  · exact marked_markDirty app _
  · exact marked_markDirty app _
  · exact marked_ite (marked_markDirty app _) (marked_markDirty app _)
  · exact marked_markDirty app _
  · exact marked_refl app

theorem tabKey_marked (app : App F) (code : KeyCode) (control : Bool) :
    Marked app (tabKey app code control) := by
  unfold tabKey
  split
  · exact interfaceKey_marked app code
  · exact logKey_marked app code control
  · exact marked_refl app

theorem handleKey_marked (app : App F) (e : TerminalEvent) : Marked app (handleKey app e) := by
  cases e with
  | resize columns rows => exact marked_refl app
  | other => exact marked_refl app
  | key code press control =>
    simp only [handleKey]
    split
    · split
      · exact .inr ⟨rfl, fun _ => rfl⟩
      · exact marked_markDirty app _
      · exact marked_markDirty app _
      · exact marked_markDirty app _
      · exact marked_markDirty app _
      · exact .inr ⟨rfl, fun _ => rfl⟩
      · exact tabKey_marked app _ control
    · exact marked_refl app

theorem applyUpdate_marked (app : App F) (now : DateTime) (u : DataUpdate F) :
    Marked app (applyUpdate app now u) := by
  apply Or.inl
  cases u with
  | loading l => cases l <;> rfl
  | _ => rfl

end

/-- The screen shows the application as it is, for some size of the terminal. -/
def Current (t : MainLoop F) : Prop :=
  t.app.dirty = false → t.failed = false → ∃ area, t.screen = some (view area t.app)

theorem current_marked {t : MainLoop F} {app : App F} (h : Current t) (hm : Marked t.app app) :
    Current { t with app := app } := by
  intro hclean hdrawn
  rcases hm with hdirty | ⟨hsame, hview⟩
  · cases hdirty.symm.trans hclean
  · obtain ⟨area, hscreen⟩ := h (hsame.symm.trans hclean) hdrawn
    refine ⟨area, ?_⟩
    rw [hview]
    exact hscreen

theorem step_current (t : MainLoop F) (i : Input F) (h : Current t) : Current (step t i).2 := by
  unfold step
  split
  · cases i with
    | update now u => exact current_marked h (applyUpdate_marked t.app now u)
    | event e => exact current_marked h (handleKey_marked t.app e)
    | tick drawn =>
      simp only [App.takeDirty]
      cases hdirty : t.app.dirty with
      | false =>
        apply current_marked h
        exact .inr ⟨hdirty.symm, fun _ => rfl⟩
      | true =>
        cases drawn with
        | ok _ =>
          intro _ _
          exact ⟨t.area, rfl⟩
        | error e =>
          intro _ hdrawn
          cases hdrawn
    | resize area => exact h
  · exact h

theorem step_screen (t : MainLoop F) (i : Input F) (hclean : t.app.dirty = false) :
    (step t i).2.screen = t.screen := by
  unfold step
  split
  · cases i with
    | tick drawn =>
      simp only [App.takeDirty, hclean]
    | _ => rfl
  · rfl

theorem run_screen (t : MainLoop F) (is : List (Input F))
    (hclean : ∀ pre post, is = pre ++ post → (run step t pre).app.dirty = false) :
    (run step t is).screen = t.screen := by
  induction is using List.reverseRecOn with
  | nil => rfl
  | append_singleton is i ih =>
    rw [run_concat, step_screen _ i (hclean is [i] rfl)]
    apply ih
    intro pre post hsplit
    apply hclean pre (post ++ [i])
    rw [hsplit, List.append_assoc]

theorem step_quiet {t : MainLoop F} {i : Input F} (hclean : t.app.dirty = false)
    (hquiet : i.quiet = true) : (step t i).2.app = t.app ∧ (step t i).2.screen = t.screen := by
  refine ⟨?_, step_screen t i hclean⟩
  have htaken : { t.app with dirty := false } = t.app := by rw [← hclean]
  unfold step
  split
  · cases i with
    | update now u => cases hquiet
    | event e =>
      cases e with
      | key code press control => cases hquiet
      | resize columns rows => rfl
      | other => cases hquiet
    | tick drawn =>
      simp only [App.takeDirty, hclean]
      exact htaken
    | resize area => rfl
  · rfl

theorem run_quiet (t : MainLoop F) (hclean : t.app.dirty = false) (is : List (Input F))
    (hquiet : ∀ i ∈ is, i.quiet = true) :
    (run step t is).app = t.app ∧ (run step t is).screen = t.screen := by
  induction is generalizing t with
  | nil => exact ⟨rfl, rfl⟩
  | cons i is ih =>
    obtain ⟨happ, hscreen⟩ := step_quiet hclean (hquiet i List.mem_cons_self)
    obtain ⟨happ', hscreen'⟩ := ih (step t i).2 (by rw [happ, hclean])
      (fun j hj => hquiet j (List.mem_cons_of_mem i hj))
    exact ⟨happ'.trans happ, hscreen'.trans hscreen⟩

/-- While no redraw is due and the last one has not failed, the screen is what
would be drawn now exactly if it was drawn for the size that the terminal has
now. It stays until a redraw is asked for, which another size does not do. -/
theorem screen_current (connect : Except String Unit) (area : Size) (is : List (Input F)) :
    let t := run step (start connect area) is
    t.app.dirty = false → t.failed = false →
      (t.screen = some (view t.area t.app) ↔ t.screen.map View.area = some t.area) ∧
      (∀ later, (∀ pre post, later = pre ++ post → (run step t pre).app.dirty = false) →
        (run step t later).screen = t.screen) ∧
      ∀ later, (∀ i ∈ later, i.quiet = true) →
        (run step t later).app = t.app ∧ (run step t later).screen = t.screen := by
  intro t hclean hdrawn
  have hcurrent : Current t := by
    apply run_keeps (I := Current) _ (fun t i h => step_current t i h)
    intro hclean
    cases hclean
  obtain ⟨drawnFor, hscreen⟩ := hcurrent hclean hdrawn
  refine ⟨?_, run_screen t, run_quiet t hclean⟩
  rw [hscreen]
  constructor
  · intro hnow
    rw [hnow]
    rfl
  · intro hsize
    obtain rfl : drawnFor = t.area := Option.some.inj hsize
    rfl

def nextTabDrawn : List (Input ℚ) := [.event (.key .right true false), .tick (.ok ())]

/-- The terminal grows after a redraw, and the event that says so is dropped. -/
def growth : List (Input ℚ) := [.resize ⟨120, 40⟩, .event (.resize 120 40), .tick (.ok ())]

theorem screen_current_grown :
    let t := run step (start (.ok ()) ⟨80, 24⟩) (nextTabDrawn ++ growth)
    t.screen = some (view ⟨80, 24⟩ t.app) ∧ t.screen ≠ some (view t.area t.app) := by
  intro t
  obtain ⟨-, -, hquiet⟩ := screen_current (.ok ()) ⟨80, 24⟩ nextTabDrawn rfl rfl
  obtain ⟨happ, hscreen⟩ := hquiet growth (by decide)
  obtain ⟨hnow, -, -⟩ := screen_current (.ok ()) ⟨80, 24⟩ (nextTabDrawn ++ growth) rfl rfl
  rw [← run_append] at happ hscreen
  constructor
  · exact hscreen.trans (congrArg (fun app => some (view ⟨80, 24⟩ app)) happ.symm)
  · intro hcurrent
    have hsize := hnow.mp hcurrent
    revert hsize
    decide +kernel

section

theorem foldl_pushHealthSample (app : App F) (scores taken : List F)
    (h : app.healthHistory = taken.rtake 60) :
    (scores.foldl App.pushHealthSample app).healthHistory = (taken ++ scores).rtake 60 := by
  induction scores generalizing app taken with
  | nil => simpa using h
  | cons score scores ih =>
    have hpush : (app.pushHealthSample score).healthHistory = (taken ++ [score]).rtake 60 := by
      rw [App.pushHealthSample, h, keepLast_eq, rtake_concat]
    rw [List.foldl_cons, ih (app.pushHealthSample score) (taken ++ [score]) hpush,
      List.append_assoc, List.singleton_append]

theorem foldl_pushHealthSample_eq (app : App F) (scores : List F) :
    scores.foldl App.pushHealthSample app =
      { app with
        healthHistory := (scores.foldl App.pushHealthSample app).healthHistory } := by
  induction scores generalizing app with
  | nil => rfl
  | cons score scores ih =>
    rw [List.foldl_cons, ih (app.pushHealthSample score)]
    rfl

end

/-- The selection is on an interface if there is any, the tab exists, and the
log has nothing to scroll. -/
structure Sound (app : App F) : Prop where
  selected : app.interfaces = [] ∧ app.selectedInterfaceIdx = 0 ∨
    app.selectedInterfaceIdx < app.interfaces.length
  tab : app.selectedTab < 4
  events : app.events = []
  scroll : app.logScrollPos = 0

theorem interfaceKey_sound {app : App F} (h : Sound app) (code : KeyCode) :
    Sound (interfaceKey app code) ∧ (interfaceKey app code).healthHistory = app.healthHistory := by
  have hup : Sound app.selectInterfaceUp ∧
      app.selectInterfaceUp.healthHistory = app.healthHistory := by
    rw [App.selectInterfaceUp]
    split
    · refine ⟨⟨?_, h.tab, h.events, h.scroll⟩, rfl⟩
      have hselected := h.selected
      simp only [App.markDirty]
      omega
    · exact ⟨h, rfl⟩
  have hdown : Sound app.selectInterfaceDown ∧
      app.selectInterfaceDown.healthHistory = app.healthHistory := by
    rw [App.selectInterfaceDown]
    split
    · rename_i hnext
      exact ⟨⟨.inr hnext, h.tab, h.events, h.scroll⟩, rfl⟩
    · exact ⟨h, rfl⟩
  unfold interfaceKey
  split
  · exact hup
  · exact hup
  · exact hdown
  · exact hdown
  · exact ⟨h, rfl⟩

theorem scroll_sound {app : App F} (h : Sound app) {pos : Nat} (hpos : pos = 0) :
    Sound { app with logScrollPos := pos }.markDirty ∧
      { app with logScrollPos := pos }.markDirty.healthHistory = app.healthHistory :=
  ⟨⟨h.selected, h.tab, h.events, hpos⟩, rfl⟩

theorem logKey_sound {app : App F} (h : Sound app) (code : KeyCode) (control : Bool) :
    Sound (logKey app code control) ∧
      (logKey app code control).healthHistory = app.healthHistory := by
  have hmax : app.maxScroll = 0 := by simp [App.maxScroll, h.events]
  have hbottom := scroll_sound h hmax
  unfold logKey
  split
  · exact scroll_sound h (by simp [h.scroll])
  · exact scroll_sound h (by simp [h.scroll])
  · exact scroll_sound h (by simp [hmax])
  · exact scroll_sound h (by simp [hmax])
  · exact scroll_sound h (by simp [h.scroll])
  · exact scroll_sound h (by simp [hmax])
  · split
    · exact hbottom
    · exact scroll_sound h rfl
  · exact hbottom
  · exact ⟨h, rfl⟩

theorem handleKey_sound {app : App F} (h : Sound app) (e : TerminalEvent) :
    Sound (handleKey app e) ∧ (handleKey app e).healthHistory = app.healthHistory := by
  have htab := h.tab
  have hnext : Sound app.nextTab ∧ app.nextTab.healthHistory = app.healthHistory :=
    ⟨⟨h.selected, Nat.mod_lt _ (by decide), h.events, h.scroll⟩, rfl⟩
  have hprev : Sound app.prevTab ∧ app.prevTab.healthHistory = app.healthHistory := by
    refine ⟨⟨h.selected, ?_, h.events, h.scroll⟩, rfl⟩
    simp only [App.prevTab, App.markDirty]
    split <;> omega
  cases e with
  | resize columns rows => exact ⟨h, rfl⟩
  | other => exact ⟨h, rfl⟩
  | key code press control =>
    simp only [handleKey]
    split
    · split
      · exact ⟨⟨h.selected, h.tab, h.events, h.scroll⟩, rfl⟩
      · exact hnext
      · exact hnext
      · exact hprev
      · exact hprev
      · exact ⟨⟨h.selected, h.tab, h.events, h.scroll⟩, rfl⟩
      · unfold tabKey
        split
        · exact interfaceKey_sound h _
        · exact logKey_sound h _ control
        · exact ⟨h, rfl⟩
    · exact ⟨h, rfl⟩

theorem clamp_sound (app : App F) (htab : app.selectedTab < 4) (hevents : app.events = [])
    (hscroll : app.logScrollPos = 0) :
    Sound (if app.selectedInterfaceIdx ≥ app.interfaces.length then
      { app with selectedInterfaceIdx := app.interfaces.length - 1 } else app) := by
  split
  · refine ⟨?_, htab, hevents, hscroll⟩
    cases hinterfaces : app.interfaces with
    | nil => exact .inl ⟨rfl, rfl⟩
    | cons first rest => exact .inr (by simp)
  · rename_i hshort
    exact ⟨.inr (Nat.lt_of_not_le hshort), htab, hevents, hscroll⟩

theorem applyInterfaces_sound {app : App F} {taken : List F} (h : Sound app)
    (hhistory : app.healthHistory = taken.rtake 60) (i : List (InterfaceInfo F)) :
    Sound (app.applyInterfaces i) ∧
      (app.applyInterfaces i).healthHistory = (taken ++ samples (.interfaces i)).rtake 60 := by
  have hclamp := clamp_sound { app with interfaces := i } h.tab h.events h.scroll
  refine ⟨?_, ?_⟩
  · simp only [App.applyInterfaces]
    rw [foldl_pushHealthSample_eq]
    exact ⟨hclamp.selected, hclamp.tab, hclamp.events, hclamp.scroll⟩
  · apply foldl_pushHealthSample
    split <;> exact hhistory

theorem applyUpdate_sound {app : App F} {taken : List F} (h : Sound app)
    (hhistory : app.healthHistory = taken.rtake 60) (now : DateTime) (u : DataUpdate F) :
    Sound (applyUpdate app now u) ∧
      (applyUpdate app now u).healthHistory = (taken ++ samples u).rtake 60 := by
  have hsame : app.healthHistory = (taken ++ []).rtake 60 := by rw [List.append_nil, hhistory]
  cases u with
  | status s =>
    simp only [applyUpdate, App.applyStatus, samples]
    cases s.health with
    | none =>
      exact ⟨⟨h.selected, h.tab, h.events, h.scroll⟩, hsame⟩
    | some score =>
      refine ⟨⟨h.selected, h.tab, h.events, h.scroll⟩, ?_⟩
      exact foldl_pushHealthSample app [score.overall] taken hhistory
  | interfaces i => exact applyInterfaces_sound h hhistory i
  | bonds b =>
    exact ⟨⟨h.selected, h.tab, h.events, h.scroll⟩, hsame⟩
  | tunnels t =>
    exact ⟨⟨h.selected, h.tab, h.events, h.scroll⟩, hsame⟩
  | loading l =>
    cases l with
    | true =>
      exact ⟨⟨h.selected, h.tab, h.events, h.scroll⟩, hsame⟩
    | false =>
      exact ⟨⟨h.selected, h.tab, h.events, h.scroll⟩, hsame⟩
  | error e =>
    exact ⟨⟨h.selected, h.tab, h.events, h.scroll⟩, hsame⟩

theorem step_sound {t : MainLoop F} {taken : List F} (h : Sound t.app)
    (hhistory : t.app.healthHistory = taken.rtake 60) (i : Input F) :
    Sound (step t i).2.app ∧
      (step t i).2.app.healthHistory = (taken ++ (step t i).1).rtake 60 := by
  have hsame : t.app.healthHistory = (taken ++ []).rtake 60 := by rw [List.append_nil, hhistory]
  unfold step
  split
  · cases i with
    | update now u => exact applyUpdate_sound h hhistory now u
    | event e =>
      obtain ⟨hsound, hkept⟩ := handleKey_sound h e
      exact ⟨hsound, hkept.trans hsame⟩
    | tick drawn =>
      have hclean : Sound { t.app with dirty := false } :=
        ⟨h.selected, h.tab, h.events, h.scroll⟩
      simp only [App.takeDirty]
      cases t.app.dirty with
      | false => exact ⟨hclean, hsame⟩
      | true => cases drawn <;> exact ⟨hclean, hsame⟩
    | resize area => exact ⟨h, hsame⟩
  · exact ⟨h, hsame⟩

/-- Whatever keys, updates and redraws come, the trend is the last sixty health
samples taken in, one of the four tabs is selected, the log has no line, and
the detail panel has an interface to show unless there is none. -/
theorem run_sound (connect : Except String Unit) (area : Size)
    (is : List (Input F)) :
    let t := run step (start connect area) is
    t.app.healthHistory = (outputs step (start connect area) is).flatten.rtake 60 ∧
      t.app.selectedTab < 4 ∧ t.app.events = [] ∧
      ((view t.area t.app).detail = none ↔ t.app.interfaces = []) := by
  have hrun : Sound (run step (start connect area) is).app ∧
      (run step (start connect area) is).app.healthHistory =
        (outputs step (start connect area) is).flatten.rtake 60 := by
    apply run_always (J := fun os (t : MainLoop F) =>
      Sound t.app ∧ t.app.healthHistory = os.flatten.rtake 60)
    · cases connect with
      | ok _ => exact ⟨⟨.inl ⟨rfl, rfl⟩, Nat.zero_lt_succ 3, rfl, rfl⟩, rfl⟩
      | error e => exact ⟨⟨.inl ⟨rfl, rfl⟩, Nat.zero_lt_succ 3, rfl, rfl⟩, rfl⟩
    · rintro os t i ⟨hsound, hhistory⟩
      rw [List.flatten_append, List.flatten_singleton]
      exact step_sound hsound hhistory i
  obtain ⟨hsound, hhistory⟩ := hrun
  refine ⟨hhistory, hsound.tab, hsound.events, ?_⟩
  rw [View.detail, List.getElem?_eq_none_iff]
  constructor
  · intro hshort
    rcases hsound.selected with ⟨hnone, -⟩ | hselected
    · exact hnone
    · exact absurd hselected (Nat.not_lt.mpr hshort)
  · intro hnone
    simp [view, hnone]

end Netfusion.Tui
