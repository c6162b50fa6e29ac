import Mathlib.Data.List.Chain
import Netfusion.Core.SteeringHysteresis

namespace Netfusion.Core.SteeringFeed

open Netfusion.Lib.Collections Netfusion.Lib.Machine
open Netfusion.Shared.Types
open Netfusion.Core.Monitoring Netfusion.Core.PathSteering Netfusion.Core.SteeringSpec
open Netfusion.Core.SteeringHysteresis

section

variable {F : Type} {s : PathSteerer F} {p : PathState F}

def active (s : PathSteerer F) : Option String := (assigned s).map (·.activeInterface)

def steeredAt (s : PathSteerer F) : Option Nat := (assigned s).map (·.lastSteering)

theorem active_eq (h : assigned s = some p) :
    active s = some p.activeInterface := congrArg (Option.map PathState.activeInterface) h

theorem steeredAt_eq (h : assigned s = some p) :
    steeredAt s = some p.lastSteering := congrArg (Option.map PathState.lastSteering) h

theorem active_eq_none (h : assigned s = none) : active s = none :=
  congrArg (Option.map PathState.activeInterface) h

theorem steeredAt_eq_none (h : assigned s = none) : steeredAt s = none :=
  congrArg (Option.map PathState.lastSteering) h

end

structure Arrival where
  update : HealthUpdate ℚ
  now : Nat
  order : Shuffle (ScoreEntry ℚ)

def Arrival.event (a : Arrival) : Event ℚ := .update a.update a.now a.order

def feed (s : PathSteerer ℚ) (a : Arrival) : Outcome ℚ := step s a.event

def latest (as : List Arrival) (name : String) : Option ℚ :=
  ((as.filter (fun a => a.update.interface = name)).getLast?).map
    (fun a => a.update.smoothedScore.overall)

/-- The decision is for a viable interface other than the one before, and no
interface has a better latest score. -/
structure SoundDecision (config : SteeringConfig ℚ) (before : Option String) (as : List Arrival)
    (d : SteeringDecision ℚ) : Prop where
  other : before ≠ some d.activeInterface
  latest : latest as d.activeInterface = some d.activeScore
  viable : config.minViableScore ≤ d.activeScore
  maximal : ∀ name score, SteeringFeed.latest as name = some score → score ≤ d.activeScore

structure Disciplined (config : SteeringConfig ℚ) (as : List Arrival) : Prop where
  cooldown : (changes feed active (PathSteerer.new config) as).IsChain
    (fun c c' => c.cause.now + config.steeringCooldown ≤ c'.cause.now)
  switchedOff : config.autoFailover = false →
    ∀ c ∈ changes feed active (PathSteerer.new config) as, c.before = none
  sound : ∀ pre a post d, as = pre ++ a :: post →
    (feed (run feed (PathSteerer.new config) pre) a).1 = some d →
    active (feed (run feed (PathSteerer.new config) pre) a).2 = some d.activeInterface ∧
    SoundDecision config (active (run feed (PathSteerer.new config) pre)) (pre ++ [a]) d

theorem latest_concat (as : List Arrival) (a : Arrival) (name : String) :
    latest (as ++ [a]) name =
      if a.update.interface = name then some a.update.smoothedScore.overall
      else latest as name := by
  by_cases h : a.update.interface = name <;> simp [latest, List.filter_append, h]

theorem config_feed (config : SteeringConfig ℚ) (as : List Arrival) :
    (run feed (PathSteerer.new config) as).config = config :=
  (congrArg PathSteerer.config (run_map step Arrival.event _ as)).trans (config_run config _)

theorem scores_run (config : SteeringConfig ℚ) (as : List Arrival) (name : String) :
    ((run feed (PathSteerer.new config) as).healthScores.lookup name).map (·.overall) =
      latest as name := by
  induction as using List.reverseRecOn with
  | nil => rfl
  | append_singleton as a ih =>
    rw [run_concat, latest_concat, ← ih]
    exact scores_update _ a.update a.now a.order name

theorem scoresAfter_run (config : SteeringConfig ℚ) (as : List Arrival) (a : Arrival)
    (name : String) :
    ((scoresAfter (run feed (PathSteerer.new config) as) a.update).lookup name).map (·.overall) =
      latest (as ++ [a]) name := by
  have hframe := (onHealthUpdate_framed (run feed (PathSteerer.new config) as) a.update a.now
    a.order).2
  rw [← scores_run config (as ++ [a]) name, run_concat]
  exact congrArg (fun scores => (AList.lookup name scores).map (·.overall)) hframe.symm

section

variable (s : PathSteerer ℚ) (a : Arrival)

theorem decided {d : SteeringDecision ℚ} (h : (feed s a).1 = some d) :
    best s a.update a.order = some (d.activeInterface, d.activeScore) ∧
    active s ≠ some d.activeInterface ∧
    active (feed s a).2 = some d.activeInterface := by
  have hr : (onHealthUpdate s a.update a.now a.order).1 = some d := h
  cases onHealthUpdate_answered s a.update a.now a.order with
  | unassigned _ _ hnone _ => cases hnone.symm.trans hr
  | stayed p _ _ hq => cases hq.1.symm.trans hr
  | started x hp hb hq =>
    obtain ⟨⟨d', hd, hi, hscore, -⟩, hassigned⟩ := hq
    cases hd.symm.trans hr
    rw [hi, hscore]
    exact ⟨hb, by simp [active, hp], active_eq hassigned⟩
  | moved p x hp hx hq =>
    obtain ⟨⟨d', hd, hi, hscore, -⟩, hassigned⟩ := hq
    cases hd.symm.trans hr
    rw [hi, hscore]
    have hne : x.1 ≠ p.activeInterface := hx.2.2.2.1
    exact ⟨hx.2.2.1, by simpa [active, hp] using hne.symm, active_eq hassigned⟩

theorem feed_unchanged (h : active s = active (feed s a).2) :
    steeredAt (feed s a).2 = steeredAt s := by
  have hdecided := fun d => decided s a (d := d)
  cases onHealthUpdate_answered s a.update a.now a.order with
  | unassigned hp _ _ hq => exact (steeredAt_eq_none hq).trans (steeredAt_eq_none hp).symm
  | stayed p hp _ hq => exact (steeredAt_eq hq.2).trans (steeredAt_eq hp).symm
  | started x _ _ hq =>
    obtain ⟨⟨d, hd, -⟩, -⟩ := hq
    obtain ⟨-, hne, hnew⟩ := hdecided d hd
    exact absurd (h.trans hnew) hne
  | moved p x _ _ hq =>
    obtain ⟨⟨d, hd, -⟩, -⟩ := hq
    obtain ⟨-, hne, hnew⟩ := hdecided d hd
    exact absurd (h.trans hnew) hne

/-- An assigned path changes only with the switch on and the cooldown over. -/
theorem feed_changed (h : active s ≠ active (feed s a).2) :
    steeredAt (feed s a).2 = some a.now ∧
    ∀ p, assigned s = some p → s.config.autoFailover = true ∧ ¬ CoolingDown s p a.now := by
  cases onHealthUpdate_answered s a.update a.now a.order with
  | unassigned hp _ _ hq => exact absurd ((active_eq_none hp).trans (active_eq_none hq).symm) h
  | stayed p hp _ hq => exact absurd ((active_eq hp).trans (active_eq hq.2).symm) h
  | started x hp _ hq =>
    refine ⟨steeredAt_eq hq.2, ?_⟩
    intro p hp'
    cases hp.symm.trans hp'
  | moved p x hp hx hq =>
    refine ⟨steeredAt_eq hq.2, ?_⟩
    intro p' hp'
    cases hp.symm.trans hp'
    exact ⟨hx.1, hx.2.1⟩

end

theorem decision_sound (config : SteeringConfig ℚ) (pre : List Arrival) (a : Arrival)
    {d : SteeringDecision ℚ} (h : (feed (run feed (PathSteerer.new config) pre) a).1 = some d) :
    SoundDecision config (active (run feed (PathSteerer.new config) pre)) (pre ++ [a]) d := by
  obtain ⟨hb, hother, -⟩ := decided _ a h
  obtain ⟨score, hscore, heq, hviable, hmax⟩ := findBestInterface_eq_some hb
  rw [config_feed] at hviable
  refine ⟨hother, ?_, hviable, ?_⟩
  · rw [← scoresAfter_run]
    exact (congrArg (Option.map (·.overall)) hscore).trans (congrArg some heq)
  · intro name live hlive
    rw [← scoresAfter_run] at hlive
    obtain ⟨other, hother, rfl⟩ := Option.map_eq_some_iff.mp hlive
    exact hmax name other hother

section

variable (config : SteeringConfig ℚ) (as : List Arrival)

theorem steeredAt_run :
    ((changes feed active (PathSteerer.new config) as).getLast?).map (·.cause.now) =
      steeredAt (run feed (PathSteerer.new config) as) := by
  induction as using List.reverseRecOn with
  | nil => rfl
  | append_singleton as a ih =>
    rw [changes_concat, run_concat]
    split
    · rename_i h
      rw [feed_unchanged _ a h, List.append_nil]
      exact ih
    · rename_i h
      rw [(feed_changed _ a h).1, List.getLast?_concat]
      rfl

theorem changes_spaced (hclock : as.Pairwise (fun a a' => a.now ≤ a'.now)) :
    (changes feed active (PathSteerer.new config) as).IsChain
      (fun c c' => c.cause.now + config.steeringCooldown ≤ c'.cause.now) := by
  induction as using List.reverseRecOn with
  | nil => exact .nil
  | append_singleton as a ih =>
    obtain ⟨has, -, hlast⟩ := List.pairwise_append.mp hclock
    rw [changes_concat]
    split
    · rw [List.append_nil]
      exact ih has
    · rename_i h
      apply (ih has).append (.singleton _)
      intro c hc c' hc'
      cases hc'
      have hnow : c.cause.now ≤ a.now :=
        hlast c.cause (cause_mem feed active (List.mem_of_getLast? hc)) a (.head _)
      have hat := steeredAt_run config as
      rw [hc] at hat
      obtain ⟨p, hp, hp'⟩ := Option.map_eq_some_iff.mp hat.symm
      have hsteered : p.lastSteering = c.cause.now := hp'
      have hcool := ((feed_changed _ a h).2 p hp).2
      rw [CoolingDown, config_feed, hsteered] at hcool
      change c.cause.now + config.steeringCooldown ≤ a.now
      omega

theorem changes_switchedOff (hauto : config.autoFailover = false) :
    ∀ c ∈ changes feed active (PathSteerer.new config) as, c.before = none := by
  induction as using List.reverseRecOn with
  | nil =>
    intro c hc
    cases hc
  | append_singleton as a ih =>
    intro c hc
    rw [changes_concat] at hc
    rcases List.mem_append.mp hc with hc | hc
    · exact ih c hc
    · split at hc
      · cases hc
      · rename_i h
        obtain rfl := List.mem_singleton.mp hc
        cases hp : assigned (run feed (PathSteerer.new config) as) with
        | none => exact active_eq_none hp
        | some p =>
          have hon := ((feed_changed _ a h).2 p hp).1
          rw [config_feed, hauto] at hon
          cases hon

end

/-- In every run of updates under a clock that does not go back, changes of the
active interface keep the cooldown, happen to an assigned class only with the
switch on, and every decision is sound. -/
theorem run_disciplined (config : SteeringConfig ℚ) (as : List Arrival)
    (hclock : as.Pairwise (fun a a' => a.now ≤ a'.now)) : Disciplined config as := by
  refine ⟨changes_spaced config as hclock, changes_switchedOff config as, ?_⟩
  rintro pre a post d - hd
  exact ⟨(decided _ a hd).2.2, decision_sound config pre a hd⟩

theorem run_disciplined_two :
    Disciplined promptConfig [⟨reading "eth0" 40, 0, .id _⟩, ⟨reading "eth1" 90, 1, .id _⟩] :=
  run_disciplined promptConfig _ (by simp)

end Netfusion.Core.SteeringFeed
