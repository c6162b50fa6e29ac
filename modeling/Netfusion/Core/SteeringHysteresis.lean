import Netfusion.Core.SteeringSpec

namespace Netfusion.Core.SteeringHysteresis

open Netfusion.Lib.Collections Netfusion.Lib.Machine
open Netfusion.Shared.Types
open Netfusion.Core.Monitoring Netfusion.Core.PathSteering Netfusion.Core.SteeringSpec

def ActiveSeen (s : PathSteerer ℚ) : Prop :=
  ∀ p, assigned s = some p → ∃ live, s.healthScores.lookup p.activeInterface = some live

theorem seen_insert (s : PathSteerer ℚ) (u : HealthUpdate ℚ) (name : String)
    (h : ∃ live, s.healthScores.lookup name = some live) :
    ∃ live, (scoresAfter s u).lookup name = some live := by
  rw [scoresAfter, lookup_insert_eq]
  split
  · exact ⟨_, rfl⟩
  · exact h

theorem activeSeen_update (s : PathSteerer ℚ) (u : HealthUpdate ℚ) (now : Nat)
    (order : Shuffle (ScoreEntry ℚ)) (hs : ActiveSeen s) :
    ActiveSeen (onHealthUpdate s u now order).2 := by
  intro q hq
  have hscores : (onHealthUpdate s u now order).2.healthScores = scoresAfter s u :=
    (onHealthUpdate_framed s u now order).2
  rw [hscores]
  obtain ⟨x, hb, rfl⟩ | ⟨p, n, hp, rfl⟩ := assigned_after s u now order hq
  · obtain ⟨live, hlive, -⟩ := findBestInterface_eq_some hb
    exact ⟨live, hlive⟩
  · exact seen_insert s u p.activeInterface (hs p hp)

theorem activeSeen_step (s : PathSteerer ℚ) (e : Event ℚ) (h : ActiveSeen s) :
    ActiveSeen (step s e).2 := by
  cases e with
  | update u now order => exact activeSeen_update s u now order h
  | reset =>
    intro p hp
    cases hp

theorem activeSeen_run (config : SteeringConfig ℚ) (es : List (Event ℚ)) :
    ActiveSeen (run step (PathSteerer.new config) es) := by
  apply run_keeps _ activeSeen_step es
  intro p hp
  cases hp

theorem config_run (config : SteeringConfig ℚ) (es : List (Event ℚ)) :
    (run step (PathSteerer.new config) es).config = config := by
  apply run_keeps (I := fun (s : PathSteerer ℚ) => s.config = config) rfl
  intro s e hs
  cases e with
  | update u now order => exact (onHealthUpdate_framed s u now order).1.trans hs
  | reset => exact hs

/-- The best viable interface is another than the active one, and its latest
score exceeds the latest score of the active one by more than the hysteresis. -/
def BeatsLiveScore (s : PathSteerer ℚ) (u : HealthUpdate ℚ) (order : Shuffle (ScoreEntry ℚ))
    (p : PathState ℚ) : Prop :=
  ∃ x live, best s u order = some x ∧ x.1 ≠ p.activeInterface ∧
    (scoresAfter s u).lookup p.activeInterface = some live ∧
    s.config.switchHysteresis < x.2 - live.overall

/-- A decision comes back, and the active interface is another one, exactly
when the live scores ask for it. -/
def SwitchesByLiveScore (s : PathSteerer ℚ) (u : HealthUpdate ℚ) (now : Nat)
    (order : Shuffle (ScoreEntry ℚ)) (p : PathState ℚ) : Prop :=
  ((onHealthUpdate s u now order).1.isSome = true ↔ BeatsLiveScore s u order p) ∧
  ((assigned (onHealthUpdate s u now order).2).map (·.activeInterface) ≠ some p.activeInterface ↔
    BeatsLiveScore s u order p)

/-- When another interface is the best, the score of the active one at its
assignment and its latest score are both within the hysteresis of it or both
beyond. -/
def DriftIsHarmless (s : PathSteerer ℚ) (u : HealthUpdate ℚ) (order : Shuffle (ScoreEntry ℚ))
    (p : PathState ℚ) : Prop :=
  ∀ x live, best s u order = some x → x.1 ≠ p.activeInterface →
    (scoresAfter s u).lookup p.activeInterface = some live →
    (s.config.switchHysteresis < x.2 - p.activeScore ↔
      s.config.switchHysteresis < x.2 - live.overall)

/-- The comparison the code makes: with the score of the assignment. -/
def BeatsAssignedScore (s : PathSteerer ℚ) (u : HealthUpdate ℚ) (order : Shuffle (ScoreEntry ℚ))
    (p : PathState ℚ) : Prop :=
  ∃ x, best s u order = some x ∧ x.1 ≠ p.activeInterface ∧
    s.config.switchHysteresis < x.2 - p.activeScore

section

variable (s : PathSteerer ℚ) (u : HealthUpdate ℚ) (now : Nat) (order : Shuffle (ScoreEntry ℚ))
  {p : PathState ℚ}

theorem steers_iff_beatsAssignedScore (hauto : s.config.autoFailover = true)
    (hcool : ¬ CoolingDown s p now) (hdeg : ¬ DegradedReading s p u) :
    (∃ x, SteersTo s u now order p x) ↔ BeatsAssignedScore s u order p := by
  constructor
  · rintro ⟨x, -, -, hb, hne, ⟨hd, -⟩ | ⟨-, hx⟩⟩
    · exact absurd hd hdeg
    · exact ⟨x, hb, hne, hx⟩
  · rintro ⟨x, hb, hne, hx⟩
    exact ⟨x, hauto, hcool, hb, hne, .inr ⟨hdeg, hx⟩⟩

theorem switches_by_assignedScore (hp : assigned s = some p)
    (hauto : s.config.autoFailover = true) (hcool : ¬ CoolingDown s p now)
    (hdeg : ¬ DegradedReading s p u) :
    ((onHealthUpdate s u now order).1.isSome = true ↔ BeatsAssignedScore s u order p) ∧
    ((assigned (onHealthUpdate s u now order).2).map (·.activeInterface) ≠
      some p.activeInterface ↔ BeatsAssignedScore s u order p) := by
  rw [← steers_iff_beatsAssignedScore s u now order hauto hcool hdeg]
  by_cases h : ∃ x, SteersTo s u now order p x
  · obtain ⟨x, hx⟩ := h
    obtain ⟨⟨d, hd, -, -⟩, hq⟩ := onHealthUpdate_moved s u now order hp hx
    have hne : x.1 ≠ p.activeInterface := hx.2.2.2.1
    refine ⟨iff_of_true (by simp [hd]) ⟨x, hx⟩, iff_of_true ?_ ⟨x, hx⟩⟩
    simpa [hq] using hne
  · obtain ⟨hnone, n, hn⟩ := onHealthUpdate_stayed s u now order hp (not_exists.mp h)
    exact ⟨iff_of_false (by simp [hnone]) h, iff_of_false (by simp [hn]) h⟩

theorem beatsAssignedScore_iff_live
    (hseen : ∃ live, (scoresAfter s u).lookup p.activeInterface = some live) :
    (BeatsAssignedScore s u order p ↔ BeatsLiveScore s u order p) ↔
      DriftIsHarmless s u order p := by
  obtain ⟨live, hlive⟩ := hseen
  constructor
  · intro h x live' hb hne hlive'
    constructor
    · intro hx
      obtain ⟨y, live'', hb', -, hlive'', hy⟩ := h.mp ⟨x, hb, hne, hx⟩
      cases hb.symm.trans hb'
      cases hlive'.symm.trans hlive''
      exact hy
    · intro hx
      obtain ⟨y, hb', -, hy⟩ := h.mpr ⟨x, live', hb, hne, hlive', hx⟩
      cases hb.symm.trans hb'
      exact hy
  · intro h
    constructor
    · rintro ⟨x, hb, hne, hx⟩
      exact ⟨x, live, hb, hne, hlive, (h x live hb hne hlive).mp hx⟩
    · rintro ⟨x, live', hb, hne, hlive', hx⟩
      exact ⟨x, hb, hne, (h x live' hb hne hlive').mpr hx⟩

end

/-- In every reachable state with an assigned path, past the cooldown and on
any update but a degraded reading of the active interface, the switch follows
the live scores exactly when the drift does no harm. -/
theorem switches_by_live_score_iff (config : SteeringConfig ℚ) (hauto : config.autoFailover = true)
    (es : List (Event ℚ)) (u : HealthUpdate ℚ) (now : Nat) (order : Shuffle (ScoreEntry ℚ))
    (p : PathState ℚ)
    (hp : assigned (run step (PathSteerer.new config) es) = some p)
    (hcool : ¬ CoolingDown (run step (PathSteerer.new config) es) p now)
    (hdeg : ¬ DegradedReading (run step (PathSteerer.new config) es) p u) :
    SwitchesByLiveScore (run step (PathSteerer.new config) es) u now order p ↔
      DriftIsHarmless (run step (PathSteerer.new config) es) u order p := by
  have hseen := seen_insert _ u p.activeInterface (activeSeen_run config es p hp)
  have hauto' : (run step (PathSteerer.new config) es).config.autoFailover = true :=
    (congrArg SteeringConfig.autoFailover (config_run config es)).trans hauto
  obtain ⟨hdecision, hactive⟩ := switches_by_assignedScore _ u now order hp hauto' hcool hdeg
  rw [← beatsAssignedScore_iff_live _ u order hseen, SwitchesByLiveScore, hdecision, hactive]
  exact and_self_iff

def reading (interface : String) (overall : ℚ) : HealthUpdate ℚ where
  interface := interface
  previousScore := 0
  newScore := ⟨overall, overall, overall, overall, overall, overall, 0, false⟩
  smoothedScore := ⟨overall, overall, overall, overall, overall, overall, 0, false⟩
  failoverCandidate := false
  probe := ⟨interface, 10, 1, 0, 100, 0, 0⟩

def promptConfig : SteeringConfig ℚ := ⟨30, 15, 0, 20, true⟩

/-- `eth0` has fallen from 90 to 40, `eth1` reads 60: nothing happens. -/
def fallenRun : List (Event ℚ) :=
  [.update (reading "eth0" 90) 0 (.id _), .update (reading "eth0" 40) 1 (.id _)]

def fallenPath : PathState ℚ := ⟨"eth0", 90, 0, 0⟩

theorem live_lead_ignored :
    ¬ SwitchesByLiveScore (run step (PathSteerer.new promptConfig) fallenRun) (reading "eth1" 60) 2
      (.id _) fallenPath := by
  intro h
  have hnone : (onHealthUpdate (run step (PathSteerer.new promptConfig) fallenRun)
      (reading "eth1" 60) 2 (.id _)).1 = none := by decide +kernel
  have hsome := h.1.mpr ⟨("eth1", 60), (reading "eth0" 40).smoothedScore, by decide +kernel,
    by decide, rfl, by decide +kernel⟩
  rw [hnone] at hsome
  cases hsome

theorem switches_by_live_score_iff_fallen :
    SwitchesByLiveScore (run step (PathSteerer.new promptConfig) fallenRun) (reading "eth1" 60) 2
        (.id _) fallenPath ↔
      DriftIsHarmless (run step (PathSteerer.new promptConfig) fallenRun) (reading "eth1" 60)
        (.id _) fallenPath :=
  switches_by_live_score_iff promptConfig rfl fallenRun (reading "eth1" 60) 2 (.id _) fallenPath
    (by decide +kernel) (by unfold CoolingDown; decide +kernel)
    (fun h => absurd h.1 (by decide))

end Netfusion.Core.SteeringHysteresis
