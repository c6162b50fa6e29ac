import Netfusion.Core.SteeringDegradation

namespace Netfusion.Core.DegradedCounter

open Netfusion.Lib.Collections Netfusion.Lib.Machine
open Netfusion.Shared.Types
open Netfusion.Core.Monitoring Netfusion.Core.PathSteering Netfusion.Core.SteeringSpec
open Netfusion.Core.SteeringHysteresis Netfusion.Core.SteeringFeed
open Netfusion.Core.SteeringDegradation

/-- The cooldown is over, the last three readings of the active interface are
bad, and another interface is viable. -/
def Failing (s : PathSteerer ℚ) (now : Nat) (p : PathState ℚ) (readings : List ℚ)
    (scores : HashMap String (HealthScore ℚ)) : Prop :=
  ¬ CoolingDown s p now ∧ ThreeBad s.config readings ∧
  ∃ name live, name ≠ p.activeInterface ∧ scores.lookup name = some live ∧
    s.config.minViableScore ≤ live.overall

def StillFailing (past : History ℚ) (s : PathSteerer ℚ) (u : HealthUpdate ℚ) (now : Nat)
    (p : PathState ℚ) : Prop :=
  Failing s now p (watched past).readings s.healthScores ∧
  Failing s now p (heard (watched past) u) (scoresAfter s u)

/-- A decision comes back, and the path is at a viable interface. -/
def MovesTraffic (s : PathSteerer ℚ) (u : HealthUpdate ℚ) (now : Nat)
    (order : Shuffle (ScoreEntry ℚ)) : Prop :=
  (onHealthUpdate s u now order).1.isSome = true ∧
  ∃ q live, assigned (onHealthUpdate s u now order).2 = some q ∧
    (onHealthUpdate s u now order).2.healthScores.lookup q.activeInterface = some live ∧
    s.config.minViableScore ≤ live.overall

/-- The update is of the active interface, and two bad readings have been
counted; or it is of another one, and a viable interface is ahead of the score
the active one was assigned with. -/
def CountedOrAhead (s : PathSteerer ℚ) (u : HealthUpdate ℚ) (p : PathState ℚ) : Prop :=
  u.interface = p.activeInterface ∧ 2 ≤ p.consecutiveDegraded ∨
  u.interface ≠ p.activeInterface ∧
    ∃ name live, (scoresAfter s u).lookup name = some live ∧
      s.config.minViableScore ≤ live.overall ∧
      s.config.switchHysteresis < live.overall - p.activeScore

section

variable {past : History ℚ} {s : PathSteerer ℚ} {u : HealthUpdate ℚ} {now : Nat}
  {order : Shuffle (ScoreEntry ℚ)} {p : PathState ℚ}

theorem active_below (hs : Watched past s) (hp : assigned s = some p)
    (hbad : ThreeBad s.config (heard (watched past) u)) {live : HealthScore ℚ}
    (hlive : (scoresAfter s u).lookup p.activeInterface = some live) :
    live.overall < s.config.minViableScore := by
  obtain ⟨hlen, hall⟩ := hbad
  cases hr : heard (watched past) u with
  | nil =>
    rw [hr] at hlen
    cases hlen
  | cons r rs =>
    obtain ⟨live', hlive', rfl⟩ := cached_heard u hs hp (congrArg List.head? hr)
    cases hlive.symm.trans hlive'
    apply hall
    rw [hr, List.take_succ_cons]
    exact .head _

theorem best_other (order : Shuffle (ScoreEntry ℚ)) (hs : Watched past s) (hp : assigned s = some p)
    (hfail : Failing s now p (heard (watched past) u) (scoresAfter s u)) :
    ∃ x, best s u order = some x ∧ x.1 ≠ p.activeInterface := by
  obtain ⟨-, hbad, name, live, -, hlive, hviable⟩ := hfail
  cases hb : best s u order with
  | none => exact absurd hviable (not_le.mpr (findBestInterface_eq_none.mp hb name live hlive))
  | some x =>
    refine ⟨x, rfl, ?_⟩
    rintro hx
    obtain ⟨score, hscore, heq, hmin, -⟩ := findBestInterface_eq_some hb
    rw [hx] at hscore
    rw [← heq] at hmin
    exact absurd hmin (not_le.mpr (active_below hs hp hbad hscore))

theorem steers_iff_countedOrAhead (hauto : s.config.autoFailover = true) (hs : Watched past s)
    (hp : assigned s = some p)
    (hfail : Failing s now p (heard (watched past) u) (scoresAfter s u)) :
    (∃ x, SteersTo s u now order p x) ↔ CountedOrAhead s u p := by
  obtain ⟨x, hb, hne⟩ := best_other order hs hp hfail
  obtain ⟨score, hscore, heq, hmin, hmax⟩ := findBestInterface_eq_some hb
  constructor
  · rintro ⟨y, -, -, hy, -, ⟨hdeg, hthree⟩ | ⟨hgood, hlead⟩⟩
    · exact .inl ⟨hdeg.1, by omega⟩
    · cases hb.symm.trans hy
      refine .inr ⟨?_, x.1, score, hscore, heq ▸ hmin, heq ▸ hlead⟩
      intro hown
      apply hgood
      exact ⟨hown, active_below hs hp hfail.2.1 (hown ▸ own_score s u)⟩
  · rintro (⟨hown, htwo⟩ | ⟨hother, name, live, hlive, -, hlead⟩)
    · have hlow := active_below hs hp hfail.2.1 (hown ▸ own_score s u)
      exact ⟨x, hauto, hfail.1, hb, hne, .inl ⟨⟨hown, hlow⟩, by omega⟩⟩
    · refine ⟨x, hauto, hfail.1, hb, hne, .inr ⟨fun hdeg => hother hdeg.1, ?_⟩⟩
      have hle : live.overall ≤ x.2 := hmax name live hlive
      linarith

theorem movesTraffic_iff_steers (hp : assigned s = some p) :
    MovesTraffic s u now order ↔ ∃ x, SteersTo s u now order p x := by
  constructor
  · rintro ⟨hsome, -⟩
    by_contra h
    obtain ⟨hnone, -⟩ := onHealthUpdate_counted s u now order hp (not_exists.mp h)
    rw [hnone] at hsome
    cases hsome
  · rintro ⟨x, hx⟩
    obtain ⟨⟨d, hd, -⟩, hq⟩ := onHealthUpdate_steered s u now order hp hx
    obtain ⟨score, hscore, heq, hmin, -⟩ := findBestInterface_eq_some hx.2.2.1
    refine ⟨by rw [hd]; rfl, _, score, hq, ?_, heq ▸ hmin⟩
    exact (congrArg (AList.lookup x.1) (onHealthUpdate_framed s u now order).2).trans hscore

end

/-- In every reachable state in which the active interface is failing and stays
so, an update moves the traffic exactly when enough bad readings were counted or
another interface is ahead of the recorded score. -/
theorem moves_traffic_iff (config : SteeringConfig ℚ) (hauto : config.autoFailover = true)
    (es : List (Event ℚ)) (u : HealthUpdate ℚ) (now : Nat) (order : Shuffle (ScoreEntry ℚ))
    (p : PathState ℚ)
    (hp : assigned (run step (PathSteerer.new config) es) = some p)
    (hfail : StillFailing (trace step (PathSteerer.new config) es)
      (run step (PathSteerer.new config) es) u now p) :
    MovesTraffic (run step (PathSteerer.new config) es) u now order ↔
      CountedOrAhead (run step (PathSteerer.new config) es) u p := by
  rw [movesTraffic_iff_steers hp]
  apply steers_iff_countedOrAhead
  · exact (congrArg SteeringConfig.autoFailover (config_run config es)).trans hauto
  · exact watching_run config es
  · exact hp
  · exact hfail.2

/-- Three bad readings of `eth0` during the cooldown, and `eth1` at 80. -/
def coolingConfig : SteeringConfig ℚ := ⟨30, 15, 30, 20, true⟩

def coolingRun : List (Event ℚ) :=
  [.update (reading "eth0" 90) 0 (.id _), .update (reading "eth1" 80) 1 (.id _),
    .update (reading "eth0" 10) 2 (.id _), .update (reading "eth0" 10) 3 (.id _),
    .update (reading "eth0" 10) 4 (.id _)]

def coolingPath : PathState ℚ := ⟨"eth0", 90, 0, 0⟩

theorem cooling_assigned :
    assigned (run step (PathSteerer.new coolingConfig) coolingRun) = some coolingPath := by
  decide +kernel

theorem cooling_stillFailing :
    StillFailing (trace step (PathSteerer.new coolingConfig) coolingRun)
      (run step (PathSteerer.new coolingConfig) coolingRun) (reading "eth0" 10) 40 coolingPath := by
  have hcool : ¬ CoolingDown (run step (PathSteerer.new coolingConfig) coolingRun)
      coolingPath 40 := by
    decide +kernel
  refine ⟨⟨hcool, ?_, ?_⟩, ⟨hcool, ?_, ?_⟩⟩
  · rw [ThreeBad]
    decide +kernel
  · exact ⟨"eth1", (reading "eth1" 80).smoothedScore, by decide, rfl, by decide +kernel⟩
  · rw [ThreeBad]
    decide +kernel
  · exact ⟨"eth1", (reading "eth1" 80).smoothedScore, by decide, rfl, by decide +kernel⟩

/-- The next bad reading, with the cooldown long over, is the first to be counted. -/
theorem cooling_keeps_traffic :
    assigned (run step (PathSteerer.new coolingConfig) coolingRun) = some coolingPath ∧
    StillFailing (trace step (PathSteerer.new coolingConfig) coolingRun)
      (run step (PathSteerer.new coolingConfig) coolingRun) (reading "eth0" 10) 40 coolingPath ∧
    ¬ MovesTraffic (run step (PathSteerer.new coolingConfig) coolingRun) (reading "eth0" 10) 40
      (.id _) := by
  refine ⟨cooling_assigned, cooling_stillFailing, ?_⟩
  rintro ⟨hsome, -⟩
  have hnone : (onHealthUpdate (run step (PathSteerer.new coolingConfig) coolingRun)
      (reading "eth0" 10) 40 (.id _)).1 = none := by decide +kernel
  rw [hnone] at hsome
  cases hsome

theorem moves_traffic_iff_cooling :
    MovesTraffic (run step (PathSteerer.new coolingConfig) coolingRun) (reading "eth0" 10) 40
        (.id _) ↔
      CountedOrAhead (run step (PathSteerer.new coolingConfig) coolingRun) (reading "eth0" 10)
        coolingPath :=
  moves_traffic_iff coolingConfig rfl coolingRun (reading "eth0" 10) 40 (.id _) coolingPath
    cooling_assigned cooling_stillFailing

end Netfusion.Core.DegradedCounter
