import Netfusion.Lib.Extremes
import Netfusion.Core.Monitoring

namespace Netfusion.Core.PathSteering

open Netfusion.Lib.Collections Netfusion.Lib.Extremes Netfusion.Lib.Machine
open Netfusion.Shared.Types
open Netfusion.Core.Monitoring

variable {F : Type}

/-- Scores are of any type with the tests that the code makes on them. Only the
choice of the best interface orders them totally. -/
structure SteeringConfig (F : Type) where
  minViableScore : F
  switchHysteresis : F
  steeringCooldown : Nat
  bufferbloatThreshold : F
  autoFailover : Bool

inductive SteeringReason where
  | initial | healthDegraded | betterPath | bufferbloat | interfaceDown | cooldownActive
  | noViablePath
deriving DecidableEq

structure SteeringDecision (F : Type) where
  activeInterface : String
  activeScore : F
  isFailover : Bool
  reason : SteeringReason
deriving DecidableEq

/-- The score is the one the interface had when the path was assigned to it.
Instants are counted in nanoseconds. The counter has 32 bits in the source. A
switch puts it back to zero at three; with switching off it goes on growing, and
nothing is decided by it. -/
structure PathState (F : Type) where
  activeInterface : String
  activeScore : F
  lastSteering : Nat
  consecutiveDegraded : Nat
deriving DecidableEq

/-- The decisions sent to the subscribers are kept in the order of sending. -/
structure PathSteerer (F : Type) where
  config : SteeringConfig F
  pathStates : HashMap String (PathState F)
  healthScores : HashMap String (HealthScore F)
  decisions : HashMap String (SteeringDecision F)
  sent : List (SteeringDecision F)

def PathSteerer.new (config : SteeringConfig F) : PathSteerer F := ⟨config, ∅, ∅, ∅, []⟩

abbrev ScoreEntry (F : Type) := Sigma (fun _ : String => HealthScore F)

def viable [LE F] [DecidableLE F] (config : SteeringConfig F) (e : ScoreEntry F) : Bool :=
  decide (e.2.overall ≥ config.minViableScore)

def findBestInterface [LE F] [DecidableLE F] [Ord F] (config : SteeringConfig F)
    (order : Shuffle (ScoreEntry F)) (healthScores : HashMap String (HealthScore F)) :
    Option (String × F) :=
  (maxBy (fun e : ScoreEntry F => e.2.overall)
    ((order.run healthScores.entries).filter (viable config))).map (fun e => (e.1, e.2.overall))

def makeInitialAssignment (s : PathSteerer F) (trafficClass interface : String) (score : F)
    (now : Nat) : SteeringDecision F × PathSteerer F :=
  (⟨interface, score, false, .initial⟩,
    { s with pathStates := s.pathStates.insert trafficClass ⟨interface, score, now, 0⟩ })

def steer (s : PathSteerer F) (trafficClass interface : String) (score : F)
    (reason : SteeringReason) (now : Nat) : Option (SteeringDecision F) × PathSteerer F :=
  if s.config.autoFailover = false ∧ reason ≠ .initial then (none, s)
  else
    let isFailover :=
      reason = .healthDegraded ∨ reason = .interfaceDown ∨ reason = .bufferbloat
    let decision : SteeringDecision F := ⟨interface, score, isFailover, reason⟩
    (some decision,
      { s with
        pathStates := s.pathStates.insert trafficClass ⟨interface, score, now, 0⟩
        decisions := s.decisions.insert trafficClass decision
        sent := s.sent ++ [decision] })

def setDegraded (s : PathSteerer F) (trafficClass : String) (p : PathState F) (n : Nat) :
    PathSteerer F :=
  { s with pathStates := s.pathStates.insert trafficClass { p with consecutiveDegraded := n } }

def notifyNoViablePath (s : PathSteerer F) (trafficClass : String) : PathSteerer F :=
  match s.pathStates.lookup trafficClass with
  | none => s
  | some p =>
    let decision : SteeringDecision F := ⟨p.activeInterface, p.activeScore, false, .noViablePath⟩
    { s with
      decisions := s.decisions.insert trafficClass decision
      sent := s.sent ++ [decision] }

def assignInitial (s : PathSteerer F) (trafficClass best : String) (bestScore : F) (now : Nat) :
    Option (SteeringDecision F) × PathSteerer F :=
  let (decision, s) := makeInitialAssignment s trafficClass best bestScore now
  (some decision, { s with
    decisions := s.decisions.insert trafficClass decision
    sent := s.sent ++ [decision] })

/-- The bufferbloat branch asks for everything the branch before it asks for. -/
def seekBetterPath [LT F] [DecidableLT F] [Sub F] (s : PathSteerer F) (trafficClass : String)
    (p : PathState F) (best : String) (bestScore : F) (now : Nat) :
    Option (SteeringDecision F) × PathSteerer F :=
  if best ≠ p.activeInterface ∧ bestScore - p.activeScore > s.config.switchHysteresis then
    steer s trafficClass best bestScore .betterPath now
  else if p.activeScore < s.config.bufferbloatThreshold ∧ best ≠ p.activeInterface ∧
      bestScore - p.activeScore > s.config.switchHysteresis then
    steer s trafficClass best bestScore .bufferbloat now
  else (none, s)

def recordScore (s : PathSteerer F) (update : HealthUpdate F) : PathSteerer F :=
  { s with healthScores := s.healthScores.insert update.interface update.smoothedScore }

def getDecision (s : PathSteerer F) (trafficClass : String) : Option (SteeringDecision F) :=
  s.decisions.lookup trafficClass

def reset (s : PathSteerer F) : PathSteerer F := { s with pathStates := ∅, decisions := ∅ }

inductive Event (F : Type) where
  | update (u : HealthUpdate F) (now : Nat) (order : Shuffle (ScoreEntry F))
  | reset

section

variable [LT F] [DecidableLT F] [LE F] [DecidableLE F] [Sub F]

/-- A score that is not a number is in neither of the two tests, and leaves the
counter as it is. -/
def evaluateAssigned (s : PathSteerer F) (trafficClass : String) (p : PathState F) (best : String)
    (bestScore : F) (updatedInterface : String) (updatedScore : F) (now : Nat) :
    Option (SteeringDecision F) × PathSteerer F :=
  if updatedInterface = p.activeInterface ∧ updatedScore < s.config.minViableScore then
    let s := setDegraded s trafficClass p (p.consecutiveDegraded + 1)
    if p.consecutiveDegraded + 1 ≥ 3 ∧ best ≠ p.activeInterface then
      steer s trafficClass best bestScore .healthDegraded now
    else (none, s)
  else if updatedInterface = p.activeInterface ∧ updatedScore ≥ s.config.minViableScore then
    seekBetterPath (setDegraded s trafficClass p 0) trafficClass p best bestScore now
  else seekBetterPath s trafficClass p best bestScore now

variable [Ord F]

def evaluateSteering (s : PathSteerer F) (trafficClass updatedInterface : String)
    (updatedScore : F) (now : Nat) (order : Shuffle (ScoreEntry F)) :
    Option (SteeringDecision F) × PathSteerer F :=
  match findBestInterface s.config order s.healthScores with
  | none => (none, notifyNoViablePath s trafficClass)
  | some (best, bestScore) =>
    match s.pathStates.lookup trafficClass with
    | none => assignInitial s trafficClass best bestScore now
    | some p =>
      if now - p.lastSteering < s.config.steeringCooldown then (none, s)
      else evaluateAssigned s trafficClass p best bestScore updatedInterface updatedScore now

/-- There is one traffic class for now. -/
def onHealthUpdate (s : PathSteerer F) (update : HealthUpdate F) (now : Nat)
    (order : Shuffle (ScoreEntry F)) : Option (SteeringDecision F) × PathSteerer F :=
  evaluateSteering (recordScore s update) "default" update.interface update.smoothedScore.overall
    now order

def step (s : PathSteerer F) : Event F → Option (SteeringDecision F) × PathSteerer F
  | .update u now order => onHealthUpdate s u now order
  | .reset => (none, reset s)

end

section

variable [LE F] [DecidableLE F] [Ord F] {config : SteeringConfig F}
  {order : Shuffle (ScoreEntry F)} {scores : HashMap String (HealthScore F)}

theorem findBestInterface_found {best : String × F}
    (h : findBestInterface config order scores = some best) :
    ∃ score, scores.lookup best.1 = some score ∧ score.overall = best.2 ∧
      config.minViableScore ≤ best.2 := by
  obtain ⟨e, he, rfl⟩ := Option.map_eq_some_iff.mp h
  obtain ⟨hmem, hviable⟩ := List.mem_filter.mp (maxBy_mem _ _ _ he)
  exact ⟨e.2, (mem_shuffle_entries order scores e.1 e.2).mp hmem, rfl, of_decide_eq_true hviable⟩

theorem findBestInterface_missing :
    findBestInterface config order scores = none ↔
      ∀ name live, scores.lookup name = some live → ¬ config.minViableScore ≤ live.overall := by
  rw [findBestInterface, Option.map_eq_none_iff, maxBy_eq_none, List.filter_eq_nil_iff]
  constructor
  · intro h name live hlive
    have hnot := h ⟨name, live⟩ ((mem_shuffle_entries order scores name live).mpr hlive)
    simpa [viable] using hnot
  · rintro h ⟨name, live⟩ hmem
    simpa [viable] using h name live ((mem_shuffle_entries order scores name live).mp hmem)

end

section

variable {config : SteeringConfig ℚ} {scores : HashMap String (HealthScore ℚ)}

theorem findBestInterface_eq_some {order : Shuffle (ScoreEntry ℚ)} {best : String × ℚ}
    (h : findBestInterface config order scores = some best) :
    ∃ score, scores.lookup best.1 = some score ∧ score.overall = best.2 ∧
      config.minViableScore ≤ best.2 ∧
      ∀ name other, scores.lookup name = some other → other.overall ≤ best.2 := by
  obtain ⟨score, hscore, hoverall, hmin⟩ := findBestInterface_found h
  refine ⟨score, hscore, hoverall, hmin, ?_⟩
  obtain ⟨e, he, rfl⟩ := Option.map_eq_some_iff.mp h
  intro name other hother
  by_cases hv : config.minViableScore ≤ other.overall
  · apply le_maxBy _ _ _ he ⟨name, other⟩
    exact List.mem_filter.mpr
      ⟨(mem_shuffle_entries order scores name other).mpr hother, decide_eq_true hv⟩
  · exact (not_le.mp hv).le.trans hmin

theorem findBestInterface_eq_none {order : Shuffle (ScoreEntry ℚ)} :
    findBestInterface config order scores = none ↔
      ∀ name live, scores.lookup name = some live → live.overall < config.minViableScore := by
  simp only [findBestInterface_missing, not_le]

theorem findBestInterface_ahead (order : Shuffle (ScoreEntry ℚ)) {name : String}
    {score : HealthScore ℚ} (hname : scores.lookup name = some score)
    (hmin : config.minViableScore ≤ score.overall)
    (hless : ∀ other live, scores.lookup other = some live → other ≠ name →
      live.overall < score.overall) :
    findBestInterface config order scores = some (name, score.overall) := by
  cases hb : findBestInterface config order scores with
  | none => exact absurd (findBestInterface_eq_none.mp hb name score hname) (not_lt.mpr hmin)
  | some best =>
    obtain ⟨live, hlive, heq, -, hmax⟩ := findBestInterface_eq_some hb
    have hfirst : best.1 = name := by
      by_contra hne
      have hbelow := hless best.1 live hlive hne
      have habove := hmax name score hname
      rw [heq] at hbelow
      exact absurd hbelow (not_lt.mpr habove)
    rw [hfirst, hname] at hlive
    cases hlive
    rw [← hfirst, heq]

end

end Netfusion.Core.PathSteering
