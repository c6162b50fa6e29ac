import Netfusion.Core.PathSteering

namespace Netfusion.Core.SteeringSpec

open Netfusion.Lib.Collections Netfusion.Lib.Machine
open Netfusion.Shared.Types
open Netfusion.Core.Monitoring Netfusion.Core.PathSteering

variable {F : Type}

abbrev Outcome (F : Type) := Option (SteeringDecision F) × PathSteerer F

def assigned (s : PathSteerer F) : Option (PathState F) := s.pathStates.lookup "default"

/-- The scores an update is judged by: its own is already among them. -/
def scoresAfter (s : PathSteerer F) (u : HealthUpdate F) : HashMap String (HealthScore F) :=
  s.healthScores.insert u.interface u.smoothedScore

def CoolingDown (s : PathSteerer F) (p : PathState F) (now : Nat) : Prop :=
  now - p.lastSteering < s.config.steeringCooldown

def MovedTo (x : String × F) (now : Nat) (r : Outcome F) : Prop :=
  (∃ d, r.1 = some d ∧ d.activeInterface = x.1 ∧ d.activeScore = x.2) ∧
  assigned r.2 = some ⟨x.1, x.2, now, 0⟩

def StayedAt (p : PathState F) (r : Outcome F) : Prop :=
  r.1 = none ∧ ∃ n, assigned r.2 = some { p with consecutiveDegraded := n }

def Framed (s : PathSteerer F) (r : Outcome F) : Prop :=
  r.2.config = s.config ∧ r.2.healthScores = s.healthScores

def MovedFor (reason : SteeringReason) (x : String × F) (now : Nat) (r : Outcome F) : Prop :=
  (∃ d, r.1 = some d ∧ d.activeInterface = x.1 ∧ d.activeScore = x.2 ∧ d.reason = reason) ∧
  assigned r.2 = some ⟨x.1, x.2, now, 0⟩

def StayedWith (p : PathState F) (n : Nat) (r : Outcome F) : Prop :=
  r.1 = none ∧ assigned r.2 = some { p with consecutiveDegraded := n }

def DegradedReading [LT F] (s : PathSteerer F) (p : PathState F) (u : HealthUpdate F) : Prop :=
  u.interface = p.activeInterface ∧ u.smoothedScore.overall < s.config.minViableScore

instance (s : PathSteerer F) (p : PathState F) (now : Nat) : Decidable (CoolingDown s p now) :=
  inferInstanceAs (Decidable (_ < _))

instance [LT F] [DecidableLT F] (s : PathSteerer F) (p : PathState F) (u : HealthUpdate F) :
    Decidable (DegradedReading s p u) :=
  inferInstanceAs (Decidable (_ ∧ _))

def reasonFor [LT F] [DecidableLT F] (s : PathSteerer F) (u : HealthUpdate F) (p : PathState F) :
    SteeringReason :=
  if DegradedReading s p u then .healthDegraded else .betterPath

def best [LE F] [DecidableLE F] [Ord F] (s : PathSteerer F) (u : HealthUpdate F)
    (order : Shuffle (ScoreEntry F)) : Option (String × F) :=
  findBestInterface s.config order (scoresAfter s u)

/-- What moves an assigned path to `x` once the cooldown is over: another
interface than the active one is the best, and either the active one has just
been read as degraded for the third time or the score recorded for it is far
enough below. -/
def Outdone [LT F] [Sub F] (s : PathSteerer F) (u : HealthUpdate F) (p : PathState F)
    (x : String × F) : Prop :=
  x.1 ≠ p.activeInterface ∧
  (DegradedReading s p u ∧ 3 ≤ p.consecutiveDegraded + 1 ∨
    ¬ DegradedReading s p u ∧ s.config.switchHysteresis < x.2 - p.activeScore)

theorem MovedFor.movedTo {reason : SteeringReason} {x : String × F} {now : Nat} {r : Outcome F}
    (h : MovedFor reason x now r) : MovedTo x now r := by
  obtain ⟨⟨d, hd, hi, hscore, -⟩, hq⟩ := h
  exact ⟨⟨d, hd, hi, hscore⟩, hq⟩

theorem StayedWith.stayedAt {p : PathState F} {n : Nat} {r : Outcome F}
    (h : StayedWith p n r) : StayedAt p r := ⟨h.1, n, h.2⟩

section

variable (s : PathSteerer F) (p : PathState F) (x : String × F) (now : Nat)

theorem steer_framed (c : String) (reason : SteeringReason) :
    Framed s (steer s c x.1 x.2 reason now) := by
  rw [steer]
  split <;> exact ⟨rfl, rfl⟩

theorem steer_moved (reason : SteeringReason) (h : s.config.autoFailover = true) :
    MovedFor reason x now (steer s "default" x.1 x.2 reason now) := by
  have hneg : ¬ (s.config.autoFailover = false ∧ reason ≠ .initial) := by simp [h]
  rw [steer, if_neg hneg]
  exact ⟨⟨_, rfl, rfl, rfl, rfl⟩, AList.lookup_insert _⟩

theorem steer_stayed (n : Nat) (reason : SteeringReason) (hr : reason ≠ .initial)
    (h : s.config.autoFailover = false)
    (hp : assigned s = some { p with consecutiveDegraded := n }) :
    StayedWith p n (steer s "default" x.1 x.2 reason now) := by
  rw [steer, if_pos ⟨h, hr⟩]
  exact ⟨rfl, hp⟩

theorem assigned_setDegraded (n : Nat) :
    assigned (setDegraded s "default" p n) = some { p with consecutiveDegraded := n } :=
  AList.lookup_insert _

theorem assigned_notifyNoViablePath (t : PathSteerer F) (c : String) :
    assigned (notifyNoViablePath t c) = assigned t := by
  rw [notifyNoViablePath]
  split <;> rfl

variable [LT F] [DecidableLT F] [Sub F]

theorem seekBetterPath_framed (c : String) : Framed s (seekBetterPath s c p x.1 x.2 now) := by
  rw [seekBetterPath]
  split
  · exact steer_framed s x now c _
  · split
    · exact steer_framed s x now c _
    · exact ⟨rfl, rfl⟩

theorem seekBetterPath_moved (h : s.config.autoFailover = true)
    (hx : x.1 ≠ p.activeInterface ∧ s.config.switchHysteresis < x.2 - p.activeScore) :
    MovedFor .betterPath x now (seekBetterPath s "default" p x.1 x.2 now) := by
  rw [seekBetterPath, if_pos hx]
  exact steer_moved s x now .betterPath h

theorem seekBetterPath_stayed (n : Nat)
    (hp : assigned s = some { p with consecutiveDegraded := n })
    (h : ¬ (s.config.autoFailover = true ∧
      x.1 ≠ p.activeInterface ∧ s.config.switchHysteresis < x.2 - p.activeScore)) :
    StayedWith p n (seekBetterPath s "default" p x.1 x.2 now) := by
  rw [seekBetterPath]
  split
  · rename_i hx
    exact steer_stayed s p x now n .betterPath (by decide) (by simpa [hx.1, hx.2] using h) hp
  · split
    · rename_i hne hx
      exact absurd hx.2 hne
    · exact ⟨rfl, hp⟩

variable [LE F] [DecidableLE F] (u : HealthUpdate F)

theorem evaluateAssigned_framed (c : String) :
    Framed s (evaluateAssigned s c p x.1 x.2 u.interface u.smoothedScore.overall now) := by
  rw [evaluateAssigned]
  split
  · split
    · exact steer_framed (setDegraded s c p _) x now c _
    · exact ⟨rfl, rfl⟩
  · split
    · exact seekBetterPath_framed (setDegraded s c p 0) p x now c
    · exact seekBetterPath_framed s p x now c

theorem evaluateAssigned_moved (h : s.config.autoFailover = true) (hx : Outdone s u p x) :
    MovedFor (reasonFor s u p) x now
      (evaluateAssigned s "default" p x.1 x.2 u.interface u.smoothedScore.overall now) := by
  obtain ⟨hne, ⟨hdeg, hthree⟩ | ⟨hdeg, hhyst⟩⟩ := hx
  · rw [reasonFor, if_pos hdeg]
    rw [DegradedReading] at hdeg
    rw [evaluateAssigned, if_pos hdeg, if_pos ⟨hthree, hne⟩]
    exact steer_moved (setDegraded s "default" p _) x now .healthDegraded h
  · rw [reasonFor, if_neg hdeg]
    rw [DegradedReading] at hdeg
    rw [evaluateAssigned, if_neg hdeg]
    split
    · exact seekBetterPath_moved (setDegraded s "default" p 0) p x now h ⟨hne, hhyst⟩
    · exact seekBetterPath_moved s p x now h ⟨hne, hhyst⟩

theorem evaluateAssigned_stayed (hp : assigned s = some p)
    (h : ¬ (s.config.autoFailover = true ∧ Outdone s u p x)) :
    StayedWith p
      (if u.interface ≠ p.activeInterface then p.consecutiveDegraded
        else if u.smoothedScore.overall < s.config.minViableScore then p.consecutiveDegraded + 1
        else if s.config.minViableScore ≤ u.smoothedScore.overall then 0
        else p.consecutiveDegraded)
      (evaluateAssigned s "default" p x.1 x.2 u.interface u.smoothedScore.overall now) := by
  have hno : ¬ DegradedReading s p u → ¬ (s.config.autoFailover = true ∧ x.1 ≠ p.activeInterface ∧
      s.config.switchHysteresis < x.2 - p.activeScore) :=
    fun hdeg hx => h ⟨hx.1, hx.2.1, .inr ⟨hdeg, hx.2.2⟩⟩
  rw [evaluateAssigned]
  by_cases hact : u.interface = p.activeInterface
  · rw [if_neg (not_not.mpr hact)]
    by_cases hlow : u.smoothedScore.overall < s.config.minViableScore
    · have hset := assigned_setDegraded s p (p.consecutiveDegraded + 1)
      have hdeg := And.intro hact hlow
      rw [if_pos hlow, if_pos hdeg]
      split
      · rename_i hthree
        apply steer_stayed (setDegraded s "default" p _) p x now _ .healthDegraded (by decide)
        · apply Bool.eq_false_of_not_eq_true
          exact fun hauto => h ⟨hauto, hthree.2, .inl ⟨hdeg, hthree.1⟩⟩
        · exact hset
      · exact ⟨rfl, hset⟩
    · have hdeg := not_and_of_not_right (u.interface = p.activeInterface) hlow
      rw [if_neg hlow, if_neg hdeg]
      by_cases hhigh : s.config.minViableScore ≤ u.smoothedScore.overall
      · rw [if_pos hhigh, if_pos ⟨hact, hhigh⟩]
        apply seekBetterPath_stayed (setDegraded s "default" p 0) p x now 0
        · exact assigned_setDegraded s p 0
        · exact hno hdeg
      · rw [if_neg hhigh, if_neg (not_and_of_not_right _ hhigh)]
        exact seekBetterPath_stayed s p x now _ hp (hno hdeg)
  · have hdeg := not_and_of_not_left (u.smoothedScore.overall < s.config.minViableScore) hact
    have hgood := not_and_of_not_left (s.config.minViableScore ≤ u.smoothedScore.overall) hact
    rw [if_pos hact, if_neg hdeg, if_neg hgood]
    exact seekBetterPath_stayed s p x now _ hp (hno hdeg)

end

variable [LT F] [DecidableLT F] [LE F] [DecidableLE F] [Sub F] [Ord F]

def SteersTo (s : PathSteerer F) (u : HealthUpdate F) (now : Nat) (order : Shuffle (ScoreEntry F))
    (p : PathState F) (x : String × F) : Prop :=
  s.config.autoFailover = true ∧ ¬ CoolingDown s p now ∧ best s u order = some x ∧
  Outdone s u p x

/-- The counter of a path that the update does not move. It is looked at only
with a viable interface and the cooldown over, and a score that is not a number
leaves it as it is. -/
def countAfter (s : PathSteerer F) (u : HealthUpdate F) (now : Nat) (order : Shuffle (ScoreEntry F))
    (p : PathState F) : Nat :=
  if (best s u order).isNone ∨ CoolingDown s p now ∨ u.interface ≠ p.activeInterface then
    p.consecutiveDegraded
  else if u.smoothedScore.overall < s.config.minViableScore then p.consecutiveDegraded + 1
  else if s.config.minViableScore ≤ u.smoothedScore.overall then 0
  else p.consecutiveDegraded

inductive Answered (s : PathSteerer F) (u : HealthUpdate F) (now : Nat)
    (order : Shuffle (ScoreEntry F)) (r : Outcome F) : Prop where
  | unassigned (hp : assigned s = none) (hb : best s u order = none) (hr : r.1 = none)
      (hq : assigned r.2 = none)
  | started (x : String × F) (hp : assigned s = none) (hb : best s u order = some x)
      (hq : MovedFor .initial x now r)
  | moved (p : PathState F) (x : String × F) (hp : assigned s = some p)
      (hx : SteersTo s u now order p x) (hq : MovedFor (reasonFor s u p) x now r)
  | stayed (p : PathState F) (hp : assigned s = some p) (hx : ∀ x, ¬ SteersTo s u now order p x)
      (hq : StayedWith p (countAfter s u now order p) r)

section

variable (s : PathSteerer F) (u : HealthUpdate F) (now : Nat) (order : Shuffle (ScoreEntry F))

theorem onHealthUpdate_framed : Framed (recordScore s u) (onHealthUpdate s u now order) := by
  rw [onHealthUpdate, evaluateSteering]
  split
  · rw [notifyNoViablePath]
    split <;> exact ⟨rfl, rfl⟩
  · split
    · exact ⟨rfl, rfl⟩
    · split
      · exact ⟨rfl, rfl⟩
      · exact evaluateAssigned_framed (recordScore s u) _ (_, _) now u "default"

theorem scores_update (name : String) :
    ((onHealthUpdate s u now order).2.healthScores.lookup name).map (·.overall) =
      if u.interface = name then some u.smoothedScore.overall
      else (s.healthScores.lookup name).map (·.overall) := by
  rw [(onHealthUpdate_framed s u now order).2, recordScore, lookup_insert_eq]
  by_cases h : name = u.interface
  · rw [if_pos h, if_pos h.symm]
    rfl
  · rw [if_neg h, if_neg (Ne.symm h)]

theorem onHealthUpdate_noneViable (hb : best s u order = none) :
    (onHealthUpdate s u now order).1 = none ∧
    assigned (onHealthUpdate s u now order).2 = assigned s := by
  have hb' : findBestInterface (recordScore s u).config order (recordScore s u).healthScores =
      none := hb
  have hupdate : onHealthUpdate s u now order =
      (none, notifyNoViablePath (recordScore s u) "default") := by
    simp only [onHealthUpdate, evaluateSteering, hb']
  rw [hupdate]
  exact ⟨rfl, assigned_notifyNoViablePath (recordScore s u) "default"⟩

theorem onHealthUpdate_judged {p : PathState F} (hp : assigned s = some p) {x : String × F}
    (hb : best s u order = some x) :
    onHealthUpdate s u now order =
      if now - p.lastSteering < s.config.steeringCooldown then (none, recordScore s u)
      else evaluateAssigned (recordScore s u) "default" p x.1 x.2 u.interface
        u.smoothedScore.overall now := by
  have hp' : (recordScore s u).pathStates.lookup "default" = some p := hp
  have hb' : findBestInterface (recordScore s u).config order (recordScore s u).healthScores =
      some x := hb
  simp only [onHealthUpdate, evaluateSteering, hb', hp']
  rfl

theorem onHealthUpdate_started (hp : assigned s = none) {x : String × F}
    (hb : best s u order = some x) : MovedFor .initial x now (onHealthUpdate s u now order) := by
  have hp' : (recordScore s u).pathStates.lookup "default" = none := hp
  have hb' : findBestInterface (recordScore s u).config order (recordScore s u).healthScores =
      some x := hb
  simp only [onHealthUpdate, evaluateSteering, hb', hp']
  exact ⟨⟨_, rfl, rfl, rfl, rfl⟩, AList.lookup_insert _⟩

theorem onHealthUpdate_steered {p : PathState F} (hp : assigned s = some p) {x : String × F}
    (h : SteersTo s u now order p x) :
    MovedFor (reasonFor s u p) x now (onHealthUpdate s u now order) := by
  obtain ⟨hauto, hcool, hb, hx⟩ := h
  rw [CoolingDown] at hcool
  rw [onHealthUpdate_judged s u now order hp hb, if_neg hcool]
  exact evaluateAssigned_moved (recordScore s u) p x now u hauto hx

theorem onHealthUpdate_counted {p : PathState F} (hp : assigned s = some p)
    (h : ∀ x, ¬ SteersTo s u now order p x) :
    StayedWith p (countAfter s u now order p) (onHealthUpdate s u now order) := by
  rw [countAfter]
  cases hb : best s u order with
  | none =>
    obtain ⟨hnone, hsame⟩ := onHealthUpdate_noneViable s u now order hb
    rw [if_pos (.inl rfl)]
    exact ⟨hnone, hsame.trans hp⟩
  | some x =>
    rw [onHealthUpdate_judged s u now order hp hb]
    by_cases hcool : CoolingDown s p now
    · rw [if_pos (.inr (.inl hcool))]
      rw [CoolingDown] at hcool
      rw [if_pos hcool]
      exact ⟨rfl, hp⟩
    · have hstay := evaluateAssigned_stayed (recordScore s u) p x now u hp
        (fun hx => h x ⟨hx.1, hcool, hb, hx.2⟩)
      simp only [Option.isNone_some, Bool.false_eq_true, hcool, false_or]
      rw [CoolingDown] at hcool
      rw [if_neg hcool]
      simpa only [ite_not] using! hstay

theorem onHealthUpdate_answered : Answered s u now order (onHealthUpdate s u now order) := by
  cases hp : assigned s with
  | none =>
    cases hb : best s u order with
    | none =>
      obtain ⟨hnone, hsame⟩ := onHealthUpdate_noneViable s u now order hb
      exact .unassigned hp hb hnone (hsame.trans hp)
    | some x => exact .started x hp hb (onHealthUpdate_started s u now order hp hb)
  | some p =>
    by_cases h : ∃ x, SteersTo s u now order p x
    · obtain ⟨x, hx⟩ := h
      exact .moved p x hp hx (onHealthUpdate_steered s u now order hp hx)
    · have hx := not_exists.mp h
      exact .stayed p hp hx (onHealthUpdate_counted s u now order hp hx)

/-- After an update a path is the one to the best interface, or the one from
before with some counter. -/
theorem assigned_after {q : PathState F} (h : assigned (onHealthUpdate s u now order).2 = some q) :
    (∃ x, best s u order = some x ∧ q = ⟨x.1, x.2, now, 0⟩) ∨
    ∃ p n, assigned s = some p ∧ q = { p with consecutiveDegraded := n } := by
  cases onHealthUpdate_answered s u now order with
  | unassigned _ _ _ hnone => cases hnone.symm.trans h
  | started x _ hb hmoved => exact .inl ⟨x, hb, Option.some.inj (h.symm.trans hmoved.2)⟩
  | moved p x _ hx hmoved => exact .inl ⟨x, hx.2.2.1, Option.some.inj (h.symm.trans hmoved.2)⟩
  | stayed p hp _ hstayed => exact .inr ⟨p, _, hp, Option.some.inj (h.symm.trans hstayed.2)⟩

/-- An assigned class moves exactly where it is steered to. -/
theorem onHealthUpdate_moved {p : PathState F} (hp : assigned s = some p) {x : String × F}
    (h : SteersTo s u now order p x) : MovedTo x now (onHealthUpdate s u now order) :=
  (onHealthUpdate_steered s u now order hp h).movedTo

theorem onHealthUpdate_stayed {p : PathState F} (hp : assigned s = some p)
    (h : ∀ x, ¬ SteersTo s u now order p x) : StayedAt p (onHealthUpdate s u now order) :=
  (onHealthUpdate_counted s u now order hp h).stayedAt

end

end Netfusion.Core.SteeringSpec
