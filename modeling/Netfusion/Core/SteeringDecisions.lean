import Netfusion.Core.SteeringHysteresis

namespace Netfusion.Core.SteeringDecisions

open Netfusion.Lib.Collections Netfusion.Lib.Machine
open Netfusion.Shared.Types
open Netfusion.Core.Monitoring Netfusion.Core.PathSteering Netfusion.Core.SteeringSpec
open Netfusion.Core.SteeringHysteresis

def scoreFor (name : String) : Event ℚ → Option ℚ
  | .update u _ _ => if u.interface = name then some u.smoothedScore.overall else none
  | .reset => none

def latestScore (es : List (Event ℚ)) (name : String) : Option ℚ :=
  (es.filterMap (scoreFor name)).getLast?

def pathOf (s : PathSteerer ℚ) (trafficClass : String) : Option (PathState ℚ) :=
  s.pathStates.lookup trafficClass

/-- There is a decision for the class exactly if it has a path, and it is for
the interface of the path and its score. -/
def MirrorsAt (s : PathSteerer ℚ) (c : String) : Prop :=
  (getDecision s c).map (fun d => (d.activeInterface, d.activeScore)) =
    (pathOf s c).map (fun p => (p.activeInterface, p.activeScore))

/-- The decisions agree with the paths, and say that there is no viable path
exactly when no latest score is viable. A reset leaves no decision, so each
comes from an update after it. -/
structure Agrees (config : SteeringConfig ℚ) (es : List (Event ℚ)) (s : PathSteerer ℚ) : Prop where
  mirrors : ∀ c, MirrorsAt s c
  reason : ∀ c d, getDecision s c = some d →
    (d.reason = .noViablePath ↔
      ∀ name score, latestScore es name = some score → score < config.minViableScore)

def NoneViable (s : PathSteerer ℚ) : Prop :=
  ∀ name live, s.healthScores.lookup name = some live → live.overall < s.config.minViableScore

structure Consistent (s : PathSteerer ℚ) : Prop where
  mirrors : ∀ c, MirrorsAt s c
  oneClass : ∀ c, c ≠ "default" → getDecision s c = none

/-- The announced reason is right about the cached scores. -/
def RightReason (s : PathSteerer ℚ) : Prop :=
  ∀ d, getDecision s "default" = some d → (d.reason = .noViablePath ↔ NoneViable s)

/-- An update that finds a viable interface while the class is announced to
have none moves the class. -/
def LeavesNoPath (s : PathSteerer ℚ) : Event ℚ → Prop
  | .update u now order => ∀ d p, getDecision s "default" = some d → d.reason = .noViablePath →
      assigned s = some p → best s u order ≠ none → ∃ x, SteersTo s u now order p x
  | .reset => True

structure Announced (s : PathSteerer ℚ) (r : Outcome ℚ) : Prop where
  decision : getDecision r.2 "default" = r.1.or (getDecision s "default")
  others : ∀ c, c ≠ "default" → getDecision r.2 c = getDecision s c ∧ pathOf r.2 c = pathOf s c

theorem announced_none (s : PathSteerer ℚ) : Announced s (none, s) :=
  ⟨rfl, fun _ _ => ⟨rfl, rfl⟩⟩

theorem announced_setDegraded {s : PathSteerer ℚ} {p : PathState ℚ} {n : Nat}
    {r : Outcome ℚ} (h : Announced (setDegraded s "default" p n) r) :
    Announced s r := by
  refine ⟨h.decision, ?_⟩
  intro c hc
  obtain ⟨hdecision, hpath⟩ := h.others c hc
  exact ⟨hdecision, hpath.trans (AList.lookup_insert_ne hc)⟩

section

variable (s : PathSteerer ℚ) (x : String × ℚ) (now : Nat)

theorem steer_announced (reason : SteeringReason) :
    Announced s (steer s "default" x.1 x.2 reason now) := by
  rw [steer]
  split
  · exact announced_none s
  · constructor
    · exact AList.lookup_insert s.decisions
    · intro c hc
      exact ⟨AList.lookup_insert_ne hc, AList.lookup_insert_ne hc⟩

theorem assignInitial_announced : Announced s (assignInitial s "default" x.1 x.2 now) := by
  constructor
  · exact AList.lookup_insert s.decisions
  · intro c hc
    exact ⟨AList.lookup_insert_ne hc, AList.lookup_insert_ne hc⟩

variable (p : PathState ℚ)

theorem seekBetterPath_announced : Announced s (seekBetterPath s "default" p x.1 x.2 now) := by
  rw [seekBetterPath]
  split
  · exact steer_announced s x now _
  · split
    · exact steer_announced s x now _
    · exact announced_none s

theorem evaluateAssigned_announced (u : HealthUpdate ℚ) :
    Announced s
      (evaluateAssigned s "default" p x.1 x.2 u.interface u.smoothedScore.overall now) := by
  rw [evaluateAssigned]
  split
  · apply announced_setDegraded
    split
    · exact steer_announced _ x now _
    · exact announced_none _
  · split
    · exact announced_setDegraded (seekBetterPath_announced _ x now p)
    · exact seekBetterPath_announced s x now p

end

section

variable (s : PathSteerer ℚ) (u : HealthUpdate ℚ) (now : Nat) (order : Shuffle (ScoreEntry ℚ))

theorem onHealthUpdate_announced {x : String × ℚ} (hb : best s u order = some x) :
    Announced s (onHealthUpdate s u now order) := by
  have hb' : findBestInterface (recordScore s u).config order (recordScore s u).healthScores =
      some x := hb
  simp only [onHealthUpdate, evaluateSteering, hb']
  have hrecord : ∀ {r}, Announced (recordScore s u) r → Announced s r :=
    fun h => ⟨h.decision, h.others⟩
  apply hrecord
  split
  · exact assignInitial_announced _ x now
  · split
    · exact announced_none _
    · exact evaluateAssigned_announced _ x now _ u

theorem onHealthUpdate_noPath (hb : best s u order = none) (c : String) :
    pathOf (onHealthUpdate s u now order).2 c = pathOf s c ∧
    getDecision (onHealthUpdate s u now order).2 c =
      if c = "default" ∧ (assigned s).isSome = true then
        (assigned s).map (fun p => ⟨p.activeInterface, p.activeScore, false, .noViablePath⟩)
      else getDecision s c := by
  have hb' : findBestInterface (recordScore s u).config order (recordScore s u).healthScores =
      none := hb
  have hpath : (recordScore s u).pathStates.lookup "default" = assigned s := rfl
  simp only [onHealthUpdate, evaluateSteering, hb', notifyNoViablePath, hpath]
  cases assigned s with
  | none => exact ⟨rfl, by simp; rfl⟩
  | some p =>
    refine ⟨rfl, ?_⟩
    simp only [getDecision, lookup_insert_eq, Option.isSome_some, and_true, Option.map_some]
    rfl

theorem noneViable_update :
    NoneViable (onHealthUpdate s u now order).2 ↔ best s u order = none := by
  obtain ⟨hconfig, hscores⟩ := onHealthUpdate_framed s u now order
  rw [NoneViable, hconfig, hscores]
  exact findBestInterface_eq_none.symm

theorem decided_moved {x : String × ℚ} {reason : SteeringReason} (hb : best s u order = some x)
    (h : MovedFor reason x now (onHealthUpdate s u now order)) :
    ∃ d, getDecision (onHealthUpdate s u now order).2 "default" = some d ∧
      d.activeInterface = x.1 ∧ d.activeScore = x.2 ∧ d.reason = reason := by
  obtain ⟨⟨d, hd, hi, hscore, hreason⟩, -⟩ := h
  have hdecision := (onHealthUpdate_announced s u now order hb).decision
  rw [hd] at hdecision
  exact ⟨d, hdecision, hi, hscore, hreason⟩

theorem decided_stayed {x : String × ℚ} {p : PathState ℚ} {n : Nat} (hb : best s u order = some x)
    (h : StayedWith p n (onHealthUpdate s u now order)) :
    getDecision (onHealthUpdate s u now order).2 "default" = getDecision s "default" := by
  have hdecision := (onHealthUpdate_announced s u now order hb).decision
  rw [h.1] at hdecision
  exact hdecision

theorem mirrors_of_moved {x : String × ℚ} {reason : SteeringReason} (hb : best s u order = some x)
    (h : MovedFor reason x now (onHealthUpdate s u now order)) :
    MirrorsAt (onHealthUpdate s u now order).2 "default" := by
  obtain ⟨d, hd, hi, hscore, -⟩ := decided_moved s u now order hb h
  have hpath : pathOf (onHealthUpdate s u now order).2 "default" = some ⟨x.1, x.2, now, 0⟩ := h.2
  rw [MirrorsAt, hd, hpath, Option.map_some, Option.map_some, hi, hscore]

theorem mirrors_default (hs : MirrorsAt s "default") :
    MirrorsAt (onHealthUpdate s u now order).2 "default" := by
  cases hb : best s u order with
  | none =>
    obtain ⟨hpath, hdecision⟩ := onHealthUpdate_noPath s u now order hb "default"
    have hassigned : pathOf s "default" = assigned s := rfl
    rw [MirrorsAt, hpath, hdecision, hassigned]
    cases hp : assigned s with
    | none => simpa [MirrorsAt, hassigned, hp] using hs
    | some p => rfl
  | some x =>
    cases onHealthUpdate_answered s u now order with
    | unassigned hp hnone => cases hnone.symm.trans hb
    | started y hp hy hq => exact mirrors_of_moved s u now order hy hq
    | moved p y hp hy hq => exact mirrors_of_moved s u now order hy.2.2.1 hq
    | stayed p hp hy hq =>
      have hbefore : pathOf s "default" = some p := hp
      have hafter : pathOf (onHealthUpdate s u now order).2 "default" =
        some { p with consecutiveDegraded := countAfter s u now order p } := hq.2
      rw [MirrorsAt, hbefore] at hs
      rw [MirrorsAt, decided_stayed s u now order hb hq, hafter]
      exact hs

theorem other_class {c : String} (hc : c ≠ "default") :
    getDecision (onHealthUpdate s u now order).2 c = getDecision s c ∧
    pathOf (onHealthUpdate s u now order).2 c = pathOf s c := by
  cases hb : best s u order with
  | none =>
    obtain ⟨hpath, hdecision⟩ := onHealthUpdate_noPath s u now order hb c
    have hneg : ¬ (c = "default" ∧ (assigned s).isSome = true) := fun h => hc h.1
    rw [if_neg hneg] at hdecision
    exact ⟨hdecision, hpath⟩
  | some x => exact (onHealthUpdate_announced s u now order hb).others c hc

theorem consistent_update (hs : Consistent s) : Consistent (onHealthUpdate s u now order).2 := by
  constructor
  · intro c
    by_cases hc : c = "default"
    · subst hc
      exact mirrors_default s u now order (hs.mirrors "default")
    · obtain ⟨hdecision, hpath⟩ := other_class s u now order hc
      rw [MirrorsAt, hdecision, hpath]
      exact hs.mirrors c
  · intro c hc
    exact (other_class s u now order hc).1.trans (hs.oneClass c hc)

end

theorem consistent_step (s : PathSteerer ℚ) (e : Event ℚ) (h : Consistent s) :
    Consistent (step s e).2 := by
  cases e with
  | update u now order => exact consistent_update s u now order h
  | reset => exact ⟨fun _ => rfl, fun _ _ => rfl⟩

theorem rightReason_of_moved (s : PathSteerer ℚ) (u : HealthUpdate ℚ) (now : Nat)
    (order : Shuffle (ScoreEntry ℚ)) {x : String × ℚ} {reason : SteeringReason}
    (hb : best s u order = some x) (hreason : reason ≠ .noViablePath)
    (h : MovedFor reason x now (onHealthUpdate s u now order)) :
    RightReason (onHealthUpdate s u now order).2 := by
  intro d hd
  obtain ⟨d', hd', -, -, rfl⟩ := decided_moved s u now order hb h
  cases hd.symm.trans hd'
  rw [noneViable_update, hb]
  exact iff_of_false hreason (Option.some_ne_none x)

theorem rightReason_of_noPath (s : PathSteerer ℚ) (u : HealthUpdate ℚ) (now : Nat)
    (order : Shuffle (ScoreEntry ℚ)) (hs : MirrorsAt s "default") (hb : best s u order = none) :
    RightReason (onHealthUpdate s u now order).2 := by
  intro d hd
  obtain ⟨-, hdecision⟩ := onHealthUpdate_noPath s u now order hb "default"
  have hassigned : pathOf s "default" = assigned s := rfl
  rw [noneViable_update]
  refine iff_of_true ?_ hb
  rw [hdecision] at hd
  cases hp : assigned s with
  | none =>
    rw [MirrorsAt, hassigned, hp, Option.map_none, Option.map_eq_none_iff] at hs
    simp [hp, hs] at hd
  | some p =>
    simp only [hp, Option.isSome_some, and_self, if_true, Option.map_some] at hd
    cases hd
    rfl

theorem reasonFor_ne (s : PathSteerer ℚ) (u : HealthUpdate ℚ) (p : PathState ℚ) :
    reasonFor s u p ≠ .noViablePath := by
  rw [reasonFor]
  split <;> decide

/-- One update. Whatever was announced before, it leaves the right reason
behind exactly if it does not leave a wrong one standing. -/
theorem rightReason_update (s : PathSteerer ℚ) (u : HealthUpdate ℚ) (now : Nat)
    (order : Shuffle (ScoreEntry ℚ)) (hs : MirrorsAt s "default") :
    RightReason (onHealthUpdate s u now order).2 ↔ LeavesNoPath s (.update u now order) := by
  cases hb : best s u order with
  | none =>
    apply iff_of_true
    · exact rightReason_of_noPath s u now order hs hb
    · intro d p _ _ _ hne
      exact absurd hb hne
  | some x =>
    cases onHealthUpdate_answered s u now order with
    | unassigned hp hnone => cases hnone.symm.trans hb
    | started y hp hy hq =>
      apply iff_of_true
      · exact rightReason_of_moved s u now order hy (by decide) hq
      · intro d p _ _ hp' _
        cases hp.symm.trans hp'
    | moved p y hp hy hq =>
      apply iff_of_true
      · exact rightReason_of_moved s u now order hy.2.2.1 (reasonFor_ne s u p) hq
      · intro d p' _ _ hp' _
        cases hp.symm.trans hp'
        exact ⟨y, hy⟩
    | stayed p hp hy hq =>
      have hviable : ¬ NoneViable (onHealthUpdate s u now order).2 := by
        rw [noneViable_update, hb]
        exact Option.some_ne_none x
      have hdecision := decided_stayed s u now order hb hq
      constructor
      · intro h d p' hd hreason _ _
        exact absurd ((h d (hdecision.trans hd)).mp hreason) hviable
      · intro h d hd
        rw [hdecision] at hd
        refine iff_of_false ?_ hviable
        intro hreason
        obtain ⟨y, hsteer⟩ := h d p hd hreason hp (by simp [hb])
        exact hy y hsteer

theorem rightReason_step (s : PathSteerer ℚ) (e : Event ℚ) (h : Consistent s) :
    RightReason (step s e).2 ↔ LeavesNoPath s e := by
  cases e with
  | update u now order => exact rightReason_update s u now order (h.mirrors "default")
  | reset =>
    apply iff_of_true
    · intro d hd
      cases hd
    · trivial

theorem latestScore_concat (es : List (Event ℚ)) (e : Event ℚ) (name : String) :
    latestScore (es ++ [e]) name = (scoreFor name e).or (latestScore es name) := by
  rw [latestScore, List.filterMap_append, List.getLast?_append]
  cases h : scoreFor name e <;> simp [h, latestScore]

theorem scores_run (config : SteeringConfig ℚ) (es : List (Event ℚ)) (name : String) :
    ((run step (PathSteerer.new config) es).healthScores.lookup name).map (·.overall) =
      latestScore es name := by
  induction es using List.reverseRecOn with
  | nil => rfl
  | append_singleton es e ih =>
    rw [run_concat, latestScore_concat]
    cases e with
    | update u now order =>
      simp only [scoreFor]
      refine (scores_update _ u now order name).trans ?_
      split
      · rfl
      · exact ih
    | reset => exact ih

theorem noneViable_run (config : SteeringConfig ℚ) (es : List (Event ℚ)) :
    NoneViable (run step (PathSteerer.new config) es) ↔
      ∀ name score, latestScore es name = some score → score < config.minViableScore := by
  rw [NoneViable, config_run]
  constructor
  · intro h name score hscore
    rw [← scores_run config, Option.map_eq_some_iff] at hscore
    obtain ⟨live, hlive, rfl⟩ := hscore
    exact h name live hlive
  · intro h name live hlive
    apply h name
    rw [← scores_run config, hlive]
    rfl

theorem consistent_new (config : SteeringConfig ℚ) : Consistent (PathSteerer.new config) :=
  ⟨fun _ => rfl, fun _ _ => rfl⟩

theorem agrees_iff (config : SteeringConfig ℚ) (es : List (Event ℚ)) :
    Agrees config es (run step (PathSteerer.new config) es) ↔
      Consistent (run step (PathSteerer.new config) es) ∧
      RightReason (run step (PathSteerer.new config) es) := by
  have hcons : Consistent (run step (PathSteerer.new config) es) :=
    run_keeps (consistent_new config) consistent_step es
  constructor
  · intro h
    refine ⟨hcons, ?_⟩
    intro d hd
    rw [noneViable_run]
    exact h.reason "default" d hd
  · rintro ⟨-, hright⟩
    refine ⟨hcons.mirrors, ?_⟩
    intro c d hd
    by_cases hc : c = "default"
    · subst hc
      rw [← noneViable_run]
      exact hright d hd
    · cases (hcons.oneClass c hc).symm.trans hd

/-- The decisions agree with the paths and the scores all along a run exactly
when every update that finds a viable interface, while the class is announced
to have none, moves the class. -/
theorem decisions_agree_iff (config : SteeringConfig ℚ) (es : List (Event ℚ)) :
    (∀ pre post, es = pre ++ post →
      Agrees config pre (run step (PathSteerer.new config) pre)) ↔
      EachStep step (PathSteerer.new config) es (fun _ s e => LeavesNoPath s e) := by
  have hstep : ∀ (os : List (Option (SteeringDecision ℚ))) s e, Consistent s ∧ RightReason s →
      (Consistent (step s e).2 ∧ RightReason (step s e).2 ↔ LeavesNoPath s e) := by
    intro os s e hs
    rw [rightReason_step s e hs.1]
    exact and_iff_right (consistent_step s e hs.1)
  have hnew : RightReason (PathSteerer.new config) := by
    intro d hd
    cases hd
  rw [← always_iff (I := fun _ s => Consistent s ∧ RightReason s)
    ⟨consistent_new config, hnew⟩ hstep]
  constructor
  · intro h pre post he
    exact (agrees_iff config pre).mp (h pre post he)
  · intro h pre post he
    exact (agrees_iff config pre).mpr (h pre post he)

/-- `eth0` is lost and comes back. -/
def regainedRun : List (Event ℚ) :=
  [.update (reading "eth0" 90) 0 (.id _), .update (reading "eth0" 10) 1 (.id _),
    .update (reading "eth0" 90) 2 (.id _)]

theorem regained_path_unannounced :
    ¬ Agrees promptConfig regainedRun (run step (PathSteerer.new promptConfig) regainedRun) := by
  intro h
  have hdecision : getDecision (run step (PathSteerer.new promptConfig) regainedRun) "default" =
      some ⟨"eth0", 90, false, .noViablePath⟩ := by decide +kernel
  have hlatest : latestScore regainedRun "eth0" = some 90 := by decide +kernel
  have hlow := (h.reason "default" _ hdecision).mp rfl "eth0" 90 hlatest
  exact absurd hlow (by decide +kernel)

end Netfusion.Core.SteeringDecisions
