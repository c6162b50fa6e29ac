import Netfusion.Core.SteeringHysteresis

namespace Netfusion.Core.SteeringBufferbloat

open Netfusion.Lib.Collections Netfusion.Lib.Machine
open Netfusion.Shared.Types
open Netfusion.Core.Monitoring Netfusion.Core.PathSteering Netfusion.Core.SteeringSpec
open Netfusion.Core.SteeringHysteresis

/-- Everything that the bufferbloat branch asks for, once the cooldown is over
and the update is no degraded reading of the active interface. -/
structure SuspectsBufferbloat (s : PathSteerer ℚ) (u : HealthUpdate ℚ) (now : Nat)
    (order : Shuffle (ScoreEntry ℚ)) (p : PathState ℚ) (x : String × ℚ) : Prop where
  assigned : assigned s = some p
  auto : s.config.autoFailover = true
  cooled : ¬ CoolingDown s p now
  notDegraded : ¬ DegradedReading s p u
  low : p.activeScore < s.config.bufferbloatThreshold
  best : best s u order = some x
  other : x.1 ≠ p.activeInterface
  ahead : s.config.switchHysteresis < x.2 - p.activeScore

/-- A suspected bufferbloat is answered with a failover that is called so. -/
def ReportsBufferbloat (s : PathSteerer ℚ) : Event ℚ → Prop
  | .update u now order => ∀ p x, SuspectsBufferbloat s u now order p x →
    ∃ d, (onHealthUpdate s u now order).1 = some d ∧ d.reason = .bufferbloat ∧
      d.isFailover = true
  | .reset => True

def AssignedViable (s : PathSteerer ℚ) : Prop :=
  ∀ p, assigned s = some p → s.config.minViableScore ≤ p.activeScore

def forced (reason : SteeringReason) : Prop :=
  reason = .healthDegraded ∨ reason = .interfaceDown ∨ reason = .bufferbloat

section

variable (s : PathSteerer ℚ) (u : HealthUpdate ℚ) (now : Nat) (order : Shuffle (ScoreEntry ℚ))
  {p : PathState ℚ} {x : String × ℚ} {d : SteeringDecision ℚ}

theorem steer_forced {c interface : String} {score : ℚ} {reason : SteeringReason}
    (h : (steer s c interface score reason now).1 = some d) :
    d.isFailover = true ↔ forced d.reason := by
  rw [steer] at h
  split at h
  · cases h
  · cases h
    exact decide_eq_true_iff

theorem seekBetterPath_forced {c interface : String} {score : ℚ}
    (h : (seekBetterPath s c p interface score now).1 = some d) :
    d.isFailover = true ↔ forced d.reason := by
  rw [seekBetterPath] at h
  split at h
  · exact steer_forced s now h
  · split at h
    · exact steer_forced s now h
    · cases h

theorem evaluateAssigned_forced {c interface updated : String} {score reading : ℚ}
    (h : (evaluateAssigned s c p interface score updated reading now).1 = some d) :
    d.isFailover = true ↔ forced d.reason := by
  rw [evaluateAssigned] at h
  split at h
  · dsimp only at h
    split at h
    · exact steer_forced _ now h
    · cases h
  · split at h
    · exact seekBetterPath_forced _ now h
    · exact seekBetterPath_forced s now h

theorem onHealthUpdate_forced (h : (onHealthUpdate s u now order).1 = some d) :
    d.isFailover = true ↔ forced d.reason := by
  rw [onHealthUpdate, evaluateSteering] at h
  split at h
  · cases h
  · split at h
    · cases h
      simp [forced]
    · split at h
      · cases h
      · exact evaluateAssigned_forced _ now h

/-- The branch before the one for bufferbloat answers whatever that would. -/
theorem suspected_answered (h : SuspectsBufferbloat s u now order p x) :
    (onHealthUpdate s u now order).1 = some ⟨x.1, x.2, false, .betterPath⟩ := by
  have hsteers : SteersTo s u now order p x :=
    ⟨h.auto, h.cooled, h.best, h.other, .inr ⟨h.notDegraded, h.ahead⟩⟩
  obtain ⟨⟨d, hd, hi, hscore, hreason⟩, -⟩ :=
    onHealthUpdate_steered s u now order h.assigned hsteers
  rw [reasonFor, if_neg h.notDegraded] at hreason
  have hforced := onHealthUpdate_forced s u now order hd
  obtain ⟨interface, score, isFailover, reason⟩ := d
  dsimp only at hi hscore hreason hforced
  subst hi hscore hreason
  have hno : isFailover = false := by
    apply Bool.eq_false_of_not_eq_true
    intro hyes
    simpa [forced] using hforced.mp hyes
  rw [hd, hno]

/-- So it is reported only where it is never suspected. -/
theorem reportsBufferbloat_iff :
    ReportsBufferbloat s (.update u now order) ↔
      ∀ p x, ¬ SuspectsBufferbloat s u now order p x := by
  constructor
  · intro h p x hx
    obtain ⟨d, hd, hreason, -⟩ := h p x hx
    rw [suspected_answered s u now order hx] at hd
    cases hd
    cases hreason
  · intro h p x hx
    exact absurd hx (h p x)

theorem assignedViable_update (hs : AssignedViable s) :
    AssignedViable (onHealthUpdate s u now order).2 := by
  intro q hq
  have hconfig : (onHealthUpdate s u now order).2.config = s.config :=
    (onHealthUpdate_framed s u now order).1
  rw [hconfig]
  obtain ⟨x, hb, rfl⟩ | ⟨p, n, hp, rfl⟩ := assigned_after s u now order hq
  · obtain ⟨-, -, -, hmin, -⟩ := findBestInterface_eq_some hb
    exact hmin
  · exact hs p hp

end

theorem assignedViable_step (s : PathSteerer ℚ) (e : Event ℚ) (h : AssignedViable s) :
    AssignedViable (step s e).2 := by
  cases e with
  | update u now order => exact assignedViable_update s u now order h
  | reset =>
    intro p hp
    cases hp

theorem assignedViable_run (config : SteeringConfig ℚ) (es : List (Event ℚ)) :
    AssignedViable (run step (PathSteerer.new config) es) := by
  apply run_keeps _ assignedViable_step es
  intro p hp
  cases hp

theorem best_ahead (s : PathSteerer ℚ) (order : Shuffle (ScoreEntry ℚ)) (name : String) (score : ℚ)
    (hmin : s.config.minViableScore ≤ score)
    (hless : ∀ other live, s.healthScores.lookup other = some live → other ≠ name →
      live.overall < score) : best s (reading name score) order = some (name, score) := by
  have hname : (scoresAfter s (reading name score)).lookup name =
      some (reading name score).smoothedScore := AList.lookup_insert _
  apply findBestInterface_ahead order hname hmin
  intro other live hlive hne
  have hother : other ≠ (reading name score).interface := hne
  rw [scoresAfter, lookup_insert_eq, if_neg hother] at hlive
  exact hless other live hlive hne

/-- `eth0` is assigned with the least viable score, and `eth1` outdoes it as
soon as the cooldown is over. -/
def barelyViable (config : SteeringConfig ℚ) : Event ℚ :=
  .update (reading "eth0" config.minViableScore) 0 (.id _)

def barePath (config : SteeringConfig ℚ) : PathState ℚ := ⟨"eth0", config.minViableScore, 0, 0⟩

def lead (config : SteeringConfig ℚ) : ℚ :=
  config.minViableScore + (max config.switchHysteresis 0 + 1)

def outdone (config : SteeringConfig ℚ) : Event ℚ :=
  .update (reading "eth1" (lead config)) config.steeringCooldown (.id _)

theorem barelyViable_assigned (config : SteeringConfig ℚ) :
    assigned (run step (PathSteerer.new config) [barelyViable config]) =
      some (barePath config) := by
  have hbest : best (PathSteerer.new config) (reading "eth0" config.minViableScore) (.id _) =
      some ("eth0", config.minViableScore) := by
    apply best_ahead
    · exact le_rfl
    · intro other live hlive _
      cases hlive
  exact (onHealthUpdate_started (PathSteerer.new config) _ 0 (.id _) rfl hbest).2

theorem barelyViable_scores (config : SteeringConfig ℚ) (other : String) (live : HealthScore ℚ)
    (h : (run step (PathSteerer.new config) [barelyViable config]).healthScores.lookup other =
      some live) : live.overall = config.minViableScore := by
  have hscores := scores_update (PathSteerer.new config)
    (reading "eth0" config.minViableScore) 0 (.id _) other
  have hlive : ((onHealthUpdate (PathSteerer.new config) (reading "eth0" config.minViableScore) 0
      (.id _)).2.healthScores.lookup other).map (·.overall) = some live.overall :=
    congrArg (Option.map (·.overall)) h
  rw [hlive] at hscores
  split at hscores
  · exact Option.some.inj hscores
  · cases hscores

theorem outdone_suspected (config : SteeringConfig ℚ) (hauto : config.autoFailover = true)
    (hlow : config.minViableScore < config.bufferbloatThreshold) :
    SuspectsBufferbloat (run step (PathSteerer.new config) [barelyViable config])
      (reading "eth1" (lead config)) config.steeringCooldown (.id _) (barePath config)
      ("eth1", lead config) := by
  have hconfig := config_run config [barelyViable config]
  have hne : "eth1" ≠ "eth0" := by decide
  have hpos : 0 < max config.switchHysteresis 0 + 1 := by
    have hzero : (0 : ℚ) ≤ max config.switchHysteresis 0 := le_max_right _ _
    linarith
  have hhyst : config.switchHysteresis < max config.switchHysteresis 0 + 1 :=
    (le_max_left _ _).trans_lt (lt_add_one _)
  constructor
  · exact barelyViable_assigned config
  · rwa [hconfig]
  · rw [CoolingDown, hconfig]
    exact lt_irrefl _
  · exact fun hdeg => hne hdeg.1
  · rwa [hconfig]
  · apply best_ahead
    · rw [hconfig, lead]
      exact le_add_of_nonneg_right hpos.le
    · intro other live hlive _
      rw [barelyViable_scores config other live hlive, lead]
      exact lt_add_of_pos_right _ hpos
  · exact hne
  · rw [hconfig]
    change config.switchHysteresis < lead config - config.minViableScore
    rwa [lead, add_sub_cancel_left]

/-- In every run of a configuration each suspected bufferbloat is reported as
such exactly when the configuration keeps it from ever being suspected: the
score at which a path is assigned is never below the threshold. -/
theorem bufferbloat_reported_iff (config : SteeringConfig ℚ) :
    (∀ es : List (Event ℚ), EachStep step (PathSteerer.new config) es
      (fun _ s e => ReportsBufferbloat s e)) ↔
      (config.autoFailover = true → config.bufferbloatThreshold ≤ config.minViableScore) := by
  constructor
  · intro h hauto
    by_contra hlow
    have hlast := h [barelyViable config, outdone config] [barelyViable config] _ [] rfl
    apply (reportsBufferbloat_iff _ _ _ _).mp hlast
    exact outdone_suspected config hauto (not_le.mp hlow)
  · intro h es pre e post _
    cases e with
    | reset => trivial
    | update u now order =>
      apply (reportsBufferbloat_iff _ u now order).mpr
      intro p x hx
      have hconfig := config_run config pre
      have hviable := assignedViable_run config pre p hx.assigned
      have hlow := hx.low
      have hauto := hx.auto
      rw [hconfig] at hviable hlow hauto
      exact absurd (hlow.trans_le (h hauto)) (not_lt.mpr hviable)

def lateConfig : SteeringConfig ℚ := ⟨30, 15, 0, 60, true⟩

/-- The active `eth0` was assigned at 40 when `eth1` reads 90. -/
theorem bufferbloat_called_better_path :
    ¬ ReportsBufferbloat
      (run step (PathSteerer.new lateConfig) [.update (reading "eth0" 40) 0 (.id _)])
      (.update (reading "eth1" 90) 1 (.id _)) := by
  intro h
  apply (reportsBufferbloat_iff _ _ _ _).mp h ⟨"eth0", 40, 0, 0⟩ ("eth1", 90)
  exact ⟨by decide +kernel, rfl, by unfold CoolingDown; decide +kernel,
    fun hdeg => absurd hdeg.1 (by decide), by decide +kernel, by decide +kernel, by decide,
    by decide +kernel⟩

end Netfusion.Core.SteeringBufferbloat
