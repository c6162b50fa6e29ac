import Mathlib.Data.List.Chain
import Netfusion.Core.FailoverReports

namespace Netfusion.Core.FailoverCooldown

open Netfusion.Lib.Collections Netfusion.Lib.Machine Netfusion.Lib.Reporting
open Netfusion.Shared.Config Netfusion.Shared.Types Netfusion.Shared.Events
open Netfusion.Core.Command Netfusion.Core.Bonding Netfusion.Core.Failover
open Netfusion.Core.FailoverReports

variable {F : Type}

def sentTime (bondName : String) : Record F → Option DateTime
  | .sent (.failoverTriggered e) => if e.bond = bondName then some e.timestamp else none
  | _ => none

def sentTimes (bondName : String) (os : List (List (Record F))) : List DateTime :=
  os.flatten.filterMap (sentTime bondName)

def Spaced (cooldown : Nat) (times : List DateTime) : Prop :=
  times.IsChain (fun t t' : Int => t + cooldown ≤ t')

theorem sentTimes_concat (bondName : String) (os : List (List (Record F))) (o : List (Record F)) :
    sentTimes bondName (os ++ [o]) = sentTimes bondName os ++ o.filterMap (sentTime bondName) := by
  simp [sentTimes]

theorem evaluateBonds_stamped (config : FailoverConfig) (now : DateTime) (bondName : String)
    (entries : List (BondEntry F)) (lastFailover : HashMap String DateTime) :
    ((evaluateBonds config now lastFailover entries).1.map .sent).filterMap (sentTime bondName) =
      (eventsAbout bondName (evaluateBonds config now lastFailover entries).1).map
        (fun _ => now) := by
  induction entries generalizing lastFailover with
  | nil => rfl
  | cons entry rest ih =>
    rw [evaluateBonds]
    split
    · exact ih _
    · split
      · rw [List.map_cons, List.filterMap_cons, ih]
        by_cases hname : entry.1 = bondName
        · subst hname
          rw [eventsAbout_same]
          simp [sentTime, failoverEvent]
        · rw [eventsAbout_other hname]
          simp [sentTime, failoverEvent, hname]
      · exact ih _

theorem evaluateBonds_last (config : FailoverConfig) (now : DateTime) (bondName : String)
    (entries : List (BondEntry F)) (lastFailover : HashMap String DateTime) :
    (evaluateBonds config now lastFailover entries).2.lookup bondName =
      if eventsAbout bondName (evaluateBonds config now lastFailover entries).1 = [] then
        lastFailover.lookup bondName
      else some now := by
  induction entries generalizing lastFailover with
  | nil => rfl
  | cons entry rest ih =>
    rw [evaluateBonds]
    split
    · exact ih _
    · split
      · dsimp only
        rw [ih, lookup_insert_eq]
        by_cases hname : bondName = entry.1
        · subst hname
          rw [eventsAbout_same, if_pos rfl, ite_self, if_neg (List.cons_ne_nil _ _)]
        · rw [eventsAbout_other (Ne.symm hname), if_neg hname]
      · exact ih _

variable [LinearOrder F]

/-- Once enough whole seconds have passed since the last event about a bond
that has failed over, so has the cooldown. -/
def SecondsSuffice (e : FailoverEngine F) (ev : Event F) : Prop :=
  ∀ now bondName state last, evaluationTime ev = some now →
    e.bondManager.bonds.lookup bondName = some state → state.failoverActive = true →
    e.lastFailover.lookup bondName = some last → cooldownSecs e.config ≤ numSeconds (now - last) →
    last + e.config.failoverCooldown ≤ now

def Remembers (os : List (List (Record F))) (e : FailoverEngine F) : Prop :=
  ∀ bondName, e.lastFailover.lookup bondName = (sentTimes bondName os).getLast?

theorem inCooldown_eq_false (config : FailoverConfig) (lastFailover : HashMap String DateTime)
    (bondName : String) (now : DateTime) :
    inCooldown config lastFailover bondName now = false ↔
      ∀ last, lastFailover.lookup bondName = some last →
        cooldownSecs config ≤ numSeconds (now - last) := by
  rw [inCooldown]
  cases lastFailover.lookup bondName with
  | none => simp
  | some last => simp

omit [LinearOrder F] in
theorem evaluation_times (e : FailoverEngine F) (now : DateTime) (bondName : String)
    (order : Shuffle (Sigma (fun _ : String => BondState (Score F)))) :
    let times := ((evaluateFailover e now order).1.map Record.sent).filterMap (sentTime bondName)
    let last := (evaluateFailover e now order).2.lastFailover.lookup bondName
    (∃ state, Reports e bondName state now ∧ times = [now] ∧ last = some now) ∨
    (∀ state, ¬ Reports e bondName state now) ∧ times = [] ∧
      last = e.lastFailover.lookup bondName := by
  dsimp only
  have hstamped := evaluateBonds_stamped e.config now bondName
    (order.run e.bondManager.bonds.entries) e.lastFailover
  have hremembered := evaluateBonds_last e.config now bondName
    (order.run e.bondManager.bonds.entries) e.lastFailover
  cases hstate : e.bondManager.bonds.lookup bondName with
  | none =>
    have hquiet := evaluateFailover_unknown e now order hstate
    rw [evaluateFailover] at hquiet
    rw [hquiet] at hstamped hremembered
    refine .inr ⟨?_, hstamped, hremembered⟩
    rintro state ⟨hsome, -⟩
    cases hstate.symm.trans hsome
  | some state =>
    have habout := evaluateFailover_about e now order hstate
    rw [evaluateFailover] at habout
    rw [habout] at hstamped hremembered
    split at hstamped
    · rename_i hdue
      rw [if_pos hdue] at hremembered
      exact .inl ⟨state, ⟨hstate, hdue⟩, hstamped, hremembered⟩
    · rename_i hdue
      rw [if_neg hdue] at hremembered
      refine .inr ⟨?_, hstamped, hremembered⟩
      rintro state' ⟨hsome, hdue'⟩
      cases hstate.symm.trans hsome
      exact hdue hdue'

theorem step_times (e : FailoverEngine F) (ev : Event F) (bondName : String) :
    (∃ now state, evaluationTime ev = some now ∧ Reports e bondName state now ∧
      (Failover.step e ev).1.filterMap (sentTime bondName) = [now] ∧
      (Failover.step e ev).2.lastFailover.lookup bondName = some now) ∨
    (∀ now state, evaluationTime ev = some now → ¬ Reports e bondName state now) ∧
      (Failover.step e ev).1.filterMap (sentTime bondName) = [] ∧
      (Failover.step e ev).2.lastFailover.lookup bondName = e.lastFailover.lookup bondName := by
  cases hev : evaluationTime ev with
  | none =>
    cases ev with
    | updateMembership u =>
      refine .inr ⟨?_, rfl, rfl⟩
      rintro now state ⟨⟩
    | processHealthUpdate u now order => cases hev
    | evaluateFailover now order => cases hev
  | some now =>
    obtain ⟨-, order, hsent, hlast⟩ := evaluation_step e ev hev
    rw [hsent, hlast]
    obtain ⟨state, hreports, htimes, hlookup⟩ | ⟨hquiet, hsame⟩ :=
      evaluation_times e now bondName order
    · exact .inl ⟨now, state, rfl, hreports, htimes, hlookup⟩
    · refine .inr ⟨?_, hsame⟩
      rintro now' state ⟨⟩
      exact hquiet state

theorem remembers_step {os : List (List (Record F))} {e : FailoverEngine F} (h : Remembers os e)
    (ev : Event F) : Remembers (os ++ [(Failover.step e ev).1]) (Failover.step e ev).2 := by
  intro bondName
  rw [sentTimes_concat]
  obtain ⟨now, state, -, -, htimes, hlast⟩ | ⟨-, htimes, hlast⟩ := step_times e ev bondName
  · rw [htimes, hlast, List.getLast?_concat]
  · rw [htimes, hlast, List.append_nil]
    exact h bondName

theorem config_step (e : FailoverEngine F) (ev : Event F) :
    (Failover.step e ev).2.config = e.config := by
  cases ev with
  | updateMembership u => rfl
  | evaluateFailover now order => rfl
  | processHealthUpdate u now order =>
    simp only [Failover.step, processHealthUpdate, trackReading]
    split <;> rfl

structure KeepsCooldown (config : FailoverConfig) (os : List (List (Record F)))
    (e : FailoverEngine F) : Prop where
  configured : e.config = config
  remembers : Remembers os e
  spaced : ∀ bondName, Spaced config.failoverCooldown (sentTimes bondName os)

theorem spaced_concat {cooldown : Nat} {times : List DateTime} {now : DateTime} :
    Spaced cooldown (times ++ [now]) ↔
      Spaced cooldown times ∧ ∀ last, times.getLast? = some last → last + cooldown ≤ now := by
  rw [Spaced, List.isChain_append]
  simp [Spaced]

theorem keepsCooldown_step {config : FailoverConfig} {os : List (List (Record F))}
    {e : FailoverEngine F} (h : KeepsCooldown config os e) (ev : Event F) :
    KeepsCooldown config (os ++ [(Failover.step e ev).1]) (Failover.step e ev).2 ↔
      SecondsSuffice e ev := by
  constructor
  · intro hnext now bondName state last hev hstate hactive hlast hseconds
    have hspaced := hnext.spaced bondName
    rw [sentTimes_concat] at hspaced
    have hdue : inCooldown e.config e.lastFailover bondName now = false := by
      rw [inCooldown_eq_false]
      intro last' hlast'
      cases hlast.symm.trans hlast'
      exact hseconds
    obtain ⟨now', -, hev', -, htimes, -⟩ | ⟨hquiet, -⟩ := step_times e ev bondName
    · cases hev.symm.trans hev'
      rw [htimes, spaced_concat] at hspaced
      rw [h.configured]
      exact hspaced.2 last ((h.remembers bondName).symm.trans hlast)
    · exact absurd ⟨hstate, hdue, hactive⟩ (hquiet now state hev)
  · intro hsuffice
    refine ⟨(config_step e ev).trans h.configured, remembers_step h.remembers ev, ?_⟩
    intro bondName
    rw [sentTimes_concat]
    obtain ⟨now, state, hev, ⟨hstate, hdue, hactive⟩, htimes, -⟩ | ⟨-, htimes, -⟩ :=
      step_times e ev bondName
    · rw [htimes, spaced_concat]
      refine ⟨h.spaced bondName, ?_⟩
      intro last hlast
      have hlast' := (h.remembers bondName).trans hlast
      rw [← h.configured]
      exact hsuffice now bondName state last hev hstate hactive hlast'
        ((inCooldown_eq_false _ _ _ _).mp hdue last hlast')
    · rw [htimes, List.append_nil]
      exact h.spaced bondName

theorem remembers_run (config : FailoverConfig) (configs : List (BondConfig × CommandOutput))
    (evs : List (Event F)) :
    Remembers (outputs Failover.step (start F config configs) evs)
      (run Failover.step (start F config configs) evs) :=
  run_always (J := Remembers) (fun _ => rfl) (fun _ _ ev h => remembers_step h ev) evs

theorem config_run (config : FailoverConfig) (configs : List (BondConfig × CommandOutput))
    (evs : List (Event F)) : (run Failover.step (start F config configs) evs).config = config :=
  run_keeps (I := fun e : FailoverEngine F => e.config = config) rfl
    (fun e ev h => (config_step e ev).trans h) evs

theorem keepsCooldown_start (config : FailoverConfig) (configs : List (BondConfig × CommandOutput)) :
    KeepsCooldown config [] (start F config configs) :=
  ⟨rfl, fun _ => rfl, fun _ => .nil⟩

/-- Events of a run keep the cooldown exactly when at every evaluation the whole
seconds of the cooldown are enough for it. -/
theorem events_keep_cooldown_iff (config : FailoverConfig)
    (configs : List (BondConfig × CommandOutput)) (evs : List (Event F)) :
    (∀ bondName, Spaced config.failoverCooldown
        (sentTimes bondName (outputs Failover.step (start F config configs) evs))) ↔
      EachStep Failover.step (start F config configs) evs (fun _ e ev => SecondsSuffice e ev) := by
  rw [← always_iff (I := KeepsCooldown config) (keepsCooldown_start config configs)
    (fun _ _ ev h => keepsCooldown_step h ev)]
  constructor
  · rintro hspaced pre post rfl
    refine ⟨config_run config configs pre, remembers_run config configs pre, ?_⟩
    intro bondName
    have hall := hspaced bondName
    rw [outputs_append, sentTimes, List.flatten_append, List.filterMap_append] at hall
    exact hall.left_of_append
  · intro h bondName
    exact (h evs [] (by simp)).spaced bondName

/-- A cooldown of whole seconds that a signed 64-bit number of them can hold. -/
def WholeSeconds (config : FailoverConfig) : Prop :=
  config.failoverCooldown % 10 ^ 9 = 0 ∧ config.failoverCooldown / 10 ^ 9 < 2 ^ 63

theorem cooldownSecs_whole {config : FailoverConfig} (h : WholeSeconds config) :
    cooldownSecs config * 10 ^ 9 = config.failoverCooldown := by
  obtain ⟨hwhole, hsmall⟩ := h
  have hsecs : cooldownSecs config = ((config.failoverCooldown / 10 ^ 9 : Nat) : Int) := by
    apply Int.bmod_eq_of_le
    · omega
    · have hlt : ((config.failoverCooldown / 10 ^ 9 : Nat) : Int) < 2 ^ 63 := by
        exact_mod_cast hsmall
      exact hlt.trans_le (by decide)
  rw [hsecs]
  exact_mod_cast Nat.div_mul_cancel (Nat.dvd_of_mod_eq_zero hwhole)

theorem waited_of_seconds {secs cooldown now last : Int} (hwhole : secs * 10 ^ 9 = cooldown)
    (hle : last ≤ now) (h : secs ≤ numSeconds (now - last)) : last + cooldown ≤ now := by
  have htrunc : numSeconds (now - last) * 10 ^ 9 ≤ now - last := by
    rw [numSeconds, Int.tdiv_eq_ediv_of_nonneg (Int.sub_nonneg.mpr hle)]
    exact Int.ediv_mul_le _ (by decide)
  omega

theorem secondsSuffice_of_whole {e : FailoverEngine F} (h : WholeSeconds e.config) {ev : Event F}
    (hclock : ∀ now bondName last, evaluationTime ev = some now →
      e.lastFailover.lookup bondName = some last → last ≤ now) : SecondsSuffice e ev := by
  rintro now bondName state last hev - - hlast hseconds
  exact waited_of_seconds (cooldownSecs_whole h) (hclock now bondName last hev hlast) hseconds

theorem mem_sentTimes {e : FailoverEngine F} {evs : List (Event F)} {bondName : String}
    {t : DateTime} (h : t ∈ sentTimes bondName (outputs Failover.step e evs)) :
    ∃ ev ∈ evs, evaluationTime ev = some t := by
  induction evs generalizing e with
  | nil => cases h
  | cons ev evs ih =>
    rw [outputs, sentTimes, List.flatten_cons, List.filterMap_append] at h
    rcases List.mem_append.mp h with h | h
    · obtain ⟨now, -, hev, -, htimes, -⟩ | ⟨-, htimes, -⟩ := step_times e ev bondName
      · rw [htimes] at h
        cases List.mem_singleton.mp h
        exact ⟨ev, .head evs, hev⟩
      · rw [htimes] at h
        cases h
    · obtain ⟨ev', hmem, hev'⟩ := ih h
      exact ⟨ev', .tail ev hmem, hev'⟩

/-- Under a clock that does not go back a cooldown of whole seconds is kept in
every run. -/
theorem whole_seconds_keep_cooldown {config : FailoverConfig} (h : WholeSeconds config)
    (configs : List (BondConfig × CommandOutput)) (evs : List (Event F))
    (hclock : (evs.filterMap evaluationTime).Pairwise (fun t t' : Int => t ≤ t'))
    (bondName : String) :
    Spaced config.failoverCooldown
      (sentTimes bondName (outputs Failover.step (start F config configs) evs)) := by
  apply (events_keep_cooldown_iff config configs evs).mpr
  rintro pre ev post rfl
  apply secondsSuffice_of_whole
  · rw [config_run]
    exact h
  · intro now name last hev hlast
    rw [remembers_run config configs pre name] at hlast
    have hmem := List.mem_filterMap.mpr (mem_sentTimes (List.mem_of_getLast? hlast))
    rw [List.filterMap_append, List.pairwise_append] at hclock
    exact hclock.2.2 last hmem now (List.mem_filterMap.mpr ⟨ev, .head post, hev⟩)

/-- One second and a half of cooldown, and evaluations 1.2 seconds apart. -/
def halfSecondConfig : FailoverConfig :=
  { FailoverConfig.default with failoverCooldown := 1500000000 }

def halfSecondRun : List (Event ℕ) :=
  [.updateMembership (reading "bond0" [("eth0", 90)] 0), .evaluateFailover 0 (.id _),
    .evaluateFailover 1200000000 (.id _)]

theorem cooldown_cut_short :
    (halfSecondRun.filterMap evaluationTime).Pairwise (fun t t' : Int => t ≤ t') ∧
    ¬ ∀ bondName, Spaced halfSecondConfig.failoverCooldown
      (sentTimes bondName (outputs Failover.step
        (start ℕ halfSecondConfig [(pairConfig, exited true "" "")]) halfSecondRun)) := by
  refine ⟨by decide, ?_⟩
  intro h
  have htimes : sentTimes "bond0" (outputs Failover.step
      (start ℕ halfSecondConfig [(pairConfig, exited true "" "")]) halfSecondRun) =
        [0, 1200000000] := by decide +kernel
  have hspaced := h "bond0"
  rw [htimes, Spaced, List.isChain_pair] at hspaced
  revert hspaced
  decide

end Netfusion.Core.FailoverCooldown
