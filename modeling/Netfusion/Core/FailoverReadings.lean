import Netfusion.Core.FailoverReports

namespace Netfusion.Core.FailoverReadings

open Netfusion.Lib.Collections Netfusion.Lib.Machine Netfusion.Lib.Reporting
open Netfusion.Shared.Config Netfusion.Shared.Types Netfusion.Shared.Events
open Netfusion.Core.Command Netfusion.Core.Bonding Netfusion.Core.Monitoring
open Netfusion.Core.Failover Netfusion.Core.FailoverReports

variable {F : Type}

theorem sent_about (bondName : String) (records : List (Record F)) :
    (∃ event, .sent (.failoverTriggered event) ∈ records ∧ event.bond = bondName) ↔
      ∃ c, .report c ∈ records.filterMap (about bondName) := by
  constructor
  · rintro ⟨event, hmem, rfl⟩
    exact ⟨(event.previousActive, event.newActive),
      List.mem_filterMap.mpr ⟨_, hmem, by simp [about]⟩⟩
  · rintro ⟨c, hc⟩
    obtain ⟨record, hmem, hrecord⟩ := List.mem_filterMap.mp hc
    cases record with
    | updated bond before after =>
      rw [about] at hrecord
      split at hrecord <;> cases hrecord
    | sent event =>
      cases event with
      | failoverTriggered event =>
        rw [about] at hrecord
        split at hrecord
        · rename_i hbond
          exact ⟨event, hmem, hbond⟩
        · cases hrecord
      | _ => cases hrecord

variable [LinearOrder F]

abbrev Past (F : Type) [LinearOrder F] := List (Event F × List (Record F))

def readingOf (name : String) : Event F → Option ℚ
  | .processHealthUpdate u _ _ =>
    if u.interface = name then some u.smoothedScore.overall else none
  | .updateMembership _ => none
  | .evaluateFailover _ _ => none

def readings (name : String) (past : Past F) : List ℚ :=
  past.reverse.filterMap (fun x => readingOf name x.1)

def Waited (config : FailoverConfig) (name : String) (past : Past F) : Prop :=
  config.badReadingThreshold.toNat ≤ (readings name past).length ∧
  ∀ r ∈ (readings name past).take config.badReadingThreshold.toNat, r < config.minViableScore

def handovers (bondName : String) (x : Event F × List (Record F)) : List Handover :=
  changes (x.2.filterMap (about bondName))

/-- The last failover of the bond waited for the readings of the member it
replaced, if it replaced one. -/
def LastFailoverWaited (config : FailoverConfig) (bondName : String) (past : Past F) : Prop :=
  ∀ pre x post before after, past = pre ++ x :: post → (before, after) ∈ handovers bondName x →
    (∀ y ∈ post, handovers bondName y = []) → ∀ member ∈ before, Waited config member pre

/-- An event about a bond is sent only if its last failover waited. -/
def WaitsForBadReadings (config : FailoverConfig) (past : Past F) (e : FailoverEngine F)
    (ev : Event F) : Prop :=
  ∀ event, .sent (.failoverTriggered event) ∈ (Failover.step e ev).1 →
    LastFailoverWaited config event.bond past

/-- An evaluation that meets a bond outside its cooldown comes after a failover
that waited. -/
def EvaluatedAfterWaiting (config : FailoverConfig) (past : Past F) (e : FailoverEngine F)
    (ev : Event F) : Prop :=
  ∀ now bondName, evaluationTime ev = some now →
    (e.bondManager.bonds.lookup bondName).isSome = true →
    inCooldown e.config e.lastFailover bondName now = false →
    LastFailoverWaited config bondName past

/-- The flag of a bond says whether its active member has ever changed. -/
def Flagged (past : Past F) (e : FailoverEngine F) : Prop :=
  ∀ bondName state, e.bondManager.bonds.lookup bondName = some state →
    (state.failoverActive = true ↔ ∃ x ∈ past, handovers bondName x ≠ [])

theorem sent_iff_reports (e : FailoverEngine F) (ev : Event F) (bondName : String) :
    (∃ event, .sent (.failoverTriggered event) ∈ (Failover.step e ev).1 ∧ event.bond = bondName) ↔
      ∃ now state, evaluationTime ev = some now ∧ Reports e bondName state now := by
  rw [sent_about]
  cases hev : evaluationTime ev with
  | none =>
    cases ev with
    | processHealthUpdate u now order => cases hev
    | evaluateFailover now order => cases hev
    | updateMembership u =>
      rw [update_about]
      constructor
      · rintro ⟨c, hc⟩
        split at hc <;> simp at hc
      · rintro ⟨now, -, hnow, -⟩
        cases hnow
  | some now =>
    cases hstate : e.bondManager.bonds.lookup bondName with
    | none =>
      rw [evaluation_unknown e ev hev hstate]
      constructor
      · rintro ⟨c, hc⟩
        cases hc
      · rintro ⟨_, state, -, hreports⟩
        cases hstate.symm.trans hreports.1
    | some state =>
      rw [evaluation_about e ev hev hstate]
      constructor
      · rintro ⟨c, hc⟩
        split at hc
        · rename_i hdue
          exact ⟨now, state, rfl, hstate, hdue⟩
        · cases hc
      · rintro ⟨now', state', hnow, hstate', hdue⟩
        cases hnow
        cases hstate.symm.trans hstate'
        rw [if_pos hdue]
        exact ⟨_, .head _⟩

theorem handovers_evaluation (e : FailoverEngine F) (ev : Event F) {now : DateTime}
    (hev : evaluationTime ev = some now) (bondName : String) :
    handovers bondName (ev, (Failover.step e ev).1) = [] := by
  rw [handovers]
  cases hstate : e.bondManager.bonds.lookup bondName with
  | none =>
    rw [evaluation_unknown e ev hev hstate]
    rfl
  | some state =>
    rw [evaluation_about e ev hev hstate]
    split <;> rfl

theorem flagged_extend {past : Past F} {x : Event F × List (Record F)} {bondName : String}
    (h : handovers bondName x = []) :
    (∃ y ∈ past ++ [x], handovers bondName y ≠ []) ↔ ∃ y ∈ past, handovers bondName y ≠ [] := by
  constructor
  · rintro ⟨y, hy, hne⟩
    rcases List.mem_append.mp hy with hy | hy
    · exact ⟨y, hy, hne⟩
    · cases List.mem_singleton.mp hy
      exact absurd h hne
  · rintro ⟨y, hy, hne⟩
    exact ⟨y, List.mem_append_left _ hy, hne⟩

theorem handovers_quiet {e : FailoverEngine F} {u : MembershipUpdate F} {bondName : String}
    (h : activeMembers e.bondManager bondName =
      activeMembers (update e.bondManager u).2 bondName ∨ u.bondName ≠ bondName) :
    handovers bondName (.updateMembership u, (Failover.step e (.updateMembership u)).1) = [] := by
  rw [handovers, update_about, if_neg]
  · rfl
  · rintro ⟨hname, hdiff⟩
    exact h.elim hdiff (fun hne => hne hname)

theorem flagged_update {past : Past F} {e : FailoverEngine F} (h : Flagged past e)
    (u : MembershipUpdate F) :
    Flagged (past ++ [(.updateMembership u, (Failover.step e (.updateMembership u)).1)])
      (Failover.step e (.updateMembership u)).2 := by
  intro bondName state hstate
  obtain ⟨hsame, -⟩ | ⟨old, best, score, hold, -, hne, hupdate⟩ := update_cases e.bondManager u
  · have hlookup : e.bondManager.bonds.lookup bondName = some state :=
      (congrArg (fun m : BondManager F => m.bonds.lookup bondName) hsame).symm.trans hstate
    rw [flagged_extend (handovers_quiet (.inl (by rw [hsame])))]
    exact h bondName state hlookup
  · by_cases hname : u.bondName = bondName
    · subst hname
      simp only [Failover.step, hupdate, AList.lookup_insert, Option.some.injEq] at hstate
      subst hstate
      have hactive : activeMembers e.bondManager u.bondName = old.activeMembers := by
        simp [activeMembers, hold]
      have hafter : activeMembers (update e.bondManager u).2 u.bondName = [best] := by
        simp [activeMembers, hupdate, activate]
      have hdiff : old.activeMembers ≠ [best] := by
        intro heq
        simp [heq] at hne
      refine iff_of_true rfl ⟨_, List.mem_append_right past (.head _), ?_⟩
      rw [handovers, update_about, hactive, hafter, if_pos ⟨rfl, hdiff⟩]
      simp
    · have hlookup : e.bondManager.bonds.lookup bondName = some state := by
        simpa only [Failover.step, hupdate, AList.lookup_insert_ne (Ne.symm hname)] using hstate
      rw [flagged_extend (handovers_quiet (.inr hname))]
      exact h bondName state hlookup

theorem flagged_step {past : Past F} {e : FailoverEngine F} (h : Flagged past e) (ev : Event F) :
    Flagged (past ++ [(ev, (Failover.step e ev).1)]) (Failover.step e ev).2 := by
  cases hev : evaluationTime ev with
  | none =>
    cases ev with
    | updateMembership u => exact flagged_update h u
    | processHealthUpdate u now order => cases hev
    | evaluateFailover now order => cases hev
  | some now =>
    intro bondName state hstate
    rw [(evaluation_step e ev hev).1] at hstate
    rw [flagged_extend (handovers_evaluation e ev hev bondName)]
    exact h bondName state hstate

theorem flagged_start (config : FailoverConfig) (configs : List (BondConfig × CommandOutput)) :
    Flagged [] (start F config configs) := by
  intro bondName state hstate
  obtain ⟨bond, iface, rfl⟩ := createBonds_fresh configs bondName state hstate
  apply iff_of_false
  · exact Bool.noConfusion
  · rintro ⟨x, hx, -⟩
    cases hx

/-- The engine never asks for the readings, so they come before its events only
where they have come before its evaluations. -/
theorem waits_iff {past : Past F} {e : FailoverEngine F} (h : Flagged past e)
    (config : FailoverConfig) (ev : Event F) :
    WaitsForBadReadings config past e ev ↔ EvaluatedAfterWaiting config past e ev := by
  constructor
  · rintro hwaits now bondName hnow hknown hcool pre x post before after rfl hx
    obtain ⟨state, hstate⟩ := Option.isSome_iff_exists.mp hknown
    have hflag : state.failoverActive = true := by
      apply (h bondName state hstate).mpr
      refine ⟨x, List.mem_append_right pre (.head post), ?_⟩
      intro hnone
      rw [hnone] at hx
      cases hx
    obtain ⟨event, hsent, rfl⟩ := (sent_iff_reports e ev bondName).mpr
      ⟨now, state, hnow, hstate, hcool, hflag⟩
    exact hwaits event hsent pre x post before after rfl hx
  · intro hafter event hsent
    obtain ⟨now, state, hnow, hstate, hcool, -⟩ := (sent_iff_reports e ev event.bond).mp
      ⟨event, hsent, rfl⟩
    exact hafter now event.bond hnow (by rw [hstate]; rfl) hcool

/-- In every run the failovers that are reported have waited for the bad
readings exactly when each evaluation of a bond outside its cooldown comes
after a failover that has. -/
theorem failovers_wait_iff (config : FailoverConfig) (configs : List (BondConfig × CommandOutput))
    (evs : List (Event F)) :
    EachTraced Failover.step (start F config configs) evs (WaitsForBadReadings config) ↔
      EachTraced Failover.step (start F config configs) evs (EvaluatedAfterWaiting config) := by
  apply eachTraced_congr (J := Flagged)
  · exact flagged_start config configs
  · intro past e ev h
    exact flagged_step h ev
  · intro past e ev h
    exact waits_iff h config ev

def pairStart : FailoverEngine ℕ :=
  start ℕ FailoverConfig.default [(pairConfig, exited true "" "")]

/-- `eth0` is replaced and its failover reported without a single health update. -/
def elect : Event ℕ := .updateMembership (reading "bond0" [("eth0", 90), ("eth1", 80)] 0)

def replace : Event ℕ := .updateMembership (reading "bond0" [("eth0", 10), ("eth1", 80)] 0)

def unreadRun : List (Event ℕ) := [elect, replace]

theorem unread_reports : ∃ state,
    Reports (run Failover.step pairStart unreadRun) "bond0" state 0 := by
  have hflag : ((run Failover.step pairStart unreadRun).bondManager.bonds.lookup "bond0").map
      (·.failoverActive) = some true := by decide +kernel
  obtain ⟨state, hstate, hactive⟩ := Option.map_eq_some_iff.mp hflag
  exact ⟨state, hstate, by decide +kernel, hactive⟩

theorem failover_without_readings :
    ¬ EachTraced Failover.step pairStart (unreadRun ++ [.evaluateFailover 0 (.id _)])
      (WaitsForBadReadings FailoverConfig.default) := by
  intro h
  obtain ⟨state, hreports⟩ := unread_reports
  obtain ⟨event, hsent, hbond⟩ := (sent_iff_reports (run Failover.step pairStart unreadRun)
    (.evaluateFailover 0 (.id _)) "bond0").mpr ⟨0, state, rfl, hreports⟩
  have hwaited := h unreadRun (.evaluateFailover 0 (.id _)) [] rfl event hsent
  rw [hbond] at hwaited
  have hchange : (["eth0"], ["eth1"]) ∈ handovers "bond0"
      (replace, (Failover.step (run Failover.step pairStart [elect]) replace).1) := by
    decide +kernel
  obtain ⟨hlen, -⟩ := hwaited (trace Failover.step pairStart [elect]) _ [] _ _ rfl hchange
    (fun y hy => by cases hy) "eth0" (.head _)
  exact absurd hlen (by decide +kernel)

end Netfusion.Core.FailoverReadings
