import Netfusion.Lib.Reporting
import Netfusion.Core.Failover

namespace Netfusion.Core.FailoverReports

open Netfusion.Lib.Collections Netfusion.Lib.Machine Netfusion.Lib.Sorting Netfusion.Lib.Reporting
open Netfusion.Shared.Config Netfusion.Shared.Types Netfusion.Shared.Events
open Netfusion.Core.Command Netfusion.Core.Bonding Netfusion.Core.Monitoring Netfusion.Core.Failover

variable {F : Type}

abbrev Handover := List String × List String

def about (bondName : String) : Record F → Option (Item Handover)
  | .updated bond before after =>
    if bond = bondName ∧ before ≠ after then some (.change (before, after)) else none
  | .sent (.failoverTriggered e) =>
    if e.bond = bondName then some (.report (e.previousActive, e.newActive)) else none
  | .sent _ => none

/-- The changes of a bond and the events about it, in the order they happened. -/
def history (bondName : String) (os : List (List (Record F))) : List (Item Handover) :=
  os.flatten.filterMap (about bondName)

theorem history_concat (bondName : String) (os : List (List (Record F))) (o : List (Record F)) :
    history bondName (os ++ [o]) = history bondName os ++ o.filterMap (about bondName) := by
  simp [history]

def evaluationTime [LinearOrder F] : Event F → Option DateTime
  | .updateMembership _ => none
  | .processHealthUpdate _ now _ => some now
  | .evaluateFailover now _ => some now

def Reports (e : FailoverEngine F) (bondName : String) (state : BondState (Score F))
    (now : DateTime) : Prop :=
  e.bondManager.bonds.lookup bondName = some state ∧
  inCooldown e.config e.lastFailover bondName now = false ∧ state.failoverActive = true

def eventsAbout (bondName : String) (events : List (NetfusionEvent (Score F))) :
    List (Item Handover) :=
  (events.map .sent).filterMap (about bondName)

theorem eventsAbout_same (bondName : String) (state : BondState (Score F)) (now : DateTime)
    (events : List (NetfusionEvent (Score F))) :
    eventsAbout bondName (failoverEvent bondName state now :: events) =
      .report (state.standbyMembers, state.activeMembers) :: eventsAbout bondName events := by
  simp [eventsAbout, failoverEvent, about]

theorem eventsAbout_other {bondName other : String} (h : other ≠ bondName)
    (state : BondState (Score F)) (now : DateTime) (events : List (NetfusionEvent (Score F))) :
    eventsAbout bondName (failoverEvent other state now :: events) =
      eventsAbout bondName events := by
  simp [eventsAbout, failoverEvent, about, h]

theorem evaluateBonds_other (config : FailoverConfig) (now : DateTime) (bondName : String)
    (entries : List (BondEntry F)) (lastFailover : HashMap String DateTime)
    (h : ∀ entry ∈ entries, entry.1 ≠ bondName) :
    eventsAbout bondName (evaluateBonds config now lastFailover entries).1 = [] := by
  induction entries generalizing lastFailover with
  | nil => rfl
  | cons entry rest ih =>
    have hrest : ∀ entry ∈ rest, entry.1 ≠ bondName :=
      fun x hx => h x (List.mem_cons_of_mem entry hx)
    rw [evaluateBonds]
    split
    · exact ih _ hrest
    · split
      · rw [eventsAbout_other (h entry (by simp))]
        exact ih _ hrest
      · exact ih _ hrest

theorem inCooldown_insert_ne (config : FailoverConfig) (lastFailover : HashMap String DateTime)
    {bondName other : String} (now : DateTime) (h : other ≠ bondName) :
    inCooldown config (lastFailover.insert other now) bondName now =
      inCooldown config lastFailover bondName now := by
  rw [inCooldown, inCooldown, AList.lookup_insert_ne (Ne.symm h)]

theorem evaluateBonds_about (config : FailoverConfig) (now : DateTime) (bondName : String)
    (state : BondState (Score F)) (entries : List (BondEntry F))
    (lastFailover : HashMap String DateTime) (hnodup : (entries.map Sigma.fst).Nodup)
    (hmem : ⟨bondName, state⟩ ∈ entries) :
    eventsAbout bondName (evaluateBonds config now lastFailover entries).1 =
      if inCooldown config lastFailover bondName now = false ∧ state.failoverActive = true then
        [.report (state.standbyMembers, state.activeMembers)]
      else [] := by
  induction entries generalizing lastFailover with
  | nil => cases hmem
  | cons entry rest ih =>
    obtain ⟨hnot, hrest⟩ := List.nodup_cons.mp hnodup
    rw [evaluateBonds]
    rcases List.mem_cons.mp hmem with rfl | hmem
    · have hother : ∀ entry ∈ rest, entry.1 ≠ bondName :=
        fun x hx heq => hnot (List.mem_map.mpr ⟨x, hx, heq⟩)
      split
      · rename_i hcool
        rw [evaluateBonds_other config now bondName rest lastFailover hother,
          if_neg (fun h => by simp [h.1] at hcool)]
      · rename_i hcool
        split
        · rename_i hactive
          rw [eventsAbout_same, evaluateBonds_other config now bondName rest _ hother,
            if_pos ⟨Bool.eq_false_of_not_eq_true hcool, hactive⟩]
        · rename_i hactive
          rw [evaluateBonds_other config now bondName rest lastFailover hother,
            if_neg (fun h => hactive h.2)]
    · have hne : entry.1 ≠ bondName :=
        fun heq => hnot (List.mem_map.mpr ⟨_, hmem, heq.symm⟩)
      split
      · exact ih _ hrest hmem
      · split
        · rw [eventsAbout_other hne, ih _ hrest hmem,
            inCooldown_insert_ne config lastFailover now hne]
        · exact ih _ hrest hmem

/-- An evaluation reports a bond that is to be reported, once, with its
standby members as the previous active ones. -/
theorem evaluateFailover_about (e : FailoverEngine F) (now : DateTime)
    (order : Shuffle (BondEntry F)) {bondName : String} {state : BondState (Score F)}
    (h : e.bondManager.bonds.lookup bondName = some state) :
    eventsAbout bondName (evaluateFailover e now order).1 =
      if inCooldown e.config e.lastFailover bondName now = false ∧ state.failoverActive = true then
        [.report (state.standbyMembers, state.activeMembers)]
      else [] := by
  apply evaluateBonds_about
  · exact shuffle_keys_nodup order e.bondManager.bonds
  · exact (mem_shuffle_entries order e.bondManager.bonds bondName state).mpr h

theorem evaluateFailover_unknown (e : FailoverEngine F) (now : DateTime)
    (order : Shuffle (BondEntry F)) {bondName : String}
    (h : e.bondManager.bonds.lookup bondName = none) :
    eventsAbout bondName (evaluateFailover e now order).1 = [] := by
  apply evaluateBonds_other
  rintro ⟨name, state⟩ hmem rfl
  have hsome := (mem_shuffle_entries order e.bondManager.bonds name state).mp hmem
  cases h.symm.trans hsome

structure Tracks (cs : List Handover) (state : BondState (Score F)) : Prop where
  active : state.activeMembers = (cs.getLast?.map Prod.snd).getD []
  standby : ∀ c, cs.getLast? = some c → ∀ member ∈ c.1, member ∈ state.standbyMembers
  nonempty : ∀ c, cs.getLast? = some c → c.2 ≠ []
  first : ∀ pre c post, cs = pre ++ c :: post → c.1.length ≤ 1 ∧ (c.1 = [] ↔ pre = [])

theorem tracks_fresh (state : BondState (Score F)) (h : state.activeMembers = []) :
    Tracks [] state where
  active := h
  standby := by simp
  nonempty := by simp
  first := by simp

theorem tracks_activate {cs : List Handover} {state : BondState (Score F)} (h : Tracks cs state)
    (hsplit : Split state) (health : HashMap String (HealthScore (Score F))) {best : String}
    (hne : state.activeMembers.head? ≠ some best) (now : DateTime) :
    Tracks (cs ++ [(state.activeMembers, [best])]) (activate state health best now) where
  active := by simp [activate]
  nonempty := by simp
  standby := by
    intro c hc member hmember
    simp only [List.getLast?_concat, Option.some.injEq] at hc
    subst hc
    have hone : state.activeMembers = [member] := by
      obtain ⟨prev, hprev⟩ := List.length_eq_one_iff.mp
        (le_antisymm hsplit.1 (List.length_pos_of_mem hmember))
      have hsame : member = prev := by simpa [hprev] using hmember
      rw [hprev, hsame]
    have hmember : member ≠ best := by simpa [hone] using hne
    have hstandby : member ∉ state.standbyMembers := hsplit.2 member (by simp [hone])
    simp [activate, standbyWith, hone, hmember, hstandby]
  first := by
    intro pre c post he
    rcases List.eq_nil_or_concat post with rfl | ⟨post', last, rfl⟩
    · obtain ⟨rfl, hc⟩ := List.append_inj' he rfl
      obtain rfl := (List.cons.inj hc).1
      refine ⟨hsplit.1, ?_⟩
      rw [h.active]
      cases hlast : cs.getLast? with
      | none => simpa using hlast
      | some c =>
        have hcs : cs ≠ [] := by
          rintro rfl
          simp at hlast
        simpa [hcs] using h.nonempty c hlast
    · have hc : cs ++ [(state.activeMembers, [best])] = (pre ++ c :: post') ++ [last] := by simp [he]
      exact h.first pre c post' (List.append_inj' hc rfl).1

/-- The bond has no members but its active one and the one active before it. -/
def OnlyTwo (cs : List Handover) (state : BondState (Score F)) : Prop :=
  (cs.length = 1 ∧ state.standbyMembers = []) ∨ (2 ≤ cs.length ∧ state.standbyMembers.length = 1)

/-- Right after a change, an event tells what it was if there are no other
members to be taken for the previous active one. -/
theorem handover_of_onlyTwo {cs : List Handover} {state : BondState (Score F)} (h : Tracks cs state)
    {c : Handover} (hc : cs.getLast? = some c) (htwo : OnlyTwo cs state) :
    c = (state.standbyMembers, state.activeMembers) := by
  have hactive : state.activeMembers = c.2 := by simp [h.active, hc]
  obtain ⟨pre, rfl⟩ := List.getLast?_eq_some_iff.mp hc
  obtain ⟨hle, hnil⟩ := h.first pre c [] rfl
  obtain ⟨hlen, hstandby⟩ | ⟨hlen, hstandby⟩ := htwo
  · have hpre : pre = [] := by simpa using hlen
    exact Prod.ext ((hnil.mpr hpre).trans hstandby.symm) hactive.symm
  · have hpre : pre ≠ [] := by
      rintro rfl
      simp at hlen
    obtain ⟨prev, hprev⟩ : ∃ prev, c.1 = [prev] := by
      apply List.length_eq_one_iff.mp (le_antisymm hle _)
      exact List.length_pos_iff.mpr (fun hc => hpre (hnil.mp hc))
    obtain ⟨other, hother⟩ := List.length_eq_one_iff.mp hstandby
    have hmem : prev ∈ state.standbyMembers := h.standby c hc prev (by simp [hprev])
    obtain rfl : prev = other := by simpa [hother] using hmem
    exact Prod.ext (hprev.trans hother.symm) hactive.symm

theorem onlyTwo_of_mem {cs : List Handover} {state : BondState (Score F)} (h : Tracks cs state)
    (hmem : (state.standbyMembers, state.activeMembers) ∈ cs) : OnlyTwo cs state := by
  obtain ⟨pre, post, rfl⟩ := List.append_of_mem hmem
  obtain ⟨hle, hnil⟩ := h.first pre _ post rfl
  by_cases hempty : state.standbyMembers = []
  · refine .inl ⟨?_, hempty⟩
    obtain rfl : pre = [] := hnil.mp hempty
    rcases List.eq_nil_or_concat post with rfl | ⟨post', last, rfl⟩
    · rfl
    · exfalso
      rw [List.concat_eq_append, List.nil_append, ← List.cons_append] at h
      obtain ⟨-, hlast⟩ := h.first ((state.standbyMembers, state.activeMembers) :: post') last []
        (by simp)
      have hsome : last.1 ≠ [] := fun hl => by simpa using hlast.mp hl
      obtain ⟨prev, rest, hprev⟩ := List.exists_cons_of_ne_nil hsome
      have hgone := h.standby last (List.getLast?_concat) prev (by simp [hprev])
      simp [hempty] at hgone
  · have hpre : pre ≠ [] := fun hp => hempty (hnil.mpr hp)
    have hlen : 0 < pre.length := List.length_pos_iff.mpr hpre
    refine .inr ⟨by simp only [List.length_append, List.length_cons]; omega, ?_⟩
    exact le_antisymm hle (List.length_pos_iff.mpr hempty)

variable [LinearOrder F]

theorem evaluation_step (e : FailoverEngine F) (ev : Event F) {now : DateTime}
    (h : evaluationTime ev = some now) :
    (Failover.step e ev).2.bondManager = e.bondManager ∧
    ∃ order, (Failover.step e ev).1 = (evaluateFailover e now order).1.map .sent ∧
      (Failover.step e ev).2.lastFailover = (evaluateFailover e now order).2.lastFailover := by
  cases ev with
  | updateMembership u => cases h
  | evaluateFailover now' order =>
    cases h
    exact ⟨rfl, order, rfl, rfl⟩
  | processHealthUpdate u now' order =>
    cases h
    simp only [Failover.step, processHealthUpdate, trackReading]
    split <;> exact ⟨rfl, order, rfl, rfl⟩

theorem evaluation_unknown (e : FailoverEngine F) (ev : Event F) {now : DateTime}
    (h : evaluationTime ev = some now) {bondName : String}
    (hnone : e.bondManager.bonds.lookup bondName = none) :
    (Failover.step e ev).1.filterMap (about bondName) = [] := by
  obtain ⟨-, order, hsent, -⟩ := evaluation_step e ev h
  rw [hsent]
  exact evaluateFailover_unknown e now order hnone

theorem evaluation_about (e : FailoverEngine F) (ev : Event F) {now : DateTime}
    (h : evaluationTime ev = some now) {bondName : String} {state : BondState (Score F)}
    (hstate : e.bondManager.bonds.lookup bondName = some state) :
    (Failover.step e ev).1.filterMap (about bondName) =
      if inCooldown e.config e.lastFailover bondName now = false ∧ state.failoverActive = true then
        [.report (state.standbyMembers, state.activeMembers)]
      else [] := by
  obtain ⟨-, order, hsent, -⟩ := evaluation_step e ev h
  rw [hsent]
  exact evaluateFailover_about e now order hstate

theorem update_about (e : FailoverEngine F) (u : MembershipUpdate F) (bondName : String) :
    (Failover.step e (.updateMembership u)).1.filterMap (about bondName) =
      if u.bondName = bondName ∧
          activeMembers e.bondManager bondName ≠
            activeMembers (update e.bondManager u).2 bondName then
        [.change (activeMembers e.bondManager bondName,
          activeMembers (update e.bondManager u).2 bondName)]
      else [] := by
  by_cases hname : u.bondName = bondName
  · subst hname
    simp only [Failover.step, List.filterMap_cons, List.filterMap_nil, about, true_and]
    split
    · rename_i heq
      split at heq
      · cases heq
      · rename_i hsame
        rw [if_neg hsame]
    · rename_i heq
      split at heq
      · rename_i hdiff
        cases heq
        rw [if_pos hdiff]
      · cases heq
  · simp [Failover.step, about, hname]

def Tracked (os : List (List (Record F))) (e : FailoverEngine F) : Prop :=
  ∀ bondName, match e.bondManager.bonds.lookup bondName with
    | none => history bondName os = []
    | some state => Split state ∧ Tracks (changes (history bondName os)) state

theorem tracked_update {os : List (List (Record F))} {e : FailoverEngine F}
    (h : Tracked os e) (u : MembershipUpdate F) :
    Tracked (os ++ [(Failover.step e (.updateMembership u)).1])
      (Failover.step e (.updateMembership u)).2 := by
  intro bondName
  rw [history_concat, update_about]
  obtain ⟨hsame, -⟩ | ⟨state, best, score, hstate, -, hne, hupdate⟩ := update_cases e.bondManager u
  · simp only [Failover.step, hsame, ne_eq, not_true_eq_false, and_false, if_false, List.append_nil]
    exact h bondName
  · by_cases hname : u.bondName = bondName
    · subst hname
      have hactive : activeMembers e.bondManager u.bondName = state.activeMembers := by
        simp [activeMembers, hstate]
      have hafter : activeMembers (update e.bondManager u).2 u.bondName = [best] := by
        simp [activeMembers, hupdate, activate]
      have hdiff : state.activeMembers ≠ [best] := by
        intro heq
        simp [heq] at hne
      obtain ⟨hsplit, htracks⟩ : Split state ∧ Tracks (changes (history u.bondName os)) state := by
        simpa [hstate] using h u.bondName
      rw [hactive, hafter, if_pos ⟨rfl, hdiff⟩, changes_append, changes_change]
      simp only [Failover.step, hupdate, AList.lookup_insert]
      exact ⟨split_activate state u.health best u.now,
        tracks_activate htracks hsplit u.health hne u.now⟩
    · simp only [Failover.step, hname, hupdate, false_and, if_false, List.append_nil,
        AList.lookup_insert_ne (Ne.symm hname)]
      exact h bondName

theorem tracked_evaluation {os : List (List (Record F))} {e : FailoverEngine F}
    (h : Tracked os e) (ev : Event F) {now : DateTime} (hev : evaluationTime ev = some now) :
    Tracked (os ++ [(Failover.step e ev).1]) (Failover.step e ev).2 := by
  intro bondName
  have hbond := h bondName
  rw [history_concat, (evaluation_step e ev hev).1]
  cases hstate : e.bondManager.bonds.lookup bondName with
  | none =>
    rw [hstate] at hbond
    rw [evaluation_unknown e ev hev hstate]
    simpa only [List.append_nil] using hbond
  | some state =>
    rw [hstate] at hbond
    have hquiet : changes ((Failover.step e ev).1.filterMap (about bondName)) = [] := by
      rw [evaluation_about e ev hev hstate]
      split <;> rfl
    simp only [changes_append, hquiet, List.append_nil]
    exact hbond

theorem tracked_step {os : List (List (Record F))} {e : FailoverEngine F} (h : Tracked os e)
    (ev : Event F) : Tracked (os ++ [(Failover.step e ev).1]) (Failover.step e ev).2 := by
  cases hev : evaluationTime ev with
  | some now => exact tracked_evaluation h ev hev
  | none =>
    cases ev with
    | updateMembership u => exact tracked_update h u
    | processHealthUpdate u now order => cases hev
    | evaluateFailover now order => cases hev

/-- When an evaluation sends an event about a bond, the last thing that
happened to the bond is a change, and it has no other members than the active
one and the one active before. -/
def ReportsOnlyTwo (os : List (List (Record F))) (e : FailoverEngine F) (ev : Event F) : Prop :=
  ∀ now, evaluationTime ev = some now → ∀ bondName state, Reports e bondName state now →
    (∃ c, (history bondName os).getLast? = some (.change c)) ∧
    OnlyTwo (changes (history bondName os)) state

theorem prompt_step {os : List (List (Record F))} {e : FailoverEngine F} (ht : Tracked os e)
    (ev : Event F) (hev : ReportsOnlyTwo os e ev) (bondName : String)
    (h : Prompt (history bondName os)) :
    Prompt (history bondName (os ++ [(Failover.step e ev).1])) := by
  rw [history_concat]
  cases htime : evaluationTime ev with
  | none =>
    cases ev with
    | processHealthUpdate u now order => cases htime
    | evaluateFailover now order => cases htime
    | updateMembership u =>
      rw [update_about]
      split
      · exact prompt_concat h (fun x hx => by cases hx)
      · simpa using h
  | some now =>
    have hbond := ht bondName
    cases hstate : e.bondManager.bonds.lookup bondName with
    | none =>
      rw [evaluation_unknown e ev htime hstate]
      simpa only [List.append_nil] using h
    | some state =>
      rw [hstate] at hbond
      rw [evaluation_about e ev htime hstate]
      split
      · rename_i hreports
        obtain ⟨⟨c, hc⟩, htwo⟩ := hev now htime bondName state ⟨hstate, hreports⟩
        apply prompt_concat h
        rintro _ ⟨⟩
        rw [hc, handover_of_onlyTwo hbond.2 (getLast?_changes hc) htwo]
      · simpa using h

def createBonds (F : Type) [LinearOrder F] (configs : List (BondConfig × CommandOutput)) :
    BondManager F :=
  run Bonding.step (BondManager.new F) (configs.map (fun c => .createBond c.1 c.2))

theorem createBonds_fresh (configs : List (BondConfig × CommandOutput)) (name : String)
    (state : BondState (Score F)) (h : (createBonds F configs).bonds.lookup name = some state) :
    ∃ config bondName, state = freshBond F config bondName := by
  induction configs using List.reverseRecOn generalizing name state with
  | nil => cases h
  | append_singleton configs c ih =>
    simp only [createBonds, List.map_append, List.map_cons, List.map_nil, run_concat,
      Bonding.step, createBond] at h
    split at h
    · exact ih name state h
    · exact insert_keeps (I := fun _ state => ∃ config bondName, state = freshBond F config bondName)
        ⟨c.1, _, rfl⟩ ih name state h

def start (F : Type) [LinearOrder F] (config : FailoverConfig)
    (configs : List (BondConfig × CommandOutput)) : FailoverEngine F :=
  FailoverEngine.new config (createBonds F configs)

theorem tracked_start (config : FailoverConfig) (configs : List (BondConfig × CommandOutput)) :
    Tracked [] (start F config configs) := by
  intro bondName
  split
  · rfl
  · rename_i state hstate
    refine ⟨split_run _ bondName state hstate, ?_⟩
    obtain ⟨bond, iface, rfl⟩ := createBonds_fresh configs bondName state hstate
    exact tracks_fresh _ rfl

theorem tracked_run (config : FailoverConfig) (configs : List (BondConfig × CommandOutput))
    (evs : List (Event F)) :
    Tracked (outputs Failover.step (start F config configs) evs)
      (run Failover.step (start F config configs) evs) :=
  run_always (tracked_start config configs) (fun _ _ ev h => tracked_step h ev) evs

/-- The events about each bond are matched, injectively and in order, to
earlier changes of its active member that they describe, and between any two
of them the active member has changed. -/
def DescribesFailovers (os : List (List (Record F))) : Prop :=
  ∀ bondName, Matched (history bondName os) ∧ Fresh (history bondName os)

theorem reportsOnlyTwo_of_describes (config : FailoverConfig)
    (configs : List (BondConfig × CommandOutput)) (evs : List (Event F))
    (h : DescribesFailovers (outputs Failover.step (start F config configs) evs)) :
    EachStep Failover.step (start F config configs) evs ReportsOnlyTwo := by
  rintro pre ev post rfl now hev bondName state ⟨hstate, hreports⟩
  obtain ⟨hmatched, hfresh⟩ := h bondName
  have htracked := tracked_run config configs pre bondName
  rw [hstate] at htracked
  have hsplit : history bondName
        (outputs Failover.step (start F config configs) (pre ++ ev :: post)) =
      history bondName (outputs Failover.step (start F config configs) pre) ++
        .report (state.standbyMembers, state.activeMembers) ::
          history bondName (outputs Failover.step
            (Failover.step (run Failover.step (start F config configs) pre) ev).2 post) := by
    have hreport := evaluation_about _ ev hev hstate
    rw [if_pos hreports] at hreport
    simp [history, outputs_append, outputs, hreport]
  obtain ⟨hmem, hlast⟩ := change_before_report hmatched hfresh hsplit
  exact ⟨hlast, onlyTwo_of_mem htracked.2 (mem_changes.mpr hmem)⟩

/-- In every run, the events describe the failovers exactly when each of them
is sent right after a change and about a bond of no other members. -/
theorem events_describe_failovers_iff (config : FailoverConfig)
    (configs : List (BondConfig × CommandOutput)) (evs : List (Event F)) :
    DescribesFailovers (outputs Failover.step (start F config configs) evs) ↔
      EachStep Failover.step (start F config configs) evs ReportsOnlyTwo := by
  refine ⟨reportsOnlyTwo_of_describes config configs evs, fun h bondName => ?_⟩
  have hprompt : Tracked (outputs Failover.step (start F config configs) evs)
        (run Failover.step (start F config configs) evs) ∧
      ∀ bondName, Prompt (history bondName (outputs Failover.step (start F config configs) evs)) :=
    run_invariant (P := ReportsOnlyTwo)
      (J := fun os e => Tracked os e ∧ ∀ bondName, Prompt (history bondName os))
      ⟨tracked_start config configs, fun _ => prompt_nil⟩
      (fun _ _ ev hev hJ => ⟨tracked_step hJ.1 ev,
        fun bondName => prompt_step hJ.1 ev hev bondName (hJ.2 bondName)⟩) h
  exact ⟨matched_of_prompt (hprompt.2 bondName), fresh_of_prompt (hprompt.2 bondName)⟩

/-- `eth0` becomes active, then `eth1`; two evaluations follow, the second
after the cooldown. -/
def reportedTwice : List (Event ℕ) :=
  [.updateMembership (reading "bond0" [("eth0", 90), ("eth1", 80)] 0),
    .updateMembership (reading "bond0" [("eth0", 10), ("eth1", 80)] 0),
    .evaluateFailover 0 (.id _), .evaluateFailover (30 * 10 ^ 9) (.id _)]

/-- The flag of a bond that has failed over is never taken back, so the second
evaluation reports the same failover again. -/
theorem failover_reported_again :
    ¬ DescribesFailovers (outputs Failover.step
      (start ℕ FailoverConfig.default [(pairConfig, exited true "" "")]) reportedTwice) := by
  intro h
  have hhistory : history "bond0" (outputs Failover.step
      (start ℕ FailoverConfig.default [(pairConfig, exited true "" "")]) reportedTwice) =
    [.change ([], ["eth0"]), .change (["eth0"], ["eth1"]), .report (["eth0"], ["eth1"]),
      .report (["eth0"], ["eth1"])] := by decide +kernel
  obtain ⟨-, hfresh⟩ := h "bond0"
  rw [hhistory] at hfresh
  obtain ⟨k, z, hlo, hhi, -⟩ := hfresh 2 3 _ _ (by decide) rfl rfl
  omega

end Netfusion.Core.FailoverReports
