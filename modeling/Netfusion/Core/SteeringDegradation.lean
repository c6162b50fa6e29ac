import Netfusion.Lib.Floats
import Netfusion.Core.SteeringFeed

namespace Netfusion.Core.SteeringDegradation

open Netfusion.Lib.Collections Netfusion.Lib.Floats Netfusion.Lib.Machine
open Netfusion.Shared.Types
open Netfusion.Core.Monitoring Netfusion.Core.PathSteering Netfusion.Core.SteeringSpec
open Netfusion.Core.SteeringHysteresis Netfusion.Core.SteeringFeed

variable {F : Type}

abbrev History (F : Type) := List (Event F × Option (SteeringDecision F))

/-- What the decisions tell of the active interface, and what it has reported
since it became active, the latest first. -/
structure Watch (F : Type) where
  active : Option String
  readings : List F

def heard (w : Watch F) (u : HealthUpdate F) : List F :=
  if w.active = some u.interface then u.smoothedScore.overall :: w.readings else w.readings

def watch (w : Watch F) : Event F × Option (SteeringDecision F) → Watch F
  | (.reset, _) => ⟨none, []⟩
  | (.update _ _ _, some d) => ⟨some d.activeInterface, []⟩
  | (.update u _ _, none) => ⟨w.active, heard w u⟩

def watched (past : History F) : Watch F := past.foldl watch ⟨none, []⟩

def time : Event F → Option Nat
  | .update _ now _ => some now
  | .reset => none

def times (past : History F) : List Nat := past.filterMap (fun x => time x.1)

def ThreeBad [LT F] (config : SteeringConfig F) (readings : List F) : Prop :=
  3 ≤ readings.length ∧ ∀ r ∈ readings.take 3, r < config.minViableScore

structure Watched (past : History F) (s : PathSteerer F) : Prop where
  active : (watched past).active = active s
  cached : ∀ p r, assigned s = some p → (watched past).readings.head? = some r →
    ∃ live, s.healthScores.lookup p.activeInterface = some live ∧ live.overall = r

/-- The counter never exceeds the bad readings in a row, and has left zero only
once the cooldown was over. -/
def Counted [LT F] (past : History F) (s : PathSteerer F) : Prop :=
  ∀ p, assigned s = some p →
    p.consecutiveDegraded ≤ (watched past).readings.length ∧
    (∀ r ∈ (watched past).readings.take p.consecutiveDegraded, r < s.config.minViableScore) ∧
    (0 < p.consecutiveDegraded → ∀ now, (∀ t ∈ times past, t ≤ now) → ¬ CoolingDown s p now)

def ClockKept (past : History F) : Event F → Prop
  | .update _ now _ => ∀ t ∈ times past, t ≤ now
  | .reset => True

/-- While degraded readings are counted, the active interface reads below the
threshold or not below it. A score that is not a number does neither. -/
def ComparedWhileCounting [LT F] [LE F] (s : PathSteerer F) : Event F → Prop
  | .update u _ _ => ∀ p ∈ assigned s, u.interface = p.activeInterface →
      0 < p.consecutiveDegraded →
        u.smoothedScore.overall < s.config.minViableScore ∨
        s.config.minViableScore ≤ u.smoothedScore.overall
  | .reset => True

instance [LT F] [DecidableLT F] [LE F] [DecidableLE F] (s : PathSteerer F) :
    ∀ e, Decidable (ComparedWhileCounting s e)
  | .update u _ _ => inferInstanceAs (Decidable (∀ p ∈ assigned s, u.interface = p.activeInterface →
      0 < p.consecutiveDegraded → _ ∨ _))
  | .reset => .isTrue trivial

theorem watched_concat (past : History F) (x : Event F × Option (SteeringDecision F)) :
    watched (past ++ [x]) = watch (watched past) x := by
  rw [watched, List.foldl_append]
  rfl

theorem times_update (past : History F) (u : HealthUpdate F) (now : Nat)
    (order : Shuffle (ScoreEntry F)) (d : Option (SteeringDecision F)) :
    times (past ++ [(.update u now order, d)]) = times past ++ [now] := by
  rw [times, List.filterMap_append]
  rfl

theorem own_score (s : PathSteerer F) (u : HealthUpdate F) :
    (scoresAfter s u).lookup u.interface = some u.smoothedScore := AList.lookup_insert _

theorem heard_own {w : Watch F} {u : HealthUpdate F} (h : w.active = some u.interface) :
    heard w u = u.smoothedScore.overall :: w.readings := if_pos h

theorem heard_other {w : Watch F} {u : HealthUpdate F} (h : w.active ≠ some u.interface) :
    heard w u = w.readings := if_neg h

theorem cached_heard {past : History F} {s : PathSteerer F} (u : HealthUpdate F)
    (hs : Watched past s) {p : PathState F} (hp : assigned s = some p) {r : F}
    (hr : (heard (watched past) u).head? = some r) :
    ∃ live, (scoresAfter s u).lookup p.activeInterface = some live ∧ live.overall = r := by
  have hactive := hs.active.trans (active_eq hp)
  by_cases hown : p.activeInterface = u.interface
  · rw [heard_own (hactive.trans (congrArg some hown))] at hr
    cases hr
    exact ⟨_, hown ▸ own_score s u, rfl⟩
  · have hother : (watched past).active ≠ some u.interface := by simpa [hactive] using hown
    rw [heard_other hother] at hr
    obtain ⟨live, hlive, heq⟩ := hs.cached p r hp hr
    refine ⟨live, ?_, heq⟩
    rw [scoresAfter, lookup_insert_eq, if_neg hown]
    exact hlive

theorem clock_kept {past : History F} {u : HealthUpdate F} {now : Nat}
    {order : Shuffle (ScoreEntry F)} (h : ClockKept past (.update u now order))
    (d : Option (SteeringDecision F)) {later : Nat}
    (hlater : ∀ t ∈ times (past ++ [(.update u now order, d)]), t ≤ later) :
    now ≤ later ∧ ∀ t ∈ times past, t ≤ later := by
  rw [times_update] at hlater
  have hnow := hlater now (List.mem_append_right _ (.head _))
  exact ⟨hnow, fun t ht => (h t ht).trans hnow⟩

variable [LT F] [DecidableLT F] [LE F] [DecidableLE F] [Sub F] [Ord F]

section

variable (past : History F) (s : PathSteerer F) (u : HealthUpdate F) (now : Nat)
  (order : Shuffle (ScoreEntry F))

theorem watched_moved {reason : SteeringReason} {x : String × F}
    (h : MovedFor reason x now (onHealthUpdate s u now order)) :
    watched (past ++ [(.update u now order, (onHealthUpdate s u now order).1)]) =
      ⟨some x.1, []⟩ := by
  obtain ⟨⟨d, hd, hi, -⟩, -⟩ := h
  rw [watched_concat, hd, watch, hi]

theorem watched_stayed (h : (onHealthUpdate s u now order).1 = none) :
    watched (past ++ [(.update u now order, (onHealthUpdate s u now order).1)]) =
      ⟨(watched past).active, heard (watched past) u⟩ := by
  rw [watched_concat, h, watch]

variable {past s}

theorem watching_moved {reason : SteeringReason} {x : String × F}
    (h : MovedFor reason x now (onHealthUpdate s u now order)) :
    Watched (past ++ [(.update u now order, (onHealthUpdate s u now order).1)])
      (onHealthUpdate s u now order).2 := by
  have hw := watched_moved past s u now order h
  constructor
  · rw [hw]
    exact (active_eq h.2).symm
  · intro p r _ hr
    rw [hw] at hr
    cases hr

theorem watching_update (hs : Watched past s) :
    Watched (past ++ [(.update u now order, (onHealthUpdate s u now order).1)])
      (onHealthUpdate s u now order).2 := by
  cases onHealthUpdate_answered s u now order with
  | started x _ _ hq => exact watching_moved u now order hq
  | moved p x _ _ hq => exact watching_moved u now order hq
  | unassigned hp _ hr hq =>
    have hw := watched_stayed past s u now order hr
    constructor
    · rw [hw]
      exact hs.active.trans ((active_eq_none hp).trans (active_eq_none hq).symm)
    · intro p r hp'
      cases hq.symm.trans hp'
  | stayed p hp _ hq =>
    have hw := watched_stayed past s u now order hq.1
    constructor
    · rw [hw]
      exact hs.active.trans ((active_eq hp).trans (active_eq hq.2).symm)
    · intro q r hq' hr
      rw [hw] at hr
      cases hq.2.symm.trans hq'
      obtain ⟨live, hlive, heq⟩ := cached_heard u hs hp hr
      exact ⟨live, (congrArg (AList.lookup p.activeInterface)
        (onHealthUpdate_framed s u now order).2).trans hlive, heq⟩

end

theorem watching_step {past : History F} {s : PathSteerer F} (e : Event F) (hs : Watched past s) :
    Watched (past ++ [(e, (step s e).1)]) (step s e).2 := by
  cases e with
  | update u now order => exact watching_update u now order hs
  | reset =>
    constructor
    · rw [watched_concat]
      rfl
    · intro p r hp
      cases hp

theorem watching_run (config : SteeringConfig F) (es : List (Event F)) :
    Watched (trace step (PathSteerer.new config) es) (run step (PathSteerer.new config) es) := by
  apply trace_always
  · refine ⟨rfl, ?_⟩
    intro p r hp
    cases hp
  · intro past s e hs
    exact watching_step e hs

section

variable {past : History F} {s : PathSteerer F} {u : HealthUpdate F} {now : Nat}
  {order : Shuffle (ScoreEntry F)}

omit [DecidableLT F] [Sub F] in
theorem counted_skipped (hs : Counted past s) (hclock : ClockKept past (.update u now order))
    (hcompared : ComparedWhileCounting s (.update u now order)) {p : PathState F}
    (hp : assigned s = some p) (hown : u.interface = p.activeInterface)
    (hskip : best s u order = none ∨ CoolingDown s p now) :
    p.consecutiveDegraded ≤ (u.smoothedScore.overall :: (watched past).readings).length ∧
    ∀ r ∈ (u.smoothedScore.overall :: (watched past).readings).take p.consecutiveDegraded,
      r < s.config.minViableScore := by
  obtain ⟨hlen, hbad, hlate⟩ := hs p hp
  refine ⟨Nat.le_succ_of_le hlen, ?_⟩
  cases hn : p.consecutiveDegraded with
  | zero =>
    intro r hr
    cases hr
  | succ n =>
    have hcool : ¬ CoolingDown s p now := hlate (by omega) now hclock
    have hhigh : ¬ s.config.minViableScore ≤ u.smoothedScore.overall :=
      findBestInterface_missing.mp (hskip.resolve_right hcool) _ _ (own_score s u)
    have hlow := (hcompared p hp hown (by omega)).resolve_right hhigh
    intro r hr
    rw [List.take_succ_cons] at hr
    cases hr with
    | head => exact hlow
    | tail _ hr =>
      apply hbad r
      rw [hn]
      exact List.take_subset_take_left _ (Nat.le_succ n) hr

omit [Sub F] in
theorem counted_heard (hw : Watched past s) (hs : Counted past s)
    (hclock : ClockKept past (.update u now order))
    (hcompared : ComparedWhileCounting s (.update u now order)) {p : PathState F}
    (hp : assigned s = some p) :
    countAfter s u now order p ≤ (heard (watched past) u).length ∧
    ∀ r ∈ (heard (watched past) u).take (countAfter s u now order p),
      r < s.config.minViableScore := by
  have hactive := hw.active.trans (active_eq hp)
  obtain ⟨hlen, hbad, -⟩ := hs p hp
  by_cases hown : u.interface = p.activeInterface
  · rw [heard_own (hactive.trans (congrArg some hown.symm)), countAfter]
    split
    · rename_i hskip
      apply counted_skipped hs hclock hcompared hp hown
      simpa [hown] using hskip
    · split
      · rename_i hlow
        rw [List.take_succ_cons]
        refine ⟨Nat.succ_le_succ hlen, ?_⟩
        intro r hr
        cases hr with
        | head => exact hlow
        | tail _ hr => exact hbad r hr
      · rename_i hlow
        -- a good reading puts the counter back, and no other is left but at zero
        have hzero : (if s.config.minViableScore ≤ u.smoothedScore.overall then 0
            else p.consecutiveDegraded) = 0 := by
          split
          · rfl
          · rename_i hhigh
            by_contra hne
            exact (hcompared p hp hown (Nat.pos_of_ne_zero hne)).elim hlow hhigh
        rw [hzero]
        refine ⟨Nat.zero_le _, ?_⟩
        intro r hr
        cases hr
  · have hother : (watched past).active ≠ some u.interface := by simpa [hactive] using Ne.symm hown
    rw [heard_other hother, countAfter, if_pos (.inr (.inr hown))]
    exact ⟨hlen, hbad⟩

omit [Sub F] in
theorem counted_late (hs : Counted past s) (hclock : ClockKept past (.update u now order))
    {p : PathState F} (hp : assigned s = some p) (hpos : 0 < countAfter s u now order p)
    {later : Nat} (hlater : now ≤ later) : ¬ CoolingDown s p later := by
  have hcool : ¬ CoolingDown s p now := by
    by_cases hpos' : 0 < p.consecutiveDegraded
    · exact (hs p hp).2.2 hpos' now hclock
    · rw [countAfter] at hpos
      split at hpos
      · exact absurd hpos hpos'
      · rename_i hskip
        exact fun h => hskip (.inr (.inl h))
  rw [CoolingDown] at hcool ⊢
  omega

theorem counted_update (hw : Watched past s) (hs : Counted past s)
    (hclock : ClockKept past (.update u now order))
    (hcompared : ComparedWhileCounting s (.update u now order)) :
    Counted (past ++ [(.update u now order, (onHealthUpdate s u now order).1)])
      (onHealthUpdate s u now order).2 := by
  obtain ⟨hconfig, -⟩ := onHealthUpdate_framed s u now order
  have hfresh : ∀ {x : String × F} {q : PathState F},
      assigned (onHealthUpdate s u now order).2 = some ⟨x.1, x.2, now, 0⟩ →
      assigned (onHealthUpdate s u now order).2 = some q → q.consecutiveDegraded = 0 := by
    intro x q hx hq
    cases hx.symm.trans hq
    rfl
  intro q hq
  cases onHealthUpdate_answered s u now order with
  | unassigned _ _ _ hnone => cases hnone.symm.trans hq
  | started x _ _ hx => simp [hfresh hx.2 hq]
  | moved p x _ _ hx => simp [hfresh hx.2 hq]
  | stayed p hp _ hx =>
    cases hx.2.symm.trans hq
    rw [watched_stayed past s u now order hx.1, hconfig]
    obtain ⟨hlen, hbad⟩ := counted_heard hw hs hclock hcompared hp
    refine ⟨hlen, hbad, ?_⟩
    intro hpos later hlater
    have hlate := counted_late hs hclock hp hpos (clock_kept hclock _ hlater).1
    rw [CoolingDown] at hlate ⊢
    rwa [hconfig]

end

theorem counted_run (config : SteeringConfig F) (es : List (Event F))
    (hkept : EachTraced step (PathSteerer.new config) es
      (fun past s e => ClockKept past e ∧ ComparedWhileCounting s e)) :
    Counted (trace step (PathSteerer.new config) es) (run step (PathSteerer.new config) es) := by
  have hboth : Watched (trace step (PathSteerer.new config) es)
        (run step (PathSteerer.new config) es) ∧
      Counted (trace step (PathSteerer.new config) es)
        (run step (PathSteerer.new config) es) := by
    apply trace_invariant (C := fun past s e => ClockKept past e ∧ ComparedWhileCounting s e)
      (J := fun past s => Watched past s ∧ Counted past s)
    · refine ⟨watching_run config [], ?_⟩
      intro p hp
      cases hp
    · rintro past s e ⟨hclock, hcompared⟩ ⟨hw, hs⟩
      refine ⟨watching_step e hw, ?_⟩
      cases e with
      | update u now order => exact counted_update hw hs hclock hcompared
      | reset =>
        intro p hp
        cases hp
    · exact hkept
  exact hboth.2

/-- The path has left another interface after three bad readings of it. -/
def LeftAfterThreeBad (past : History F) (s : PathSteerer F) (u : HealthUpdate F) (now : Nat)
    (order : Shuffle (ScoreEntry F)) (d : SteeringDecision F) : Prop :=
  ∃ left, active s = some left ∧
    active (onHealthUpdate s u now order).2 = some d.activeInterface ∧
    d.activeInterface ≠ left ∧ ThreeBad s.config (heard (watched past) u)

theorem leftAfterThreeBad_of_failover {past : History F} {s : PathSteerer F} {u : HealthUpdate F}
    {now : Nat} {order : Shuffle (ScoreEntry F)} {d : SteeringDecision F} (hw : Watched past s)
    (hs : Counted past s) (hd : (onHealthUpdate s u now order).1 = some d)
    (hreason : d.reason = .healthDegraded) : LeftAfterThreeBad past s u now order d := by
  cases onHealthUpdate_answered s u now order with
  | unassigned _ _ hr _ => cases hr.symm.trans hd
  | stayed _ _ _ hr => cases hr.1.symm.trans hd
  | started x _ _ hq =>
    obtain ⟨⟨d', hd', -, -, hinitial⟩, -⟩ := hq
    cases hd'.symm.trans hd
    cases hinitial.symm.trans hreason
  | moved p x hp hx hq =>
    obtain ⟨⟨d', hd', hi, -, hr⟩, hassigned⟩ := hq
    cases hd'.symm.trans hd
    have hdeg : DegradedReading s p u := by
      by_contra hdeg
      rw [reasonFor, if_neg hdeg] at hr
      cases hr.symm.trans hreason
    obtain ⟨-, -, -, hne, ⟨-, hthree⟩ | ⟨hgood, -⟩⟩ := hx
    · obtain ⟨hlen, hbad, -⟩ := hs p hp
      have hown : heard (watched past) u = u.smoothedScore.overall :: (watched past).readings :=
        heard_own (hw.active.trans ((active_eq hp).trans (congrArg some hdeg.1.symm)))
      have hnew := active_eq hassigned
      rw [← hi] at hne hnew
      refine ⟨p.activeInterface, active_eq hp, hnew, hne, ?_⟩
      rw [hown]
      refine ⟨by simp only [List.length_cons]; omega, ?_⟩
      intro r hmem
      rw [List.take_succ_cons] at hmem
      cases hmem with
      | head => exact hdeg.2
      | tail _ hmem => exact hbad r (List.take_subset_take_left _ (by omega) hmem)
    · exact absurd hdeg hgood

theorem times_trace (s : PathSteerer F) (es : List (Event F)) :
    times (trace step s es) = es.filterMap time := by
  induction es generalizing s with
  | nil => rfl
  | cons e es ih =>
    rw [trace, times, List.filterMap_cons, List.filterMap_cons]
    split <;> simp_all [times]

theorem clockKept_of_sorted (s : PathSteerer F) (es : List (Event F))
    (hclock : (es.filterMap time).Pairwise (· ≤ ·)) :
    EachTraced step s es (fun past _ e => ClockKept past e) := by
  rintro pre e post rfl
  cases e with
  | reset => trivial
  | update u now order =>
    intro t ht
    rw [times_trace] at ht
    rw [List.filterMap_append] at hclock
    exact (List.pairwise_append.mp hclock).2.2 t ht now (.head _)

/-- In every run of updates and resets under a clock that does not go back, and
with the active interface's scores compared while degraded ones are counted, a
failover leaves an interface whose last three readings since it became active
were all bad, for another one. -/
theorem failover_after_three_bad (config : SteeringConfig F) (es : List (Event F))
    (hclock : (es.filterMap time).Pairwise (· ≤ ·))
    (hcompared : EachStep step (PathSteerer.new config) es (fun _ s e => ComparedWhileCounting s e))
    (pre : List (Event F)) (u : HealthUpdate F) (now : Nat) (order : Shuffle (ScoreEntry F))
    (post : List (Event F)) (hes : es = pre ++ .update u now order :: post)
    (d : SteeringDecision F)
    (hd : (onHealthUpdate (run step (PathSteerer.new config) pre) u now order).1 = some d)
    (hreason : d.reason = .healthDegraded) :
    LeftAfterThreeBad (trace step (PathSteerer.new config) pre)
      (run step (PathSteerer.new config) pre) u now order d := by
  apply leftAfterThreeBad_of_failover (watching_run config pre) _ hd hreason
  apply counted_run config pre
  rintro pre' e post' rfl
  have hsplit : es = pre' ++ e :: (post' ++ .update u now order :: post) := by simp [hes]
  exact ⟨clockKept_of_sorted _ es hclock pre' e _ hsplit, hcompared pre' e _ hsplit⟩

/-- With scores that are numbers or NaN, the condition keeps NaN away from a
path with degraded readings. -/
theorem comparedWhileCounting_iff {s : PathSteerer (WithNaN ℚ)}
    (hmin : s.config.minViableScore ≠ .nan) (u : HealthUpdate (WithNaN ℚ)) (now : Nat)
    (order : Shuffle (ScoreEntry (WithNaN ℚ))) :
    ComparedWhileCounting s (.update u now order) ↔
      ∀ p ∈ assigned s, u.interface = p.activeInterface → 0 < p.consecutiveDegraded →
        u.smoothedScore.overall ≠ .nan := by
  simp only [ComparedWhileCounting, WithNaN.compared_iff, ne_eq, hmin, not_false_eq_true, and_true]

def read (interface : String) (overall : WithNaN ℚ) : HealthUpdate (WithNaN ℚ) where
  interface := interface
  previousScore := .num 0
  newScore := ⟨overall, overall, overall, overall, overall, overall, 0, false⟩
  smoothedScore := ⟨overall, overall, overall, overall, overall, overall, 0, false⟩
  failoverCandidate := false
  probe := ⟨interface, .num 10, .num 1, .num 0, .num 100, 0, 0⟩

def nanConfig : SteeringConfig (WithNaN ℚ) := ⟨.num 30, .num 15, 0, .num 20, true⟩

/-- After two bad readings `eth0` has one that is not a number. -/
def interruptedRun : List (Event (WithNaN ℚ)) :=
  [.update (read "eth0" (.num 90)) 0 (.id _), .update (read "eth1" (.num 70)) 1 (.id _),
    .update (read "eth0" (.num 10)) 2 (.id _), .update (read "eth0" (.num 10)) 3 (.id _),
    .update (read "eth0" .nan) 4 (.id _)]

/-- The next bad one is the third that is counted, and not the third in a row. -/
theorem interrupted_failover :
    ((interruptedRun ++ [Event.update (read "eth0" (.num 10)) 5 (.id _)]).filterMap time).Pairwise
      (· ≤ ·) ∧
    (onHealthUpdate (run step (PathSteerer.new nanConfig) interruptedRun) (read "eth0" (.num 10)) 5
      (.id _)).1 = some ⟨"eth1", .num 70, true, .healthDegraded⟩ ∧
    ¬ LeftAfterThreeBad (trace step (PathSteerer.new nanConfig) interruptedRun)
      (run step (PathSteerer.new nanConfig) interruptedRun) (read "eth0" (.num 10)) 5 (.id _)
      ⟨"eth1", .num 70, true, .healthDegraded⟩ := by
  refine ⟨by decide, by decide +kernel, ?_⟩
  rintro ⟨left, -, -, -, -, hbad⟩
  have hheard : heard (watched (trace step (PathSteerer.new nanConfig) interruptedRun))
      (read "eth0" (.num 10)) = [.num 10, .nan, .num 10, .num 10] := by decide +kernel
  rw [hheard] at hbad
  exact hbad .nan (by decide)

/-- `eth0` has a reading that is not a number before it is read as bad three
times, while `eth1` is viable. -/
def crashRun : List (Event (WithNaN ℚ)) :=
  [.update (read "eth0" (.num 90)) 0 (.id _), .update (read "eth1" (.num 70)) 1 (.id _),
    .update (read "eth0" .nan) 2 (.id _), .update (read "eth0" (.num 10)) 3 (.id _),
    .update (read "eth0" (.num 10)) 4 (.id _)]

theorem failover_after_three_bad_crash :
    LeftAfterThreeBad (trace step (PathSteerer.new nanConfig) crashRun)
      (run step (PathSteerer.new nanConfig) crashRun) (read "eth0" (.num 10)) 5 (.id _)
      ⟨"eth1", .num 70, true, .healthDegraded⟩ :=
  failover_after_three_bad nanConfig (crashRun ++ [.update (read "eth0" (.num 10)) 5 (.id _)])
    (by decide) (by decide +kernel) crashRun (read "eth0" (.num 10)) 5 (.id _) [] rfl _
    (by decide +kernel) rfl

end Netfusion.Core.SteeringDegradation
