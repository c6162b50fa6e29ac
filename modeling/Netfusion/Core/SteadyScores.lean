import Mathlib.Data.Finset.Insert
import Mathlib.Tactic.Linarith
import Netfusion.Core.SteeringFeed

namespace Netfusion.Core.SteadyScores

open Netfusion.Lib.Collections Netfusion.Lib.Machine
open Netfusion.Shared.Types
open Netfusion.Core.Monitoring Netfusion.Core.PathSteering Netfusion.Core.SteeringSpec
open Netfusion.Core.SteeringHysteresis Netfusion.Core.SteeringFeed

variable (config : SteeringConfig ℚ) (fixed : String → ℚ) (interfaces : Finset String)

/-- One of the interfaces reports the score it always has. -/
def Steady (a : Arrival) : Prop :=
  a.update.interface ∈ interfaces ∧ a.update.smoothedScore.overall = fixed a.update.interface

/-- A switch raises the score of the active interface by more than the hysteresis. -/
def Raises (s : PathSteerer ℚ) (a : Arrival) : Prop :=
  ∀ p q, assigned s = some p → assigned (feed s a).2 = some q →
    q.activeInterface ≠ p.activeInterface →
    p.activeScore = fixed p.activeInterface ∧ q.activeScore = fixed q.activeInterface ∧
    p.activeScore + config.switchHysteresis < q.activeScore

structure Settles (as : List Arrival) : Prop where
  raises : EachStep feed (PathSteerer.new config) as (fun _ s a => Raises config fixed s a)
  onceMore : ∀ pre a post, as = pre ++ a :: post →
    (∀ i ∈ interfaces, ∃ b ∈ pre ++ [a], b.update.interface = i) →
    (changes feed active (run feed (PathSteerer.new config) pre) (a :: post)).length ≤ 1

structure AtFixed (s : PathSteerer ℚ) : Prop where
  configured : s.config = config
  cached : ∀ name live, s.healthScores.lookup name = some live →
    name ∈ interfaces ∧ live.overall = fixed name
  path : ∀ p, assigned s = some p →
    p.activeScore = fixed p.activeInterface ∧ config.minViableScore ≤ p.activeScore

def AllCached (scores : HashMap String (HealthScore ℚ)) : Prop :=
  ∀ i ∈ interfaces, ∃ live, scores.lookup i = some live

/-- No interface is better than the active one. -/
def AtBest (s : PathSteerer ℚ) : Prop :=
  ∃ p, assigned s = some p ∧ ∀ i ∈ interfaces, fixed i ≤ p.activeScore

variable {config fixed interfaces} {s : PathSteerer ℚ} {a : Arrival}

theorem cached_update (hs : AtFixed config fixed interfaces s) (ha : Steady fixed interfaces a)
    (name : String) (live : HealthScore ℚ) (h : (scoresAfter s a.update).lookup name = some live) :
    name ∈ interfaces ∧ live.overall = fixed name := by
  have hcached : ∀ name live, (scoresAfter s a.update).lookup name = some live →
      name ∈ interfaces ∧ live.overall = fixed name := by
    apply insert_keeps
    · exact ha
    · exact hs.cached
  exact hcached name live h

theorem best_fixed (hs : AtFixed config fixed interfaces s) (ha : Steady fixed interfaces a)
    {x : String × ℚ} (hb : best s a.update a.order = some x) :
    x.1 ∈ interfaces ∧ x.2 = fixed x.1 ∧ config.minViableScore ≤ x.2 := by
  obtain ⟨score, hscore, heq, hviable, -⟩ := findBestInterface_eq_some hb
  obtain ⟨hmem, hfixed⟩ := cached_update hs ha x.1 score hscore
  exact ⟨hmem, heq.symm.trans hfixed, hs.configured ▸ hviable⟩

/-- An active interface is never read as degraded, so only a lead beyond the
hysteresis moves the path. -/
theorem steered_lead (hs : AtFixed config fixed interfaces s) (ha : Steady fixed interfaces a)
    {p : PathState ℚ} (hp : assigned s = some p) {x : String × ℚ}
    (hx : SteersTo s a.update a.now a.order p x) :
    p.activeScore + config.switchHysteresis < x.2 := by
  obtain ⟨-, -, -, -, ⟨⟨hactive, hlow⟩, -⟩ | ⟨-, hlead⟩⟩ := hx
  · obtain ⟨hscore, hviable⟩ := hs.path p hp
    rw [ha.2, hactive, ← hscore, hs.configured] at hlow
    exact absurd hviable (not_le.mpr hlow)
  · rw [hs.configured] at hlead
    linarith

theorem path_of_best (hs : AtFixed config fixed interfaces s) (ha : Steady fixed interfaces a)
    {x : String × ℚ} (hb : best s a.update a.order = some x) {t : PathSteerer ℚ} {now : Nat}
    (ht : assigned t = some ⟨x.1, x.2, now, 0⟩) {q : PathState ℚ} (hq : assigned t = some q) :
    q.activeScore = fixed q.activeInterface ∧ config.minViableScore ≤ q.activeScore := by
  cases ht.symm.trans hq
  exact (best_fixed hs ha hb).2

theorem atFixed_feed (hs : AtFixed config fixed interfaces s) (ha : Steady fixed interfaces a) :
    AtFixed config fixed interfaces (feed s a).2 := by
  obtain ⟨hconfig, hscores⟩ := onHealthUpdate_framed s a.update a.now a.order
  refine ⟨hconfig.trans hs.configured, ?_, ?_⟩
  · intro name live hlive
    apply cached_update hs ha name live
    rw [← hlive]
    exact congrArg (AList.lookup name) hscores.symm
  · intro q hq
    cases onHealthUpdate_answered s a.update a.now a.order with
    | unassigned _ _ _ hnone => cases hnone.symm.trans hq
    | started x _ hb hx => exact path_of_best hs ha hb hx.2 hq
    | moved p x _ hx hmoved => exact path_of_best hs ha hx.2.2.1 hmoved.2 hq
    | stayed p hp _ hstayed =>
      cases hstayed.2.symm.trans hq
      exact hs.path p hp

theorem raises_feed (hs : AtFixed config fixed interfaces s) (ha : Steady fixed interfaces a) :
    Raises config fixed s a := by
  intro p q hp hq hne
  refine ⟨(hs.path p hp).1, ((atFixed_feed hs ha).path q hq).1, ?_⟩
  cases onHealthUpdate_answered s a.update a.now a.order with
  | unassigned hnone _ _ _ => cases hnone.symm.trans hp
  | started x hnone _ _ => cases hnone.symm.trans hp
  | stayed p' hp' _ hstayed =>
    cases hp'.symm.trans hp
    cases hstayed.2.symm.trans hq
    exact absurd rfl hne
  | moved p' x hp' hx hmoved =>
    cases hp'.symm.trans hp
    cases hmoved.2.symm.trans hq
    exact steered_lead hs ha hp hx

theorem atBest_of_changed (hs : AtFixed config fixed interfaces s) (ha : Steady fixed interfaces a)
    (hall : AllCached interfaces (scoresAfter s a.update))
    (h : active s ≠ active (feed s a).2) : AtBest fixed interfaces (feed s a).2 := by
  have hbest : ∀ {x : String × ℚ}, best s a.update a.order = some x →
      ∀ i ∈ interfaces, fixed i ≤ x.2 := by
    intro x hb i hi
    obtain ⟨live, hlive⟩ := hall i hi
    obtain ⟨-, -, -, -, hmax⟩ := findBestInterface_eq_some hb
    rw [← (cached_update hs ha i live hlive).2]
    exact hmax i live hlive
  cases onHealthUpdate_answered s a.update a.now a.order with
  | unassigned hp _ _ hq => exact absurd ((active_eq_none hp).trans (active_eq_none hq).symm) h
  | stayed p hp _ hq => exact absurd ((active_eq hp).trans (active_eq hq.2).symm) h
  | started x _ hb hx => exact ⟨_, hx.2, hbest hb⟩
  | moved p x _ hx hmoved => exact ⟨_, hmoved.2, hbest hx.2.2.1⟩

theorem atBest_stays (hyst : 0 ≤ config.switchHysteresis) (hs : AtFixed config fixed interfaces s)
    (ha : Steady fixed interfaces a) (hbest : AtBest fixed interfaces s) :
    active s = active (feed s a).2 ∧ AtBest fixed interfaces (feed s a).2 := by
  obtain ⟨p, hp, hmax⟩ := hbest
  cases onHealthUpdate_answered s a.update a.now a.order with
  | unassigned hnone _ _ _ => cases hnone.symm.trans hp
  | started x hnone _ _ => cases hnone.symm.trans hp
  | stayed p' hp' _ hq =>
    cases hp'.symm.trans hp
    exact ⟨(active_eq hp).trans (active_eq hq.2).symm, _, hq.2, hmax⟩
  | moved p' x hp' hx _ =>
    cases hp'.symm.trans hp
    have hlead := steered_lead hs ha hp hx
    obtain ⟨hmem, heq, -⟩ := best_fixed hs ha hx.2.2.1
    have hle : x.2 ≤ p.activeScore := heq ▸ hmax x.1 hmem
    linarith

theorem allCached_scoresAfter {u : HealthUpdate ℚ} (h : AllCached interfaces s.healthScores) :
    AllCached interfaces (scoresAfter s u) :=
  fun i hi => seen_insert s u i (h i hi)

theorem allCached_feed (h : AllCached interfaces (scoresAfter s a.update)) :
    AllCached interfaces (feed s a).2.healthScores := by
  intro i hi
  obtain ⟨live, hlive⟩ := h i hi
  exact ⟨live, (congrArg (AList.lookup i)
    (onHealthUpdate_framed s a.update a.now a.order).2).trans hlive⟩

theorem changes_allCached (hyst : 0 ≤ config.switchHysteresis) (as : List Arrival)
    (has : ∀ a ∈ as, Steady fixed interfaces a) (hs : AtFixed config fixed interfaces s)
    (hall : AllCached interfaces s.healthScores) :
    (changes feed active s as).length ≤ 1 ∧
    (AtBest fixed interfaces s → changes feed active s as = []) := by
  apply changes_length_le_one (A := Steady fixed interfaces)
    (I := fun t => AtFixed config fixed interfaces t ∧ AllCached interfaces t.healthScores)
  · rintro t a ha ⟨ht, hcached⟩
    exact ⟨atFixed_feed ht ha, allCached_feed (allCached_scoresAfter hcached)⟩
  · rintro t a ha ⟨ht, hcached⟩ h
    exact atBest_of_changed ht ha (allCached_scoresAfter hcached) h
  · rintro t a ha ⟨ht, -⟩ hbest
    exact atBest_stays hyst ht ha hbest
  · exact has
  · exact ⟨hs, hall⟩

theorem changes_completed (hyst : 0 ≤ config.switchHysteresis) (post : List Arrival)
    (hpost : ∀ b ∈ a :: post, Steady fixed interfaces b) (hs : AtFixed config fixed interfaces s)
    (hall : AllCached interfaces (scoresAfter s a.update)) :
    (changes feed active s (a :: post)).length ≤ 1 := by
  have ha := hpost a (.head post)
  obtain ⟨hone, hnone⟩ := changes_allCached hyst post (fun b hb => hpost b (.tail a hb))
    (atFixed_feed hs ha) (allCached_feed hall)
  rw [changes]
  split
  · exact hone
  · rename_i h
    simp [hnone (atBest_of_changed hs ha hall h)]

theorem atFixed_run (as : List Arrival) (has : ∀ a ∈ as, Steady fixed interfaces a) :
    AtFixed config fixed interfaces (run feed (PathSteerer.new config) as) := by
  induction as using List.reverseRecOn with
  | nil =>
    refine ⟨rfl, ?_, ?_⟩
    · intro name live h
      cases h
    · intro p hp
      cases hp
  | append_singleton as a ih =>
    rw [run_concat]
    apply atFixed_feed
    · exact ih (fun b hb => has b (List.mem_append_left [a] hb))
    · exact has a (List.mem_append_right as (.head _))

theorem latest_of_mem (as : List Arrival) (name : String)
    (h : ∃ b ∈ as, b.update.interface = name) : ∃ score, latest as name = some score := by
  induction as using List.reverseRecOn with
  | nil =>
    obtain ⟨b, hb, -⟩ := h
    cases hb
  | append_singleton as a ih =>
    rw [latest_concat]
    split
    · exact ⟨_, rfl⟩
    · rename_i hne
      obtain ⟨b, hb, hname⟩ := h
      rcases List.mem_append.mp hb with hb | hb
      · exact ih ⟨b, hb, hname⟩
      · cases List.mem_singleton.mp hb
        exact absurd hname hne

theorem allCached_run (pre : List Arrival) (a : Arrival)
    (h : ∀ i ∈ interfaces, ∃ b ∈ pre ++ [a], b.update.interface = i) :
    AllCached interfaces (scoresAfter (run feed (PathSteerer.new config) pre) a.update) := by
  intro i hi
  obtain ⟨score, hscore⟩ := latest_of_mem (pre ++ [a]) i (h i hi)
  rw [← scoresAfter_run config] at hscore
  obtain ⟨live, hlive, -⟩ := Option.map_eq_some_iff.mp hscore
  exact ⟨live, hlive⟩

/-- Under steady scores every switch raises the active score by more than the
hysteresis, and once every interface has reported there is at most one more. -/
theorem steady_settles (hyst : 0 ≤ config.switchHysteresis) (as : List Arrival)
    (has : ∀ a ∈ as, Steady fixed interfaces a) : Settles config fixed interfaces as := by
  constructor
  · rintro pre a post rfl
    apply raises_feed
    · exact atFixed_run pre (fun b hb => has b (List.mem_append_left _ hb))
    · exact has a (List.mem_append_right pre (.head post))
  · rintro pre a post rfl hreported
    apply changes_completed hyst post
    · exact fun b hb => has b (List.mem_append_right pre hb)
    · exact atFixed_run pre (fun b hb => has b (List.mem_append_left _ hb))
    · exact allCached_run pre a hreported

def twoScores (name : String) : ℚ := if name = "eth0" then 40 else 90

theorem steady_settles_two :
    Settles promptConfig twoScores {"eth0", "eth1"}
      [⟨reading "eth0" 40, 0, .id _⟩, ⟨reading "eth1" 90, 1, .id _⟩] := by
  apply steady_settles (by decide +kernel)
  intro a ha
  rcases List.mem_pair.mp ha with rfl | rfl <;> exact ⟨by decide, rfl⟩

end Netfusion.Core.SteadyScores
