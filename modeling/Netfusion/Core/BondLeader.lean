import Netfusion.Core.BondFlapping

namespace Netfusion.Core.BondLeader

open Netfusion.Lib.Collections Netfusion.Lib.Machine Netfusion.Lib.Sorting
open Netfusion.Shared.Config Netfusion.Shared.Types
open Netfusion.Core.Command Netfusion.Core.Bonding Netfusion.Core.BondFlapping

variable {F : Type}

def members (state : BondState (Score F)) : List String :=
  state.standbyMembers ++ state.activeMembers

def Unscored (state : BondState (Score F)) (health : HashMap String (HealthScore (Score F))) :
    Prop :=
  ∀ member ∈ members state, health.lookup member = none

theorem scored_of_lookup {state : BondState (Score F)}
    {health : HashMap String (HealthScore (Score F))} {member : String} (h : member ∈ members state)
    {score : HealthScore (Score F)} (hscore : health.lookup member = some score) :
    (member, score.overall) ∈ scoredMembers state health :=
  mem_scoredMembers.mpr ⟨h, by rw [hscore]; rfl⟩

theorem active_eq_iff {state : BondState (Score F)} (hsplit : Split state) (best : String) :
    state.activeMembers = [best] ↔ state.activeMembers.head? = some best := by
  cases hactive : state.activeMembers with
  | nil => simp
  | cons prev rest =>
    have hone := hsplit.1
    rw [hactive] at hone
    obtain rfl : rest = [] := List.length_eq_zero_iff.mp (by simpa using hone)
    simp

variable [LinearOrder F]

abbrev Answer (F : Type) := Option (Except BondingError (Option String)) × BondManager F

/-- A member of the bond with a score, and no other has a strictly higher one. -/
def Healthiest (state : BondState (Score F)) (health : HashMap String (HealthScore (Score F)))
    (best : String) : Prop :=
  best ∈ members state ∧ ∃ score, health.lookup best = some score ∧
    ∀ other ∈ members state, ∀ score', health.lookup other = some score' →
      partialCmp score'.overall score.overall ≠ some .gt

/-- The bond is led by one of its healthiest members. The call names it exactly
if it was not leading before, and otherwise leaves everything as it was. -/
structure Picked (m : BondManager F) (bondName : String) (state : BondState (Score F))
    (health : HashMap String (HealthScore (Score F))) (r : Answer F) (best : String)
    (after : BondState (Score F)) : Prop where
  stored : r.2.bonds.lookup bondName = some after
  leads : after.activeMembers = [best]
  healthiest : Healthiest after health best
  same : ∀ member, member ∈ members after ↔ member ∈ members state
  named : r.1 = some (.ok (some best)) ↔ state.activeMembers ≠ after.activeMembers
  idle : r.1 ≠ some (.ok (some best)) → r = (some (.ok none), m)
  others : ∀ other, other ≠ bondName → r.2.bonds.lookup other = m.bonds.lookup other

def PicksHealthiest (m : BondManager F) (bondName : String)
    (health : HashMap String (HealthScore (Score F))) (r : Answer F) : Prop :=
  match m.bonds.lookup bondName with
  | none => r = (some (.error (.notFound bondName)), m)
  | some state =>
    (Unscored state health → r = (some (.ok none), m)) ∧
    (¬ Unscored state health → ∃ best after, Picked m bondName state health r best after)

theorem unscored_iff (state : BondState (Score F))
    (health : HashMap String (HealthScore (Score F))) :
    Unscored state health ↔ leader state health = none := by
  rw [leader, List.argmax_eq_none]
  constructor
  · intro h
    apply List.eq_nil_iff_forall_not_mem.mpr
    intro x hx
    obtain ⟨hmem, hscore⟩ := mem_scoredMembers.mp hx
    rw [h x.1 hmem] at hscore
    cases hscore
  · intro h member hmem
    cases hscore : health.lookup member with
    | none => rfl
    | some score =>
      have hx := scored_of_lookup hmem hscore
      rw [h] at hx
      cases hx

theorem partialCmp_ne_gt {a b : Score F} (ha : a ≠ none) (hb : b ≠ none) (name : String) :
    partialCmp a b ≠ some .gt ↔ key (name, a) ≤ key (name, b) := by
  obtain ⟨x, rfl⟩ := Option.ne_none_iff_exists'.mp ha
  obtain ⟨y, rfl⟩ := Option.ne_none_iff_exists'.mp hb
  have hkey : key (name, some x) ≤ key (name, some y) ↔ x ≤ y := WithBot.coe_le_coe
  rw [hkey, partialCmp, Ne, Option.some.injEq]
  exact compare_le_iff_le

theorem healthiest_leader {state : BondState (Score F)}
    {health : HashMap String (HealthScore (Score F))} (hcmp : Comparable health)
    {best : String × Score F} (h : leader state health = some best) :
    Healthiest state health best.1 := by
  obtain ⟨hmem, hscore⟩ := mem_scoredMembers.mp (List.argmax_mem h)
  obtain ⟨score, hlookup, hoverall⟩ := Option.map_eq_some_iff.mp hscore
  refine ⟨hmem, score, hlookup, ?_⟩
  intro other hother score' hscore'
  have htop := List.le_of_mem_argmax (scored_of_lookup hother hscore') h
  apply (partialCmp_ne_gt (hcmp _ _ hscore') (hcmp _ _ hlookup) other).mpr
  rw [hoverall]
  exact htop

theorem healthiest_same {state after : BondState (Score F)}
    {health : HashMap String (HealthScore (Score F))} {best : String}
    (hsame : ∀ member, member ∈ members after ↔ member ∈ members state)
    (h : Healthiest state health best) : Healthiest after health best := by
  obtain ⟨hmem, score, hscore, htop⟩ := h
  refine ⟨(hsame best).mpr hmem, score, hscore, ?_⟩
  intro other hother
  exact htop other ((hsame other).mp hother)

theorem picked_activate {m : BondManager F} {bondName : String} {state : BondState (Score F)}
    (hsplit : Split state) {health : HashMap String (HealthScore (Score F))}
    (hcmp : Comparable health) {best : String × Score F} (hlead : leader state health = some best)
    (hne : state.activeMembers.head? ≠ some best.1) (now : DateTime) :
    Picked m bondName state health
      (some (.ok (some best.1)), ⟨m.bonds.insert bondName (activate state health best.1 now)⟩)
      best.1 (activate state health best.1 now) := by
  have hmem : best.1 ∈ members state := (mem_scoredMembers.mp (List.argmax_mem hlead)).1
  have hsame := mem_activate hsplit hmem health now
  constructor
  · exact AList.lookup_insert m.bonds
  · rfl
  · exact healthiest_same hsame (healthiest_leader hcmp hlead)
  · exact hsame
  · apply iff_of_true rfl
    exact fun h => hne ((active_eq_iff hsplit best.1).mp h)
  · exact fun h => absurd rfl h
  · exact fun other h => AList.lookup_insert_ne h

theorem picked_idle {m : BondManager F} {bondName : String} {state : BondState (Score F)}
    (hstate : m.bonds.lookup bondName = some state) (hsplit : Split state)
    {health : HashMap String (HealthScore (Score F))} (hcmp : Comparable health)
    {best : String × Score F} (hlead : leader state health = some best)
    (heq : state.activeMembers.head? = some best.1) :
    Picked m bondName state health (some (.ok none), m) best.1 state where
  stored := hstate
  leads := (active_eq_iff hsplit best.1).mpr heq
  healthiest := healthiest_leader hcmp hlead
  same _ := Iff.rfl
  named := iff_of_false (by simp) (not_not.mpr rfl)
  idle _ := rfl
  others _ _ := rfl

/-- In every reachable state an update with comparable scores picks a healthiest
member. -/
theorem update_picks_healthiest (ops : List (Op F)) (bondName : String)
    (health : HashMap String (HealthScore (Score F))) (hcmp : Comparable health)
    (sort : SortBy (byScore (F := F))) (now : DateTime) :
    PicksHealthiest (run step (BondManager.new F) ops) bondName health
      (updateMembership (run step (BondManager.new F) ops) bondName health sort now) := by
  have hsplit := split_run ops bondName
  generalize run step (BondManager.new F) ops = m at hsplit ⊢
  rw [PicksHealthiest]
  cases hstate : m.bonds.lookup bondName with
  | none => simp only [updateMembership, hstate]
  | some state =>
    have hone := hsplit state hstate
    rw [updateMembership_comparable hstate hcmp sort now]
    dsimp only
    rw [unscored_iff]
    cases hlead : leader state health with
    | none => exact ⟨fun _ => rfl, fun h => absurd rfl h⟩
    | some best =>
      refine ⟨fun h => (by cases h), fun _ => ⟨best.1, ?_⟩⟩
      dsimp only
      split
      · rename_i hne
        exact ⟨_, picked_activate hone hcmp hlead hne now⟩
      · rename_i heq
        exact ⟨state, picked_idle hstate hone hcmp hlead (not_not.mp heq)⟩

theorem update_picks_healthiest_pair :
    PicksHealthiest (run step (BondManager.new ℕ) pairCreated) "bond0"
      (reading "bond0" [("eth0", 80), ("eth1", 90)] 0).health
      (updateMembership (run step (BondManager.new ℕ) pairCreated) "bond0"
        (reading "bond0" [("eth0", 80), ("eth1", 90)] 0).health (.insertion _) 0) :=
  update_picks_healthiest pairCreated "bond0" (reading "bond0" [("eth0", 80), ("eth1", 90)] 0).health
    (comparable_reading "bond0" _ 0) (.insertion _) 0

end Netfusion.Core.BondLeader
