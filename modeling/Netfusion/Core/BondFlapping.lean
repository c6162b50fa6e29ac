import Mathlib.Order.WithBot
import Netfusion.Core.Bonding

namespace Netfusion.Core.BondFlapping

open Netfusion.Lib.Collections Netfusion.Lib.Machine Netfusion.Lib.Sorting
open Netfusion.Shared.Config Netfusion.Shared.Types
open Netfusion.Core.Command Netfusion.Core.Bonding

variable {F : Type}

def Comparable (health : HashMap String (HealthScore (Score F))) : Prop :=
  ∀ name score, health.lookup name = some score → score.overall ≠ none

theorem scored_ne_none {state : BondState (Score F)}
    {health : HashMap String (HealthScore (Score F))} (hcmp : Comparable health)
    {x : String × Score F} (hx : x ∈ scoredMembers state health) : x.2 ≠ none := by
  obtain ⟨score, hscore, hx⟩ := Option.map_eq_some_iff.mp (mem_scoredMembers.mp hx).2
  exact hx ▸ hcmp x.1 score hscore

variable [LinearOrder F]

def Topmost (scored : List (String × Score F)) (x : String × Score F) : Prop :=
  x ∈ scored ∧ ∀ z ∈ scored, byScore x z ≠ .gt

/-- No two differently named members of the bond share the highest score. -/
def NoTieAtTop (state : BondState (Score F)) (health : HashMap String (HealthScore (Score F))) :
    Prop :=
  ∀ x y, Topmost (scoredMembers state health) x → Topmost (scoredMembers state health) y →
    x.1 = y.1

def key (x : String × Score F) : WithBot F := x.2

theorem byScore_ne_gt_iff {a b : String × Score F} (ha : a.2 ≠ none) (hb : b.2 ≠ none) :
    byScore a b ≠ .gt ↔ key b ≤ key a := by
  obtain ⟨x, hx⟩ := Option.ne_none_iff_exists'.mp ha
  obtain ⟨y, hy⟩ := Option.ne_none_iff_exists'.mp hb
  have hkey : key b ≤ key a ↔ y ≤ x := by
    rw [key, key, hx, hy]
    exact WithBot.coe_le_coe
  rw [hkey, byScore, hx, hy]
  exact compare_le_iff_le

theorem byScore_scored {state : BondState (Score F)}
    {health : HashMap String (HealthScore (Score F))} (hcmp : Comparable health) :
    ∀ a ∈ scoredMembers state health, ∀ b ∈ scoredMembers state health,
      byScore a b ≠ .gt ↔ key b ≤ key a :=
  fun _ ha _ hb => byScore_ne_gt_iff (scored_ne_none hcmp ha) (scored_ne_none hcmp hb)

theorem ordered_scored {state : BondState (Score F)}
    {health : HashMap String (HealthScore (Score F))} (hcmp : Comparable health) :
    Ordered byScore (scoredMembers state health) := by
  constructor
  · intro a ha b hb
    obtain ⟨x, hx⟩ := Option.ne_none_iff_exists'.mp (scored_ne_none hcmp ha)
    obtain ⟨y, hy⟩ := Option.ne_none_iff_exists'.mp (scored_ne_none hcmp hb)
    simp only [byScore, hx, hy, partialCmp, Option.getD_some]
    exact (Std.OrientedCmp.eq_swap).trans rfl
  · intro a ha b hb c hc hab hbc
    rw [byScore_scored hcmp a ha c hc]
    exact ((byScore_scored hcmp b hb c hc).mp hbc).trans ((byScore_scored hcmp a ha b hb).mp hab)

/-- The first of the best scored members, standby members first. -/
def leader (state : BondState (Score F)) (health : HashMap String (HealthScore (Score F))) :
    Option (String × Score F) :=
  (scoredMembers state health).argmax key

theorem updateMembership_comparable {m : BondManager F} {bondName : String}
    {state : BondState (Score F)} (hstate : m.bonds.lookup bondName = some state)
    {health : HashMap String (HealthScore (Score F))} (hcmp : Comparable health)
    (sort : SortBy (byScore (F := F))) (now : DateTime) :
    updateMembership m bondName health sort now =
      match leader state health with
      | none => (some (.ok none), m)
      | some best =>
        if state.activeMembers.head? ≠ some best.1 then
          (some (.ok (some best.1)), ⟨m.bonds.insert bondName (activate state health best.1 now)⟩)
        else (some (.ok none), m) := by
  have hhead := head?_stableSort byScore key (scoredMembers state health) (byScore_scored hcmp)
  rw [leader, ← hhead]
  simp only [updateMembership, hstate, sort.sorted _ (ordered_scored hcmp)]
  cases stableSort byScore (scoredMembers state health) with
  | nil => rfl
  | cons best rest => rfl

section

variable {state : BondState (Score F)} {health : HashMap String (HealthScore (Score F))}
  {best : String × Score F}

theorem noTieAtTop_iff (hcmp : Comparable health) (hbest : best ∈ scoredMembers state health)
    (htop : ∀ z ∈ scoredMembers state health, key z ≤ key best) :
    NoTieAtTop state health ↔
      ∀ z ∈ scoredMembers state health, z.1 ≠ best.1 → key z < key best := by
  have hbyScore : ∀ a ∈ scoredMembers state health, ∀ b ∈ scoredMembers state health,
      byScore a b ≠ .gt ↔ key b ≤ key a := byScore_scored hcmp
  constructor
  · intro h z hz hne
    refine lt_of_le_of_ne (htop z hz) (fun heq => hne ?_)
    refine h z best ⟨hz, fun w hw => ?_⟩ ⟨hbest, fun w hw => ?_⟩
    · exact (hbyScore z hz w hw).mpr (heq ▸ htop w hw)
    · exact (hbyScore best hbest w hw).mpr (htop w hw)
  · have hname : (∀ z ∈ scoredMembers state health, z.1 ≠ best.1 → key z < key best) →
        ∀ x, Topmost (scoredMembers state health) x → x.1 = best.1 := by
      rintro h x ⟨hx, htopx⟩
      by_contra hne
      exact absurd (h x hx hne) (not_lt.mpr ((hbyScore x hx best hbest).mp (htopx best hbest)))
    intro h x y hx hy
    exact (hname h x hx).trans (hname h y hy).symm

/-- The active member leads exactly when it is ahead of every other one:
standby members come first, and a tie goes to the first. -/
theorem active_leads_iff (hactive : state.activeMembers = [best.1])
    (hstandby : best.1 ∉ state.standbyMembers)
    (hscore : (health.lookup best.1).map (·.overall) = some best.2) :
    (∃ x, leader state health = some x ∧ x.1 = best.1) ↔
      ∀ z ∈ scoredMembers state health, z.1 ≠ best.1 → key z < key best := by
  have hsplit : scoredMembers state health =
      scoredMembers { state with activeMembers := [] } health ++ [best] := by
    obtain ⟨score, hlookup, hoverall⟩ := Option.map_eq_some_iff.mp hscore
    simp [scoredMembers, hactive, hlookup, hoverall]
  have hother : ∀ z ∈ scoredMembers { state with activeMembers := [] } health, z.1 ≠ best.1 := by
    intro z hz heq
    exact hstandby (heq ▸ by simpa using (mem_scoredMembers.mp hz).1)
  rw [leader, hsplit, List.argmax_concat]
  cases hmax : (scoredMembers { state with activeMembers := [] } health).argmax key with
  | none =>
    rw [List.argmax_eq_none] at hmax
    simp [hmax]
  | some c =>
    have hc := List.argmax_mem hmax
    have hle : ∀ z ∈ scoredMembers { state with activeMembers := [] } health, key z ≤ key c :=
      fun z hz => List.le_of_mem_argmax hz hmax
    by_cases hlt : key c < key best
    · simp only [hlt, if_true, Option.some.injEq, exists_eq_left', true_iff, List.mem_append,
        List.mem_singleton]
      rintro z (hz | rfl) hne
      · exact (hle z hz).trans_lt hlt
      · exact absurd rfl hne
    · simp only [hlt, if_false, Option.some.injEq, exists_eq_left', hother c hc, false_iff]
      intro h
      exact hlt (h c (by simp [hc]) (hother c hc))

end

theorem update_leads {m : BondManager F} (hm : ∀ name state, m.bonds.lookup name = some state →
      Split state) {bondName : String} {state : BondState (Score F)}
    (hstate : m.bonds.lookup bondName = some state)
    {health : HashMap String (HealthScore (Score F))} (hcmp : Comparable health)
    (sort : SortBy (byScore (F := F))) (now : DateTime) {best : String × Score F}
    (hlead : leader state health = some best) :
    ∃ after, (updateMembership m bondName health sort now).2.bonds.lookup bondName = some after ∧
      Split after ∧ after.activeMembers = [best.1] ∧
      ∀ z, z ∈ scoredMembers after health ↔ z ∈ scoredMembers state health := by
  have hmem : best.1 ∈ state.standbyMembers ++ state.activeMembers :=
    (mem_scoredMembers.mp (List.argmax_mem hlead)).1
  rw [updateMembership_comparable hstate hcmp sort now, hlead]
  by_cases hne : state.activeMembers.head? = some best.1
  · have hactive : state.activeMembers = [best.1] := by
      match hs : state.activeMembers with
      | [] => simp [hs] at hne
      | [_] => simpa [hs] using hne
      | _ :: _ :: _ => exact absurd (hm _ _ hstate).1 (by simp [hs])
    exact ⟨state, by simp [hne, hstate], hm _ _ hstate, hactive, fun _ => Iff.rfl⟩
  · refine ⟨activate state health best.1 now, by simp [hne], split_activate _ _ _ _, rfl, ?_⟩
    intro z
    rw [mem_scoredMembers, mem_scoredMembers, mem_activate (hm _ _ hstate) hmem health now z.1]

theorem idle_without_leader {m : BondManager F} {bondName : String} {state : BondState (Score F)}
    (hstate : m.bonds.lookup bondName = some state)
    {health : HashMap String (HealthScore (Score F))} (hcmp : Comparable health)
    (hlead : leader state health = none) :
    (∀ sort now, updateMembership m bondName health sort now = (some (.ok none), m)) ∧
      NoTieAtTop state health := by
  have hempty : scoredMembers state health = [] := List.argmax_eq_none.mp hlead
  constructor
  · intro sort now
    rw [updateMembership_comparable hstate hcmp sort now, hlead]
  · rintro x y ⟨hx, -⟩
    simp [hempty] at hx

theorem idle_iff_leads {m : BondManager F} {bondName : String} {state : BondState (Score F)}
    (hstate : m.bonds.lookup bondName = some state)
    {health : HashMap String (HealthScore (Score F))} (hcmp : Comparable health)
    (sort : SortBy (byScore (F := F))) (now : DateTime) {best : String × Score F}
    (hactive : state.activeMembers = [best.1]) (hbest : best ∈ scoredMembers state health) :
    updateMembership m bondName health sort now = (some (.ok none), m) ↔
      ∃ x, leader state health = some x ∧ x.1 = best.1 := by
  rw [updateMembership_comparable hstate hcmp sort now]
  cases hnext : leader state health with
  | none => exact absurd (List.argmax_eq_none.mp hnext) (List.ne_nil_of_mem hbest)
  | some next =>
    by_cases hsame : best.1 = next.1
    · simp [hactive, hsame]
    · simp [hactive, hsame, Ne.symm hsame]

/-- In every reachable state and for comparable scores, a second update with
the same scores changes nothing exactly when no two members tie for the lead. -/
theorem second_update_idle_iff (ops : List (Op F)) (bondName : String)
    (health : HashMap String (HealthScore (Score F))) (hcmp : Comparable health)
    (sort₁ sort₂ : SortBy (byScore (F := F))) (now₁ now₂ : DateTime) (r : Option String)
    (hfirst : (updateMembership (run step (BondManager.new F) ops) bondName health sort₁ now₁).1 =
      some (.ok r)) :
    updateMembership
        (updateMembership (run step (BondManager.new F) ops) bondName health sort₁ now₁).2
        bondName health sort₂ now₂ =
      (some (.ok none),
        (updateMembership (run step (BondManager.new F) ops) bondName health sort₁ now₁).2) ↔
    ∀ state, (run step (BondManager.new F) ops).bonds.lookup bondName = some state →
      NoTieAtTop state health := by
  have hm := split_run ops
  generalize run step (BondManager.new F) ops = m at hm hfirst ⊢
  cases hstate : m.bonds.lookup bondName with
  | none => simp [updateMembership, hstate] at hfirst
  | some state =>
    simp only [Option.some.injEq, forall_eq']
    cases hlead : leader state health with
    | none =>
      obtain ⟨hidle, htie⟩ := idle_without_leader hstate hcmp hlead
      rw [hidle sort₁ now₁, hidle sort₂ now₂]
      exact iff_of_true rfl htie
    | some best =>
      have hbest := List.argmax_mem hlead
      obtain ⟨after, hafter, hsplit, hactive, hscored⟩ :=
        update_leads hm hstate hcmp sort₁ now₁ hlead
      have hmem : best ∈ scoredMembers after health := (hscored best).mpr hbest
      rw [idle_iff_leads hafter hcmp sort₂ now₂ hactive hmem,
        noTieAtTop_iff hcmp hbest (fun z hz => List.le_of_mem_argmax hz hlead),
        active_leads_iff hactive (hsplit.2 best.1 (by simp [hactive])) (mem_scoredMembers.mp hmem).2]
      simp only [hscored]

theorem comparable_reading (bondName : String) (scores : List (String × ℕ)) (now : DateTime) :
    Comparable (reading bondName scores now).health := by
  rw [reading]
  induction scores with
  | nil =>
    intro name score h
    cases h
  | cons x scores ih =>
    apply insert_keeps _ ih
    exact Option.some_ne_none x.2

def pairCreated : List (Op ℕ) := [.createBond pairConfig (exited true "" "")]

/-- Two members tie at 90: the second update turns the first one round. -/
theorem tie_flaps :
    updateMembership
        (updateMembership (run step (BondManager.new ℕ) pairCreated) "bond0"
          (reading "bond0" [("eth0", 90), ("eth1", 90)] 0).health (.insertion _) 0).2 "bond0"
        (reading "bond0" [("eth0", 90), ("eth1", 90)] 0).health (.insertion _) 1 ≠
      (some (.ok none),
        (updateMembership (run step (BondManager.new ℕ) pairCreated) "bond0"
          (reading "bond0" [("eth0", 90), ("eth1", 90)] 0).health (.insertion _) 0).2) := by
  intro h
  have hturned : (updateMembership
        (updateMembership (run step (BondManager.new ℕ) pairCreated) "bond0"
          (reading "bond0" [("eth0", 90), ("eth1", 90)] 0).health (.insertion _) 0).2 "bond0"
        (reading "bond0" [("eth0", 90), ("eth1", 90)] 0).health (.insertion _) 1).1 =
      some (.ok (some "eth1")) := rfl
  rw [h] at hturned
  cases hturned

theorem second_update_idle_iff_pair :
    updateMembership
        (updateMembership (run step (BondManager.new ℕ) pairCreated) "bond0"
          (reading "bond0" [("eth0", 90), ("eth1", 80)] 0).health (.insertion _) 0).2 "bond0"
        (reading "bond0" [("eth0", 90), ("eth1", 80)] 0).health (.insertion _) 1 =
      (some (.ok none),
        (updateMembership (run step (BondManager.new ℕ) pairCreated) "bond0"
          (reading "bond0" [("eth0", 90), ("eth1", 80)] 0).health (.insertion _) 0).2) ↔
    ∀ state, (run step (BondManager.new ℕ) pairCreated).bonds.lookup "bond0" = some state →
      NoTieAtTop state (reading "bond0" [("eth0", 90), ("eth1", 80)] 0).health :=
  second_update_idle_iff pairCreated "bond0" (reading "bond0" [("eth0", 90), ("eth1", 80)] 0).health
    (comparable_reading "bond0" _ 0) (.insertion _) (.insertion _) 0 1 (some "eth0") rfl

end Netfusion.Core.BondFlapping
