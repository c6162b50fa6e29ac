import Netfusion.Lib.Machine
import Netfusion.Lib.Sorting
import Netfusion.Lib.Text
import Netfusion.Core.Command
import Netfusion.Shared.Types

namespace Netfusion.Core.Bonding

open Netfusion.Lib.Collections Netfusion.Lib.Machine Netfusion.Lib.Sorting Netfusion.Lib.Text
open Netfusion.Shared.Config Netfusion.Shared.Types
open Netfusion.Core.Command

/-- A score is a number of an ordered type, or `none` for NaN. -/
abbrev Score (F : Type) := Option F

variable {F : Type}

def partialCmp [LinearOrder F] : Score F → Score F → Option Ordering
  | some a, some b => some (compare a b)
  | _, _ => none

/-- Descending by score; a NaN compares equal to everything. -/
def byScore [LinearOrder F] (a b : String × Score F) : Ordering := (partialCmp b.2 a.2).getD .eq

inductive BondingError where
  | createFailed (name source : String)
  | enslaveFailed (bond iface : String)
  | insufficientMembers (name : String) (min actual : Nat)
  | notFound (name : String)
deriving DecidableEq

structure BondManager (F : Type) where
  bonds : HashMap String (BondState (Score F))

def BondManager.new (F : Type) : BondManager F := ⟨∅⟩

inductive IpCommand where
  | addBond (name mode : String)
  | delLink (name : String)
  | setMaster (iface bond : String)
  | setNoMaster (iface : String)
deriving DecidableEq

def modeNumber : BondMode → String
  | .activeBackup => "1"
  | .balanceRr => "0"
  | .balanceXor => "2"
  | .broadcast => "3"
  | .lacp => "4"
  | .adaptiveTlb => "5"
  | .adaptiveAlb => "6"
  | _ => "1"

/-- `added` is how the command that adds the link ended. How the members take
their new master makes no difference. -/
def createBondInterface (name : String) (config : BondConfig) (added : CommandOutput) :
    Except BondingError Unit × List IpCommand :=
  let add := IpCommand.addBond name (modeNumber config.mode)
  match added with
  | .error e => (.error (.createFailed name e), [add])
  | .ok out =>
    if out.success then (.ok (), add :: config.members.map (fun member => .setMaster member name))
    else (.error (.createFailed name ("ip command failed: " ++ out.stderr)), [add])

def freshBond (F : Type) (config : BondConfig) (bondName : String) : BondState (Score F) where
  name := config.name
  mode := config.mode
  activeMembers := []
  standbyMembers := config.members
  failedMembers := []
  health := none
  failoverActive := false
  lastFailover := none
  bondInterface := some bondName

def createBond (m : BondManager F) (config : BondConfig) (added : CommandOutput) :
    (Except BondingError Unit × List IpCommand) × BondManager F :=
  let bondName := "netfusion" ++ trimStartMatches config.name "bond"
  match createBondInterface bondName config added with
  | (.error e, commands) => ((.error e, commands), m)
  | (.ok _, commands) =>
    ((.ok (), commands), ⟨m.bonds.insert config.name (freshBond F config bondName)⟩)

def deleteBond (m : BondManager F) (name : String) :
    (Except BondingError Unit × List IpCommand) × BondManager F :=
  match m.bonds.lookup name with
  | none => ((.error (.notFound name), []), m)
  | some state =>
    let releases := (state.activeMembers ++ state.standbyMembers).map IpCommand.setNoMaster
    let deletion := state.bondInterface.toList.map IpCommand.delLink
    ((.ok (), releases ++ deletion), ⟨m.bonds.erase name⟩)

def scoredMembers (state : BondState (Score F)) (health : HashMap String (HealthScore (Score F))) :
    List (String × Score F) :=
  (state.standbyMembers ++ state.activeMembers).filterMap (fun member =>
    (health.lookup member).map (fun score => (member, score.overall)))

/-- The previous active member goes back to standby, unless it is there. -/
def standbyWith (standby : List String) : Option String → List String
  | some prev => if standby.contains prev then standby else standby ++ [prev]
  | none => standby

def activate (state : BondState (Score F)) (health : HashMap String (HealthScore (Score F)))
    (best : String) (now : DateTime) : BondState (Score F) :=
  { state with
    activeMembers := [best]
    standbyMembers :=
      (standbyWith state.standbyMembers state.activeMembers.head?).filter (· ≠ best)
    failoverActive := true
    lastFailover := some now
    failedMembers := state.failedMembers.filter (fun m => (health.lookup m).isSome) }

theorem mem_scoredMembers {state : BondState (Score F)}
    {health : HashMap String (HealthScore (Score F))} {x : String × Score F} :
    x ∈ scoredMembers state health ↔
      x.1 ∈ state.standbyMembers ++ state.activeMembers ∧
      (health.lookup x.1).map (·.overall) = some x.2 := by
  simp only [scoredMembers, List.mem_filterMap, Option.map_eq_some_iff]
  constructor
  · rintro ⟨member, hmem, score, hscore, rfl⟩
    exact ⟨hmem, score, hscore, rfl⟩
  · rintro ⟨hmem, score, hscore, hx⟩
    exact ⟨x.1, hmem, score, hscore, by simp [hx]⟩

/-- At most one member is active, and it is not on standby as well. -/
def Split (state : BondState (Score F)) : Prop :=
  state.activeMembers.length ≤ 1 ∧ ∀ member ∈ state.activeMembers, member ∉ state.standbyMembers

theorem split_freshBond (config : BondConfig) (bondName : String) :
    Split (freshBond F config bondName) := by simp [Split, freshBond]

theorem split_activate (state : BondState (Score F))
    (health : HashMap String (HealthScore (Score F))) (best : String) (now : DateTime) :
    Split (activate state health best now) := by simp [Split, activate]

theorem mem_activate {state : BondState (Score F)} {best : String} (hsplit : Split state)
    (hbest : best ∈ state.standbyMembers ++ state.activeMembers)
    (health : HashMap String (HealthScore (Score F))) (now : DateTime) (member : String) :
    (member ∈ (activate state health best now).standbyMembers ++
        (activate state health best now).activeMembers) ↔
      member ∈ state.standbyMembers ++ state.activeMembers := by
  have hback : member ∈ standbyWith state.standbyMembers state.activeMembers.head? ↔
      member ∈ state.standbyMembers ++ state.activeMembers := by
    match hactive : state.activeMembers with
    | [] => simp [standbyWith]
    | [prev] =>
      by_cases hprev : prev ∈ state.standbyMembers
      · simp only [standbyWith, List.head?_cons, List.contains_iff_mem, hprev, if_true,
          List.mem_append, List.mem_singleton]
        exact ⟨.inl, fun h => h.elim id (· ▸ hprev)⟩
      · simp [standbyWith, hprev]
    | _ :: _ :: _ => exact absurd hsplit.1 (by simp [hactive])
  by_cases heq : member = best
  · subst heq
    simpa [activate] using hbest
  · simpa [activate, heq] using hback

section

variable [LinearOrder F]

/-- The outer `none` is a panic of the sort, which comes before any change. -/
def updateMembership (m : BondManager F) (bondName : String)
    (interfaceHealth : HashMap String (HealthScore (Score F))) (sort : SortBy (byScore (F := F)))
    (now : DateTime) : Option (Except BondingError (Option String)) × BondManager F :=
  match m.bonds.lookup bondName with
  | none => (some (.error (.notFound bondName)), m)
  | some state =>
    match sort.run (scoredMembers state interfaceHealth) with
    | none => (none, m)
    | some [] => (some (.ok none), m)
    | some (best :: _) =>
      if state.activeMembers.head? ≠ some best.1 then
        (some (.ok (some best.1)),
          ⟨m.bonds.insert bondName (activate state interfaceHealth best.1 now)⟩)
      else (some (.ok none), m)

structure MembershipUpdate (F : Type) [LinearOrder F] where
  bondName : String
  health : HashMap String (HealthScore (Score F))
  sort : SortBy (byScore (F := F))
  now : DateTime

def update (m : BondManager F) (u : MembershipUpdate F) :
    Option (Except BondingError (Option String)) × BondManager F :=
  updateMembership m u.bondName u.health u.sort u.now

inductive Op (F : Type) [LinearOrder F] where
  | createBond (config : BondConfig) (added : CommandOutput)
  | deleteBond (name : String)
  | update (u : MembershipUpdate F)

inductive Reply where
  | managed (result : Except BondingError Unit) (commands : List IpCommand)
  | updated (result : Option (Except BondingError (Option String)))

def step (m : BondManager F) : Op F → Reply × BondManager F
  | .createBond config added =>
    let ((result, commands), m) := createBond m config added
    (.managed result commands, m)
  | .deleteBond name =>
    let ((result, commands), m) := deleteBond m name
    (.managed result commands, m)
  | .update u =>
    let (result, m) := update m u
    (.updated result, m)

/-- All that a membership update can do: nothing, or the activation of a
scored member of the bond that was not its active one. -/
theorem update_cases (m : BondManager F) (u : MembershipUpdate F) :
    ((update m u).2 = m ∧ ∀ member, (update m u).1 ≠ some (.ok (some member))) ∨
    ∃ state best score, m.bonds.lookup u.bondName = some state ∧
      (best, score) ∈ scoredMembers state u.health ∧ state.activeMembers.head? ≠ some best ∧
      update m u = (some (.ok (some best)),
        ⟨m.bonds.insert u.bondName (activate state u.health best u.now)⟩) := by
  rw [update, updateMembership]
  cases hb : m.bonds.lookup u.bondName with
  | none => exact .inl (by simp)
  | some state =>
    cases hs : u.sort.run (scoredMembers state u.health) with
    | none => exact .inl (by simp [hs])
    | some sorted =>
      cases sorted with
      | nil => exact .inl (by simp [hs])
      | cons best rest =>
        by_cases hne : state.activeMembers.head? = some best.1
        · exact .inl (by simp [hs, hne])
        · have hmem : best ∈ scoredMembers state u.health :=
            (u.sort.perm _ _ hs).mem_iff.mp (by simp)
          exact .inr ⟨state, best.1, best.2, rfl, hmem, hne, by simp [hs, hne]⟩

theorem bonds_keep {I : BondState (Score F) → Prop}
    (hfresh : ∀ config bondName, I (freshBond F config bondName))
    (hactivate : ∀ state health best score now, I state →
      (best, score) ∈ scoredMembers state health → state.activeMembers.head? ≠ some best →
      I (activate state health best now))
    (m : BondManager F) (hm : ∀ name state, m.bonds.lookup name = some state → I state)
    (op : Op F) : ∀ name state, (step m op).2.bonds.lookup name = some state → I state := by
  cases op with
  | createBond config added =>
    simp only [step, createBond]
    split
    · exact hm
    · exact insert_keeps (hfresh config _) hm
  | deleteBond name =>
    simp only [step, deleteBond]
    split
    · exact hm
    · exact erase_keeps hm
  | update u =>
    obtain ⟨hsame, -⟩ | ⟨state, best, score, hstate, hmem, hne, h⟩ := update_cases m u
    · simpa only [step, hsame] using hm
    · simp only [step, h]
      apply insert_keeps _ hm
      exact hactivate state u.health best score u.now (hm _ _ hstate) hmem hne

theorem split_run (ops : List (Op F)) :
    ∀ name state, (run step (BondManager.new F) ops).bonds.lookup name = some state →
      Split state := by
  refine run_keeps (I := fun m : BondManager F =>
    ∀ name state, m.bonds.lookup name = some state → Split state) ?_ ?_ ops
  · intro name state h
    cases h
  · intro m op hm
    exact bonds_keep split_freshBond (fun state health best _ now _ _ _ =>
      split_activate state health best now) m hm op

end

def scoreOf (overall : ℕ) : HealthScore (Score ℕ) :=
  ⟨some overall, some overall, some overall, some overall, some overall, some overall, 0, false⟩

def reading (bondName : String) (scores : List (String × ℕ)) (now : DateTime) :
    MembershipUpdate ℕ where
  bondName := bondName
  health := scores.foldr (fun x health => health.insert x.1 (scoreOf x.2)) ∅
  sort := .insertion _
  now := now

def pairConfig : BondConfig := ⟨"bond0", .activeBackup, ["eth0", "eth1"], [], 1, [], none⟩

end Netfusion.Core.Bonding
