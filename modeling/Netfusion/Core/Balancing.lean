import Mathlib.Algebra.Order.Floor.Semiring
import Mathlib.Algebra.BigOperators.Group.List.Basic
import Mathlib.Data.Rat.Floor
import Mathlib.Tactic.Linarith
import Netfusion.Core.Nftables

namespace Netfusion.Core.Balancing

open Netfusion.Lib.Collections Netfusion.Lib.Netfilter
open Netfusion.Core.Command Netfusion.Core.Nftables

/-- Nothing of a balancing is left in the kernel, nor was put there by others. -/
structure Without (k : Kernel) : Prop where
  rules : ∀ rule ∈ k.ipRules, rule.fwmark ≠ rule.table
  table : "inet netfusion" ∉ k.ruleset

def tornDown (k : Kernel) (gateways : HashMap String String) (weights : HashMap String UInt8)
    (order : Shuffle Weight) : Kernel :=
  (teardownBalancing (setupWeightedBalancing k gateways weights order).2).2

/-- No rule that the setup added is there any more, nor the table. -/
structure Undone (k : Kernel) (gateways : HashMap String String) (weights : HashMap String UInt8)
    (order : Shuffle Weight) : Prop where
  rules : ∀ rule ∈ (setupWeightedBalancing k gateways weights order).2.ipRules, rule ∉ k.ipRules →
    rule ∉ (tornDown k gateways weights order).ipRules
  table : "inet netfusion" ∉ (tornDown k gateways weights order).ruleset

/-- Where a setup goes on, the pass comes to each interface with a gateway at
one of its first sixteen places, which are counted in 32 bits. -/
def WithinSixteen (gateways : HashMap String String) (visited : List Weight) : Prop :=
  2 ≤ gateways.entries.length → 2 ≤ visited.countP (HasGateway gateways) →
    ∀ place w, visited[place]? = some w → HasGateway gateways w → place % 2 ^ 32 < 16

theorem balancingMarks_eq (gateways : HashMap String String) (weights : HashMap String UInt8)
    (order : Shuffle Weight) :
    balancingMarks gateways weights order =
      if 2 ≤ gateways.entries.length ∧
          2 ≤ (order.run weights.entries).countP (HasGateway gateways) then
        some (assignMarks gateways (order.run weights.entries))
      else none := by
  simp only [balancingMarks, assignMarks_length]
  split
  · rw [if_neg (by omega)]
  · split
    · rw [if_neg (by omega)]
    · rw [if_pos (by omega)]

theorem teardownBalancing_ipRules (k : Kernel) :
    (teardownBalancing k).2.ipRules = k.ipRules.diff teardownRules := by
  rw [teardownBalancing, nftDeleteTable]
  by_cases h : "inet netfusion" ∈ k.ruleset
  · rw [if_pos h]
    exact congrArg Kernel.ipRules (foldl_ipRuleDel teardownRules _)
  · rw [if_neg h]
    exact congrArg Kernel.ipRules (foldl_ipRuleDel teardownRules k)

theorem teardownBalancing_table (k : Kernel) :
    "inet netfusion" ∉ (teardownBalancing k).2.ruleset := by
  rw [teardownBalancing, nftDeleteTable]
  by_cases h : "inet netfusion" ∈ k.ruleset
  · rw [if_pos h]
    simp [exited, foldl_ipRuleDel, deleteTable, AList.mem_erase]
  · rw [if_neg h]
    simpa [exited, foldl_ipRuleDel] using h

theorem setup_ipRules (k : Kernel) (gateways : HashMap String String)
    (weights : HashMap String UInt8) (order : Shuffle Weight) :
    (setupWeightedBalancing k gateways weights order).2.ipRules =
      addRules k.ipRules (((balancingMarks gateways weights order).map markRules).getD []) := by
  rw [setupWeightedBalancing]
  cases balancingMarks gateways weights order with
  | none => rfl
  | some marks => exact congrArg Kernel.ipRules (foldl_ipRuleAdd (markRules marks) _)

theorem mem_teardownRules (place : Nat) :
    (⟨UInt32.ofNat (place + 1), UInt32.ofNat (place + 1)⟩ : IpRule) ∈ teardownRules ↔
      place % 2 ^ 32 < 16 := by
  rw [teardownRules, List.mem_map]
  constructor
  · rintro ⟨i, hi, hrule⟩
    have hmark := congrArg (fun rule : IpRule => rule.fwmark.toNat) hrule
    simp only [UInt32.toNat_ofNat'] at hmark
    rw [List.mem_range] at hi
    omega
  · intro h
    refine ⟨place % 2 ^ 32, List.mem_range.mpr h, ?_⟩
    have hmark : UInt32.ofNat (place % 2 ^ 32 + 1) = UInt32.ofNat (place + 1) := by
      apply UInt32.toNat_inj.mp
      simp only [UInt32.toNat_ofNat']
      omega
    rw [hmark]

theorem undone_iff_deleted (k : Kernel) (gateways : HashMap String String)
    (weights : HashMap String UInt8) (order : Shuffle Weight) :
    Undone k gateways weights order ↔
      ∀ rule ∈ ((balancingMarks gateways weights order).map markRules).getD [],
        rule ∉ k.ipRules → rule ∈ teardownRules := by
  constructor
  · rintro ⟨hrules, -⟩ rule hrule hfresh
    have hgone := hrules rule
    rw [tornDown, teardownBalancing_ipRules, setup_ipRules, mem_addRules_diff _ _ _ _ hfresh,
      mem_addRules] at hgone
    by_contra hnot
    exact hgone (.inr hrule) hfresh ⟨hrule, hnot⟩
  · intro hall
    refine ⟨?_, teardownBalancing_table _⟩
    intro rule hadded hfresh
    rw [setup_ipRules, mem_addRules] at hadded
    rw [tornDown, teardownBalancing_ipRules, setup_ipRules, mem_addRules_diff _ _ _ _ hfresh]
    exact fun hleft => hleft.2 (hall rule hleft.1 hfresh)

/-- Every rule of a setup is deleted again exactly if the marks are among the
sixteen that a teardown looks for. -/
theorem undone_iff (k : Kernel) (hk : Without k) (gateways : HashMap String String)
    (weights : HashMap String UInt8) (order : Shuffle Weight) :
    Undone k gateways weights order ↔ WithinSixteen gateways (order.run weights.entries) := by
  have hnew : ∀ mark : UInt32, (⟨mark, mark⟩ : IpRule) ∉ k.ipRules :=
    fun mark hmem => hk.rules _ hmem rfl
  rw [undone_iff_deleted, balancingMarks_eq, WithinSixteen]
  split
  · rename_i hgoes
    constructor
    · intro hall _ _ place w hw hgateway
      rw [← mem_teardownRules]
      apply hall _ _ (hnew _)
      exact List.mem_map_of_mem ((mem_assignMarks gateways _ w.1 _).mpr
        ⟨place, w, hw, hgateway, rfl, rfl⟩)
    · intro hwithin rule hrule _
      obtain ⟨⟨name, mark⟩, hmark, rfl⟩ := List.mem_map.mp hrule
      obtain ⟨place, w, hw, hgateway, -, rfl⟩ := (mem_assignMarks gateways _ name mark).mp hmark
      exact (mem_teardownRules place).mpr (hwithin hgoes.1 hgoes.2 place w hw hgateway)
  · rename_i hstops
    apply iff_of_true
    · intro rule hrule
      cases hrule
    · intro htwo hparticipants
      exact absurd ⟨htwo, hparticipants⟩ hstops

def seventeenNames : List String := (List.range 17).map (fun i => "eth" ++ toString i)

def seventeenGateways : HashMap String String :=
  seventeenNames.foldl (fun m name => m.insert name "10.0.0.1") ∅

def seventeenWeights : HashMap String UInt8 :=
  seventeenNames.foldl (fun m name => m.insert name 15) ∅

theorem empty_without : Without Kernel.empty := by
  constructor
  · intro rule hrule
    cases hrule
  · exact AList.notMem_empty _

/-- The rule of the seventeenth mark stays. -/
theorem seventeenth_rule_left :
    Without Kernel.empty ∧ ¬ Undone Kernel.empty seventeenGateways seventeenWeights (.id _) := by
  refine ⟨empty_without, ?_⟩
  intro h
  have hgone := h.rules ⟨17, 17⟩ (by decide +kernel) (by decide +kernel)
  have hleft : (⟨17, 17⟩ : IpRule) ∈
      (tornDown Kernel.empty seventeenGateways seventeenWeights (.id _)).ipRules := by
    decide +kernel
  exact hgone hleft

theorem undone_iff_two :
    Undone Kernel.empty twoGateways threeWeights (.id _) ↔
      WithinSixteen twoGateways ((Shuffle.id Weight).run threeWeights.entries) :=
  undone_iff Kernel.empty empty_without twoGateways threeWeights (.id _)

/-- The residues of the hash whose mark has a rule to the table of an interface. -/
def residuesTo (marks : List (String × UInt32)) (name : String) : Finset Nat :=
  (Finset.range marks.length).filter (fun r => ∃ m ∈ marks, m.1 = name ∧ m.2.toNat = r + 1)

/-- The residues that are an interface's due by its weight, as a fraction. -/
def due (gateways : HashMap String String) (visited : List Weight) (weight : UInt8) : ℚ :=
  let participating := visited.filter (HasGateway gateways)
  participating.length * weight.toNat / (participating.map (fun w => w.2.toNat)).sum

/-- Each interface that takes part gets its due, rounded down or up. -/
def FollowsWeights (gateways : HashMap String String) (visited : List Weight)
    (marks : List (String × UInt32)) : Prop :=
  ∀ w ∈ visited, HasGateway gateways w →
    (residuesTo marks w.1).card = ⌊due gateways visited w.2⌋₊ ∨
    (residuesTo marks w.1).card = ⌈due gateways visited w.2⌉₊

def HashSets (gateways : HashMap String String) (visited : List Weight) (place : Nat) : Prop :=
  (place + 1) % 2 ^ 32 ∈ hashMarks (visited.countP (HasGateway gateways))

/-- The weights are even enough for one residue each: positive and below twice
the mean for an interface whose mark is set, below the mean for any other. -/
def NearlyEven (gateways : HashMap String String) (visited : List Weight) : Prop :=
  ∀ place w, visited[place]? = some w → HasGateway gateways w →
    (HashSets gateways visited place →
      0 < due gateways visited w.2 ∧ due gateways visited w.2 < 2) ∧
    (¬ HashSets gateways visited place → due gateways visited w.2 < 1)

theorem one_rounds (x : ℚ) : 1 = ⌊x⌋₊ ∨ 1 = ⌈x⌉₊ ↔ 0 < x ∧ x < 2 := by
  rw [eq_comm, Nat.floor_eq_iff' (by decide), eq_comm (a := 1), Nat.ceil_eq_iff (by decide)]
  norm_num
  constructor
  · rintro (⟨h, h'⟩ | ⟨h, h'⟩)
    · exact ⟨by linarith, h'⟩
    · exact ⟨h, by linarith⟩
  · rintro ⟨h, h'⟩
    by_cases hone : 1 ≤ x
    · exact .inl ⟨hone, h'⟩
    · exact .inr ⟨h, by linarith⟩

theorem zero_rounds (x : ℚ) : 0 = ⌊x⌋₊ ∨ 0 = ⌈x⌉₊ ↔ x < 1 := by
  rw [eq_comm, Nat.floor_eq_zero, eq_comm (a := 0), Nat.ceil_eq_zero]
  constructor
  · rintro (h | h)
    · exact h
    · linarith
  · exact .inl

theorem mem_residuesTo (gateways : HashMap String String) (visited : List Weight)
    (hnodup : (visited.map Sigma.fst).Nodup) {place : Nat} {w : Weight}
    (hw : visited[place]? = some w) (hgateway : HasGateway gateways w) (r : Nat) :
    r ∈ residuesTo (assignMarks gateways visited) w.1 ↔
      r < visited.countP (HasGateway gateways) ∧ r + 1 = (place + 1) % 2 ^ 32 := by
  have hmark := (mem_assignMarks gateways visited w.1 (UInt32.ofNat (place + 1))).mpr
    ⟨place, w, hw, hgateway, rfl, rfl⟩
  rw [residuesTo, Finset.mem_filter, Finset.mem_range, assignMarks_length]
  apply and_congr_right
  intro _
  constructor
  · rintro ⟨⟨name, mark⟩, hother, rfl, hr⟩
    rw [mark_unique gateways visited hnodup hother hmark] at hr
    rw [← hr]
    exact UInt32.toNat_ofNat'
  · intro hr
    refine ⟨_, hmark, rfl, ?_⟩
    rw [hr]
    exact UInt32.toNat_ofNat'

theorem card_residuesTo (gateways : HashMap String String) (visited : List Weight)
    (hnodup : (visited.map Sigma.fst).Nodup) {place : Nat} {w : Weight}
    (hw : visited[place]? = some w) (hgateway : HasGateway gateways w) :
    (HashSets gateways visited place →
      (residuesTo (assignMarks gateways visited) w.1).card = 1) ∧
    (¬ HashSets gateways visited place →
      (residuesTo (assignMarks gateways visited) w.1).card = 0) := by
  have hmem := mem_residuesTo gateways visited hnodup hw hgateway
  simp only [HashSets, hashMarks, Finset.mem_Icc]
  constructor
  · rintro ⟨hone, hle⟩
    have hset : residuesTo (assignMarks gateways visited) w.1 = {(place + 1) % 2 ^ 32 - 1} := by
      apply Finset.ext
      intro r
      rw [hmem, Finset.mem_singleton]
      omega
    rw [hset, Finset.card_singleton]
  · intro hout
    rw [Finset.card_eq_zero, Finset.eq_empty_iff_forall_notMem]
    intro r hr
    rw [hmem] at hr
    omega

theorem followsWeights_iff (gateways : HashMap String String) (visited : List Weight)
    (hnodup : (visited.map Sigma.fst).Nodup) :
    FollowsWeights gateways visited (assignMarks gateways visited) ↔
      NearlyEven gateways visited := by
  constructor
  · intro h place w hw hgateway
    obtain ⟨hset, hunset⟩ := card_residuesTo gateways visited hnodup hw hgateway
    have hfollows := h w (List.mem_of_getElem? hw) hgateway
    constructor
    · intro hin
      rwa [hset hin, one_rounds] at hfollows
    · intro hout
      rwa [hunset hout, zero_rounds] at hfollows
  · intro h w hmem hgateway
    obtain ⟨place, hw⟩ := List.mem_iff_getElem?.mp hmem
    obtain ⟨hset, hunset⟩ := card_residuesTo gateways visited hnodup hw hgateway
    obtain ⟨hin, hout⟩ := h place w hw hgateway
    by_cases hsets : HashSets gateways visited place
    · rw [hset hsets, one_rounds]
      exact hin hsets
    · rw [hunset hsets, zero_rounds]
      exact hout hsets

theorem participants_le (gateways : HashMap String String) (weights : HashMap String UInt8)
    (order : Shuffle Weight) :
    (order.run weights.entries).countP (HasGateway gateways) ≤ gateways.entries.length := by
  have hnodup : (((order.run weights.entries).filter (HasGateway gateways)).map Sigma.fst).Nodup :=
    List.Nodup.sublist (List.filter_sublist.map _) (shuffle_keys_nodup order weights)
  have hsub : ((order.run weights.entries).filter (HasGateway gateways)).map Sigma.fst ⊆
      gateways.keys := by
    intro name hname
    obtain ⟨w, hw, rfl⟩ := List.mem_map.mp hname
    have hgateway := (List.mem_filter.mp hw).2
    rw [decide_eq_true_eq] at hgateway
    exact hgateway
  have hle := (hnodup.subperm hsub).length_le
  rwa [List.length_map, ← List.countP_eq_length_filter, AList.keys, List.keys, List.length_map]
    at hle

/-- With two interfaces that take part, a setup goes on, and the flows follow
the weights exactly if these are nearly even. -/
theorem flows_follow_weights_iff (gateways : HashMap String String)
    (weights : HashMap String UInt8) (order : Shuffle Weight)
    (h : 2 ≤ (order.run weights.entries).countP (HasGateway gateways)) :
    ∃ marks, balancingMarks gateways weights order = some marks ∧
      (FollowsWeights gateways (order.run weights.entries) marks ↔
        NearlyEven gateways (order.run weights.entries)) := by
  have hgateways : 2 ≤ gateways.entries.length := h.trans (participants_le gateways weights order)
  refine ⟨assignMarks gateways (order.run weights.entries), ?_, ?_⟩
  · rw [balancingMarks_eq, if_pos ⟨hgateways, h⟩]
  · exact followsWeights_iff gateways _ (shuffle_keys_nodup order weights)

def threeGateways : HashMap String String := twoGateways.insert "wlan0" "10.0.2.1"

def unevenWeights : HashMap String UInt8 :=
  (((∅ : HashMap String UInt8).insert "eth1" 30).insert "eth0" 200).insert "wlan0" 25

/-- `eth0` has more than three quarters of the weight, and one flow in three. -/
theorem uneven_flows_ignore_weights :
    balancingMarks threeGateways unevenWeights (.id _) =
      some [("wlan0", 1), ("eth0", 2), ("eth1", 3)] ∧
    ¬ FollowsWeights threeGateways unevenWeights.entries
      [("wlan0", 1), ("eth0", 2), ("eth1", 3)] := by
  constructor
  · decide
  · intro h
    have heth0 := h ⟨"eth0", 200⟩ (by decide) (by decide)
    have hone : (residuesTo [("wlan0", 1), ("eth0", 2), ("eth1", 3)] "eth0").card = 1 := by decide
    have hdue : due threeGateways unevenWeights.entries 200 = 600 / 255 := by decide +kernel
    rw [hone, hdue, one_rounds] at heth0
    norm_num at heth0

theorem flows_follow_weights_iff_uneven :
    ∃ marks, balancingMarks threeGateways unevenWeights (.id _) = some marks ∧
      (FollowsWeights threeGateways ((Shuffle.id Weight).run unevenWeights.entries) marks ↔
        NearlyEven threeGateways ((Shuffle.id Weight).run unevenWeights.entries)) :=
  flows_follow_weights_iff threeGateways unevenWeights (.id _) (by decide)

end Netfusion.Core.Balancing
