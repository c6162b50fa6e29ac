import Netfusion.Lib.Machine
import Netfusion.Core.Nftables
import Netfusion.Core.WireGuard

namespace Netfusion.Core.Dscp

open Netfusion.Lib.Collections Netfusion.Lib.Machine Netfusion.Lib.Netfilter
open Netfusion.Core.Command Netfusion.Core.WireGuard Netfusion.Core.Nftables

inductive DscpClass where
  | realtime | interactive | streaming | bulk | bestEffort | background

def DscpClass.value : DscpClass → UInt8
  | .realtime => 46
  | .interactive => 34
  | .streaming => 26
  | .bulk => 18
  | .bestEffort => 0
  | .background => 8

structure TrafficRule where
  protocol : String
  dport : Option UInt16
  dportRange : Option (UInt16 × UInt16)
  dscpClass : DscpClass
  description : String

def portMatch (rule : TrafficRule) : String :=
  match rule.dport, rule.dportRange with
  | some port, _ => "dport " ++ toString port ++ " "
  | none, some (first, last) => "dport " ++ toString first ++ "-" ++ toString last ++ " "
  | none, none => ""

def nftRule (rule : TrafficRule) : String :=
  "    " ++ rule.protocol ++ " " ++ portMatch rule ++
  "meta l4proto " ++ rule.protocol ++ " tcp dport set meta l4proto " ++ rule.protocol ++
  " ip dscp set " ++ toString rule.dscpClass.value ++ " # " ++ rule.description

/-- The rules are the same for every interface. -/
def generateNftablesRules (_interface : String) (rules : List TrafficRule) : Script where
  text :=
    "#!/usr/sbin/nft -f\n" ++
    "# NetFusion DSCP tagging rules\n\n" ++
    "table inet netfusion \x7b\n" ++
    "  chain dscp_tagger \x7b\n" ++
    "    type filter hook output priority 0; policy accept;\n\n" ++
    String.join (rules.map (fun rule => nftRule rule ++ "\n")) ++
    "  \x7d\n" ++
    "\x7d\n"
  table := ⟨"inet netfusion", [⟨"dscp_tagger", rules.map nftRule⟩]⟩

def applyDscp (k : Kernel) (interface : String) (rules : List TrafficRule) :
    Except CoreError Unit × Kernel :=
  match nftFile k (generateNftablesRules interface rules) with
  | (.error e, k) => (.error (.internal e), k)
  | (.ok out, k) =>
    if out.success then (.ok (), k)
    else
      (.error (.internal ("Failed to apply DSCP rules on " ++ interface ++ ": " ++ out.stderr)), k)

/-- A table that is not there is fine, and so is any other refusal. -/
def removeDscp (k : Kernel) : Except CoreError Unit × Kernel :=
  match nftDeleteTable k "inet netfusion" with
  | (.error e, k) => (.error (.internal e), k)
  | (.ok _, k) => (.ok (), k)

inductive Call where
  | setup (gateways : HashMap String String) (weights : HashMap String UInt8)
      (order : Shuffle Weight)
  | teardown
  | apply (interface : String) (rules : List TrafficRule)
  | remove

def callStep (k : Kernel) : Call → Except CoreError Unit × Kernel
  | .setup gateways weights order =>
    let (result, k) := setupWeightedBalancing k gateways weights order
    (result.mapError .internal, k)
  | .teardown =>
    let (result, k) := teardownBalancing k
    (result.mapError .internal, k)
  | .apply interface rules => applyDscp k interface rules
  | .remove => removeDscp k

/-- What a call asks of the balancing. A setup that is skipped, for want of
gateways or of interfaces, loads nothing; whether it counts as a setup is left open. -/
def balances (countSkipped : Bool) : Call → Option Bool
  | .setup gateways weights order =>
    if (balancingMarks gateways weights order).isSome || countSkipped then some true else none
  | .teardown => some false
  | _ => none

def tags : Call → Option Bool
  | .apply _ _ => some true
  | .remove => some false
  | _ => none

def lastOf (what : Call → Option Bool) (past : List (Call × Except CoreError Unit)) : Option Bool :=
  (past.filterMap (fun p => what p.1)).getLast?

/-- The chains of each subsystem are there exactly if its last operation put
them there. -/
structure Independent (countSkipped : Bool) (past : List (Call × Except CoreError Unit))
    (k : Kernel) : Prop where
  balancing : ∀ chain ∈ ["prerouting", "output"],
    Loaded k.ruleset "inet netfusion" chain ↔ lastOf (balances countSkipped) past = some true
  tagging : Loaded k.ruleset "inet netfusion" "dscp_tagger" ↔ lastOf tags past = some true

/-- No call deletes the table while the other subsystem has its chains there.
A skipped setup that counts has to find its chains already there. -/
def SparesOther (countSkipped : Bool) (past : List (Call × Except CoreError Unit)) : Call → Prop
  | .setup gateways weights order =>
    balancingMarks gateways weights order = none → countSkipped = true →
      lastOf (balances countSkipped) past = some true
  | .teardown => lastOf tags past ≠ some true
  | .apply _ _ => True
  | .remove => lastOf (balances countSkipped) past ≠ some true

theorem lastOf_concat (what : Call → Option Bool) (past : List (Call × Except CoreError Unit))
    (c : Call) (result : Except CoreError Unit) :
    lastOf what (past ++ [(c, result)]) = (what c).or (lastOf what past) := by
  rw [lastOf, List.filterMap_append, List.getLast?_append]
  cases h : what c <;> simp [h, lastOf]

theorem loaded_nftDeleteTable (k : Kernel) (name table chain : String) :
    Loaded (nftDeleteTable k name).2.ruleset table chain ↔
      table ≠ name ∧ Loaded k.ruleset table chain := by
  rw [nftDeleteTable]
  split
  · exact loaded_deleteTable k.ruleset name table chain
  · rename_i habsent
    constructor
    · rintro ⟨chains, hchains, hmem⟩
      refine ⟨?_, chains, hchains, hmem⟩
      rintro rfl
      exact habsent (AList.lookup_isSome.mp (by simp [hchains]))
    · exact And.right

section

variable (k : Kernel) (table chain : String)

theorem setup_skipped {gateways : HashMap String String} {weights : HashMap String UInt8}
    {order : Shuffle Weight} (h : balancingMarks gateways weights order = none) :
    (callStep k (.setup gateways weights order)).2 = k := by
  simp [callStep, setupWeightedBalancing, h]

theorem loaded_setup {gateways : HashMap String String} {weights : HashMap String UInt8}
    {order : Shuffle Weight} {marks : List (String × UInt32)}
    (h : balancingMarks gateways weights order = some marks) :
    Loaded (callStep k (.setup gateways weights order)).2.ruleset table chain ↔
      Loaded k.ruleset table chain ∨
        table = "inet netfusion" ∧ chain ∈ ["prerouting", "output"] := by
  have hruleset : (callStep k (.setup gateways weights order)).2.ruleset =
      load k.ruleset (balancingScript marks.length).table := by
    simp only [callStep, setupWeightedBalancing, h, nftFile, exited]
    rw [foldl_ipRuleAdd]
  rw [hruleset]
  exact loaded_load k.ruleset (balancingScript marks.length).table table chain

theorem loaded_apply (interface : String) (rules : List TrafficRule) :
    Loaded (callStep k (.apply interface rules)).2.ruleset table chain ↔
      Loaded k.ruleset table chain ∨ table = "inet netfusion" ∧ chain ∈ ["dscp_tagger"] :=
  loaded_load k.ruleset (generateNftablesRules interface rules).table table chain

theorem loaded_teardown :
    Loaded (callStep k .teardown).2.ruleset table chain ↔
      table ≠ "inet netfusion" ∧ Loaded k.ruleset table chain := by
  rw [← loaded_nftDeleteTable]
  have hruleset : (callStep k .teardown).2.ruleset =
      (nftDeleteTable k "inet netfusion").2.ruleset := by
    simp only [callStep, teardownBalancing]
    split
    · rename_i hdelete
      rw [hdelete]
    · rename_i hdelete
      rw [hdelete]
      rw [foldl_ipRuleDel]
  rw [hruleset]

theorem loaded_remove :
    Loaded (callStep k .remove).2.ruleset table chain ↔
      table ≠ "inet netfusion" ∧ Loaded k.ruleset table chain := by
  rw [← loaded_nftDeleteTable]
  have hruleset : (callStep k .remove).2.ruleset =
      (nftDeleteTable k "inet netfusion").2.ruleset := by
    simp only [callStep, removeDscp]
    split
    · rename_i hdelete
      rw [hdelete]
    · rename_i hdelete
      rw [hdelete]
  rw [hruleset]

end

section

variable {countSkipped : Bool} {past : List (Call × Except CoreError Unit)} {k : Kernel}
  (result : Except CoreError Unit)

theorem independent_skipped (h : Independent countSkipped past k) {c : Call}
    (hbalances : balances countSkipped c = if countSkipped then some true else none)
    (htags : tags c = none) :
    Independent countSkipped (past ++ [(c, result)]) k ↔
      (countSkipped = true → lastOf (balances countSkipped) past = some true) := by
  cases countSkipped with
  | false =>
    apply iff_of_true
    · constructor
      · simpa [lastOf_concat, hbalances] using h.balancing
      · simpa [lastOf_concat, htags] using h.tagging
    · intro hcount
      cases hcount
  | true =>
    constructor
    · rintro ⟨hbalancing, -⟩ -
      rw [← h.balancing "prerouting" (by decide), hbalancing "prerouting" (by decide),
        lastOf_concat, hbalances]
      rfl
    · intro hlast
      constructor
      · intro chain hchain
        rw [h.balancing chain hchain, hlast rfl, lastOf_concat, hbalances]
        simp
      · simpa [lastOf_concat, htags] using h.tagging

theorem independent_setup (h : Independent countSkipped past k) (gateways : HashMap String String)
    (weights : HashMap String UInt8) (order : Shuffle Weight) :
    Independent countSkipped (past ++ [(.setup gateways weights order, result)])
        (callStep k (.setup gateways weights order)).2 ↔
      SparesOther countSkipped past (.setup gateways weights order) := by
  rw [SparesOther]
  cases hmarks : balancingMarks gateways weights order with
  | none =>
    rw [setup_skipped k hmarks, independent_skipped result h (by simp [balances, hmarks]) rfl]
    constructor
    · intro hskipped _
      exact hskipped
    · intro hskipped
      exact hskipped rfl
  | some marks =>
    apply iff_of_true
    · constructor
      · intro chain hchain
        rw [loaded_setup k _ chain hmarks, lastOf_concat]
        simp [balances, hmarks, hchain]
      · rw [loaded_setup k _ _ hmarks, lastOf_concat]
        simpa [tags] using h.tagging
    · intro hnone
      cases hnone

theorem independent_apply (h : Independent countSkipped past k) (interface : String)
    (rules : List TrafficRule) :
    Independent countSkipped (past ++ [(.apply interface rules, result)])
      (callStep k (.apply interface rules)).2 := by
  constructor
  · intro chain hchain
    have hother : chain ∉ ["dscp_tagger"] := by
      intro hmem
      cases List.mem_singleton.mp hmem
      exact absurd hchain (by decide)
    rw [loaded_apply, lastOf_concat]
    simpa [balances, hother] using h.balancing chain hchain
  · rw [loaded_apply, lastOf_concat]
    simp [tags]

theorem independent_teardown :
    Independent countSkipped (past ++ [(.teardown, result)]) (callStep k .teardown).2 ↔
      lastOf tags past ≠ some true := by
  constructor
  · rintro ⟨-, htagging⟩ hlast
    rw [loaded_teardown, lastOf_concat] at htagging
    exact absurd (htagging.mpr hlast) (by simp)
  · intro hlast
    constructor
    · intro chain _
      rw [loaded_teardown, lastOf_concat]
      simp [balances]
    · rw [loaded_teardown, lastOf_concat]
      simpa [tags] using hlast

theorem independent_remove :
    Independent countSkipped (past ++ [(.remove, result)]) (callStep k .remove).2 ↔
      lastOf (balances countSkipped) past ≠ some true := by
  constructor
  · rintro ⟨hbalancing, -⟩ hlast
    have hpre := hbalancing "prerouting" (by decide)
    rw [loaded_remove, lastOf_concat] at hpre
    exact absurd (hpre.mpr hlast) (by simp)
  · intro hlast
    constructor
    · intro chain _
      rw [loaded_remove, lastOf_concat]
      simpa [balances] using hlast
    · rw [loaded_remove, lastOf_concat]
      simp [tags]

theorem independent_step (h : Independent countSkipped past k) (c : Call) :
    Independent countSkipped (past ++ [(c, result)]) (callStep k c).2 ↔
      SparesOther countSkipped past c := by
  cases c with
  | setup gateways weights order => exact independent_setup result h gateways weights order
  | teardown => exact independent_teardown result
  | apply interface rules => exact iff_of_true (independent_apply result h interface rules) trivial
  | remove => exact independent_remove result

end

theorem not_loaded_empty (table chain : String) : ¬ Loaded Kernel.empty.ruleset table chain := by
  rintro ⟨chains, hchains, -⟩
  cases hchains

theorem independent_empty (countSkipped : Bool) : Independent countSkipped [] Kernel.empty := by
  constructor
  · intro chain _
    exact iff_of_false (not_loaded_empty _ chain) (by simp [lastOf])
  · exact iff_of_false (not_loaded_empty _ _) (by simp [lastOf])

/-- Whether or not skipped setups count, the two subsystems are independent all
along a run exactly when no call takes the table from the other one. -/
theorem subsystems_independent_iff (countSkipped : Bool) (cs : List Call) :
    (∀ pre post, cs = pre ++ post → Independent countSkipped
      (trace callStep Kernel.empty pre) (run callStep Kernel.empty pre)) ↔
    EachTraced callStep Kernel.empty cs (fun past _ c => SparesOther countSkipped past c) := by
  apply always_traced_iff (independent_empty countSkipped)
  intro past k c h
  exact independent_step _ h c

/-- Balancing is set up, traffic is tagged, and the tags are removed. -/
def tagAndUntag : List Call :=
  [.setup twoGateways threeWeights (.id _), .apply "eth0" [], .remove]

theorem remove_takes_balancing :
    ¬ Independent true (trace callStep Kernel.empty tagAndUntag)
      (run callStep Kernel.empty tagAndUntag) ∧
    ¬ Independent false (trace callStep Kernel.empty tagAndUntag)
      (run callStep Kernel.empty tagAndUntag) := by
  have hgone : ¬ Loaded (run callStep Kernel.empty tagAndUntag).ruleset "inet netfusion"
      "prerouting" := by
    have hempty : ((run callStep Kernel.empty tagAndUntag).ruleset.lookup "inet netfusion").isNone =
        true := by decide +kernel
    rintro ⟨chains, hchains, -⟩
    simp [hchains] at hempty
  constructor
  · intro h
    exact hgone ((h.balancing "prerouting" (by decide)).mpr (by decide))
  · intro h
    exact hgone ((h.balancing "prerouting" (by decide)).mpr (by decide))

end Netfusion.Core.Dscp
