import Mathlib.Data.Finset.Interval
import Mathlib.Order.Interval.Finset.Nat
import Netfusion.Lib.Netfilter
import Netfusion.Core.Command

namespace Netfusion.Core.Nftables

open Netfusion.Lib.Collections Netfusion.Lib.Netfilter
open Netfusion.Core.Command

structure Script where
  text : String
  table : TableBlock String String String

structure IpRule where
  fwmark : UInt32
  table : UInt32
deriving DecidableEq

/-- What the kernel holds. A table is known by its family and its name. -/
structure Kernel where
  ruleset : Ruleset String String String
  ipRules : List IpRule

def Kernel.empty : Kernel := ⟨∅, []⟩

/-- nft is there and may be run, and takes every script. -/
def nftFile (k : Kernel) (script : Script) : CommandOutput × Kernel :=
  (exited true "" "", { k with ruleset := load k.ruleset script.table })

def nftDeleteTable (k : Kernel) (table : String) : CommandOutput × Kernel :=
  if table ∈ k.ruleset then
    (exited true "" "", { k with ruleset := deleteTable k.ruleset table })
  else (exited false "" "Error: No such file or directory", k)

/-- A rule that is there already is not added once more. -/
def ipRuleAdd (k : Kernel) (rule : IpRule) : Kernel :=
  { k with ipRules := k.ipRules.insert rule }

def ipRuleDel (k : Kernel) (rule : IpRule) : Kernel :=
  { k with ipRules := k.ipRules.erase rule }

theorem foldl_ipRuleAdd (rules : List IpRule) (k : Kernel) :
    rules.foldl ipRuleAdd k = { k with ipRules := addRules k.ipRules rules } := by
  induction rules generalizing k with
  | nil => rfl
  | cons r rules ih => exact ih (ipRuleAdd k r)

theorem foldl_ipRuleDel (rules : List IpRule) (k : Kernel) :
    rules.foldl ipRuleDel k = { k with ipRules := k.ipRules.diff rules } := by
  induction rules generalizing k with
  | nil => rfl
  | cons r rules ih =>
    rw [List.foldl_cons, ih, ipRuleDel, List.diff_cons]

def distribute (numIfaces : Nat) : String :=
  "ct mark set jhash ip saddr ip daddr ip protocol mod " ++ toString numIfaces ++ " offset 1"

def balancingScript (numIfaces : Nat) : Script where
  text :=
    "# NetFusion flow-based balancing\n" ++
    "table inet netfusion \x7b\n" ++
    "chain prerouting \x7b\n" ++
    "type filter hook prerouting priority mangle; policy accept;\n" ++
    "\n" ++
    "# Hash-based flow distribution\n" ++
    distribute numIfaces ++ "\n" ++
    "\x7d\n" ++
    "\n" ++
    "chain output \x7b\n" ++
    "type filter hook output priority mangle; policy accept;\n" ++
    "\n" ++
    distribute numIfaces ++ "\n" ++
    "\x7d\n" ++
    "\x7d\n"
  table :=
    ⟨"inet netfusion", [⟨"prerouting", [distribute numIfaces]⟩, ⟨"output", [distribute numIfaces]⟩]⟩

/-- The marks a distribution over a number of interfaces can set: a hash modulo
that number, offset by one. -/
def hashMarks (numIfaces : Nat) : Finset Nat := Finset.Icc 1 numIfaces

abbrev Weight := Sigma (fun _ : String => UInt8)

/-- The places are those of the pass over all weights, with or without a gateway. -/
def assignMarks (gateways : HashMap String String) (visited : List Weight) :
    List (String × UInt32) :=
  visited.zipIdx.filterMap (fun (w, i) =>
    if w.1 ∈ gateways then some (w.1, UInt32.ofNat (i + 1)) else none)

def balancingMarks (gateways : HashMap String String) (weights : HashMap String UInt8)
    (order : Shuffle Weight) : Option (List (String × UInt32)) :=
  if gateways.entries.length < 2 then none
  else
    let marks := assignMarks gateways (order.run weights.entries)
    if marks.length < 2 then none else some marks

def markRules (marks : List (String × UInt32)) : List IpRule := marks.map (fun m => ⟨m.2, m.2⟩)

/-- What nft answers is logged only, if it answers. -/
def setupWeightedBalancing (k : Kernel) (gateways : HashMap String String)
    (weights : HashMap String UInt8) (order : Shuffle Weight) : Except String Unit × Kernel :=
  match balancingMarks gateways weights order with
  | none => (.ok (), k)
  | some marks =>
    match nftFile k (balancingScript marks.length) with
    | (.error e, k) => (.error e, k)
    | (.ok _, k) => (.ok (), (markRules marks).foldl ipRuleAdd k)

def teardownRules : List IpRule :=
  (List.range 16).map (fun i => ⟨UInt32.ofNat (i + 1), UInt32.ofNat (i + 1)⟩)

def teardownBalancing (k : Kernel) : Except String Unit × Kernel :=
  match nftDeleteTable k "inet netfusion" with
  | (.error e, k) => (.error e, k)
  | (.ok _, k) => (.ok (), teardownRules.foldl ipRuleDel k)

def HasGateway (gateways : HashMap String String) (w : Weight) : Prop := w.1 ∈ gateways

instance (gateways : HashMap String String) (w : Weight) : Decidable (HasGateway gateways w) :=
  inferInstanceAs (Decidable (w.1 ∈ gateways))

/-- The marks that the hash can set are those with a rule, and each interface
with a weight and a gateway has one of them to itself. -/
structure Routed (gateways : HashMap String String) (weights : HashMap String UInt8)
    (marks : List (String × UInt32)) : Prop where
  buckets : ∀ m, m ∈ hashMarks marks.length ↔
    ∃ rule ∈ markRules marks, rule.fwmark.toNat = m ∧ rule.table = rule.fwmark
  oneEach : ∀ name, name ∈ weights ∧ name ∈ gateways ↔ ∃! mark, (name, mark) ∈ marks

/-- The pass comes to the interfaces with a gateway before any other. The
places are counted in 32 bits. -/
def GatewaysFirst (gateways : HashMap String String) (visited : List Weight) : Prop :=
  visited.countP (HasGateway gateways) < 2 ^ 32 ∧
  ∀ k < visited.countP (HasGateway gateways), ∃ place w, visited[place]? = some w ∧
    place % 2 ^ 32 = k ∧ HasGateway gateways w

section

variable (gateways : HashMap String String) (visited : List Weight)

theorem assignMarks_length :
    (assignMarks gateways visited).length = visited.countP (HasGateway gateways) := by
  have hfst : visited.countP (HasGateway gateways) =
      (visited.zipIdx.map Prod.fst).countP (HasGateway gateways) := by
    rw [List.zipIdx_map_fst]
  rw [assignMarks, List.length_filterMap_eq_countP, hfst, List.countP_map]
  apply List.countP_congr
  rintro ⟨w, i⟩ -
  by_cases h : w.1 ∈ gateways <;> simp [HasGateway, h]

theorem mem_assignMarks (name : String) (mark : UInt32) :
    (name, mark) ∈ assignMarks gateways visited ↔
      ∃ place w, visited[place]? = some w ∧ HasGateway gateways w ∧ w.1 = name ∧
        mark = UInt32.ofNat (place + 1) := by
  simp only [assignMarks, List.mem_filterMap, Prod.exists, List.mem_zipIdx_iff_getElem?]
  constructor
  · rintro ⟨w, place, hw, hmark⟩
    split at hmark
    · rename_i hgateway
      cases hmark
      exact ⟨place, w, hw, hgateway, rfl, rfl⟩
    · cases hmark
  · rintro ⟨place, w, hw, hgateway, rfl, rfl⟩
    refine ⟨w, place, hw, ?_⟩
    rw [HasGateway] at hgateway
    simp [hgateway]

theorem mem_markRules (m : Nat) :
    (∃ rule ∈ markRules (assignMarks gateways visited), rule.fwmark.toNat = m ∧
        rule.table = rule.fwmark) ↔
      ∃ place w, visited[place]? = some w ∧ HasGateway gateways w ∧ (place + 1) % 2 ^ 32 = m := by
  simp only [markRules, List.mem_map, Prod.exists]
  constructor
  · rintro ⟨rule, ⟨name, mark, hmem, rfl⟩, rfl, -⟩
    obtain ⟨place, w, hw, hgateway, -, rfl⟩ := (mem_assignMarks _ _ name mark).mp hmem
    exact ⟨place, w, hw, hgateway, (UInt32.toNat_ofNat').symm⟩
  · rintro ⟨place, w, hw, hgateway, rfl⟩
    have hmem := (mem_assignMarks gateways visited w.1 (UInt32.ofNat (place + 1))).mpr
      ⟨place, w, hw, hgateway, rfl, rfl⟩
    refine ⟨_, ⟨w.1, _, hmem, rfl⟩, ?_, rfl⟩
    exact UInt32.toNat_ofNat'

theorem mark_unique (hnodup : (visited.map Sigma.fst).Nodup) {name : String} {m m' : UInt32}
    (h : (name, m) ∈ assignMarks gateways visited) (h' : (name, m') ∈ assignMarks gateways visited) :
    m = m' := by
  obtain ⟨place, w, hw, -, rfl, rfl⟩ := (mem_assignMarks _ _ _ _).mp h
  obtain ⟨place', w', hw', -, hname, rfl⟩ := (mem_assignMarks _ _ _ _).mp h'
  have hplace : (visited.map Sigma.fst)[place]? = some w.1 := by simp [hw]
  have hplace' : (visited.map Sigma.fst)[place']? = some w.1 := by simp [hw', hname]
  obtain ⟨hlt, hget⟩ := List.getElem?_eq_some_iff.mp hplace
  obtain ⟨hlt', hget'⟩ := List.getElem?_eq_some_iff.mp hplace'
  have heq : place = place' := (List.Nodup.getElem_inj_iff hnodup).mp (hget.trans hget'.symm)
  rw [heq]

theorem buckets_of_subset
    (h : ∀ m ∈ hashMarks (visited.countP (HasGateway gateways)), ∃ place w,
      visited[place]? = some w ∧ HasGateway gateways w ∧ (place + 1) % 2 ^ 32 = m)
    {place : Nat} {w : Weight} (hw : visited[place]? = some w) (hgateway : HasGateway gateways w) :
    (place + 1) % 2 ^ 32 ∈ hashMarks (visited.countP (HasGateway gateways)) := by
  have hmem : ∀ m, m ∈ ((markRules (assignMarks gateways visited)).map
      (fun rule => rule.fwmark.toNat)).toFinset ↔
      ∃ place w, visited[place]? = some w ∧ HasGateway gateways w ∧ (place + 1) % 2 ^ 32 = m := by
    intro m
    rw [← mem_markRules, List.mem_toFinset, List.mem_map]
    apply exists_congr
    intro rule
    rw [markRules, List.mem_map]
    constructor
    · rintro ⟨⟨mark, hmark, rfl⟩, hm⟩
      exact ⟨⟨mark, hmark, rfl⟩, hm, rfl⟩
    · rintro ⟨hrule, hm, -⟩
      exact ⟨hrule, hm⟩
  have hsub : hashMarks (visited.countP (HasGateway gateways)) ⊆
      ((markRules (assignMarks gateways visited)).map (fun rule => rule.fwmark.toNat)).toFinset :=
    fun m hm => (hmem m).mpr (h m hm)
  have hcard : ((markRules (assignMarks gateways visited)).map
      (fun rule => rule.fwmark.toNat)).toFinset.card ≤
        (hashMarks (visited.countP (HasGateway gateways))).card := by
    apply (List.toFinset_card_le _).trans
    rw [List.length_map, markRules, List.length_map, assignMarks_length, hashMarks, Nat.card_Icc]
    omega
  rw [Finset.eq_of_subset_of_card_le hsub hcard, hmem]
  exact ⟨place, w, hw, hgateway, rfl⟩

theorem buckets_iff :
    (∀ m, m ∈ hashMarks (assignMarks gateways visited).length ↔
      ∃ rule ∈ markRules (assignMarks gateways visited), rule.fwmark.toNat = m ∧
        rule.table = rule.fwmark) ↔
      GatewaysFirst gateways visited := by
  simp only [assignMarks_length, mem_markRules]
  constructor
  · intro h
    constructor
    · by_contra hbig
      have hmem : 2 ^ 32 ∈ hashMarks (visited.countP (HasGateway gateways)) :=
        Finset.mem_Icc.mpr ⟨by omega, by omega⟩
      obtain ⟨place, w, -, -, hmod⟩ := (h (2 ^ 32)).mp hmem
      omega
    · intro k hk
      have hmem : k + 1 ∈ hashMarks (visited.countP (HasGateway gateways)) :=
        Finset.mem_Icc.mpr ⟨by omega, by omega⟩
      obtain ⟨place, w, hw, hgateway, hmod⟩ := (h (k + 1)).mp hmem
      exact ⟨place, w, hw, by omega, hgateway⟩
  · rintro ⟨hsmall, hfirst⟩ m
    have hforward : ∀ m ∈ hashMarks (visited.countP (HasGateway gateways)), ∃ place w,
        visited[place]? = some w ∧ HasGateway gateways w ∧ (place + 1) % 2 ^ 32 = m := by
      intro m hm
      obtain ⟨hone, hle⟩ := Finset.mem_Icc.mp hm
      obtain ⟨place, w, hw, hmod, hgateway⟩ := hfirst (m - 1) (by omega)
      exact ⟨place, w, hw, hgateway, by omega⟩
    refine ⟨hforward m, ?_⟩
    rintro ⟨place, w, hw, hgateway, rfl⟩
    exact buckets_of_subset gateways visited hforward hw hgateway

end

/-- Whatever the order, every interface with a weight and a gateway has one
mark, and no other interface has any. -/
theorem one_mark_each (gateways : HashMap String String) (weights : HashMap String UInt8)
    (order : Shuffle Weight) (name : String) :
    name ∈ weights ∧ name ∈ gateways ↔
      ∃! mark, (name, mark) ∈ assignMarks gateways (order.run weights.entries) := by
  constructor
  · rintro ⟨hweight, hgateway⟩
    obtain ⟨weight, hlookup⟩ := Option.isSome_iff_exists.mp (AList.lookup_isSome.mpr hweight)
    have hmem := (mem_shuffle_entries order weights name weight).mpr hlookup
    obtain ⟨place, hplace⟩ := List.mem_iff_getElem?.mp hmem
    have hmark := (mem_assignMarks gateways (order.run weights.entries) name _).mpr
      ⟨place, ⟨name, weight⟩, hplace, hgateway, rfl, rfl⟩
    refine ⟨_, hmark, ?_⟩
    intro mark hother
    exact mark_unique gateways _ (shuffle_keys_nodup order weights) hother hmark
  · rintro ⟨mark, hmark, -⟩
    obtain ⟨place, w, hw, hgateway, rfl, -⟩ := (mem_assignMarks _ _ _ _).mp hmark
    have hmem := List.mem_of_getElem? hw
    have hlookup := (mem_shuffle_entries order weights w.1 w.2).mp hmem
    exact ⟨AList.lookup_isSome.mp (by simp [hlookup]), hgateway⟩

/-- When a setup goes on, its marks are those of the hash exactly if the pass
over the weights comes to the interfaces with a gateway first. -/
theorem buckets_routed_iff (gateways : HashMap String String) (weights : HashMap String UInt8)
    (order : Shuffle Weight) (marks : List (String × UInt32))
    (h : balancingMarks gateways weights order = some marks) :
    Routed gateways weights marks ↔ GatewaysFirst gateways (order.run weights.entries) := by
  have hmarks : marks = assignMarks gateways (order.run weights.entries) := by
    rw [balancingMarks] at h
    split at h
    · cases h
    · dsimp only at h
      split at h
      · cases h
      · exact (Option.some.inj h).symm
  rw [hmarks, ← buckets_iff]
  constructor
  · intro hrouted
    exact hrouted.buckets
  · intro hbuckets
    exact ⟨hbuckets, one_mark_each gateways weights order⟩

/-- `wlan0` has a weight and no gateway, and is visited first. -/
def twoGateways : HashMap String String :=
  ((∅ : HashMap String String).insert "eth0" "10.0.0.1").insert "eth1" "10.0.1.1"

def threeWeights : HashMap String UInt8 :=
  (((∅ : HashMap String UInt8).insert "eth1" 85).insert "eth0" 85).insert "wlan0" 85

theorem first_bucket_unrouted :
    balancingMarks twoGateways threeWeights (.id _) = some [("eth0", 2), ("eth1", 3)] ∧
    ¬ Routed twoGateways threeWeights [("eth0", 2), ("eth1", 3)] := by
  constructor
  · decide
  · intro h
    obtain ⟨rule, hrule, hone, -⟩ := (h.buckets 1).mp (by decide)
    simp only [markRules, List.map_cons, List.map_nil, List.mem_cons, List.not_mem_nil,
      or_false] at hrule
    rcases hrule with rfl | rfl
    · cases hone
    · cases hone

theorem buckets_routed_iff_three :
    Routed twoGateways threeWeights [("eth0", 2), ("eth1", 3)] ↔
      GatewaysFirst twoGateways ((Shuffle.id Weight).run threeWeights.entries) :=
  buckets_routed_iff twoGateways threeWeights (.id _) [("eth0", 2), ("eth1", 3)] (by decide)

end Netfusion.Core.Nftables
