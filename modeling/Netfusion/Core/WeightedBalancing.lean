import Mathlib.Algebra.BigOperators.Ring.List
import Mathlib.Tactic.NormNum
import Mathlib.Tactic.Positivity
import Netfusion.Lib.Collections
import Netfusion.Lib.Rounding
import Netfusion.Shared.Types

namespace Netfusion.Core.WeightedBalancing

open Netfusion.Lib.Collections Netfusion.Lib.Rounding
open Netfusion.Shared.Types

structure WeightedBalancer where
  minHealth : ℚ
  weights : HashMap String UInt8

def WeightedBalancer.new (minHealth : ℚ) : WeightedBalancer := ⟨minHealth, ∅⟩

abbrev Score := Sigma (fun _ : String => HealthScore ℚ)

def Viable (b : WeightedBalancer) (e : Score) : Prop := e.2.overall ≥ b.minHealth

instance (b : WeightedBalancer) (e : Score) : Decidable (Viable b e) :=
  inferInstanceAs (Decidable (_ ≤ _))

def totalHealth (viable : List Score) : ℚ := (viable.map (fun e => e.2.overall)).sum

/-- The share of the total, scaled to a byte that is not zero. -/
def weightOf (overall total : ℚ) : UInt8 :=
  toU8 (max 1 (min (roundHalfAway (overall / total * 255)) 255))

def computeWeights (b : WeightedBalancer) (health : HashMap String (HealthScore ℚ))
    (order : Shuffle Score) : HashMap String UInt8 × WeightedBalancer :=
  let viable := (order.run health.entries).filter (Viable b)
  if viable = [] then (∅, { b with weights := ∅ })
  else if totalHealth viable = 0 then (∅, { b with weights := ∅ })
  else
    let newWeights := viable.foldl (fun m e =>
      m.insert e.1 (weightOf e.2.overall (totalHealth viable))) ∅
    (newWeights, { b with weights := newWeights })

structure EcmpRoute where
  gateway : String
  interface : String
  metric : UInt32
  weight : UInt8

def generateRoutes (b : WeightedBalancer) (gateways : HashMap String String)
    (order : Shuffle (Sigma (fun _ : String => UInt8))) : List EcmpRoute :=
  (order.run b.weights.entries).filterMap (fun e =>
    (gateways.lookup e.1).map (fun gw => ⟨gw, e.1, 100, e.2⟩))

/-- The health of all interfaces that are well enough to take part. -/
def viableHealth (b : WeightedBalancer) (health : HashMap String (HealthScore ℚ)) : ℚ :=
  totalHealth (health.entries.filter (Viable b))

/-- The weights are those of the viable interfaces, in proportion to their
scores up to rounding and to the least weight. -/
structure Proportional (b : WeightedBalancer) (health : HashMap String (HealthScore ℚ))
    (weights : HashMap String UInt8) : Prop where
  keys : ∀ name, name ∈ weights ↔
    ∃ score, health.lookup name = some score ∧ score.overall ≥ b.minHealth
  range : ∀ name weight, weights.lookup name = some weight →
    1 ≤ weight.toNat ∧ weight.toNat ≤ 255
  ordered : ∀ name name' score score' weight weight', health.lookup name = some score →
    health.lookup name' = some score' → weights.lookup name = some weight →
    weights.lookup name' = some weight' → score.overall ≤ score'.overall → weight ≤ weight'
  near : ∀ name score weight, health.lookup name = some score → weights.lookup name = some weight →
    |(weight.toNat : ℚ) - 255 * score.overall / viableHealth b health| ≤ 1 / 2 ∨
    255 * score.overall / viableHealth b health < 1 / 2 ∧ weight = 1
  sum : |(weights.entries.map (fun e => (e.2.toNat : ℚ))).sum - 255| ≤ weights.entries.length

theorem overall_le_totalHealth {viable : List Score} (h : ∀ e ∈ viable, 0 ≤ e.2.overall)
    {e : Score} (he : e ∈ viable) : e.2.overall ≤ totalHealth viable := by
  apply List.single_le_sum
  · intro x hx
    obtain ⟨e', he', rfl⟩ := List.mem_map.mp hx
    exact h e' he'
  · exact List.mem_map_of_mem he

theorem totalHealth_shuffled (b : WeightedBalancer) (health : HashMap String (HealthScore ℚ))
    (order : Shuffle Score) :
    totalHealth ((order.run health.entries).filter (Viable b)) = viableHealth b health :=
  (((order.perm health.entries).filter _).map _).sum_eq

theorem weightOf_mono {x y total : ℚ} (htotal : 0 < total) (h : x ≤ y) :
    weightOf x total ≤ weightOf y total := by
  have hshare : x / total * 255 ≤ y / total * 255 := by
    have hdiv : x / total ≤ y / total := div_le_div_of_nonneg_right h htotal.le
    linarith
  have hround := roundHalfAway_mono hshare
  rw [UInt8.le_iff_toNat_le, weightOf, weightOf, toU8_toNat, toU8_toNat]
  omega

theorem weightOf_cases {x total : ℚ} (hx : 0 ≤ x) (hle : x ≤ total) (htotal : 0 < total) :
    (weightOf x total).toNat = roundHalfAway (255 * x / total) ∨
    roundHalfAway (255 * x / total) = 0 ∧ weightOf x total = 1 := by
  have hshare : x / total * 255 = 255 * x / total := by ring
  obtain ⟨hzero, hfull⟩ := roundHalfAway_mem (x := 255 * x / total) (n := 255) (by positivity) (by
    rw [div_le_iff₀ htotal]
    push_cast
    linarith)
  by_cases hone : 1 ≤ roundHalfAway (255 * x / total)
  · left
    rw [weightOf, hshare, toU8_toNat]
    omega
  · right
    have hnone : roundHalfAway (255 * x / total) = 0 := by omega
    refine ⟨hnone, ?_⟩
    rw [weightOf, hshare, hnone]
    rfl

theorem weightOf_near {x total : ℚ} (hx : 0 ≤ x) (hle : x ≤ total) (htotal : 0 < total) :
    |((weightOf x total).toNat : ℚ) - 255 * x / total| ≤ 1 / 2 ∨
    255 * x / total < 1 / 2 ∧ weightOf x total = 1 := by
  rcases weightOf_cases hx hle htotal with hround | ⟨hnone, hone⟩
  · left
    have hcast : ((weightOf x total).toNat : ℚ) = (roundHalfAway (255 * x / total) : ℚ) := by
      exact_mod_cast hround
    rw [hcast]
    exact abs_roundHalfAway_sub _
  · exact .inr ⟨lt_half_of_roundHalfAway_eq_zero hnone, hone⟩

theorem weightOf_within_one {x total : ℚ} (hx : 0 ≤ x) (hle : x ≤ total) (htotal : 0 < total) :
    |((weightOf x total).toNat : ℚ) - 255 * x / total| ≤ 1 := by
  rcases weightOf_near hx hle htotal with hnear | ⟨hsmall, hone⟩
  · linarith
  · have hshare : 0 ≤ 255 * x / total := by positivity
    have hweight : (weightOf x total).toNat = 1 := by
      rw [hone]
      rfl
    rw [hweight, Nat.cast_one, abs_le]
    constructor <;> linarith

theorem weightOf_range (x total : ℚ) :
    1 ≤ (weightOf x total).toNat ∧ (weightOf x total).toNat ≤ 255 := by
  rw [weightOf, toU8_toNat]
  omega

section

variable {b : WeightedBalancer} {health : HashMap String (HealthScore ℚ)} (order : Shuffle Score)
  (hpos : 0 < viableHealth b health)

include hpos

theorem computeWeights_entries :
    (computeWeights b health order).1.entries =
      (((order.run health.entries).filter (Viable b)).map (fun e =>
        (⟨e.1, weightOf e.2.overall (viableHealth b health)⟩ :
          Sigma (fun _ : String => UInt8)))).reverse := by
  have htotal := totalHealth_shuffled b health order
  have hsome : (order.run health.entries).filter (Viable b) ≠ [] := by
    intro hnone
    rw [hnone] at htotal
    rw [← htotal] at hpos
    exact lt_irrefl 0 hpos
  have hnodup : (((order.run health.entries).filter (Viable b)).map Sigma.fst).Nodup :=
    List.Nodup.sublist (List.filter_sublist.map _) (shuffle_keys_nodup order health)
  rw [computeWeights, if_neg hsome, htotal, if_neg hpos.ne']
  dsimp only
  rw [entries_insertAll _ _ _ hnodup (fun e _ => AList.notMem_empty e.1), AList.empty_entries,
    List.append_nil]

theorem lookup_computeWeights (name : String) (weight : UInt8) :
    (computeWeights b health order).1.lookup name = some weight ↔
      ∃ score, health.lookup name = some score ∧ score.overall ≥ b.minHealth ∧
        weight = weightOf score.overall (viableHealth b health) := by
  apply AList.mem_lookup_iff.trans
  rw [computeWeights_entries order hpos, List.mem_reverse, List.mem_map]
  constructor
  · rintro ⟨e, he, hentry⟩
    obtain ⟨hname, hweight⟩ := Sigma.mk.inj hentry
    subst hname
    rw [List.mem_filter, decide_eq_true_eq] at he
    exact ⟨e.2, (mem_shuffle_entries order health e.1 e.2).mp he.1, he.2, (eq_of_heq hweight).symm⟩
  · rintro ⟨score, hscore, hviable, rfl⟩
    refine ⟨⟨name, score⟩, ?_, rfl⟩
    rw [List.mem_filter, decide_eq_true_eq]
    exact ⟨(mem_shuffle_entries order health name score).mpr hscore, hviable⟩

theorem weight_of_score {name : String} {score : HealthScore ℚ} {weight : UInt8}
    (hscore : health.lookup name = some score)
    (hweight : (computeWeights b health order).1.lookup name = some weight) :
    score.overall ≥ b.minHealth ∧ weight = weightOf score.overall (viableHealth b health) := by
  obtain ⟨given, hgiven, hviable, rfl⟩ := (lookup_computeWeights order hpos name weight).mp hweight
  rw [hscore, Option.some.injEq] at hgiven
  subst hgiven
  exact ⟨hviable, rfl⟩

end

theorem computeWeights_stores (b : WeightedBalancer) (health : HashMap String (HealthScore ℚ))
    (order : Shuffle Score) :
    (computeWeights b health order).2 =
      { b with weights := (computeWeights b health order).1 } := by
  rw [computeWeights]
  split
  · rfl
  · split <;> rfl

theorem mem_generateRoutes (b : WeightedBalancer) (gateways : HashMap String String)
    (order : Shuffle (Sigma (fun _ : String => UInt8))) (route : EcmpRoute) :
    route ∈ generateRoutes b gateways order ↔
      b.weights.lookup route.interface = some route.weight ∧
      gateways.lookup route.interface = some route.gateway ∧ route.metric = 100 := by
  rw [generateRoutes, List.mem_filterMap]
  constructor
  · rintro ⟨⟨name, weight⟩, he, hroute⟩
    obtain ⟨gateway, hgateway, rfl⟩ := Option.map_eq_some_iff.mp hroute
    exact ⟨(mem_shuffle_entries order b.weights name weight).mp he, hgateway, rfl⟩
  · rintro ⟨hweight, hgateway, hmetric⟩
    refine ⟨⟨route.interface, route.weight⟩, ?_, ?_⟩
    · exact (mem_shuffle_entries order b.weights _ _).mpr hweight
    · rw [hgateway, Option.map_some, ← hmetric]

section

variable {b : WeightedBalancer} {health : HashMap String (HealthScore ℚ)}
  (hscores : ∀ name score, health.lookup name = some score →
    score.overall ∈ Set.Icc (0 : ℚ) 100)

include hscores

theorem viable_nonneg : ∀ e ∈ health.entries.filter (Viable b), 0 ≤ e.2.overall := by
  intro e he
  rw [List.mem_filter] at he
  exact (hscores e.1 e.2 (AList.mem_lookup_iff.mpr he.1)).1

theorem overall_le_viableHealth {name : String} {score : HealthScore ℚ}
    (h : health.lookup name = some score) (hviable : score.overall ≥ b.minHealth) :
    score.overall ≤ viableHealth b health := by
  apply overall_le_totalHealth (viable_nonneg hscores) (e := ⟨name, score⟩)
  rw [List.mem_filter, decide_eq_true_eq]
  exact ⟨AList.mem_lookup_iff.mp h, hviable⟩

theorem sum_computeWeights (order : Shuffle Score) (hpos : 0 < viableHealth b health) :
    |((computeWeights b health order).1.entries.map (fun e => (e.2.toNat : ℚ))).sum - 255| ≤
      (computeWeights b health order).1.entries.length := by
  have hentries := computeWeights_entries order hpos
  have hfull : (((order.run health.entries).filter (Viable b)).map (fun e =>
      255 * e.2.overall / viableHealth b health)).sum = 255 := by
    have hterm : ∀ e : Score, 255 * e.2.overall / viableHealth b health =
        255 / viableHealth b health * e.2.overall := fun e => by ring
    have htotal := totalHealth_shuffled b health order
    rw [totalHealth] at htotal
    simp only [hterm]
    rw [List.sum_map_mul_left, htotal]
    exact div_mul_cancel₀ _ hpos.ne'
  have hnear := abs_sum_sub_sum_le ((order.run health.entries).filter (Viable b))
    (fun e => ((weightOf e.2.overall (viableHealth b health)).toNat : ℚ))
    (fun e => 255 * e.2.overall / viableHealth b health) 1 (by
      intro e he
      rw [List.mem_filter, decide_eq_true_eq] at he
      have hlookup := (mem_shuffle_entries order health e.1 e.2).mp he.1
      exact weightOf_within_one (hscores _ _ hlookup).1
        (overall_le_viableHealth hscores hlookup he.2) hpos)
  rw [hfull, mul_one] at hnear
  rw [hentries, List.map_reverse, List.sum_reverse, List.map_map, List.length_reverse,
    List.length_map]
  exact hnear

end

/-- Among scores from 0 to 100 of which a viable one is positive, the weights
are in proportion, and the stored weights are those returned. -/
theorem computeWeights_proportional (b : WeightedBalancer)
    (health : HashMap String (HealthScore ℚ)) (order : Shuffle Score)
    (hscores : ∀ name score, health.lookup name = some score →
      score.overall ∈ Set.Icc (0 : ℚ) 100)
    (hsome : ∃ name score, health.lookup name = some score ∧ score.overall ≥ b.minHealth ∧
      0 < score.overall) :
    Proportional b health (computeWeights b health order).1 ∧
      (computeWeights b health order).2.weights = (computeWeights b health order).1 := by
  obtain ⟨name, score, hlookup, hviable, hscore⟩ := hsome
  have hpos : 0 < viableHealth b health :=
    hscore.trans_le (overall_le_viableHealth hscores hlookup hviable)
  have hweights := lookup_computeWeights order hpos
  refine ⟨?_, by rw [computeWeights_stores]⟩
  constructor
  · intro name
    rw [← AList.lookup_isSome, Option.isSome_iff_exists]
    simp only [hweights]
    constructor
    · rintro ⟨weight, score, hscore, hviable, -⟩
      exact ⟨score, hscore, hviable⟩
    · rintro ⟨score, hscore, hviable⟩
      exact ⟨_, score, hscore, hviable, rfl⟩
  · intro name weight hweight
    obtain ⟨score, -, -, rfl⟩ := (hweights name weight).mp hweight
    exact weightOf_range _ _
  · intro name name' score score' weight weight' hscore hscore' hweight hweight' hle
    obtain ⟨-, rfl⟩ := weight_of_score order hpos hscore hweight
    obtain ⟨-, rfl⟩ := weight_of_score order hpos hscore' hweight'
    exact weightOf_mono hpos hle
  · intro name score weight hscore hweight
    obtain ⟨hviable, rfl⟩ := weight_of_score order hpos hscore hweight
    exact weightOf_near (hscores name score hscore).1
      (overall_le_viableHealth hscores hscore hviable) hpos
  · exact sum_computeWeights hscores order hpos

def scored (overall : ℚ) : HealthScore ℚ :=
  ⟨overall, overall, overall, overall, overall, overall, 0, false⟩

def twoScores : HashMap String (HealthScore ℚ) :=
  ((∅ : HashMap String (HealthScore ℚ)).insert "eth0" (scored 90)).insert "wlan0" (scored 30)

theorem computeWeights_proportional_two :
    Proportional (.new 20) twoScores (computeWeights (.new 20) twoScores (.id _)).1 ∧
      (computeWeights (.new 20) twoScores (.id _)).2.weights =
        (computeWeights (.new 20) twoScores (.id _)).1 := by
  apply computeWeights_proportional
  · rw [twoScores]
    apply insert_keeps
    · norm_num [scored]
    · apply insert_keeps
      · norm_num [scored]
      · intro name score h
        rw [AList.lookup_empty] at h
        cases h
  · exact ⟨"eth0", scored 90, rfl, by norm_num [scored, WeightedBalancer.new],
      by norm_num [scored]⟩

end Netfusion.Core.WeightedBalancing
