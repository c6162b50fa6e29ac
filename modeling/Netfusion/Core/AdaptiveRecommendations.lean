import Netfusion.Lib.Floats
import Netfusion.Core.Adaptive

namespace Netfusion.Core.AdaptiveRecommendations

open Netfusion.Lib.Collections Netfusion.Lib.Fallible Netfusion.Lib.Floats Netfusion.Lib.Rounding
open Netfusion.Core.Health (HealthWeightsConfig)
open Netfusion.Core.CompositeScore
open Netfusion.Core.Adaptive

inductive Panic where
  | weights (p : Health.Panic)
  | attemptToSubtractWithOverflow
  | attemptToNegateWithOverflow
  deriving DecidableEq

structure WeightAdjustment where
  metric : String
  currentWeight : UInt8
  recommendedWeight : UInt8
  reason : String
  deriving DecidableEq

/-- Arithmetic of signed bytes panics on overflow in a build with overflow
checks and wraps in one without. -/
def subI8 (checks : Bool) (a b : Int8) : Except Panic Int8 :=
  if checks = true ∧ (a.toInt - b.toInt < -128 ∨ 127 < a.toInt - b.toInt) then
    .error .attemptToSubtractWithOverflow
  else .ok (a - b)

def absI8 (checks : Bool) (a : Int8) : Except Panic Int8 :=
  if checks = true ∧ a = -128 then .error .attemptToNegateWithOverflow
  else .ok (if a < 0 then -a else a)

def significant (checks : Bool) (current recommended : UInt8) : Except Panic Bool := do
  let difference ← subI8 checks recommended.toInt8 current.toInt8
  let size ← absI8 checks difference
  return decide (3 < size)

def metricName : Component → String
  | .rtt => "rtt"
  | .jitter => "jitter"
  | .loss => "loss"
  | .throughput => "throughput"
  | .stability => "stability"

def byteOf (w : HealthWeightsConfig) : Component → UInt8
  | .rtt => w.rtt
  | .jitter => w.jitter
  | .loss => w.loss
  | .throughput => w.throughput
  | .stability => w.stability

def adjustment (base recommended : HealthWeightsConfig) (reason : String) (c : Component) :
    WeightAdjustment :=
  ⟨metricName c, byteOf base c, byteOf recommended c, reason⟩

def addRec (checks : Bool) (base recommended : HealthWeightsConfig) (reason : String)
    (recs : List WeightAdjustment) (c : Component) : Except Panic (List WeightAdjustment) := do
  if ← significant checks (byteOf base c) (byteOf recommended c) then
    return recs ++ [adjustment base recommended reason c]
  else return recs

def recommendations (fl : ℚ → ℚ) (order : Shuffle CorrelationEntry) (checks : Bool)
    (t : AdaptiveWeights) : Except Panic (List WeightAdjustment) :=
  if t.observedFailovers < 3 then .ok []
  else do
    let current ← (computeWeights fl order checks t).mapError .weights
    metricOrder.foldlM (addRec checks t.baseWeights current
      ("Based on " ++ toString t.observedFailovers ++ " observed failovers")) []

theorem toInt_toInt8 (n : UInt8) :
    n.toInt8.toInt = if n.toNat < 128 then (n.toNat : ℤ) else n.toNat - 256 := by
  have hbits : n.toInt8.toInt = n.toBitVec.toInt := rfl
  have hnat : n.toNat = n.toBitVec.toNat := rfl
  rw [hbits, hnat, BitVec.toInt_eq_toNat_cond]
  split <;> split <;> omega

theorem significant_of_range {c r : UInt8}
    (hlow : -127 ≤ r.toInt8.toInt - c.toInt8.toInt)
    (hhigh : r.toInt8.toInt - c.toInt8.toInt ≤ 127) (checks : Bool) :
    significant checks c r =
      .ok (decide (3 < |r.toInt8.toInt - c.toInt8.toInt|)) := by
  have hsub := Int8.toInt_sub r.toInt8 c.toInt8
  rw [Int.bmod_eq_of_le (by omega) (by omega)] at hsub
  have hmin : r.toInt8 - c.toInt8 ≠ -128 := by
    intro heq
    have hint : (-128 : Int8).toInt = -128 := by decide
    rw [heq, hint] at hsub
    omega
  have hthree : (3 : Int8).toInt = 3 := by decide
  have hzero : (0 : Int8).toInt = 0 := by decide
  rw [significant, subI8, if_neg (by omega)]
  simp only [bind, Except.bind, absI8, hmin, and_false, if_false, pure, Except.pure]
  congr 1
  apply decide_eq_decide.mpr
  rw [Int8.lt_iff_toInt_lt, hthree]
  generalize r.toInt8 - c.toInt8 = d at *
  by_cases hneg : d < 0
  · have hless := Int8.lt_iff_toInt_lt.mp hneg
    rw [if_pos hneg, Int8.toInt_neg, Int.bmod_eq_of_le (by omega) (by omega), hsub,
      abs_of_neg (by omega)]
  · have hge := mt Int8.lt_iff_toInt_lt.mpr hneg
    rw [if_neg hneg, hsub, abs_of_nonneg (by omega)]

theorem significant_overflow {c r : UInt8}
    (h : r.toInt8.toInt - c.toInt8.toInt ≤ -128) :
    ∃ p, significant true c r = .error p := by
  by_cases hless : r.toInt8.toInt - c.toInt8.toInt < -128
  · refine ⟨.attemptToSubtractWithOverflow, ?_⟩
    rw [significant, subI8, if_pos ⟨rfl, .inl hless⟩]
    rfl
  · refine ⟨.attemptToNegateWithOverflow, ?_⟩
    have hsub := Int8.toInt_sub r.toInt8 c.toInt8
    rw [Int.bmod_eq_of_le (by omega) (by omega)] at hsub
    have hint : (-128 : Int8).toInt = -128 := by decide
    have hmin : r.toInt8 - c.toInt8 = -128 := by
      rw [← Int8.toInt_inj, hsub, hint]
      omega
    rw [significant, subI8, if_neg (by omega), hmin]
    rfl

/-- The test is right unless the recommended byte is negative as a signed one
and the weights are too near to each other or too far apart. -/
theorem significant_iff {current : UInt8} (h : current.toNat ≤ 100) (recommended : UInt8) :
    (∀ checks, significant checks current recommended =
      .ok (decide (3 < |(recommended.toNat : ℤ) - current.toNat|))) ↔
      recommended.toNat ≤ 127 ∨ current.toNat + 129 ≤ recommended.toNat ∧
        recommended.toNat ≤ current.toNat + 252 := by
  have hcurrent := toInt_toInt8 current
  have hrecommended := toInt_toInt8 recommended
  have hbyte := recommended.toNat_lt
  rw [if_pos (by omega)] at hcurrent
  by_cases hsmall : recommended.toNat < 128
  · rw [if_pos hsmall] at hrecommended
    apply iff_of_true _ (.inl (by omega))
    intro checks
    rw [significant_of_range (by omega) (by omega), hcurrent, hrecommended]
  · rw [if_neg hsmall] at hrecommended
    by_cases hnear : recommended.toNat < current.toNat + 129
    · apply iff_of_false _ (by omega)
      intro hall
      obtain ⟨p, hp⟩ := significant_overflow (c := current) (r := recommended)
        (by omega)
      cases hp.symm.trans (hall true)
    · have hexact := significant_of_range (c := current) (r := recommended)
        (by omega) (by omega)
      have hfar : 3 < |(recommended.toNat : ℤ) - current.toNat| := by
        rw [abs_of_nonneg (by omega)]
        omega
      have hsigned : 3 < |recommended.toInt8.toInt - current.toInt8.toInt| ↔
          recommended.toNat ≤ current.toNat + 252 := by
        rw [hcurrent, hrecommended, abs_of_neg (by omega)]
        omega
      simp only [hexact, Except.ok.injEq, decide_eq_decide, hsigned, hfar, iff_true]
      constructor
      · intro hall
        exact .inr ⟨by omega, hall true⟩
      · intro hcase checks
        omega

theorem metricName_inj : ∀ c c', metricName c = metricName c' → c = c' := by decide

theorem byteOf_toNat (w : HealthWeightsConfig) (c : Component) :
    (byteOf w c).toNat = weightOf w c := by
  cases c <;> rfl

theorem addRec_ok {checks : Bool} {base recommended : HealthWeightsConfig} {reason : String}
    {recs recs' : List WeightAdjustment} {c : Component} :
    addRec checks base recommended reason recs c = .ok recs' ↔
      ∃ added, significant checks (byteOf base c) (byteOf recommended c) = .ok added ∧
        recs' = recs ++ if added then [adjustment base recommended reason c] else [] := by
  rw [addRec, bind_ok_iff]
  apply exists_congr
  intro added
  apply and_congr_right
  intro _
  cases added with
  | false =>
    rw [if_neg Bool.false_ne_true, if_neg Bool.false_ne_true, List.append_nil]
    exact ⟨fun h => (Except.ok.inj h).symm, fun h => congrArg Except.ok h.symm⟩
  | true =>
    rw [if_pos rfl, if_pos rfl]
    exact ⟨fun h => (Except.ok.inj h).symm, fun h => congrArg Except.ok h.symm⟩

theorem update_others {c : Component} {l : List Component} (hnew : c ∉ l)
    (added : Component → Bool) (one : Bool) :
    ∀ c' ∈ l, Function.update added c one c' = added c' := by
  intro c' hc'
  have hne : c' ≠ c := by
    rintro rfl
    exact hnew hc'
  exact Function.update_of_ne hne one added

theorem filter_update {c : Component} {l : List Component} (hnew : c ∉ l)
    (added : Component → Bool) (one : Bool) :
    (c :: l).filter (Function.update added c one) = (if one then [c] else []) ++ l.filter added := by
  rw [List.filter_cons, Function.update_self, List.filter_congr (update_others hnew added one)]
  cases one <;> rfl

theorem foldlM_addRec {checks : Bool} {base recommended : HealthWeightsConfig} {reason : String}
    {l : List Component} (hl : l.Nodup) (recs recs' : List WeightAdjustment) :
    l.foldlM (addRec checks base recommended reason) recs = .ok recs' ↔
      ∃ added : Component → Bool,
        (∀ c ∈ l, significant checks (byteOf base c) (byteOf recommended c) = .ok (added c)) ∧
        recs' = recs ++ (l.filter added).map (adjustment base recommended reason) := by
  induction l generalizing recs with
  | nil =>
    constructor
    · intro h
      cases h
      exact ⟨fun _ => false, fun _ hc => absurd hc List.not_mem_nil, (List.append_nil _).symm⟩
    · rintro ⟨added, -, rfl⟩
      rw [List.filter_nil, List.map_nil, List.append_nil]
      rfl
  | cons c l ih =>
    obtain ⟨hnew, hrest⟩ := List.nodup_cons.mp hl
    rw [List.foldlM_cons, bind_ok_iff]
    constructor
    · rintro ⟨middle, hfirst, hlater⟩
      obtain ⟨one, hone, rfl⟩ := addRec_ok.mp hfirst
      obtain ⟨added, hadded, rfl⟩ := (ih hrest _).mp hlater
      refine ⟨Function.update added c one, ?_, ?_⟩
      · intro c' hc'
        rcases List.mem_cons.mp hc' with rfl | hc'
        · rw [Function.update_self, hone]
        · rw [update_others hnew added one c' hc', hadded c' hc']
      · rw [filter_update hnew, List.map_append, List.append_assoc]
        cases one <;> rfl
    · rintro ⟨added, hadded, rfl⟩
      refine ⟨_, addRec_ok.mpr ⟨added c, hadded c List.mem_cons_self, rfl⟩, ?_⟩
      apply (ih hrest _).mpr
      refine ⟨added, fun c' hc' => hadded c' (List.mem_cons_of_mem c hc'), ?_⟩
      rw [List.filter_cons, List.append_assoc]
      cases added c <;> rfl

theorem mem_metricOrder : ∀ c, c ∈ metricOrder := by decide

theorem mem_adjustments {base w : HealthWeightsConfig} (added : Component → Bool)
    (reason : String) (c : Component) :
    (∃ r ∈ (metricOrder.filter added).map (adjustment base w reason), r.metric = metricName c) ↔
      added c = true := by
  constructor
  · rintro ⟨r, hr, hname⟩
    obtain ⟨c', hc', rfl⟩ := List.mem_map.mp hr
    rw [← metricName_inj c' c hname]
    exact (List.mem_filter.mp hc').2
  · intro hadded
    exact ⟨_, List.mem_map_of_mem (List.mem_filter.mpr ⟨mem_metricOrder c, hadded⟩), rfl⟩

section

variable (fl : ℚ → ℚ) (order : Shuffle CorrelationEntry)

/-- Nothing overflows, and the recommendations are those of the metrics whose
weights are more than three apart. -/
def ListsSignificant (base : HealthWeightsConfig) (ms : List Metrics) : Prop :=
  ∃ w recs, (∀ checks, computeWeights fl order checks (recorded fl base ms) = .ok w) ∧
    (∀ checks, recommendations fl order checks (recorded fl base ms) = .ok recs) ∧
    ∀ c, (∃ r ∈ recs, r.metric = metricName c) ↔
      3 < |(weightOf w c : ℤ) - weightOf base c|

/-- The tuned weight of a metric: its base weight where nothing is learned. -/
def tunedWeight (base : HealthWeightsConfig) (ms : List Metrics) (c : Component) : ℕ :=
  let sum := visitedSum fl order (correlations fl ms)
  if sum < fl (1 / 100) then weightOf base c
  else
    let share := blended fl (weights base c) (total base) (fl (correlation fl ms c / sum))
    min (roundHalfAway (fl (share * 100))).toNat 255

variable {base : HealthWeightsConfig} (hpos : 1 ≤ total base) (hle : total base ≤ 255)
  {ms : List Metrics} (hms : 3 ≤ ms.length)

include hpos hle hms

theorem computeWeights_recorded :
    ∃ w, (∀ checks, computeWeights fl order checks (recorded fl base ms) = .ok w) ∧
      ∀ c, weightOf w c = tunedWeight fl order base ms c := by
  have hshares := fun checks => blendedShares_recorded fl hpos hle order checks ms
  have hbase := (recorded_counts fl base ms).1
  by_cases hsmall : visitedSum fl order (correlations fl ms) < fl (1 / 100)
  · refine ⟨base, ?_, fun c => by rw [tunedWeight, if_pos hsmall]⟩
    intro checks
    have hnone := hshares checks
    rw [if_pos (.inr hsmall)] at hnone
    rw [computeWeights, hnone, hbase]
    rfl
  · refine ⟨blendedWeights fl (fun c => blended fl (weights base c) (total base)
      (fl (correlation fl ms c / visitedSum fl order (correlations fl ms)))), ?_, ?_⟩
    · intro checks
      have hsome := hshares checks
      rw [if_neg (not_or.mpr ⟨by omega, hsmall⟩)] at hsome
      rw [computeWeights, hsome]
      rfl
    · intro c
      rw [weightOf_blendedWeights, tunedWeight, if_neg hsmall, blendWeight, toU8_toNat]

omit hpos hle in
theorem recommendations_recorded {checks : Bool} {w : HealthWeightsConfig}
    (hw : computeWeights fl order checks (recorded fl base ms) = .ok w) :
    recommendations fl order checks (recorded fl base ms) =
      metricOrder.foldlM
        (addRec checks base w ("Based on " ++ toString ms.length ++ " observed failovers")) [] := by
  obtain ⟨hbase, hcount⟩ := recorded_counts fl base ms
  rw [recommendations, hcount, hbase, if_neg (by omega), hw]
  rfl

omit hpos hle in
theorem listsSignificant_iff_tests {w : HealthWeightsConfig}
    (hw : ∀ checks, computeWeights fl order checks (recorded fl base ms) = .ok w) :
    ListsSignificant fl order base ms ↔
      ∀ c checks, significant checks (byteOf base c) (byteOf w c) =
      .ok (decide (3 < |(weightOf w c : ℤ) - weightOf base c|)) := by
  have hrecs := fun checks => recommendations_recorded fl order hms (hw checks)
  constructor
  · rintro ⟨w', recs, hw', hlist, hexact⟩ c checks
    cases (hw checks).symm.trans (hw' checks)
    have hfold := hlist checks
    rw [hrecs checks, foldlM_addRec (by decide)] at hfold
    obtain ⟨added, hadded, rfl⟩ := hfold
    simp only [List.nil_append] at hexact
    have hiff := (mem_adjustments added _ c).symm.trans (hexact c)
    rw [hadded c (mem_metricOrder c)]
    exact congrArg Except.ok (Bool.eq_iff_iff.mpr (hiff.trans decide_eq_true_iff.symm))
  · intro htests
    refine ⟨w, (metricOrder.filter (fun c => decide (3 < |(weightOf w c : ℤ) - weightOf base c|))).map
      (adjustment base w ("Based on " ++ toString ms.length ++ " observed failovers")), hw, ?_, ?_⟩
    · intro checks
      rw [hrecs checks, foldlM_addRec (by decide)]
      exact ⟨_, fun c _ => htests c checks, (List.nil_append _).symm⟩
    · intro c
      rw [mem_adjustments, decide_eq_true_eq]

end

/-- Whatever the rounding and the order of the sum, after three failovers or
more the recommendations are right exactly when every tuned weight fits a signed
byte or lies far enough, but not too far, above its base weight. -/
theorem listsSignificant_iff (fl : ℚ → ℚ) (order : Shuffle CorrelationEntry)
    (base : HealthWeightsConfig) (hbase : ∀ c, weightOf base c ≤ 100) (hpos : 1 ≤ total base)
    (hle : total base ≤ 255) (ms : List Metrics) (hms : 3 ≤ ms.length) :
    ListsSignificant fl order base ms ↔ ∀ c, tunedWeight fl order base ms c ≤ 127 ∨
      weightOf base c + 129 ≤ tunedWeight fl order base ms c ∧
        tunedWeight fl order base ms c ≤ weightOf base c + 252 := by
  obtain ⟨w, hw, htuned⟩ := computeWeights_recorded fl order hpos hle hms
  rw [listsSignificant_iff_tests fl order hms hw]
  apply forall_congr'
  intro c
  rw [← htuned c, ← byteOf_toNat, ← byteOf_toNat]
  apply significant_iff
  rw [byteOf_toNat]
  exact hbase c

/-- Everything is as bad as can be but for a throughput of 47.5 Mbps. -/
def slowerLink : Metrics
  | .rtt => 500
  | .jitter => 100
  | .loss => 20
  | .throughput => 95 / 2
  | .stability => 10

theorem listsSignificant_iff_slower :
    ListsSignificant binary64 (.id _) .default [slowerLink, slowerLink, slowerLink] ↔
      ∀ c, tunedWeight binary64 (.id _) .default [slowerLink, slowerLink, slowerLink] c ≤ 127 ∨
        weightOf .default c + 129 ≤
            tunedWeight binary64 (.id _) .default [slowerLink, slowerLink, slowerLink] c ∧
          tunedWeight binary64 (.id _) .default [slowerLink, slowerLink, slowerLink] c ≤
            weightOf .default c + 252 :=
  listsSignificant_iff binary64 (.id _) .default (by decide) (by decide) (by decide) _ (by decide)

/-- The weight of the round trip time is tuned to 141, which is less than zero
as a signed byte. -/
theorem slower_overflows :
    ¬ ListsSignificant binary64 (.id _) .default [slowerLink, slowerLink, slowerLink] := by
  rintro ⟨w, recs, -, hlist, -⟩
  have hchecked : (recommendations binary64 (.id _) true
      (recorded binary64 .default [slowerLink, slowerLink, slowerLink])).isOk = false := by
    decide +kernel
  rw [hlist true] at hchecked
  cases hchecked

/-- Where the rounding decides: without it the weight of the loss is far enough
above its base weight, and with it too near. -/
def nearlyLost : Metrics
  | .rtt => 500
  | .jitter => 100
  | .loss => 637 / 32
  | .throughput => 2825 / 64
  | .stability => 10

example :
    tunedWeight id (.id _) .default [nearlyLost, nearlyLost, nearlyLost] .loss = 154 ∧
      tunedWeight binary64 (.id _) .default [nearlyLost, nearlyLost, nearlyLost] .loss = 153 := by
  decide +kernel

end Netfusion.Core.AdaptiveRecommendations
