import Mathlib.Algebra.BigOperators.Field
import Netfusion.Lib.Rounding
import Netfusion.Core.CompositeScore

namespace Netfusion.Core.Adaptive

open Netfusion.Lib.Averages Netfusion.Lib.Collections Netfusion.Lib.Rounding Netfusion.Lib.Fallible
open Netfusion.Core.Health (HealthWeightsConfig Panic totalWeight)
open Netfusion.Core.CompositeScore

section

-- Every operation on numbers rounds its exact result. With the identity for the
-- rounding the arithmetic is exact.
variable (fl : ℚ → ℚ)

/-- From 100 at the ideal value down to 0 at the worst, between them by the part
of the way that is gone. -/
def falling (ideal worst value gone : ℚ) : ℚ :=
  if value ≤ ideal then 100
  else if value ≥ worst then 0
  else fl (100 * fl (1 - gone))

def normalizeRtt (rttMs : ℚ) : ℚ := falling fl 5 500 rttMs (fl (fl (rttMs - 5) / 495))
def normalizeJitter (jitterMs : ℚ) : ℚ := falling fl 1 100 jitterMs (fl (fl (jitterMs - 1) / 99))
def normalizeLoss (lossPct : ℚ) : ℚ := falling fl 0 20 lossPct (fl (lossPct / 20))
def normalizeThroughput (mbps : ℚ) : ℚ := min (fl (fl (mbps / 1000) * 100)) 100
def normalizeStability (stateChanges : ℚ) : ℚ :=
  falling fl 0 10 stateChanges (fl (stateChanges / 10))

def normalize : Component → ℚ → ℚ
  | .rtt => normalizeRtt fl
  | .jitter => normalizeJitter fl
  | .loss => normalizeLoss fl
  | .throughput => normalizeThroughput fl
  | .stability => normalizeStability fl

abbrev Metrics := Component → ℚ

structure AdaptiveWeights where
  baseWeights : HealthWeightsConfig
  metricCorrelations : HashMap Component ℚ
  observedFailovers : Nat

def AdaptiveWeights.new (baseWeights : HealthWeightsConfig) : AdaptiveWeights :=
  ⟨baseWeights, ∅, 0⟩

def amount (ordinal : Nat) (c : Component) (value : ℚ) : ℚ :=
  fl (fl (1 - normalize fl c value) / fl ordinal)

def correlate (m : Metrics) (ordinal : Nat) (correlations : HashMap Component ℚ) (c : Component) :
    HashMap Component ℚ :=
  correlations.insert c (fl ((correlations.lookup c).getD 0 + amount fl ordinal c (m c)))

def metricOrder : List Component := [.rtt, .jitter, .loss, .throughput, .stability]

def recordFailover (t : AdaptiveWeights) (m : Metrics) : AdaptiveWeights :=
  let ordinal := t.observedFailovers + 1
  { t with
    observedFailovers := ordinal
    metricCorrelations := metricOrder.foldl (correlate fl m ordinal) t.metricCorrelations }

abbrev CorrelationEntry := Sigma (fun _ : Component => ℚ)

def visitedSum (order : Shuffle CorrelationEntry) (entries : List CorrelationEntry) : ℚ :=
  (order.run entries).foldl (fun sum e => fl (sum + e.2)) 0

def totalCorrelation (order : Shuffle CorrelationEntry) (t : AdaptiveWeights) : ℚ :=
  visitedSum fl order t.metricCorrelations.entries

def factor (order : Shuffle CorrelationEntry) (t : AdaptiveWeights) (c : Component) : ℚ :=
  fl ((t.metricCorrelations.lookup c).getD (fl (2 / 10)) / totalCorrelation fl order t)

def blend : ℚ := fl (3 / 10)

def blended (base totalBase learned : ℚ) : ℚ :=
  fl (fl (fl (base / totalBase) * fl (1 - blend fl)) + fl (learned * blend fl))

/-- The shares of the metrics, before they are scaled and rounded to bytes.
There are none where the base weights are to be used. -/
def blendedShares (order : Shuffle CorrelationEntry) (checks : Bool) (t : AdaptiveWeights) :
    Except Panic (Option (Component → ℚ)) :=
  if t.observedFailovers < 3 then .ok none
  else if totalCorrelation fl order t < fl (1 / 100) then .ok none
  else do
    let totalBase ← totalWeight checks t.baseWeights.rtt t.baseWeights.jitter t.baseWeights.loss
      t.baseWeights.throughput t.baseWeights.stability
    if totalBase.toNat = 0 then return none
    return some (fun c =>
      blended fl (weights t.baseWeights c) totalBase.toNat (factor fl order t c))

def blendWeight (share : ℚ) : UInt8 := toU8 (roundHalfAway (fl (share * 100)))

def blendedWeights (share : Component → ℚ) : HealthWeightsConfig :=
  ⟨blendWeight fl (share .rtt), blendWeight fl (share .jitter), blendWeight fl (share .loss),
    blendWeight fl (share .throughput), blendWeight fl (share .stability)⟩

def computeWeights (order : Shuffle CorrelationEntry) (checks : Bool) (t : AdaptiveWeights) :
    Except Panic HealthWeightsConfig := do
  match ← blendedShares fl order checks t with
  | none => return t.baseWeights
  | some share => return blendedWeights fl share

def recorded (base : HealthWeightsConfig) (ms : List Metrics) : AdaptiveWeights :=
  ms.foldl (recordFailover fl) (.new base)

/-- What the failovers add up to for a metric, the later ones counting less. -/
def correlation (ms : List Metrics) (c : Component) : ℚ :=
  ms.zipIdx.foldl (fun sum x => fl (sum + amount fl (x.2 + 1) c (x.1 c))) 0

def correlations (ms : List Metrics) : List CorrelationEntry :=
  metricOrder.reverse.map (fun c => ⟨c, correlation fl ms c⟩)

theorem weightOf_blendedWeights (share : Component → ℚ) (c : Component) :
    weightOf (blendedWeights fl share) c = (blendWeight fl (share c)).toNat := by
  cases c <;> rfl

theorem recorded_concat (base : HealthWeightsConfig) (ms : List Metrics) (m : Metrics) :
    recorded fl base (ms ++ [m]) = recordFailover fl (recorded fl base ms) m := by
  rw [recorded, List.foldl_append]
  rfl

theorem correlation_concat (ms : List Metrics) (m : Metrics) (c : Component) :
    correlation fl (ms ++ [m]) c =
      fl (correlation fl ms c + amount fl (ms.length + 1) c (m c)) := by
  simp [correlation, List.zipIdx_append]

theorem recorded_counts (base : HealthWeightsConfig) (ms : List Metrics) :
    (recorded fl base ms).baseWeights = base ∧
      (recorded fl base ms).observedFailovers = ms.length := by
  induction ms using List.reverseRecOn with
  | nil => exact ⟨rfl, rfl⟩
  | append_singleton ms m ih =>
    rw [recorded_concat, recordFailover, List.length_append]
    exact ⟨ih.1, congrArg (· + 1) ih.2⟩

theorem correlate_entries (m : Metrics) (ordinal : Nat) (before : Component → ℚ)
    (known : HashMap Component ℚ)
    (h : known.entries = metricOrder.reverse.map (fun c => ⟨c, before c⟩)) :
    (metricOrder.foldl (correlate fl m ordinal) known).entries =
      metricOrder.reverse.map (fun c => ⟨c, fl (before c + amount fl ordinal c (m c))⟩) := by
  obtain ⟨entries, hnodup⟩ := known
  cases h
  rfl

theorem recorded_entries (base : HealthWeightsConfig) {ms : List Metrics} (h : ms ≠ []) :
    (recorded fl base ms).metricCorrelations.entries = correlations fl ms := by
  induction ms using List.reverseRecOn with
  | nil => exact absurd rfl h
  | append_singleton ms m ih =>
    have hstep : (recorded fl base (ms ++ [m])).metricCorrelations =
        metricOrder.foldl (correlate fl m (ms.length + 1))
          (recorded fl base ms).metricCorrelations := by
      rw [recorded_concat, recordFailover, (recorded_counts fl base ms).2]
    rw [hstep, correlations]
    simp only [correlation_concat]
    by_cases hms : ms = []
    · cases hms
      rfl
    · exact correlate_entries fl m _ _ _ (ih hms)

theorem recorded_lookup (base : HealthWeightsConfig) {ms : List Metrics} (h : ms ≠ [])
    (c : Component) :
    (recorded fl base ms).metricCorrelations.lookup c = some (correlation fl ms c) := by
  rw [AList.lookup, recorded_entries fl base h]
  cases c <;> rfl

variable {base : HealthWeightsConfig} (hpos : 1 ≤ total base) (hle : total base ≤ 255)

include hpos hle

theorem blendedShares_recorded (order : Shuffle CorrelationEntry) (checks : Bool)
    (ms : List Metrics) :
    blendedShares fl order checks (recorded fl base ms) =
      .ok (if ms.length < 3 ∨ visitedSum fl order (correlations fl ms) < fl (1 / 100) then none
        else some (fun c => blended fl (weights base c) (total base)
          (fl (correlation fl ms c / visitedSum fl order (correlations fl ms))))) := by
  obtain ⟨hbase, hcount⟩ := recorded_counts fl base ms
  rw [blendedShares, hcount]
  by_cases hfew : ms.length < 3
  · rw [if_pos hfew, if_pos (.inl hfew)]
  · have hne : ms ≠ [] := by
      rintro rfl
      exact hfew (by decide)
    rw [if_neg hfew, totalCorrelation, recorded_entries fl base hne]
    by_cases hsmall : visitedSum fl order (correlations fl ms) < fl (1 / 100)
    · rw [if_pos hsmall, if_pos (.inr hsmall)]
    · obtain ⟨t, ht, hmod⟩ := totalWeight_ok checks base (fun _ => hle)
      have htotal : t.toNat = total base := by omega
      rw [if_neg hsmall, if_neg (not_or.mpr ⟨hfew, hsmall⟩), hbase, ht]
      simp only [bind, Except.bind]
      rw [htotal, if_neg (by omega)]
      simp only [factor, totalCorrelation, recorded_entries fl base hne, recorded_lookup fl base hne,
        Option.getD_some]
      rfl

end

def line (ideal worst value : ℚ) : ℚ :=
  falling id ideal worst value ((value - ideal) / (worst - ideal))

theorem line_eq (ideal worst value : ℚ) :
    line ideal worst value =
      if value ≤ ideal then 100
      else if value ≥ worst then 0
      else 100 * (1 - (value - ideal) / (worst - ideal)) := rfl

theorem normalizeRtt_exact (rttMs : ℚ) : normalizeRtt id rttMs = line 5 500 rttMs := by
  have hspan : (500 : ℚ) - 5 = 495 := by norm_num
  rw [line, hspan]
  rfl

theorem normalizeJitter_exact (jitterMs : ℚ) :
    normalizeJitter id jitterMs = line 1 100 jitterMs := by
  have hspan : (100 : ℚ) - 1 = 99 := by norm_num
  rw [line, hspan]
  rfl

theorem normalizeLoss_exact (lossPct : ℚ) : normalizeLoss id lossPct = line 0 20 lossPct := by
  rw [line, sub_zero, sub_zero]
  rfl

theorem normalizeStability_exact (stateChanges : ℚ) :
    normalizeStability id stateChanges = line 0 10 stateChanges := by
  rw [line, sub_zero, sub_zero]
  rfl

theorem normalizeThroughput_exact (mbps : ℚ) :
    normalizeThroughput id mbps = min (mbps / 1000 * 100) 100 := rfl

theorem normalize_exact (c : Component) (value : ℚ) :
    normalize id c value =
      match c with
      | .rtt => line 5 500 value
      | .jitter => line 1 100 value
      | .loss => line 0 20 value
      | .throughput => min (value / 1000 * 100) 100
      | .stability => line 0 10 value := by
  cases c with
  | rtt => exact normalizeRtt_exact value
  | jitter => exact normalizeJitter_exact value
  | loss => exact normalizeLoss_exact value
  | throughput => exact normalizeThroughput_exact value
  | stability => exact normalizeStability_exact value

theorem correlation_exact (ms : List Metrics) (c : Component) :
    correlation id ms c = harmonicSum (ms.map (fun m => 1 - normalize id c (m c))) := by
  induction ms using List.reverseRecOn with
  | nil => rfl
  | append_singleton ms m ih =>
    rw [correlation_concat, List.map_append, List.map_singleton, harmonicSum_concat, ih,
      List.length_map, amount]
    push_cast
    rfl

theorem visitedSum_exact (order : Shuffle CorrelationEntry) (ms : List Metrics) :
    visitedSum id order (correlations id ms) = ∑ c, correlation id ms c := by
  have hsum : visitedSum id order (correlations id ms) =
      ((order.run (correlations id ms)).map (fun e => e.2)).sum := by
    rw [List.sum_eq_foldl, List.foldl_map]
    rfl
  rw [hsum, ((order.perm (correlations id ms)).map _).sum_eq, sum_components]
  simp only [correlations, metricOrder, List.reverse_cons, List.reverse_nil, List.nil_append,
    List.cons_append, List.map_cons, List.map_nil, List.sum_cons,
    List.sum_nil]
  ring

theorem blendedShares_exact {base : HealthWeightsConfig} (hpos : 1 ≤ total base)
    (hle : total base ≤ 255) (order : Shuffle CorrelationEntry) (checks : Bool)
    (ms : List Metrics) :
    blendedShares id order checks (recorded id base ms) =
      .ok (if ms.length < 3 ∨ ∑ c, correlation id ms c < 1 / 100 then none
        else some (fun c => weights base c / total base * (1 - 3 / 10) +
          correlation id ms c / (∑ c, correlation id ms c) * (3 / 10))) := by
  rw [blendedShares_recorded id hpos hle, visitedSum_exact]
  rfl

theorem line_nonneg {ideal worst : ℚ} (h : ideal < worst) (value : ℚ) :
    0 ≤ line ideal worst value := by
  rw [line_eq]
  split
  · norm_num
  · split
    · exact le_refl 0
    · rename_i hideal hworst
      have hfrac : (value - ideal) / (worst - ideal) ≤ 1 := by
        rw [div_le_one (sub_pos.mpr h)]
        linarith
      linarith

theorem line_le_one_iff {ideal worst : ℚ} (h : ideal < worst) (value : ℚ) :
    line ideal worst value ≤ 1 ↔ ideal + 99 / 100 * (worst - ideal) ≤ value := by
  have hspan : 0 < worst - ideal := sub_pos.mpr h
  rw [line_eq]
  split
  · rename_i hideal
    constructor
    · intro hle
      norm_num at hle
    · intro hle
      linarith
  · split
    · rename_i hworst
      apply iff_of_true (by norm_num)
      linarith
    · have hscale : 100 * (1 - (value - ideal) / (worst - ideal)) ≤ 1 ↔
          99 / 100 ≤ (value - ideal) / (worst - ideal) := by
        constructor <;> intro <;> linarith
      rw [hscale, le_div_iff₀ hspan]
      constructor <;> intro <;> linarith

/-- The metric is in the last hundredth of its range. -/
def NearWorst : Component → ℚ → Prop
  | .rtt, rttMs => 495 + 5 / 100 ≤ rttMs
  | .jitter, jitterMs => 99 + 1 / 100 ≤ jitterMs
  | .loss, lossPct => 19 + 8 / 10 ≤ lossPct
  | .throughput, mbps => mbps ≤ 10
  | .stability, stateChanges => 9 + 9 / 10 ≤ stateChanges

theorem normalize_le_one_iff (c : Component) (value : ℚ) :
    normalize id c value ≤ 1 ↔ NearWorst c value := by
  cases c with
  | throughput =>
    rw [normalize_exact, min_le_iff, NearWorst]
    constructor
    · rintro (hle | hle)
      · linarith
      · norm_num at hle
    · intro hle
      left
      linarith
  | _ =>
    rw [normalize_exact]
    refine (line_le_one_iff (by norm_num) value).trans ?_
    norm_num [NearWorst]

theorem normalize_nonneg (c : Component) {value : ℚ} (h : 0 ≤ value) :
    0 ≤ normalize id c value := by
  rw [normalize_exact]
  cases c with
  | throughput => exact le_min (by positivity) (by norm_num)
  | _ => exact line_nonneg (by norm_num) value

theorem correlation_nonneg {ms : List Metrics} {c : Component}
    (h : ∀ m ∈ ms, normalize id c (m c) ≤ 1) : 0 ≤ correlation id ms c := by
  rw [correlation_exact]
  apply harmonicSum_nonneg
  intro x hx
  obtain ⟨m, hm, rfl⟩ := List.mem_map.mp hx
  exact sub_nonneg.mpr (h m hm)

theorem blendWeight_near {x : ℚ} (hx : 0 ≤ x) (hle : x ≤ 1) :
    |((blendWeight id x).toNat : ℚ) - x * 100| ≤ 1 / 2 := by
  obtain ⟨hzero, hfull⟩ := roundHalfAway_mem (x := x * 100) (n := 100) (by linarith) (by
    push_cast
    linarith)
  have hcast : ((blendWeight id x).toNat : ℤ) = roundHalfAway (x * 100) := by
    rw [blendWeight, toU8_toNat, id_eq]
    omega
  have hcastQ : ((blendWeight id x).toNat : ℚ) = (roundHalfAway (x * 100) : ℚ) := by
    exact_mod_cast hcast
  rw [hcastQ]
  exact abs_roundHalfAway_sub _

theorem sum_blendWeight {share : Component → ℚ} (h : ∀ c, 0 ≤ share c) (hsum : ∑ c, share c = 1) :
    97 ≤ ∑ c, (blendWeight id (share c)).toNat ∧ ∑ c, (blendWeight id (share c)).toNat ≤ 103 := by
  have hround : ∀ c, |((blendWeight id (share c)).toNat : ℚ) - share c * 100| ≤ 1 / 2 := by
    intro c
    apply blendWeight_near (h c)
    rw [← hsum]
    exact Finset.single_le_sum (fun c _ => h c) (Finset.mem_univ c)
  have hrtt := abs_le.mp (hround .rtt)
  have hjitter := abs_le.mp (hround .jitter)
  have hloss := abs_le.mp (hround .loss)
  have hthroughput := abs_le.mp (hround .throughput)
  have hstability := abs_le.mp (hround .stability)
  rw [sum_components] at hsum ⊢
  constructor
  · have hge : (97 : ℚ) ≤ ((blendWeight id (share .rtt)).toNat +
        (blendWeight id (share .jitter)).toNat +
        (blendWeight id (share .loss)).toNat + (blendWeight id (share .throughput)).toNat +
        (blendWeight id (share .stability)).toNat : ℕ) := by
      push_cast
      linarith [hrtt.1, hjitter.1, hloss.1, hthroughput.1, hstability.1]
    exact_mod_cast hge
  · have hle : ((blendWeight id (share .rtt)).toNat + (blendWeight id (share .jitter)).toNat +
        (blendWeight id (share .loss)).toNat + (blendWeight id (share .throughput)).toNat +
        (blendWeight id (share .stability)).toNat : ℕ) ≤ (103 : ℚ) := by
      push_cast
      linarith [hrtt.2, hjitter.2, hloss.2, hthroughput.2, hstability.2]
    exact_mod_cast hle

def correlated (base : HealthWeightsConfig) (ms : List Metrics) (c : Component) : ℚ :=
  ((recorded id base ms).metricCorrelations.lookup c).getD 0

/-- Each failover adds a fraction to every metric, and tuned weights add up to
100 or nearly so. -/
structure ProperWeighting (order : Shuffle CorrelationEntry) (checks : Bool)
    (base : HealthWeightsConfig) (ms : List Metrics) :
    Prop where
  amounts : ∀ pre m post, ms = pre ++ m :: post → ∀ c,
    correlated base (pre ++ [m]) c - correlated base pre c ∈ Set.Icc 0 (1 / (pre.length + 1 : ℚ))
  sum : ∀ share, blendedShares id order checks (recorded id base ms) = .ok (some share) →
    ∃ w, computeWeights id order checks (recorded id base ms) = .ok w ∧ 97 ≤ total w ∧ total w ≤ 103

theorem correlated_eq (base : HealthWeightsConfig) (ms : List Metrics) (c : Component) :
    correlated base ms c = correlation id ms c := by
  rcases eq_or_ne ms [] with rfl | hne
  · rfl
  · rw [correlated, recorded_lookup id base hne]
    rfl

theorem amount_mem_iff (base : HealthWeightsConfig) (pre : List Metrics) (m : Metrics)
    (c : Component) (hm : 0 ≤ m c) :
    correlated base (pre ++ [m]) c - correlated base pre c ∈ Set.Icc 0 (1 / (pre.length + 1 : ℚ)) ↔
      normalize id c (m c) ≤ 1 := by
  have hamount : correlated base (pre ++ [m]) c - correlated base pre c =
      (1 - normalize id c (m c)) / (pre.length + 1) := by
    rw [correlated_eq, correlated_eq, correlation_concat, id_eq, add_sub_cancel_left, amount]
    push_cast
    rfl
  have hord : (0 : ℚ) < pre.length + 1 := by positivity
  have hnonneg := normalize_nonneg c hm
  rw [hamount, Set.mem_Icc, le_div_iff₀ hord, zero_mul, div_le_div_iff_of_pos_right hord]
  constructor
  · rintro ⟨hle, -⟩
    linarith
  · intro hle
    constructor <;> linarith

theorem computeWeights_of_shares {checks : Bool} {t : AdaptiveWeights} {share : Component → ℚ}
    (h : blendedShares id order checks t = .ok (some share)) :
    ∃ w, computeWeights id order checks t = .ok w ∧
      total w = ∑ c, (blendWeight id (share c)).toNat := by
  rw [computeWeights, h]
  refine ⟨_, rfl, ?_⟩
  rw [total, sum_components, sum_components]
  rfl

/-- The tuned weights are a proper weighting exactly when every metric is in
the last hundredth of its range at every failover, as the normalized values
are on a scale up to 100 and not to 1. -/
theorem tuned_weights_proper_iff (order : Shuffle CorrelationEntry) (checks : Bool)
    (base : HealthWeightsConfig) (hpos : 1 ≤ total base) (hle : total base ≤ 255)
    (ms : List Metrics) (hms : ∀ m ∈ ms, ∀ c, 0 ≤ m c) :
    ProperWeighting order checks base ms ↔ ∀ m ∈ ms, ∀ c, NearWorst c (m c) := by
  simp only [← normalize_le_one_iff]
  constructor
  · rintro ⟨hamounts, -⟩ m hm c
    obtain ⟨pre, post, hsplit⟩ := List.append_of_mem hm
    exact (amount_mem_iff base pre m c (hms m hm c)).mp (hamounts pre m post hsplit c)
  · intro hworst
    constructor
    · rintro pre m post rfl c
      have hm : m ∈ pre ++ m :: post := by simp
      exact (amount_mem_iff base pre m c (hms m hm c)).mpr (hworst m hm c)
    · intro share hshare
      obtain ⟨w, hw, htotal⟩ := computeWeights_of_shares hshare
      rw [blendedShares_exact hpos hle order] at hshare
      split at hshare
      · cases hshare
      · rename_i hlearned
        have hsmall : 0 < ∑ c, correlation id ms c := by
          have hnot := not_or.mp hlearned
          linarith [hnot.2]
        have htotalBase : (0 : ℚ) < total base := Nat.cast_pos.mpr hpos
        cases hshare
        refine ⟨w, hw, ?_⟩
        rw [htotal]
        apply sum_blendWeight
        · intro c
          have hcorr : 0 ≤ correlation id ms c := correlation_nonneg (fun m hm => hworst m hm c)
          have hbase := weights_nonneg base c
          positivity
        · rw [Finset.sum_add_distrib, ← Finset.sum_mul, ← Finset.sum_mul, ← Finset.sum_div,
            ← Finset.sum_div, sum_weights, div_self htotalBase.ne', div_self hsmall.ne']
          norm_num

/-- Everything is as bad as can be but for a throughput of 45 Mbps. -/
def slowAndLossy : Metrics
  | .rtt => 500
  | .jitter => 100
  | .loss => 20
  | .throughput => 45
  | .stability => 10

theorem slowAndLossy_nonneg : ∀ m ∈ [slowAndLossy, slowAndLossy, slowAndLossy], ∀ c, 0 ≤ m c := by
  intro m hm c
  simp only [List.mem_cons, List.not_mem_nil, or_false, or_self] at hm
  rw [hm]
  cases c <;> norm_num [slowAndLossy]

/-- The throughput takes 3.5 off for every 4 that the others bring, so these
are blown up until the tuned weights add up to 300. -/
theorem tuned_weights_overflow :
    (∀ m ∈ [slowAndLossy, slowAndLossy, slowAndLossy], ∀ c, 0 ≤ m c) ∧
    ¬ ProperWeighting (.id _) true .default [slowAndLossy, slowAndLossy, slowAndLossy] := by
  refine ⟨slowAndLossy_nonneg, ?_⟩
  rintro ⟨-, hsum⟩
  have htuned : (blendedShares id (.id _) true (recorded id .default
      [slowAndLossy, slowAndLossy, slowAndLossy])).map Option.isSome = .ok true := by
    decide +kernel
  have htotal : (computeWeights id (.id _) true (recorded id .default
      [slowAndLossy, slowAndLossy, slowAndLossy])).map total = .ok 300 := by
    decide +kernel
  cases hshare : blendedShares id (.id _) true (recorded id .default
      [slowAndLossy, slowAndLossy, slowAndLossy]) with
  | error e =>
    rw [hshare] at htuned
    cases htuned
  | ok share? =>
    cases share? with
    | none =>
      rw [hshare] at htuned
      cases htuned
    | some share =>
      obtain ⟨w, hw, -, hle⟩ := hsum share hshare
      rw [hw] at htotal
      have h300 : total w = 300 := Except.ok.inj htotal
      omega

theorem tuned_weights_proper_iff_slow :
    ProperWeighting (.id _) true .default [slowAndLossy, slowAndLossy, slowAndLossy] ↔
      ∀ m ∈ [slowAndLossy, slowAndLossy, slowAndLossy], ∀ c, NearWorst c (m c) :=
  tuned_weights_proper_iff (.id _) true .default (by decide) (by decide) _ slowAndLossy_nonneg

/-- At or beyond the value that is normalized to nothing. -/
def AtWorst : Component → ℚ → Prop
  | .rtt, rttMs => 500 ≤ rttMs
  | .jitter, jitterMs => 100 ≤ jitterMs
  | .loss, lossPct => 20 ≤ lossPct
  | .throughput, mbps => mbps ≤ 0
  | .stability, stateChanges => 10 ≤ stateChanges

/-- At or beyond the value that is normalized to the most. -/
def AtIdeal : Component → ℚ → Prop
  | .rtt, rttMs => rttMs ≤ 5
  | .jitter, jitterMs => jitterMs ≤ 1
  | .loss, lossPct => lossPct ≤ 0
  | .throughput, mbps => 1000 ≤ mbps
  | .stability, stateChanges => stateChanges ≤ 0

def Blames (c : Component) (m : Metrics) : Prop :=
  AtWorst c (m c) ∧ ∀ other, other ≠ c → AtIdeal other (m other)

/-- The metric gets more than its share of the base weights. -/
def Learns (order : Shuffle CorrelationEntry) (checks : Bool) (base : HealthWeightsConfig)
    (ms : List Metrics) (c : Component) : Prop :=
  ∃ share, blendedShares id order checks (recorded id base ms) = .ok (some share) ∧
    weights base c / total base < share c

/-- By how much negative throughputs, if there are any, outweigh the four ideal
metrics. -/
def excess (ms : List Metrics) : ℚ := harmonicSum (ms.map (fun m => -(m .throughput) / 10 - 395))

theorem line_ideal {ideal worst value : ℚ} (h : value ≤ ideal) : line ideal worst value = 100 :=
  if_pos h

theorem line_worst {ideal worst value : ℚ} (hspan : ideal < worst) (h : worst ≤ value) :
    line ideal worst value = 0 := by
  rw [line_eq, if_neg (by linarith), if_pos h]

theorem normalize_ideal {c : Component} {value : ℚ} (h : AtIdeal c value) :
    normalize id c value = 100 := by
  rw [normalize_exact]
  cases c with
  | throughput =>
    rw [AtIdeal] at h
    exact min_eq_right (by linarith)
  | _ => exact line_ideal h

theorem normalize_worst {c : Component} {value : ℚ} (h : AtWorst c value) :
    normalize id c value = if c = .throughput then value / 10 else 0 := by
  rw [normalize_exact]
  cases c with
  | throughput =>
    rw [AtWorst] at h
    rw [if_pos rfl, min_eq_left (by linarith)]
    ring
  | _ => exact line_worst (by norm_num) h

theorem sum_blamed {c : Component} {m : Metrics} (h : Blames c m) :
    ∑ other, (1 - normalize id other (m other)) =
      (if c = .throughput then -(m .throughput) / 10 else 0) - 395 := by
  obtain ⟨hworst, hideal⟩ := h
  have hrest : ∀ other, 1 - normalize id other (m other) =
      (if other = c then 100 - normalize id c (m c) else 0) - 99 := by
    intro other
    by_cases hother : other = c
    · rw [if_pos hother, hother]
      ring
    · rw [if_neg hother, normalize_ideal (hideal other hother)]
      norm_num
  rw [Finset.sum_congr rfl (fun other _ => hrest other), Finset.sum_sub_distrib,
    Finset.sum_ite_eq' Finset.univ c (fun _ => 100 - normalize id c (m c)), if_pos (Finset.mem_univ c),
    normalize_worst hworst]
  have hcount : ∑ _c : Component, (99 : ℚ) = 495 := by
    rw [sum_components]
    norm_num
  rw [hcount]
  by_cases hc : c = .throughput
  · rw [if_pos hc, if_pos hc, hc]
    ring
  · rw [if_neg hc, if_neg hc]
    ring

section

variable {c : Component} {ms : List Metrics} (hblames : ∀ m ∈ ms, Blames c m)

include hblames

theorem sum_correlation_blamed :
    ∑ other, correlation id ms other =
      if c = .throughput then excess ms else harmonicSum (ms.map (fun _ => -395)) := by
  have hterm : ∀ m ∈ ms, ∑ other, (1 - normalize id other (m other)) =
      (if c = .throughput then -(m .throughput) / 10 else 0) - 395 :=
    fun m hm => sum_blamed (hblames m hm)
  simp only [correlation_exact]
  rw [sum_harmonicSum ms (fun other m => 1 - normalize id other (m other)),
    List.map_congr_left hterm]
  split
  · rfl
  · simp only [zero_sub]

theorem correlation_spared {other : Component} (h : other ≠ c) : correlation id ms other ≤ 0 := by
  rw [correlation_exact]
  apply harmonicSum_nonpos
  intro x hx
  obtain ⟨m, hm, rfl⟩ := List.mem_map.mp hx
  rw [normalize_ideal ((hblames m hm).2 other h)]
  norm_num

theorem sum_le_blamed : ∑ other, correlation id ms other ≤ correlation id ms c := by
  rw [← Finset.add_sum_erase Finset.univ _ (Finset.mem_univ c)]
  have hrest : ∑ other ∈ Finset.univ.erase c, correlation id ms other ≤ 0 := by
    apply Finset.sum_nonpos
    intro other hother
    exact correlation_spared hblames (Finset.ne_of_mem_erase hother)
  linarith

end

theorem learns_iff_total (order : Shuffle CorrelationEntry) (checks : Bool)
    (base : HealthWeightsConfig) (hpos : 1 ≤ total base) (hle : total base ≤ 255) (c : Component)
    (hshare : weightOf base c < total base) (ms : List Metrics) (hmany : 3 ≤ ms.length)
    (hblames : ∀ m ∈ ms, Blames c m) :
    Learns order checks base ms c ↔ 1 / 100 ≤ ∑ other, correlation id ms other := by
  have htotal : (0 : ℚ) < total base := Nat.cast_pos.mpr hpos
  rw [Learns, blendedShares_exact hpos hle order]
  constructor
  · rintro ⟨share, hok, -⟩
    split at hok
    · cases hok
    · rename_i hnot
      exact not_lt.mp (not_or.mp hnot).2
  · intro hlarge
    rw [if_neg (not_or.mpr ⟨by omega, not_lt.mpr hlarge⟩)]
    refine ⟨_, rfl, ?_⟩
    have hS : 0 < ∑ other, correlation id ms other := by linarith
    have hfactor : 1 ≤ correlation id ms c / ∑ other, correlation id ms other := by
      rw [one_le_div hS]
      exact sum_le_blamed hblames
    have hbase : weights base c / total base < 1 := by
      rw [div_lt_one htotal]
      exact Nat.cast_lt.mpr hshare
    linarith

/-- With ideal metrics normalized to 100, each takes 99 off the total, so that
the tuner goes back to the base weights. Only throughputs far below zero make
up for it. -/
theorem learns_iff (order : Shuffle CorrelationEntry) (checks : Bool) (base : HealthWeightsConfig)
    (hpos : 1 ≤ total base) (hle : total base ≤ 255) (c : Component)
    (hshare : weightOf base c < total base) (ms : List Metrics) (hmany : 3 ≤ ms.length)
    (hblames : ∀ m ∈ ms, Blames c m) :
    Learns order checks base ms c ↔ c = .throughput ∧ 1 / 100 ≤ excess ms := by
  have hlearned := learns_iff_total order checks base hpos hle c hshare ms hmany hblames
  rw [hlearned, sum_correlation_blamed hblames]
  by_cases hc : c = .throughput
  · rw [if_pos hc]
    exact (and_iff_right hc).symm
  · rw [if_neg hc]
    apply iff_of_false
    · have hnonpos : harmonicSum (ms.map (fun _ => (-395 : ℚ))) ≤ 0 := by
        apply harmonicSum_nonpos
        intro x hx
        obtain ⟨m, -, rfl⟩ := List.mem_map.mp hx
        norm_num
      linarith
    · exact fun h => hc h.1

/-- Loss is as bad as can be, and everything else is ideal. -/
def lossOnly : Metrics
  | .rtt => 5
  | .jitter => 1
  | .loss => 20
  | .throughput => 1000
  | .stability => 0

theorem lossOnly_blames : Blames .loss lossOnly := by
  constructor
  · exact le_refl (20 : ℚ)
  · intro other hother
    cases other with
    | loss => exact absurd rfl hother
    | rtt => exact le_refl (5 : ℚ)
    | jitter => exact le_refl (1 : ℚ)
    | throughput => exact le_refl (1000 : ℚ)
    | stability => exact le_refl (0 : ℚ)

/-- After three such failovers the tuner still has the base weights. -/
theorem nothing_learned_from_loss :
    (∀ m ∈ [lossOnly, lossOnly, lossOnly], Blames .loss m) ∧
    ¬ Learns (.id _) true .default [lossOnly, lossOnly, lossOnly] .loss := by
  constructor
  · intro m hm
    simp only [List.mem_cons, List.not_mem_nil, or_false, or_self] at hm
    rw [hm]
    exact lossOnly_blames
  · rintro ⟨share, hshare, -⟩
    have hnone : (blendedShares id (.id _) true
        (recorded id .default [lossOnly, lossOnly, lossOnly])).map
        Option.isSome = .ok false := by decide +kernel
    rw [hshare] at hnone
    cases hnone

theorem learns_iff_loss :
    Learns (.id _) true .default [lossOnly, lossOnly, lossOnly] .loss ↔
      Component.loss = .throughput ∧ 1 / 100 ≤ excess [lossOnly, lossOnly, lossOnly] :=
  learns_iff (.id _) true .default (by decide) (by decide) .loss (by decide) _ (by decide) (by
    intro m hm
    simp only [List.mem_cons, List.not_mem_nil, or_false, or_self] at hm
    rw [hm]
    exact lossOnly_blames)

end Netfusion.Core.Adaptive
