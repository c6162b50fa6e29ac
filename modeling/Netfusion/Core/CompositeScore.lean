import Mathlib.Tactic.Positivity
import Netfusion.Lib.Averages
import Netfusion.Lib.Fallible
import Netfusion.Core.Health
import Netfusion.Shared.Validate

namespace Netfusion.Core.CompositeScore

open Netfusion.Lib.Averages Netfusion.Lib.Fallible
open Netfusion.Shared.Config Netfusion.Shared.Types
open Netfusion.Core.Health

inductive Component where
  | rtt | jitter | loss | throughput | stability
deriving DecidableEq

instance : Fintype Component where
  elems := {.rtt, .jitter, .loss, .throughput, .stability}
  complete := by rintro (_ | _) <;> decide

def weightOf (w : HealthWeightsConfig) : Component → Nat
  | .rtt => w.rtt.toNat
  | .jitter => w.jitter.toNat
  | .loss => w.loss.toNat
  | .throughput => w.throughput.toNat
  | .stability => w.stability.toNat

def total (w : HealthWeightsConfig) : Nat := ∑ c, weightOf w c

def weights (w : HealthWeightsConfig) (c : Component) : ℚ := weightOf w c

def scores (rttMs jitterMs lossPercent throughputMbps : ℚ) (stateChanges : UInt32) : Component → ℚ
  | .rtt => normalizeRtt rttMs
  | .jitter => normalizeJitter jitterMs
  | .loss => normalizeLoss lossPercent
  | .throughput => normalizeThroughput throughputMbps
  | .stability => normalizeStability stateChanges

theorem sum_components {A : Type} [AddCommMonoid A] (f : Component → A) :
    ∑ c, f c = f .rtt + f .jitter + f .loss + f .throughput + f .stability := by
  have huniv : (Finset.univ : Finset Component) =
      {.rtt, .jitter, .loss, .throughput, .stability} := rfl
  rw [huniv]
  simp [add_assoc]

theorem addU8_eq (checks : Bool) (a b : UInt8) (h : a.toNat + b.toNat < 256) :
    addU8 checks a b = .ok (a + b) ∧ (a + b).toNat = a.toNat + b.toNat := by
  constructor
  · rw [addU8, if_neg (by omega)]
  · rw [UInt8.toNat_add]
    omega

theorem totalWeight_ok (checks : Bool) (w : HealthWeightsConfig)
    (h : checks = true → total w ≤ 255) :
    ∃ t, totalWeight checks w.rtt w.jitter w.loss w.throughput w.stability = .ok t ∧
      t.toNat = total w % 256 := by
  rw [total, sum_components] at *
  simp only [weightOf] at *
  refine ⟨w.rtt + w.jitter + w.loss + w.throughput + w.stability, ?_, ?_⟩
  · cases checks with
    | false => rfl
    | true =>
      have hle := h rfl
      obtain ⟨h₁, n₁⟩ := addU8_eq true w.rtt w.jitter (by omega)
      obtain ⟨h₂, n₂⟩ := addU8_eq true (w.rtt + w.jitter) w.loss (by omega)
      obtain ⟨h₃, n₃⟩ := addU8_eq true (w.rtt + w.jitter + w.loss) w.throughput (by omega)
      obtain ⟨h₄, -⟩ := addU8_eq true (w.rtt + w.jitter + w.loss + w.throughput) w.stability
        (by omega)
      simp only [totalWeight, h₁, h₂, h₃, bind, Except.bind]
      exact h₄
  · simp only [UInt8.toNat_add]
    omega

theorem addU8_checked {a b t : UInt8} (h : addU8 true a b = .ok t) :
    t.toNat = a.toNat + b.toNat := by
  by_cases hsum : a.toNat + b.toNat < 256
  · obtain ⟨hok, hnat⟩ := addU8_eq true a b hsum
    rw [hok] at h
    cases h
    exact hnat
  · rw [addU8, if_pos ⟨rfl, by omega⟩] at h
    cases h

theorem totalWeight_checked {w : HealthWeightsConfig} {t : UInt8}
    (h : totalWeight true w.rtt w.jitter w.loss w.throughput w.stability = .ok t) :
    total w ≤ 255 := by
  rw [total, sum_components]
  simp only [weightOf]
  rw [totalWeight] at h
  obtain ⟨a, h₁, h⟩ := bind_ok_iff.mp h
  obtain ⟨b, h₂, h⟩ := bind_ok_iff.mp h
  obtain ⟨c, h₃, h₄⟩ := bind_ok_iff.mp h
  have hbound := t.toNat_lt
  have n₁ := addU8_checked h₁
  have n₂ := addU8_checked h₂
  have n₃ := addU8_checked h₃
  have n₄ := addU8_checked h₄
  omega

theorem clamp_mem (x : ℚ) : clamp x ∈ Set.Icc (0 : ℚ) 100 :=
  ⟨le_max_left _ _, max_le (by norm_num) (min_le_right _ _)⟩

theorem clamp_of_mem {x : ℚ} (h : x ∈ Set.Icc (0 : ℚ) 100) : clamp x = x := by
  rw [clamp, min_eq_left h.2, max_eq_right h.1]

theorem clamp_mono : Monotone clamp := by
  intro x y h
  exact max_le_max le_rfl (min_le_min h le_rfl)

theorem clamp_percent (t : ℚ) :
    clamp (t * 100) = if 1 ≤ t then 100 else if t ≤ 0 then 0 else t * 100 := by
  split
  · rename_i hone
    rw [clamp, min_eq_right (by linarith)]
    norm_num
  · split
    · rename_i hzero
      rw [clamp, min_eq_left (by linarith), max_eq_left (by linarith)]
    · rename_i hone hzero
      exact clamp_of_mem ⟨by linarith, by linarith⟩

theorem normalizeLinear_eq_clamp {ideal worst : ℚ} (h : ideal ≠ worst) (value : ℚ) :
    normalizeLinear value ideal worst = clamp ((value - worst) / (ideal - worst) * 100) := by
  rw [normalizeLinear, if_neg h, clamp_percent]
  split
  · rename_i hlt
    have hneg : ideal - worst < 0 := sub_neg.mpr hlt
    have hone : 1 ≤ (value - worst) / (ideal - worst) ↔ value ≤ ideal := by
      rw [one_le_div_of_neg hneg, sub_le_sub_iff_right]
    have hzero : (value - worst) / (ideal - worst) ≤ 0 ↔ worst ≤ value := by
      rw [div_le_iff_of_neg hneg, zero_mul, sub_nonneg]
    have hflip : (worst - value) / (worst - ideal) = (value - worst) / (ideal - worst) := by
      rw [← neg_sub value worst, ← neg_sub ideal worst, neg_div_neg_eq]
    simp only [hone, hzero, hflip, ge_iff_le]
  · rename_i hle
    have hpos : 0 < ideal - worst := sub_pos.mpr (lt_of_le_of_ne (not_lt.mp hle) h.symm)
    have hone : 1 ≤ (value - worst) / (ideal - worst) ↔ ideal ≤ value := by
      rw [one_le_div hpos, sub_le_sub_iff_right]
    have hzero : (value - worst) / (ideal - worst) ≤ 0 ↔ value ≤ worst := by
      rw [div_le_iff₀ hpos, zero_mul, sub_nonpos]
    simp only [hone, hzero, ge_iff_le]

theorem normalizeLinear_mem {ideal worst : ℚ} (h : ideal ≠ worst) (value : ℚ) :
    normalizeLinear value ideal worst ∈ Set.Icc (0 : ℚ) 100 := by
  rw [normalizeLinear_eq_clamp h]
  exact clamp_mem _

theorem normalizeLinear_antitone {ideal worst : ℚ} (h : ideal < worst) :
    Antitone (fun value => normalizeLinear value ideal worst) := by
  intro v v' hv
  simp only [normalizeLinear_eq_clamp h.ne]
  apply clamp_mono
  apply mul_le_mul_of_nonneg_right _ (by norm_num)
  apply div_le_div_of_nonpos_of_le (sub_nonpos.mpr h.le)
  exact sub_le_sub_right hv worst

theorem normalizeLinear_monotone {ideal worst : ℚ} (h : worst < ideal) :
    Monotone (fun value => normalizeLinear value ideal worst) := by
  intro v v' hv
  simp only [normalizeLinear_eq_clamp h.ne']
  apply clamp_mono
  apply mul_le_mul_of_nonneg_right _ (by norm_num)
  apply div_le_div_of_nonneg_right _ (sub_nonneg.mpr h.le)
  exact sub_le_sub_right hv worst

section

variable (rttMs jitterMs lossPercent throughputMbps : ℚ) (stateChanges : UInt32)

theorem scores_mem (c : Component) :
    scores rttMs jitterMs lossPercent throughputMbps stateChanges c ∈ Set.Icc (0 : ℚ) 100 := by
  cases c with
  | rtt | jitter | loss | throughput | stability => exact normalizeLinear_mem (by norm_num) _

variable (checks : Bool) (now : DateTime) (w : HealthWeightsConfig)

/-- The health computed with a total of `t` that the weights may not add up to. -/
def healthOf (t : Nat) : HealthScore ℚ :=
  let s := scores rttMs jitterMs lossPercent throughputMbps stateChanges
  ⟨if t = 0 then 0 else clamp ((∑ c, weights w c * s c) / t),
    s .rtt, s .jitter, s .loss, s .throughput, s .stability, now, false⟩

theorem computeHealth_of_total {t : UInt8}
    (ht : totalWeight checks w.rtt w.jitter w.loss w.throughput w.stability = .ok t) :
    computeHealth checks now rttMs jitterMs lossPercent throughputMbps stateChanges w =
      .ok (healthOf rttMs jitterMs lossPercent throughputMbps stateChanges now w t.toNat) := by
  have hmem := scores_mem rttMs jitterMs lossPercent throughputMbps stateChanges
  have hrtt := clamp_of_mem (hmem .rtt)
  have hjitter := clamp_of_mem (hmem .jitter)
  have hloss := clamp_of_mem (hmem .loss)
  have hthroughput := clamp_of_mem (hmem .throughput)
  have hstability := clamp_of_mem (hmem .stability)
  simp only [scores] at hrtt hjitter hloss hthroughput hstability
  simp only [computeHealth, compute, ht, bind, Except.bind, pure, Except.pure, healthOf,
    sum_components, weights, weightOf, scores, Nat.cast_eq_zero]
  split
  · rfl
  · simp only [hrtt, hjitter, hloss, hthroughput, hstability, mul_comm]

theorem computeHealth_of_overflow (h : 255 < total w) (score : HealthScore ℚ) :
    computeHealth true now rttMs jitterMs lossPercent throughputMbps stateChanges w ≠ .ok score := by
  intro hok
  obtain ⟨t, ht, -⟩ := bind_ok_iff.mp hok
  exact absurd (totalWeight_checked ht) (not_le.mpr h)

/-- The overall score is the weighted mean of the components, and so between
the least and the greatest of them. -/
def IsWeightedMean : Prop :=
  let s := scores rttMs jitterMs lossPercent throughputMbps stateChanges
  ∃ score, computeHealth checks now rttMs jitterMs lossPercent throughputMbps stateChanges w =
      .ok score ∧
    score.overall = (∑ c, weights w c * s c) / ∑ c, weights w c ∧
    (∃ c, s c ≤ score.overall) ∧ ∃ c, score.overall ≤ s c

/-- Either the weights add up in a byte, or the wrong total does not matter: a
build without overflow checks meets scores at one end of the range. -/
def TotalHarmless : Prop :=
  let s := scores rttMs jitterMs lossPercent throughputMbps stateChanges
  total w ≤ 255 ∨
  checks = false ∧ ((∀ c, 0 < weightOf w c → s c = 0) ∨
    total w ≠ 256 ∧ ∀ c, 0 < weightOf w c → s c = 100)

end

section

variable (w : HealthWeightsConfig)

theorem weights_nonneg (c : Component) : 0 ≤ weights w c := Nat.cast_nonneg _

theorem weights_pos {c : Component} : 0 < weights w c ↔ 0 < weightOf w c := Nat.cast_pos

theorem sum_weights : ∑ c, weights w c = total w := (Nat.cast_sum Finset.univ (weightOf w)).symm

variable {w} {s : Component → ℚ} (hs : ∀ c, s c ∈ Set.Icc (0 : ℚ) 100)

include hs

theorem weightedSum_eq_zero : ∑ c, weights w c * s c = 0 ↔ ∀ c, 0 < weightOf w c → s c = 0 := by
  have h := weightedSum_eq_iff (z := fun c => -s c) (b := 0) (weights_nonneg w)
    (fun c => neg_nonpos.mpr (hs c).1)
  simpa only [mul_neg, Finset.sum_neg_distrib, neg_eq_zero, zero_mul, weights_pos] using h

theorem weightedSum_eq_full :
    ∑ c, weights w c * s c = 100 * total w ↔ ∀ c, 0 < weightOf w c → s c = 100 := by
  have h := weightedSum_eq_iff (weights_nonneg w) (fun c => (hs c).2)
  simpa only [sum_weights, weights_pos] using h

theorem weightedMean_weights_mem (h : 0 < total w) :
    weightedMean (weights w) s ∈ Set.Icc (0 : ℚ) 100 := by
  apply weightedMean_mem_Icc (weights_nonneg w) _ hs
  rw [sum_weights]
  exact Nat.cast_pos.mpr h

theorem clamp_smaller_total {t : Nat} (h0 : 0 < t) (h : t < total w) :
    clamp ((∑ c, weights w c * s c) / t) = weightedMean (weights w) s ↔
      (∀ c, 0 < weightOf w c → s c = 0) ∨ ∀ c, 0 < weightOf w c → s c = 100 := by
  have ht : (0 : ℚ) < t := Nat.cast_pos.mpr h0
  have hT : (0 : ℚ) < total w := Nat.cast_pos.mpr (h0.trans h)
  have hlt : (t : ℚ) < total w := Nat.cast_lt.mpr h
  obtain ⟨hlow, hhigh⟩ := weightedMean_weights_mem hs (h0.trans h)
  rw [← weightedSum_eq_zero hs, ← weightedSum_eq_full hs]
  rw [weightedMean, sum_weights] at *
  generalize ∑ c, weights w c * s c = S at *
  have hS : 0 ≤ S := by
    by_contra hneg
    exact absurd hlow (not_le.mpr (div_neg_of_neg_of_pos (not_le.mp hneg) hT))
  constructor
  · intro heq
    rcases hS.eq_or_lt with hzero | hpos
    · exact .inl hzero.symm
    · have hless : S / total w < S / t := div_lt_div_of_pos_left hpos ht hlt
      right
      by_contra hne
      have hfull : S / total w < 100 := by
        apply lt_of_le_of_ne hhigh
        intro he
        exact hne ((div_eq_iff hT.ne').mp he)
      have hcut : S / total w < clamp (S / t) := lt_max_of_lt_right (lt_min hless hfull)
      exact absurd heq hcut.ne'
  · rintro (rfl | rfl)
    · simp [clamp]
    · have hbig : 100 ≤ 100 * (total w : ℚ) / t := by
        rw [le_div_iff₀ ht]
        linarith
      rw [clamp, min_eq_right hbig, mul_div_cancel_right₀ _ hT.ne']
      norm_num

end

section

variable (rttMs jitterMs lossPercent throughputMbps : ℚ) (stateChanges : UInt32) (checks : Bool)
  (now : DateTime) {w : HealthWeightsConfig}

theorem isWeightedMean_iff_overall (hpos : 0 < total w) {t : UInt8}
    (ht : totalWeight checks w.rtt w.jitter w.loss w.throughput w.stability = .ok t) :
    IsWeightedMean rttMs jitterMs lossPercent throughputMbps stateChanges checks now w ↔
      (healthOf rttMs jitterMs lossPercent throughputMbps stateChanges now w t.toNat).overall =
        weightedMean (weights w)
          (scores rttMs jitterMs lossPercent throughputMbps stateChanges) := by
  have hsum : 0 < ∑ c, weights w c := by
    rw [sum_weights]
    exact Nat.cast_pos.mpr hpos
  rw [IsWeightedMean, computeHealth_of_total rttMs jitterMs lossPercent throughputMbps stateChanges
    checks now w ht]
  constructor
  · rintro ⟨score, hok, hmean, -, -⟩
    cases hok
    exact hmean
  · intro hmean
    refine ⟨_, rfl, hmean, ?_, ?_⟩
    · rw [hmean]
      exact exists_le_weightedMean (weights_nonneg w) hsum
    · rw [hmean]
      exact exists_weightedMean_le (weights_nonneg w) hsum

theorem isWeightedMean_of_total_le (hpos : 0 < total w) (h : total w ≤ 255) :
    IsWeightedMean rttMs jitterMs lossPercent throughputMbps stateChanges checks now w := by
  obtain ⟨t, ht, hmod⟩ := totalWeight_ok checks w (fun _ => h)
  rw [Nat.mod_eq_of_lt (by omega)] at hmod
  rw [isWeightedMean_iff_overall rttMs jitterMs lossPercent throughputMbps stateChanges checks now
    hpos ht, hmod, healthOf]
  simp only [if_neg hpos.ne', ← sum_weights]
  exact clamp_of_mem (weightedMean_weights_mem
    (scores_mem rttMs jitterMs lossPercent throughputMbps stateChanges) hpos)

theorem isWeightedMean_wrapped (h : 255 < total w) (hmax : total w ≤ 500) :
    IsWeightedMean rttMs jitterMs lossPercent throughputMbps stateChanges false now w ↔
      (∀ c, 0 < weightOf w c →
        scores rttMs jitterMs lossPercent throughputMbps stateChanges c = 0) ∨
      total w ≠ 256 ∧ ∀ c, 0 < weightOf w c →
        scores rttMs jitterMs lossPercent throughputMbps stateChanges c = 100 := by
  have hs := scores_mem rttMs jitterMs lossPercent throughputMbps stateChanges
  have hpos : 0 < total w := by omega
  have hT : (total w : ℚ) ≠ 0 := (Nat.cast_pos.mpr hpos).ne'
  obtain ⟨t, ht, hmod⟩ := totalWeight_ok false w (fun hc => by cases hc)
  rw [isWeightedMean_iff_overall rttMs jitterMs lossPercent throughputMbps stateChanges false now
    hpos ht, hmod, healthOf]
  by_cases h256 : total w = 256
  · have hzero : total w % 256 = 0 := by omega
    simp only [if_true, h256, ne_eq, not_true, false_and, or_false]
    rw [eq_comm, weightedMean, sum_weights, div_eq_zero_iff, or_iff_left hT, weightedSum_eq_zero hs]
  · have hrest : 0 < total w % 256 := by omega
    simp only [if_neg hrest.ne', ne_eq, h256, not_false_eq_true, true_and]
    exact clamp_smaller_total hs hrest (by omega)

end

theorem total_le {w : HealthWeightsConfig} (h : ∀ c, weightOf w c ≤ 100) : total w ≤ 500 := by
  calc total w ≤ ∑ _c : Component, 100 := Finset.sum_le_sum (fun c _ => h c)
    _ = 500 := rfl

/-- For weights that the validator accepts and that are not all zero, the
score is the weighted mean exactly when the total of the weights does no harm. -/
theorem overall_is_mean_iff (checks : Bool) (now : DateTime)
    (rttMs jitterMs lossPercent throughputMbps : ℚ) (stateChanges : UInt32) (w : HealthWeights)
    (hw : w.errors = [])
    (hpos : 0 < total ⟨w.rtt, w.jitter, w.loss, w.throughput, w.stability⟩) :
    IsWeightedMean rttMs jitterMs lossPercent throughputMbps stateChanges checks now
        ⟨w.rtt, w.jitter, w.loss, w.throughput, w.stability⟩ ↔
      TotalHarmless rttMs jitterMs lossPercent throughputMbps stateChanges checks
        ⟨w.rtt, w.jitter, w.loss, w.throughput, w.stability⟩ := by
  obtain ⟨hrtt, hjitter, hloss, hthroughput, hstability⟩ := (healthWeights_errors_eq_nil w).mp hw
  have hmax : total ⟨w.rtt, w.jitter, w.loss, w.throughput, w.stability⟩ ≤ 500 := by
    apply total_le
    rintro (_ | _) <;> assumption
  rw [TotalHarmless]
  by_cases hle : total ⟨w.rtt, w.jitter, w.loss, w.throughput, w.stability⟩ ≤ 255
  · apply iff_of_true
    · exact isWeightedMean_of_total_le _ _ _ _ _ checks now hpos hle
    · exact .inl hle
  · rw [or_iff_right hle]
    cases checks with
    | true =>
      apply iff_of_false
      · rintro ⟨score, hok, -⟩
        exact computeHealth_of_overflow _ _ _ _ _ now _ (not_le.mp hle) score hok
      · rintro ⟨hc, -⟩
        cases hc
    | false =>
      rw [isWeightedMean_wrapped _ _ _ _ _ now (not_le.mp hle) hmax]
      exact (and_iff_right rfl).symm

def heavyWeights : HealthWeights := ⟨100, 100, 100, 0, 0⟩

theorem overall_is_mean_iff_heavy :
    IsWeightedMean 10 1 0 1000 0 true 0 ⟨100, 100, 100, 0, 0⟩ ↔
      TotalHarmless 10 1 0 1000 0 true ⟨100, 100, 100, 0, 0⟩ :=
  overall_is_mean_iff true 0 10 1 0 1000 0 heavyWeights (by decide) (by decide)

/-- Accepted weights: one build panics, and in the other a link that loses
everything scores 100. -/
theorem heavy_weights_overflow :
    ¬ IsWeightedMean 10 1 0 1000 0 true 0 ⟨100, 100, 100, 0, 0⟩ ∧
    ¬ IsWeightedMean 10 1 10 1000 0 false 0 ⟨100, 100, 100, 0, 0⟩ := by
  constructor
  · rintro ⟨score, hok, -⟩
    exact computeHealth_of_overflow 10 1 0 1000 0 0 _ (by decide) score hok
  · rintro ⟨score, hok, hmean, -⟩
    have hfull : (computeHealth false 0 10 1 10 1000 0 ⟨100, 100, 100, 0, 0⟩).toOption.map
        (·.overall) = some 100 := by decide +kernel
    rw [hok] at hfull
    have hne : (∑ c, weights ⟨100, 100, 100, 0, 0⟩ c * scores 10 1 10 1000 0 c) /
        (∑ c, weights ⟨100, 100, 100, 0, 0⟩ c) ≠ 100 := by decide +kernel
    exact hne (hmean.symm.trans (Option.some.inj hfull))

end Netfusion.Core.CompositeScore
