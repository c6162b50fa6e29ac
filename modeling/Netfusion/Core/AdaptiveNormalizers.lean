import Netfusion.Core.Adaptive

namespace Netfusion.Core.AdaptiveNormalizers

open Netfusion.Core.Adaptive

/-- On these metrics the tuner scores as the health score does. -/
structure Mirrors (rttMs jitterMs lossPct mbps : ℚ) (stateChanges : ℕ) : Prop where
  rtt : normalizeRtt id rttMs = Health.normalizeRtt rttMs
  jitter : normalizeJitter id jitterMs = Health.normalizeJitter jitterMs
  loss : normalizeLoss id lossPct = Health.normalizeLoss lossPct
  throughput : normalizeThroughput id mbps = Health.normalizeThroughput mbps
  stability : ∀ changes : UInt32, changes.toNat = stateChanges →
    normalizeStability id stateChanges = Health.normalizeStability changes

theorem line_eq_linear {ideal worst : ℚ} (h : ideal < worst) (value : ℚ) :
    line ideal worst value = Health.normalizeLinear value ideal worst := by
  have hspan : worst - ideal ≠ 0 := (sub_pos.mpr h).ne'
  rw [line_eq, Health.normalizeLinear, if_neg h.ne, if_pos h]
  split
  · rfl
  · split
    · rfl
    · field_simp
      ring

theorem jitter_mirrors (jitterMs : ℚ) :
    normalizeJitter id jitterMs = Health.normalizeJitter jitterMs := by
  rw [normalizeJitter_exact]
  exact line_eq_linear (by norm_num) jitterMs

theorem stability_mirrors (changes : UInt32) :
    normalizeStability id changes.toNat = Health.normalizeStability changes := by
  rw [normalizeStability_exact]
  exact line_eq_linear (by norm_num) _

section

variable {ideal worst value : ℚ} (h : ideal < worst)

include h

theorem linear_ideal (hvalue : value ≤ ideal) : Health.normalizeLinear value ideal worst = 100 := by
  rw [Health.normalizeLinear, if_neg h.ne, if_pos h, if_pos hvalue]

theorem linear_worst (hvalue : worst ≤ value) : Health.normalizeLinear value ideal worst = 0 := by
  rw [Health.normalizeLinear, if_neg h.ne, if_pos h, if_neg (not_le.mpr (h.trans_le hvalue)),
    if_pos hvalue]

theorem linear_between (hideal : ideal < value) (hworst : value < worst) :
    Health.normalizeLinear value ideal worst = (worst - value) / (worst - ideal) * 100 := by
  rw [Health.normalizeLinear, if_neg h.ne, if_pos h, if_neg (not_le.mpr hideal),
    if_neg (not_le.mpr hworst)]

end

/-- The ideal is 5 here and 10 there. -/
theorem rtt_mirrors_iff (rttMs : ℚ) :
    normalizeRtt id rttMs = Health.normalizeRtt rttMs ↔ rttMs ≤ 5 ∨ 500 ≤ rttMs := by
  rw [normalizeRtt_exact, Health.normalizeRtt, line_eq_linear (by norm_num)]
  rcases le_or_gt rttMs 5 with hideal | hideal
  · rw [linear_ideal (by norm_num) hideal, linear_ideal (by norm_num) (hideal.trans (by norm_num))]
    exact iff_of_true rfl (.inl hideal)
  · rcases le_or_gt 500 rttMs with hworst | hworst
    · rw [linear_worst (by norm_num) hworst, linear_worst (by norm_num) hworst]
      exact iff_of_true rfl (.inr hworst)
    · rw [linear_between (by norm_num) hideal hworst]
      apply iff_of_false _ (fun h => by rcases h with h | h <;> linarith)
      rcases le_or_gt rttMs 10 with hten | hten
      · rw [linear_ideal (by norm_num) hten]
        intro heq
        linarith
      · rw [linear_between (by norm_num) hten hworst]
        intro heq
        linarith

/-- The worst is 20 here and 10 there. -/
theorem loss_mirrors_iff (lossPct : ℚ) :
    normalizeLoss id lossPct = Health.normalizeLoss lossPct ↔ lossPct ≤ 0 ∨ 20 ≤ lossPct := by
  rw [normalizeLoss_exact, Health.normalizeLoss, line_eq_linear (by norm_num)]
  rcases le_or_gt lossPct 0 with hideal | hideal
  · rw [linear_ideal (by norm_num) hideal, linear_ideal (by norm_num) hideal]
    exact iff_of_true rfl (.inl hideal)
  · rcases le_or_gt 20 lossPct with hworst | hworst
    · rw [linear_worst (by norm_num) hworst,
        linear_worst (by norm_num) (le_trans (by norm_num) hworst)]
      exact iff_of_true rfl (.inr hworst)
    · rw [linear_between (by norm_num) hideal hworst]
      apply iff_of_false _ (fun h => by rcases h with h | h <;> linarith)
      rcases le_or_gt 10 lossPct with hten | hten
      · rw [linear_worst (by norm_num) hten]
        intro heq
        linarith
      · rw [linear_between (by norm_num) hideal hten]
        intro heq
        linarith

/-- The line goes down to 0 here and to 1 there. -/
theorem throughput_mirrors_iff {mbps : ℚ} (h : 0 ≤ mbps) :
    normalizeThroughput id mbps = Health.normalizeThroughput mbps ↔ mbps = 0 ∨ 1000 ≤ mbps := by
  have hbounds : ¬ (1000 : ℚ) = 1 ∧ ¬ (1000 : ℚ) < 1 := by norm_num
  rw [normalizeThroughput_exact, Health.normalizeThroughput, Health.normalizeLinear,
    if_neg hbounds.1, if_neg hbounds.2]
  rcases le_or_gt 1000 mbps with hideal | hideal
  · rw [if_pos hideal, min_eq_right (by linarith)]
    exact iff_of_true rfl (.inr hideal)
  · rw [if_neg (not_le.mpr hideal), min_eq_left (by linarith)]
    rcases le_or_gt mbps 1 with hone | hone
    · rw [if_pos hone]
      constructor
      · intro heq
        exact .inl (by linarith)
      · rintro (hzero | hfast)
        · rw [hzero]
          norm_num
        · linarith
    · rw [if_neg (not_le.mpr hone)]
      apply iff_of_false
      · intro heq
        linarith
      · rintro (hzero | hfast) <;> linarith

/-- The scores agree for jitter and stability, and for the others at the ends. -/
theorem mirrors_iff {rttMs jitterMs lossPct mbps : ℚ} (stateChanges : ℕ) (hloss : 0 ≤ lossPct)
    (hmbps : 0 ≤ mbps) :
    Mirrors rttMs jitterMs lossPct mbps stateChanges ↔
      (rttMs ≤ 5 ∨ 500 ≤ rttMs) ∧ (lossPct = 0 ∨ 20 ≤ lossPct) ∧ (mbps = 0 ∨ 1000 ≤ mbps) := by
  have hzero : lossPct ≤ 0 ↔ lossPct = 0 := ⟨fun h => le_antisymm h hloss, le_of_eq⟩
  rw [← rtt_mirrors_iff, ← hzero, ← loss_mirrors_iff, ← throughput_mirrors_iff hmbps]
  constructor
  · exact fun h => ⟨h.rtt, h.loss, h.throughput⟩
  · intro ⟨hr, hl, ht⟩
    refine ⟨hr, jitter_mirrors jitterMs, hl, ht, ?_⟩
    rintro changes rfl
    exact stability_mirrors changes

theorem mirrors_iff_gigabit : Mirrors 5 2 0 1000 3 ↔
    ((5 : ℚ) ≤ 5 ∨ (500 : ℚ) ≤ 5) ∧ ((0 : ℚ) = 0 ∨ (20 : ℚ) ≤ 0) ∧
      ((1000 : ℚ) = 0 ∨ (1000 : ℚ) ≤ 1000) :=
  mirrors_iff 3 (by norm_num) (by norm_num)

/-- At ten percent of loss one score is 50 and the other 0. -/
theorem lossy_not_mirrored : ¬ Mirrors 5 1 10 1000 0 := by
  intro h
  have hloss := h.loss
  revert hloss
  decide +kernel

end Netfusion.Core.AdaptiveNormalizers
