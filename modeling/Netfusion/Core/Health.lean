import Mathlib.Data.Rat.Cast.Order
import Mathlib.Algebra.Order.Ring.Rat
import Mathlib.Tactic.Linarith
import Mathlib.Tactic.Ring
import Netfusion.Shared.Types

namespace Netfusion.Core.Health

open Netfusion.Shared.Types

/-- Scores are exact rationals. -/
def normalizeLinear (value ideal worst : ℚ) : ℚ :=
  if ideal = worst then 100
  else if ideal < worst then
    if value ≤ ideal then 100
    else if value ≥ worst then 0
    else (worst - value) / (worst - ideal) * 100
  else
    if value ≥ ideal then 100
    else if value ≤ worst then 0
    else (value - worst) / (ideal - worst) * 100

def normalizeRtt (rttMs : ℚ) : ℚ := normalizeLinear rttMs 10 500
def normalizeJitter (jitterMs : ℚ) : ℚ := normalizeLinear jitterMs 1 100
def normalizeLoss (lossPercent : ℚ) : ℚ := normalizeLinear lossPercent 0 10
def normalizeThroughput (throughputMbps : ℚ) : ℚ := normalizeLinear throughputMbps 1000 1
def normalizeStability (stateChanges : UInt32) : ℚ := normalizeLinear stateChanges.toNat 0 10

structure HealthWeightsConfig where
  rtt : UInt8
  jitter : UInt8
  loss : UInt8
  throughput : UInt8
  stability : UInt8

def HealthWeightsConfig.default : HealthWeightsConfig := ⟨30, 20, 25, 15, 10⟩

inductive Panic where
  | attemptToAddWithOverflow
deriving DecidableEq

/-- Addition of bytes panics on overflow in a build with overflow checks and
wraps in one without. -/
def addU8 (checks : Bool) (a b : UInt8) : Except Panic UInt8 :=
  if checks = true ∧ 256 ≤ a.toNat + b.toNat then .error .attemptToAddWithOverflow
  else .ok (a + b)

def totalWeight (checks : Bool) (rtt jitter loss throughput stability : UInt8) :
    Except Panic UInt8 := do
  let a ← addU8 checks rtt jitter
  let b ← addU8 checks a loss
  let c ← addU8 checks b throughput
  addU8 checks c stability

def clamp (x : ℚ) : ℚ := max 0 (min x 100)

def compute (checks : Bool) (now : DateTime) (rtt jitter loss throughput stability : ℚ)
    (wRtt wJitter wLoss wThroughput wStability : UInt8) : Except Panic (HealthScore ℚ) := do
  let totalWeight ← totalWeight checks wRtt wJitter wLoss wThroughput wStability
  let totalWeight : ℚ := totalWeight.toNat
  if totalWeight = 0 then
    return ⟨0, rtt, jitter, loss, throughput, stability, now, false⟩
  let overall := (rtt * wRtt.toNat + jitter * wJitter.toNat + loss * wLoss.toNat +
    throughput * wThroughput.toNat + stability * wStability.toNat) / totalWeight
  return ⟨clamp overall, clamp rtt, clamp jitter, clamp loss, clamp throughput, clamp stability,
    now, false⟩

def ema (score previous : HealthScore ℚ) (alpha : ℚ) (now : DateTime) : HealthScore ℚ :=
  let alpha := max 0 (min alpha 1)
  { overall := score.overall * alpha + previous.overall * (1 - alpha)
    rtt := score.rtt * alpha + previous.rtt * (1 - alpha)
    jitter := score.jitter * alpha + previous.jitter * (1 - alpha)
    loss := score.loss * alpha + previous.loss * (1 - alpha)
    throughput := score.throughput * alpha + previous.throughput * (1 - alpha)
    stability := score.stability * alpha + previous.stability * (1 - alpha)
    timestamp := now
    failoverCandidate := score.failoverCandidate }

def exceedsHysteresis (score other : HealthScore ℚ) (thresholdPercent : UInt8) : Bool :=
  decide (|score.overall - other.overall| > thresholdPercent.toNat)

def computeHealth (checks : Bool) (now : DateTime)
    (rttMs jitterMs lossPercent throughputMbps : ℚ) (stateChanges : UInt32)
    (weights : HealthWeightsConfig) : Except Panic (HealthScore ℚ) := do
  let _totalWeight ← totalWeight checks weights.rtt weights.jitter weights.loss
    weights.throughput weights.stability
  compute checks now (normalizeRtt rttMs) (normalizeJitter jitterMs) (normalizeLoss lossPercent)
    (normalizeThroughput throughputMbps) (normalizeStability stateChanges)
    weights.rtt weights.jitter weights.loss weights.throughput weights.stability

theorem ema_overall_eq_iff (score previous : HealthScore ℚ) (alpha : ℚ) (now : DateTime) :
    (ema score previous alpha now).overall = previous.overall ↔
      alpha ≤ 0 ∨ score.overall = previous.overall := by
  have hsplit : (ema score previous alpha now).overall - previous.overall =
      (score.overall - previous.overall) * max 0 (min alpha 1) := by
    simp only [ema]; ring
  rw [← sub_eq_zero, hsplit, mul_eq_zero, sub_eq_zero, or_comm]
  refine or_congr_left ⟨fun h => ?_, fun h => ?_⟩
  · by_contra hpos
    have hmin : 0 < min alpha 1 := lt_min (lt_of_not_ge hpos) one_pos
    exact absurd h (ne_of_gt (lt_of_lt_of_le hmin (le_max_right _ _)))
  · exact max_eq_left ((min_le_left _ _).trans h)

theorem not_exceedsHysteresis_self (score : HealthScore ℚ) (threshold : UInt8) :
    exceedsHysteresis score score threshold = false := by
  simp [exceedsHysteresis]

end Netfusion.Core.Health
