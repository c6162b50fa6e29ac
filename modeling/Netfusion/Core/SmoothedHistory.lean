import Netfusion.Lib.ExponentialMeans
import Netfusion.Core.ScoreRuns

namespace Netfusion.Core.SmoothedHistory

open Netfusion.Lib.Collections Netfusion.Lib.ExponentialMeans Netfusion.Lib.Machine
open Netfusion.Shared.Config Netfusion.Shared.Types
open Netfusion.Core.Health Netfusion.Core.Monitoring Netfusion.Core.ScoreRuns

def share (alpha : ℚ) : ℚ := max 0 (min alpha 1)

/-- A smoothed score is, field by field, the exponential mean of the raw scores. -/
def Smooths (alpha : ℚ) : List (HealthScore ℚ) → Option (HealthScore ℚ) → Prop
  | [], smoothed => smoothed = none
  | first :: rest, smoothed => ∃ s, smoothed = some s ∧
      ∀ f, point s f = ewma (share alpha) (point first f) (rest.map (fun raw => point raw f))

theorem smooths_concat {alpha : ℚ} {raws : List (HealthScore ℚ)} (m : HealthMonitor)
    (halpha : m.config.emaAlpha = alpha) (now : DateTime) (name : String)
    (h : Smooths alpha raws (m.previousScores.lookup name)) (raw : HealthScore ℚ) :
    Smooths alpha (raws ++ [raw]) (some (smooth m now name raw)) := by
  cases raws with
  | nil =>
    rw [Smooths] at h
    refine ⟨raw, ?_, fun f => rfl⟩
    simp only [smooth, h]
  | cons first rest =>
    obtain ⟨s, hs, hmean⟩ := h
    rw [List.cons_append]
    refine ⟨_, rfl, fun f => ?_⟩
    have hlast : point (smooth m now name raw) f =
        AffineMap.lineMap (point s f) (point raw f) (share alpha) := by
      simp only [smooth, hs, point_ema, AffineMap.pi_lineMap_apply, halpha, share]
    rw [hlast, hmean f, List.map_append, List.map_singleton, ewma_concat]

def Follows (alpha : ℚ) (os : List ProbeAnswer) (m : HealthMonitor) : Prop :=
  m.config.emaAlpha = alpha ∧
  ∀ name, Smooths alpha (rawScores name os) (m.previousScores.lookup name)

theorem follows_step (alpha : ℚ) (os : List ProbeAnswer)
    (m : HealthMonitor) (c : ProbeCall) (h : Follows alpha os m) :
    Follows alpha (os ++ [(probeStep m c).1]) (probeStep m c).2 := by
  obtain ⟨halpha, hsmooths⟩ := h
  obtain ⟨hnone, hm⟩ | ⟨p, raw, -, -, -, hstep⟩ :=
    probeInterface_cases m c.interface c.probe c.now
  · rw [probeStep, hm]
    refine ⟨halpha, fun name => ?_⟩
    rw [rawScores_concat, hnone]
    simpa using hsmooths name
  · rw [probeStep, hstep]
    refine ⟨halpha, fun name => ?_⟩
    rw [rawScores_concat, lookup_insert_eq]
    by_cases hname : name = c.interface.name
    · subst hname
      rw [if_pos rfl]
      simpa [emitted] using smooths_concat m halpha c.now _ (hsmooths c.interface.name) raw
    · rw [if_neg hname]
      simpa [emitted, Ne.symm hname] using hsmooths name

theorem follows_run (checks : Bool) (config : MonitorConfig) (w : HealthWeights)
    (cs : List ProbeCall) :
    Follows config.emaAlpha (outputs probeStep (HealthMonitor.new checks config w) cs)
      (run probeStep (HealthMonitor.new checks config w) cs) :=
  run_always ⟨rfl, fun _ => rfl⟩ (follows_step config.emaAlpha) cs

/-- After any calls, for any interfaces, each field of the smoothed score of an
interface is the sum of its own raw scores, the one that came `i` updates before
the last with the weight `share * (1 - share) ^ i`, and the first with the rest. -/
theorem smoothed_weights (checks : Bool) (config : MonitorConfig) (w : HealthWeights)
    (cs : List ProbeCall) (name : String) :
    match rawScores name (outputs probeStep (HealthMonitor.new checks config w) cs) with
    | [] => (run probeStep (HealthMonitor.new checks config w) cs).previousScores.lookup name = none
    | first :: rest =>
      ∃ s, (run probeStep (HealthMonitor.new checks config w) cs).previousScores.lookup name =
          some s ∧
        ∀ f, point s f = (1 - share config.emaAlpha) ^ rest.length * point first f +
          ∑ i ∈ Finset.range rest.length,
            share config.emaAlpha * (1 - share config.emaAlpha) ^ i *
              (rest.map (fun raw => point raw f)).reverse.getD i 0 := by
  have h := (follows_run checks config w cs).2 name
  cases hraws : rawScores name (outputs probeStep (HealthMonitor.new checks config w) cs) with
  | nil =>
    rw [hraws] at h
    exact h
  | cons first rest =>
    rw [hraws] at h
    obtain ⟨s, hs, hmean⟩ := h
    refine ⟨s, hs, fun f => ?_⟩
    rw [hmean f, ewma_eq_sum, List.length_map]

end Netfusion.Core.SmoothedHistory
