import Mathlib.Algebra.Order.Pi
import Mathlib.LinearAlgebra.AffineSpace.Ordered
import Netfusion.Core.CompositeScore
import Netfusion.Core.Monitoring

namespace Netfusion.Core.ScoreRuns

open Netfusion.Lib.Averages Netfusion.Lib.Collections Netfusion.Lib.Machine
open Netfusion.Shared.Config Netfusion.Shared.Types
open Netfusion.Core.Health Netfusion.Core.Monitoring Netfusion.Core.CompositeScore

inductive ScoreField where
  | overall
  | component (c : Component)

def component (s : HealthScore ℚ) : Component → ℚ
  | .rtt => s.rtt
  | .jitter => s.jitter
  | .loss => s.loss
  | .throughput => s.throughput
  | .stability => s.stability

/-- A score as a point with its six fields for coordinates. -/
def point (s : HealthScore ℚ) : ScoreField → ℚ
  | .overall => s.overall
  | .component c => component s c

def rawScores (name : String) (os : List ProbeAnswer) : List (HealthScore ℚ) :=
  ((os.filterMap emitted).filter (fun u => u.interface = name)).map (·.newScore)

/-- What a smoothed score owes to the raw scores it comes from. -/
structure Consistent (w : HealthWeightsConfig) (raws : List (HealthScore ℚ)) (s : HealthScore ℚ) :
    Prop where
  range : ∀ f, point s f ∈ Set.Icc (0 : ℚ) 100
  aboveLeast : ∀ f, ∃ raw ∈ raws, point raw f ≤ point s f
  belowGreatest : ∀ f, ∃ raw ∈ raws, point s f ≤ point raw f
  mean : s.overall = (∑ c, weights w c * component s c) / ∑ c, weights w c

theorem share_mem (alpha : ℚ) : max 0 (min alpha 1) ∈ Set.Icc (0 : ℚ) 1 :=
  ⟨le_max_left _ _, max_le zero_le_one (min_le_right _ _)⟩

theorem point_ema (score previous : HealthScore ℚ) (alpha : ℚ) (now : DateTime) :
    point (ema score previous alpha now) =
      AffineMap.lineMap (point previous) (point score) (max 0 (min alpha 1)) := by
  funext f
  rw [AffineMap.pi_lineMap_apply, AffineMap.lineMap_apply_ring]
  rcases f with _ | (_ | _) <;> simp only [point, component, ema] <;> ring

def rawPoints (w : HealthWeightsConfig) : Set (ScoreField → ℚ) :=
  Set.Icc (fun _ => 0) (fun _ => 100) ∩
    {v | (total w : ℚ) * v .overall - ∑ c, weights w c * v (.component c) = 0}

theorem convex_rawPoints (w : HealthWeightsConfig) : Convex ℚ (rawPoints w) := by
  apply (convex_Icc _ _).inter
  apply convex_hyperplane
  constructor
  · intro x y
    simp only [Pi.add_apply, mul_add, Finset.sum_add_distrib]
    ring
  · intro a x
    simp only [Pi.smul_apply, smul_eq_mul, mul_sub, Finset.mul_sum]
    congr 1
    · ring
    · apply Finset.sum_congr rfl
      intro c _
      ring

theorem component_healthOf (rttMs jitterMs lossPercent throughputMbps : ℚ) (stateChanges : UInt32)
    (now : DateTime) (w : HealthWeightsConfig) (t : Nat) (c : Component) :
    component (healthOf rttMs jitterMs lossPercent throughputMbps stateChanges now w t) c =
      scores rttMs jitterMs lossPercent throughputMbps stateChanges c := by
  cases c <;> rfl

theorem point_healthOf (rttMs jitterMs lossPercent throughputMbps : ℚ) (stateChanges : UInt32)
    (now : DateTime) {w : HealthWeightsConfig} (hpos : 0 < total w) :
    point (healthOf rttMs jitterMs lossPercent throughputMbps stateChanges now w (total w)) ∈
      rawPoints w := by
  have hs := scores_mem rttMs jitterMs lossPercent throughputMbps stateChanges
  have hmean := weightedMean_weights_mem hs hpos
  have hcomponent :=
    component_healthOf rttMs jitterMs lossPercent throughputMbps stateChanges now w (total w)
  have hoverall :
      (healthOf rttMs jitterMs lossPercent throughputMbps stateChanges now w (total w)).overall =
        weightedMean (weights w)
          (scores rttMs jitterMs lossPercent throughputMbps stateChanges) := by
    rw [healthOf, if_neg hpos.ne', ← sum_weights]
    exact clamp_of_mem hmean
  have hmem : ∀ f, point
      (healthOf rttMs jitterMs lossPercent throughputMbps stateChanges now w (total w)) f ∈
        Set.Icc (0 : ℚ) 100 := by
    intro f
    cases f with
    | overall =>
      rw [point, hoverall]
      exact hmean
    | component c =>
      rw [point, hcomponent]
      exact hs c
  refine ⟨⟨fun f => (hmem f).1, fun f => (hmem f).2⟩, ?_⟩
  simp only [Set.mem_ofPred_eq, point, hoverall, hcomponent, weightedMean, sum_weights]
  rw [mul_div_cancel₀ _ (Nat.cast_pos.mpr hpos).ne', sub_self]

theorem rawScores_concat (name : String) (os : List ProbeAnswer) (o : ProbeAnswer) :
    rawScores name (os ++ [o]) = rawScores name os ++
      (((emitted o).toList.filter (fun u => u.interface = name)).map (·.newScore)) := by
  rw [rawScores, rawScores, List.filterMap_append, List.filter_append, List.map_append]
  cases h : emitted o <;> simp [h]

def rawPointsSeen (name : String) (os : List ProbeAnswer) : Set (ScoreField → ℚ) :=
  {v | ∃ raw ∈ rawScores name os, point raw = v}

/-- The raw scores come from the weights, and each smoothed score is a mean of
the raw scores of its interface. -/
structure Averages (w : HealthWeightsConfig) (os : List ProbeAnswer)
    (m : HealthMonitor) : Prop where
  weights : m.weights = w
  raw : ∀ name, ∀ raw ∈ rawScores name os, point raw ∈ rawPoints w
  smoothed : ∀ name s, m.previousScores.lookup name = some s →
    point s ∈ convexHull ℚ (rawPointsSeen name os)

section

variable {w : HealthWeightsConfig}

theorem rawScore_total (m : HealthMonitor) (hm : m.weights = w) (h : total w ≤ 255)
    (now : DateTime) (p : ProbeResult ℚ) :
    rawScore m now p = .ok (healthOf p.rttMs p.jitterMs p.lossPercent p.throughputMbps
      p.stateChanges now w (total w)) := by
  obtain ⟨t, ht, hmod⟩ := totalWeight_ok m.overflowChecks w (fun _ => h)
  rw [Nat.mod_eq_of_lt (by omega)] at hmod
  rw [rawScore, hm, computeHealth_of_total _ _ _ _ _ m.overflowChecks now w ht, hmod]

theorem seen_concat {name : String} {os : List ProbeAnswer} {o : ProbeAnswer} :
    rawPointsSeen name os ⊆ rawPointsSeen name (os ++ [o]) := by
  rintro v ⟨raw, hraw, rfl⟩
  refine ⟨raw, ?_, rfl⟩
  rw [rawScores_concat]
  exact List.mem_append_left _ hraw

theorem seen_last {os : List ProbeAnswer} {o : ProbeAnswer} {name : String} {raw : HealthScore ℚ}
    (h : (emitted o).map (fun u => (u.interface, u.newScore)) = some (name, raw)) :
    point raw ∈ rawPointsSeen name (os ++ [o]) := by
  obtain ⟨u, hu, hpair⟩ := Option.map_eq_some_iff.mp h
  cases hpair
  refine ⟨u.newScore, ?_, rfl⟩
  rw [rawScores_concat, hu]
  simp

theorem smooth_mem {S : Set (ScoreField → ℚ)} (hS : Convex ℚ S) {m : HealthMonitor} (now : DateTime)
    {name : String} {raw : HealthScore ℚ} (hraw : point raw ∈ S)
    (hprev : ∀ prev, m.previousScores.lookup name = some prev → point prev ∈ S) :
    point (smooth m now name raw) ∈ S := by
  rw [smooth]
  split
  · rename_i prev hp
    rw [point_ema]
    exact hS.lineMap_mem (hprev prev hp) hraw (share_mem _)
  · exact hraw

theorem averages_quiet {os : List ProbeAnswer} {m : HealthMonitor}
    (h : Averages w os m) {o : ProbeAnswer} (hnone : emitted o = none) :
    Averages w (os ++ [o]) m := by
  refine ⟨h.weights, ?_, ?_⟩
  · intro name raw hraw
    rw [rawScores_concat, hnone] at hraw
    exact h.raw name raw (by simpa using hraw)
  · intro name s hs
    exact convexHull_mono seen_concat (h.smoothed name s hs)

theorem averages_updated {os : List ProbeAnswer} {m : HealthMonitor}
    (h : Averages w os m) {u : HealthUpdate ℚ} (hnew : point u.newScore ∈ rawPoints w)
    (now : DateTime) :
    Averages w (os ++ [.ok (some u)])
      { m with previousScores :=
          m.previousScores.insert u.interface (smooth m now u.interface u.newScore) } := by
  refine ⟨h.weights, ?_, ?_⟩
  · intro name raw hraw
    rw [rawScores_concat, List.mem_append] at hraw
    rcases hraw with hold | hlast
    · exact h.raw name raw hold
    · obtain ⟨v, hv, rfl⟩ := List.mem_map.mp hlast
      simp only [emitted, Option.toList_some, List.mem_filter, List.mem_singleton] at hv
      rw [hv.1]
      exact hnew
  · apply insert_keeps
    · apply smooth_mem (convex_convexHull ℚ _)
      · apply subset_convexHull
        apply seen_last
        rfl
      · intro prev hp
        exact convexHull_mono seen_concat (h.smoothed _ prev hp)
    · intro name s hs
      exact convexHull_mono seen_concat (h.smoothed name s hs)

theorem averages_step (hpos : 0 < total w) (hmax : total w ≤ 255)
    (os : List ProbeAnswer) (m : HealthMonitor) (c : ProbeCall)
    (h : Averages w os m) : Averages w (os ++ [(probeStep m c).1]) (probeStep m c).2 := by
  obtain ⟨hnone, hm⟩ | ⟨p, raw, -, -, hraw, hstep⟩ :=
    probeInterface_cases m c.interface c.probe c.now
  · rw [probeStep, hm]
    exact averages_quiet h hnone
  · have hnew : point raw ∈ rawPoints w := by
      rw [rawScore_total m h.weights hmax] at hraw
      cases hraw
      exact point_healthOf _ _ _ _ _ _ hpos
    rw [probeStep, hstep]
    exact averages_updated h hnew c.now

theorem averages_run (hpos : 0 < total w) (hmax : total w ≤ 255) (m : HealthMonitor)
    (hw : m.weights = w) (hnew : m.previousScores = ∅) (cs : List ProbeCall) :
    Averages w (outputs probeStep m cs) (run probeStep m cs) := by
  apply run_always _ (averages_step hpos hmax)
  refine ⟨hw, ?_, ?_⟩
  · intro name raw hraw
    cases hraw
  · intro name s hs
    rw [hnew] at hs
    cases hs

theorem consistent_of_averages (hpos : 0 < total w) {os : List ProbeAnswer}
    {m : HealthMonitor} (h : Averages w os m) {name : String} {s : HealthScore ℚ}
    (hs : m.previousScores.lookup name = some s) : Consistent w (rawScores name os) s := by
  have hhull := h.smoothed name s hs
  have hsub : rawPointsSeen name os ⊆ rawPoints w := by
    rintro v ⟨raw, hraw, rfl⟩
    exact h.raw name raw hraw
  obtain ⟨⟨hlow, hhigh⟩, hmean⟩ := convexHull_min hsub (convex_rawPoints w) hhull
  constructor
  · intro f
    exact ⟨hlow f, hhigh f⟩
  · intro f
    have hconcave := (LinearMap.proj f : (ScoreField → ℚ) →ₗ[ℚ] ℚ).concaveOn convex_univ
    obtain ⟨v, ⟨raw, hraw, rfl⟩, hle⟩ :=
      hconcave.exists_le_of_mem_convexHull (Set.subset_univ _) hhull
    exact ⟨raw, hraw, hle⟩
  · intro f
    have hconvex := (LinearMap.proj f : (ScoreField → ℚ) →ₗ[ℚ] ℚ).convexOn convex_univ
    obtain ⟨v, ⟨raw, hraw, rfl⟩, hle⟩ :=
      hconvex.exists_ge_of_mem_convexHull (Set.subset_univ _) hhull
    exact ⟨raw, hraw, hle⟩
  · rw [sum_weights, eq_div_iff (Nat.cast_pos.mpr hpos).ne', mul_comm]
    exact sub_eq_zero.mp hmean

end

/-- All along a run the smoothed score of an interface stays in range, between
the raw scores seen for it, and the weighted mean of its own components. -/
theorem smoothed_scores_consistent (checks : Bool) (config : MonitorConfig) (w : HealthWeights)
    (hpos : 0 < total ⟨w.rtt, w.jitter, w.loss, w.throughput, w.stability⟩)
    (hmax : total ⟨w.rtt, w.jitter, w.loss, w.throughput, w.stability⟩ ≤ 255) (cs : List ProbeCall)
    (name : String) (s : HealthScore ℚ)
    (hs : (run probeStep (HealthMonitor.new checks config w) cs).previousScores.lookup name =
      some s) :
    Consistent ⟨w.rtt, w.jitter, w.loss, w.throughput, w.stability⟩
      (rawScores name (outputs probeStep (HealthMonitor.new checks config w) cs)) s :=
  consistent_of_averages hpos (averages_run hpos hmax _ rfl rfl cs) hs

def goodThenBad : List ProbeCall := [probeCall "eth0" 5 0, probeCall "eth0" 999 100]

theorem smoothed_scores_consistent_default :
    ∃ s, (run probeStep (HealthMonitor.new true defaultMonitorConfig HealthWeights.default)
        goodThenBad).previousScores.lookup "eth0" = some s ∧
      Consistent ⟨30, 20, 25, 15, 10⟩ (rawScores "eth0" (outputs probeStep
        (HealthMonitor.new true defaultMonitorConfig HealthWeights.default) goodThenBad)) s := by
  have hsome : ((run probeStep (HealthMonitor.new true defaultMonitorConfig HealthWeights.default)
      goodThenBad).previousScores.lookup "eth0").isSome = true := by decide +kernel
  obtain ⟨s, hs⟩ := Option.isSome_iff_exists.mp hsome
  exact ⟨s, hs, smoothed_scores_consistent true defaultMonitorConfig HealthWeights.default
    (by decide) (by decide) goodThenBad "eth0" s hs⟩

/-- The second probe measures nothing worse than the first. -/
structure Better (p q : ProbeResult ℚ) : Prop where
  rtt : q.rttMs ≤ p.rttMs
  jitter : q.jitterMs ≤ p.jitterMs
  loss : q.lossPercent ≤ p.lossPercent
  stateChanges : q.stateChanges ≤ p.stateChanges
  throughput : p.throughputMbps ≤ q.throughputMbps

structure BetterCall (c d : ProbeCall) : Prop where
  name : c.interface.name = d.interface.name
  linkState : c.interface.linkState = d.interface.linkState
  probe : Option.Rel Better c.probe d.probe

structure BetterUpdate (u v : HealthUpdate ℚ) : Prop where
  interface : u.interface = v.interface
  raw : ∀ f, point u.newScore f ≤ point v.newScore f
  smoothed : ∀ f, point u.smoothedScore f ≤ point v.smoothedScore f

def BetterAnswer (o o' : ProbeAnswer) : Prop :=
  ∃ u v, o = .ok u ∧ o' = .ok v ∧ Option.Rel BetterUpdate u v

structure BetterMonitor (w : HealthWeightsConfig) (m n : HealthMonitor) : Prop where
  weights : m.weights = w ∧ n.weights = w
  config : m.config = n.config
  previous : ∀ name, Option.Rel (fun s t => ∀ f, point s f ≤ point t f)
    (m.previousScores.lookup name) (n.previousScores.lookup name)

theorem scores_mono {p q : ProbeResult ℚ} (h : Better p q) (c : Component) :
    scores p.rttMs p.jitterMs p.lossPercent p.throughputMbps p.stateChanges c ≤
      scores q.rttMs q.jitterMs q.lossPercent q.throughputMbps q.stateChanges c := by
  cases c with
  | rtt => exact normalizeLinear_antitone (by norm_num) h.rtt
  | jitter => exact normalizeLinear_antitone (by norm_num) h.jitter
  | loss => exact normalizeLinear_antitone (by norm_num) h.loss
  | throughput => exact normalizeLinear_monotone (by norm_num) h.throughput
  | stability =>
    apply normalizeLinear_antitone (by norm_num)
    exact Nat.cast_le.mpr (UInt32.le_iff_toNat_le.mp h.stateChanges)

theorem healthOf_mono {p q : ProbeResult ℚ} (h : Better p q) (now now' : DateTime)
    (w : HealthWeightsConfig) (f : ScoreField) :
    point (healthOf p.rttMs p.jitterMs p.lossPercent p.throughputMbps p.stateChanges now w
        (total w)) f ≤
      point (healthOf q.rttMs q.jitterMs q.lossPercent q.throughputMbps q.stateChanges now' w
        (total w)) f := by
  cases f with
  | overall =>
    simp only [point, healthOf, ← sum_weights]
    split
    · exact le_rfl
    · apply clamp_mono
      exact weightedMean_mono (weights_nonneg w) (scores_mono h)
  | component c =>
    rw [point, point, component_healthOf, component_healthOf]
    exact scores_mono h c

theorem smooth_mono {w : HealthWeightsConfig} {m n : HealthMonitor} (h : BetterMonitor w m n)
    (now now' : DateTime) (name : String) {raw raw' : HealthScore ℚ}
    (hraw : ∀ f, point raw f ≤ point raw' f) (f : ScoreField) :
    point (smooth m now name raw) f ≤ point (smooth n now' name raw') f := by
  have hprev := h.previous name
  rw [smooth, smooth, h.config]
  cases hm : m.previousScores.lookup name with
  | none =>
    cases hn : n.previousScores.lookup name with
    | none => exact hraw f
    | some t => simp [hm, hn] at hprev
  | some s =>
    cases hn : n.previousScores.lookup name with
    | none => simp [hm, hn] at hprev
    | some t =>
      rw [hm, hn, Option.rel_some_some] at hprev
      obtain ⟨hlow, hhigh⟩ := share_mem n.config.emaAlpha
      simp only [point_ema, AffineMap.pi_lineMap_apply]
      exact lineMap_mono_endpoints (hprev f) (hraw f) hlow hhigh

theorem probeInterface_down {m : HealthMonitor} {c : ProbeCall}
    (h : c.interface.linkState ≠ .up ∨ c.probe = none) : probeStep m c = (.ok none, m) := by
  cases h with
  | inl hdown => simp [probeStep, probeInterface, hdown]
  | inr hnone => simp [probeStep, probeInterface, hnone]

theorem better_insert {w : HealthWeightsConfig} {m n : HealthMonitor} (h : BetterMonitor w m n)
    (name : String) {s t : HealthScore ℚ} (hst : ∀ f, point s f ≤ point t f) :
    BetterMonitor w { m with previousScores := m.previousScores.insert name s }
      { n with previousScores := n.previousScores.insert name t } := by
  refine ⟨h.weights, h.config, ?_⟩
  intro other
  simp only [lookup_insert_eq]
  split
  · exact Option.rel_some_some.mpr hst
  · exact h.previous other

theorem better_step {w : HealthWeightsConfig} (hw : total w ≤ 255) (m n : HealthMonitor)
    (c d : ProbeCall) (h : BetterMonitor w m n) (hcd : BetterCall c d) :
    BetterAnswer (probeStep m c).1 (probeStep n d).1 ∧
    BetterMonitor w (probeStep m c).2 (probeStep n d).2 := by
  have hprobe := hcd.probe
  have hname := hcd.name
  by_cases hdown : c.interface.linkState ≠ .up ∨ c.probe = none
  · have hdown' : d.interface.linkState ≠ .up ∨ d.probe = none := by
      rw [← hcd.linkState]
      apply hdown.imp_right
      intro hnone
      cases hd : d.probe with
      | none => rfl
      | some q => simp [hnone, hd] at hprobe
    rw [probeInterface_down hdown, probeInterface_down hdown']
    exact ⟨⟨none, none, rfl, rfl, Option.rel_none_none⟩, h⟩
  · obtain ⟨hup, hsome⟩ := not_or.mp hdown
    have hup' : c.interface.linkState = .up := not_not.mp hup
    cases hp : c.probe with
    | none => exact absurd hp hsome
    | some p =>
      cases hq : d.probe with
      | none => simp [hp, hq] at hprobe
      | some q =>
        rw [hp, hq, Option.rel_some_some] at hprobe
        have hraw := healthOf_mono hprobe c.now d.now w
        have hsmooth := smooth_mono h c.now d.now c.interface.name hraw
        have hd : d.interface.linkState = .up := hcd.linkState.symm.trans hup'
        simp only [probeStep, probeInterface, hp, hq, hup', hd, ← hname,
          rawScore_total m h.weights.1 hw, rawScore_total n h.weights.2 hw]
        constructor
        · exact ⟨_, _, rfl, rfl, Option.rel_some_some.mpr ⟨rfl, hraw, hsmooth⟩⟩
        · exact better_insert h c.interface.name hsmooth

/-- Better measurements never lower a score, raw or smoothed, at any step of a run. -/
theorem better_measurements (checks : Bool) (config : MonitorConfig) (w : HealthWeights)
    (hw : total ⟨w.rtt, w.jitter, w.loss, w.throughput, w.stability⟩ ≤ 255)
    (cs ds : List ProbeCall) (h : List.Forall₂ BetterCall cs ds) :
    List.Forall₂ BetterAnswer (outputs probeStep (HealthMonitor.new checks config w) cs)
      (outputs probeStep (HealthMonitor.new checks config w) ds) := by
  apply outputs_related (better_step hw) _ h
  refine ⟨⟨rfl, rfl⟩, rfl, ?_⟩
  intro name
  exact Option.rel_none_none

theorem betterCall_probeCall (name : String) {rttMs rttMs' lossPercent lossPercent' : ℚ}
    (hrtt : rttMs' ≤ rttMs) (hloss : lossPercent' ≤ lossPercent) :
    BetterCall (probeCall name rttMs lossPercent) (probeCall name rttMs' lossPercent') :=
  ⟨rfl, rfl, Option.rel_some_some.mpr ⟨hrtt, le_rfl, hloss, UInt32.le_refl 0, le_rfl⟩⟩

/-- Three probes of `eth0`, each of them better in the second run. -/
theorem better_measurements_default :
    List.Forall₂ BetterAnswer
      (outputs probeStep (HealthMonitor.new true defaultMonitorConfig HealthWeights.default)
        [probeCall "eth0" 999 100, probeCall "eth0" 300 20, probeCall "eth0" 700 50])
      (outputs probeStep (HealthMonitor.new true defaultMonitorConfig HealthWeights.default)
        [probeCall "eth0" 5 0, probeCall "eth0" 200 10, probeCall "eth0" 400 40]) := by
  apply better_measurements true defaultMonitorConfig HealthWeights.default (by decide)
  refine .cons ?_ (.cons ?_ (.cons ?_ .nil))
  all_goals exact betterCall_probeCall "eth0" (by decide +kernel) (by decide +kernel)

end Netfusion.Core.ScoreRuns
