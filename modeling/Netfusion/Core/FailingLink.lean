import Netfusion.Core.DeadLink
import Netfusion.Core.SmoothedHistory

namespace Netfusion.Core.FailingLink

open Netfusion.Lib.Collections Netfusion.Lib.ExponentialMeans Netfusion.Lib.Machine
open Netfusion.Shared.Config Netfusion.Shared.Types
open Netfusion.Core.Health Netfusion.Core.Monitoring Netfusion.Core.CompositeScore
open Netfusion.Core.ScoreRuns Netfusion.Core.SmoothedHistory
open Netfusion.Core.PathSteering Netfusion.Core.SteeringSpec Netfusion.Core.DeadLink

/-- The overall raw score of the interface that an entry probes, if it is up
and the probe comes back. -/
def reading (w : HealthWeightsConfig) (e : Entry) : Option ℚ :=
  if e.interface.linkState = .up then
    e.probe.map (fun p => (healthOf p.rttMs p.jitterMs p.lossPercent p.throughputMbps
      p.stateChanges e.time w (total w)).overall)
  else none

/-- Every time `a` is probed it is read, and scores at most `r`. -/
def ReadAtMost (w : HealthWeightsConfig) (a : String) (r : ℚ) (es : List Entry) : Prop :=
  ∀ e ∈ es, e.interface.name = a → ∃ v, reading w e = some v ∧ v ≤ r

/-- Whenever `b` is read it scores at least `low`. -/
def ReadAtLeast (w : HealthWeightsConfig) (b : String) (low : ℚ) (es : List Entry) : Prop :=
  ∀ e ∈ es, e.interface.name = b → ∀ v, reading w e = some v → low ≤ v

def probesOf (a : String) (es : List Entry) : Nat := es.countP (fun e => e.interface.name = a)

def ScoresAtLeast (b : String) (low : ℚ) (sys : System) : Prop :=
  ∃ s, sys.monitor.previousScores.lookup b = some s ∧ low ≤ s.overall

def ScoresAtMost (a : String) (v : ℚ) (sys : System) : Prop :=
  ∀ s, sys.monitor.previousScores.lookup a = some s → s.overall ≤ v

/-- The monitor has the weights `w` and the share `alpha`, the steerer its
configuration and the scores of the monitor. -/
structure Joined (w : HealthWeightsConfig) (alpha : ℚ) (steering : SteeringConfig ℚ)
    (sys : System) : Prop where
  weights : sys.monitor.weights = w
  share : share sys.monitor.config.emaAlpha = alpha
  config : sys.steerer.config = steering
  scores : ∀ name, sys.steerer.healthScores.lookup name = sys.monitor.previousScores.lookup name
  range : ∀ name s, sys.monitor.previousScores.lookup name = some s → point s ∈ rawPoints w

/-- What a delivery does: nothing, or it reads an interface, stores its score
and hands it to the steerer. -/
inductive Delivered (w : HealthWeightsConfig) (sys : System) (e : Entry) : Prop where
  | unread (hread : reading w e = none) (hsys : (deliver sys e).2 = sys)
  | read (u : HealthUpdate ℚ) (hread : reading w e = some u.newScore.overall)
      (hnew : point u.newScore ∈ rawPoints w) (hname : u.interface = e.interface.name)
      (hsmoothed : u.smoothedScore = smooth sys.monitor e.time u.interface u.newScore)
      (hsteerer : (deliver sys e).2.steerer = (onHealthUpdate sys.steerer u e.now e.order).2)
      (hmonitor : (deliver sys e).2.monitor =
        { sys.monitor with
          previousScores := sys.monitor.previousScores.insert u.interface u.smoothedScore })

section

variable {w : HealthWeightsConfig} {alpha : ℚ} {steering : SteeringConfig ℚ} {sys : System}

theorem deliver_cases (hpos : 0 < total w) (hmax : total w ≤ 255)
    (h : sys.monitor.weights = w) (e : Entry) : Delivered w sys e := by
  by_cases hup : e.interface.linkState = .up
  · cases hp : e.probe with
    | none =>
      have hstep : probeStep sys.monitor e.call = (.ok none, sys.monitor) :=
        probeInterface_down (.inr hp)
      refine .unread (by simp [reading, hp]) ?_
      simp [deliver, published, hstep, emitted]
    | some p =>
      have hraw := rawScore_total sys.monitor h hmax e.time p
      have hstep : probeStep sys.monitor e.call =
          probeInterface sys.monitor e.interface (some p) e.time := by
        rw [probeStep, Entry.call, hp]
      obtain ⟨hnone, -⟩ | ⟨q, raw, -, hq, hraw', hres⟩ :=
        probeInterface_cases sys.monitor e.interface (some p) e.time
      · simp [probeInterface, hup, hraw, emitted] at hnone
      · cases hq
        cases hraw.symm.trans hraw'
        rw [hres] at hstep
        have hnew := point_healthOf p.rttMs p.jitterMs p.lossPercent p.throughputMbps
          p.stateChanges e.time hpos
        set raw := healthOf p.rttMs p.jitterMs p.lossPercent p.throughputMbps p.stateChanges e.time
          w (total w)
        have hread : reading w e = some raw.overall := by simp [reading, hup, hp, raw]
        exact .read ⟨e.interface.name, (smooth sys.monitor e.time e.interface.name raw).overall, raw,
          smooth sys.monitor e.time e.interface.name raw, false, p⟩ hread hnew rfl rfl
          (by simp [deliver, published, hstep, emitted])
          (by simp [deliver, published, hstep, emitted])
  · have hstep : probeStep sys.monitor e.call = (.ok none, sys.monitor) :=
      probeInterface_down (.inl hup)
    refine .unread (by simp [reading, hup]) ?_
    simp [deliver, published, hstep, emitted]

theorem smooth_overall (m : HealthMonitor) (now : DateTime) (name : String) (raw : HealthScore ℚ) :
    (smooth m now name raw).overall = match m.previousScores.lookup name with
      | some prev => ewma (share m.config.emaAlpha) prev.overall [raw.overall]
      | none => raw.overall := by
  rw [smooth]
  cases m.previousScores.lookup name with
  | none => rfl
  | some prev =>
    have hpoint := congrFun (point_ema raw prev m.config.emaAlpha now) .overall
    rw [AffineMap.pi_lineMap_apply] at hpoint
    exact hpoint

theorem joined_deliver (hpos : 0 < total w) (hmax : total w ≤ 255)
    (h : Joined w alpha steering sys) (e : Entry) :
    Joined w alpha steering (deliver sys e).2 := by
  cases deliver_cases hpos hmax h.weights e with
  | unread hread hsys =>
    rw [hsys]
    exact h
  | read u hread hnew hname hsmoothed hsteerer hmonitor =>
    have hframe := onHealthUpdate_framed sys.steerer u e.now e.order
    refine ⟨?_, ?_, ?_, ?_, ?_⟩
    · rw [hmonitor]
      exact h.weights
    · rw [hmonitor]
      exact h.share
    · rw [hsteerer, hframe.1]
      exact h.config
    · intro name
      rw [hsteerer, hmonitor, hframe.2]
      simp only [recordScore, lookup_insert_eq, h.scores]
    · rw [hmonitor]
      apply insert_keeps _ h.range
      rw [hsmoothed]
      exact smooth_mem (convex_rawPoints w) e.time hnew (h.range u.interface)

theorem joined_run (hpos : 0 < total w) (hmax : total w ≤ 255)
    (h : Joined w alpha steering sys) (es : List Entry) :
    Joined w alpha steering (run deliver sys es) :=
  run_keeps h (fun _ e hsys => joined_deliver hpos hmax hsys e) es

theorem scoresAtLeast_deliver (hpos : 0 < total w) (hmax : total w ≤ 255)
    (h : Joined w alpha steering sys) {b : String} {low : ℚ} (hb : ScoresAtLeast b low sys)
    (e : Entry) (hread : e.interface.name = b → ∀ v, reading w e = some v → low ≤ v) :
    ScoresAtLeast b low (deliver sys e).2 := by
  cases deliver_cases hpos hmax h.weights e with
  | unread _ hsys =>
    rw [hsys]
    exact hb
  | read u hv _ hname hsmoothed _ hmonitor =>
    obtain ⟨prev, hprev, hlow⟩ := hb
    rw [ScoresAtLeast, hmonitor]
    simp only [lookup_insert_eq]
    by_cases hub : b = u.interface
    · subst hub
      refine ⟨u.smoothedScore, if_pos rfl, ?_⟩
      obtain ⟨hshare, hshare'⟩ := share_mem sys.monitor.config.emaAlpha
      rw [hsmoothed, smooth_overall, hprev]
      exact le_ewma_singleton hshare hshare' hlow (hread hname.symm _ hv)
    · exact ⟨prev, (if_neg hub).trans hprev, hlow⟩

theorem scoresAtMost_other (hpos : 0 < total w) (hmax : total w ≤ 255)
    (h : Joined w alpha steering sys) {a : String} {v : ℚ} (ha : ScoresAtMost a v sys) (e : Entry)
    (hne : e.interface.name ≠ a) : ScoresAtMost a v (deliver sys e).2 := by
  cases deliver_cases hpos hmax h.weights e with
  | unread _ hsys =>
    rw [hsys]
    exact ha
  | read u _ _ hname _ _ hmonitor =>
    intro s hs
    rw [hmonitor, lookup_insert_eq, if_neg (fun heq => hne (hname.symm.trans heq.symm))] at hs
    exact ha s hs

theorem scoresAtMost_read (hpos : 0 < total w) (hmax : total w ≤ 255)
    (h : Joined w alpha steering sys) {a : String} {v r : ℚ} (hrv : r ≤ v)
    (ha : ScoresAtMost a v sys) (e : Entry) (hname : e.interface.name = a)
    (hread : ∃ x, reading w e = some x ∧ x ≤ r) :
    ScoresAtMost a (r + (1 - alpha) * (v - r)) (deliver sys e).2 := by
  obtain ⟨x, hx, hxr⟩ := hread
  cases deliver_cases hpos hmax h.weights e with
  | unread hnone _ => cases hnone.symm.trans hx
  | read u hv _ hu hsmoothed _ hmonitor =>
    cases hv.symm.trans hx
    intro s hs
    have hua : a = u.interface := hname.symm.trans hu.symm
    subst hua
    rw [hmonitor, lookup_insert_eq, if_pos rfl] at hs
    cases hs
    have hshare := share_mem sys.monitor.config.emaAlpha
    rw [← share, h.share] at hshare
    rw [hsmoothed, smooth_overall, h.share]
    cases hprev : sys.monitor.previousScores.lookup u.interface with
    | none =>
      have hgap : 0 ≤ (1 - alpha) * (v - r) :=
        mul_nonneg (sub_nonneg.mpr hshare.2) (sub_nonneg.mpr hrv)
      exact hxr.trans (le_add_of_nonneg_right hgap)
    | some prev =>
      have hfall := ewma_singleton_sub_le prev.overall hshare.1 hxr
      have hbound : (1 - alpha) * (prev.overall - r) ≤ (1 - alpha) * (v - r) :=
        mul_le_mul_of_nonneg_left (sub_le_sub_right (ha prev hprev) r) (sub_nonneg.mpr hshare.2)
      exact sub_le_iff_le_add'.mp (hfall.trans hbound)

theorem scoresAtMost_deliver (hpos : 0 < total w) (hmax : total w ≤ 255)
    (h : Joined w alpha steering sys) {a : String} {v r : ℚ} (hrv : r ≤ v)
    (ha : ScoresAtMost a v sys) (e : Entry)
    (hread : e.interface.name = a → ∃ x, reading w e = some x ∧ x ≤ r) :
    ScoresAtMost a v (deliver sys e).2 := by
  by_cases hname : e.interface.name = a
  · have hshare := share_mem sys.monitor.config.emaAlpha
    rw [← share, h.share] at hshare
    intro s hs
    have hs' := scoresAtMost_read hpos hmax h hrv ha e hname (hread hname) s hs
    have hpart : (1 - alpha) * (v - r) ≤ v - r :=
      mul_le_of_le_one_left (sub_nonneg.mpr hrv) (sub_le_self 1 hshare.1)
    linarith
  · exact scoresAtMost_other hpos hmax h ha e hname

/-- The gap above `r` shrinks with every probe of `a`. -/
theorem scoresAtMost_run (hpos : 0 < total w) (hmax : total w ≤ 255)
    (h : Joined w alpha steering sys) {a : String} {v r : ℚ} (hrv : r ≤ v)
    (ha : ScoresAtMost a v sys) (es : List Entry) (hread : ReadAtMost w a r es) :
    ScoresAtMost a (r + (1 - alpha) ^ probesOf a es * (v - r)) (run deliver sys es) := by
  induction es generalizing sys v with
  | nil => simpa [probesOf, run] using ha
  | cons e es ih =>
    have hjoined := joined_deliver hpos hmax h e
    have hrest : ReadAtMost w a r es := fun f hf => hread f (.tail e hf)
    rw [run, probesOf, List.countP_cons, ← probesOf]
    by_cases hname : e.interface.name = a
    · have hshare := share_mem sys.monitor.config.emaAlpha
      rw [← share, h.share] at hshare
      have hgap : 0 ≤ (1 - alpha) * (v - r) :=
        mul_nonneg (sub_nonneg.mpr hshare.2) (sub_nonneg.mpr hrv)
      have hfall := ih hjoined (le_add_of_nonneg_right hgap)
        (scoresAtMost_read hpos hmax h hrv ha e hname (hread e (.head es) hname)) hrest
      rw [if_pos (decide_eq_true hname), pow_succ, mul_assoc]
      rwa [add_sub_cancel_left] at hfall
    · rw [if_neg (by simpa using hname)]
      exact ih hjoined hrv (scoresAtMost_other hpos hmax h ha e hname) hrest

structure Outscored (w : HealthWeightsConfig) (alpha : ℚ) (steering : SteeringConfig ℚ)
    (a b : String) (v : ℚ) (sys : System) : Prop where
  joined : Joined w alpha steering sys
  low : ScoresAtMost a v sys
  other : ScoresAtLeast b steering.minViableScore sys

structure Keeps (w : HealthWeightsConfig) (steering : SteeringConfig ℚ) (a b : String) (r : ℚ)
    (es : List Entry) : Prop where
  low : ReadAtMost w a r es
  other : ReadAtLeast w b steering.minViableScore es

theorem Keeps.tail {a b : String} {r : ℚ} {e : Entry} {es : List Entry}
    (h : Keeps w steering a b r (e :: es)) : Keeps w steering a b r es :=
  ⟨fun f hf => h.low f (.tail e hf), fun f hf => h.other f (.tail e hf)⟩

theorem keeps_append {a b : String} {r : ℚ} {es fs : List Entry}
    (h : Keeps w steering a b r (es ++ fs)) :
    Keeps w steering a b r es ∧ Keeps w steering a b r fs :=
  ⟨⟨fun e he => h.low e (List.mem_append_left fs he),
      fun e he => h.other e (List.mem_append_left fs he)⟩,
    ⟨fun e he => h.low e (List.mem_append_right es he),
      fun e he => h.other e (List.mem_append_right es he)⟩⟩

theorem outscored_deliver (hpos : 0 < total w) (hmax : total w ≤ 255) {a b : String} {v r : ℚ}
    (hrv : r ≤ v) (h : Outscored w alpha steering a b v sys) {e : Entry} {es : List Entry}
    (hread : Keeps w steering a b r (e :: es)) :
    Outscored w alpha steering a b v (deliver sys e).2 where
  joined := joined_deliver hpos hmax h.joined e
  low := scoresAtMost_deliver hpos hmax h.joined hrv h.low e (hread.low e (.head es))
  other := scoresAtLeast_deliver hpos hmax h.joined h.other e (hread.other e (.head es))

theorem outscored_run (hpos : 0 < total w) (hmax : total w ≤ 255) {a b : String} {v r : ℚ}
    (hrv : r ≤ v) (h : Outscored w alpha steering a b v sys) (es : List Entry)
    (hread : Keeps w steering a b r es) :
    Outscored w alpha steering a b v (run deliver sys es) := by
  induction es generalizing sys with
  | nil => exact h
  | cons e es ih => exact ih (outscored_deliver hpos hmax hrv h hread) hread.tail

theorem best_other {a b : String} {v : ℚ} (hv : v < steering.minViableScore)
    (h : Joined w alpha steering sys) {e : Entry} {u : HealthUpdate ℚ}
    (hmonitor : (deliver sys e).2.monitor =
      { sys.monitor with
        previousScores := sys.monitor.previousScores.insert u.interface u.smoothedScore })
    (hafter : Outscored w alpha steering a b v (deliver sys e).2) :
    ∃ x, best sys.steerer u e.order = some x ∧ x.1 ≠ a := by
  have hscores : ∀ name, (scoresAfter sys.steerer u).lookup name =
      (deliver sys e).2.monitor.previousScores.lookup name := by
    intro name
    rw [hmonitor, scoresAfter, lookup_insert_eq, lookup_insert_eq, h.scores]
  rw [best, h.config]
  cases hb : findBestInterface steering e.order (scoresAfter sys.steerer u) with
  | none =>
    obtain ⟨s, hs, hlow⟩ := hafter.other
    rw [← hscores] at hs
    exact absurd hlow (not_le.mpr (findBestInterface_eq_none.mp hb b s hs))
  | some x =>
    obtain ⟨s, hs, hsx, hmin, -⟩ := findBestInterface_eq_some hb
    refine ⟨x, rfl, fun hxa => ?_⟩
    rw [hscores, hxa] at hs
    have hlow := hafter.low s hs
    rw [hsx] at hlow
    exact absurd (hmin.trans hlow) (not_le.mpr hv)

theorem stays_away {a b : String} {v : ℚ} (hpos : 0 < total w) (hmax : total w ≤ 255)
    (hv : v < steering.minViableScore) (h : Joined w alpha steering sys) {e : Entry}
    (hafter : Outscored w alpha steering a b v (deliver sys e).2) (hoff : active sys ≠ some a) :
    active (deliver sys e).2 ≠ some a := by
  cases deliver_cases hpos hmax h.weights e with
  | unread _ hsys =>
    rw [hsys]
    exact hoff
  | read u _ _ _ _ hsteerer hmonitor =>
    obtain ⟨y, hy, hne⟩ := best_other hv h hmonitor hafter
    rw [active, path, hsteerer]
    cases onHealthUpdate_answered sys.steerer u e.now e.order with
    | unassigned _ _ _ hq => simp [hq]
    | started x _ hb hq =>
      cases hb.symm.trans hy
      simpa [hq.2] using hne
    | moved p x _ hx hq =>
      cases hx.2.2.1.symm.trans hy
      simpa [hq.2] using hne
    | stayed p hp _ hq =>
      rw [active, path, hp] at hoff
      simpa [hq.2] using hoff

/-- The path is off `a`, or it has been on it since it was `p`, and each of the
`k` probes of `a` since then has been counted. -/
def Lingers (a : String) (p : PathState ℚ) (k : Nat) (sys : System) : Prop :=
  active sys ≠ some a ∨
  p.activeInterface = a ∧ k ≤ 2 ∧
    ∃ n, k ≤ n ∧ path sys = some { p with consecutiveDegraded := n }

/-- Once the cooldown is over a probe of `a` is counted, and the third one
moves the path. -/
theorem lingers_deliver {a b : String} {v r : ℚ} (hpos : 0 < total w) (hmax : total w ≤ 255)
    (hauto : steering.autoFailover = true) (hrv : r ≤ v) (hv : v < steering.minViableScore)
    (h : Outscored w alpha steering a b v sys) {p : PathState ℚ} {k : Nat} (hk : Lingers a p k sys)
    {e : Entry} {es : List Entry} (hread : Keeps w steering a b r (e :: es))
    (hcool : p.activeInterface = a → steering.steeringCooldown ≤ e.now - p.lastSteering) :
    Lingers a p (k + probesOf a [e]) (deliver sys e).2 := by
  have hafter := outscored_deliver hpos hmax hrv h hread
  rcases hk with hoff | ⟨rfl, hk, n, hkn, hpath⟩
  · exact .inl (stays_away hpos hmax hv h.joined hafter hoff)
  · have hprobes : probesOf p.activeInterface [e] =
        if e.interface.name = p.activeInterface then 1 else 0 := by
      simp [probesOf]
    cases deliver_cases hpos hmax h.joined.weights e with
    | unread hnone hsys =>
      have hother : e.interface.name ≠ p.activeInterface := by
        intro hname
        obtain ⟨x, hx, -⟩ := hread.low e (.head es) hname
        cases hnone.symm.trans hx
      rw [hprobes, if_neg hother, hsys]
      exact .inr ⟨rfl, hk, n, hkn, hpath⟩
    | read u _ _ hname hsmoothed hsteerer hmonitor =>
      obtain ⟨x, hx, hne⟩ := best_other hv h.joined hmonitor hafter
      have hcooled : ¬ CoolingDown sys.steerer { p with consecutiveDegraded := n } e.now := by
        rw [CoolingDown, h.joined.config]
        exact not_lt.mpr (hcool rfl)
      cases onHealthUpdate_answered sys.steerer u e.now e.order with
      | unassigned hp => cases hp.symm.trans hpath
      | started _ hp => cases hp.symm.trans hpath
      | moved q y hp hy hq =>
        cases hy.2.2.1.symm.trans hx
        left
        rw [active, path, hsteerer]
        simpa [hq.2] using hne
      | stayed q hp hno hq =>
        cases hp.symm.trans hpath
        right
        rw [path, hsteerer]
        by_cases ha : e.interface.name = p.activeInterface
        · have hu : u.interface = p.activeInterface := hname.trans ha
          have hlow : u.smoothedScore.overall < sys.steerer.config.minViableScore := by
            have hscore := hafter.low u.smoothedScore
            rw [hmonitor, lookup_insert_eq, if_pos hu.symm] at hscore
            rw [h.joined.config]
            exact (hscore rfl).trans_lt hv
          have htwo : n + 1 ≤ 2 := by
            by_contra hthree
            apply hno x
            refine ⟨by rw [h.joined.config]; exact hauto, hcooled, hx, hne, .inl ⟨⟨hu, hlow⟩, ?_⟩⟩
            dsimp only
            omega
          have hcount : countAfter sys.steerer u e.now e.order
              { p with consecutiveDegraded := n } = n + 1 := by
            simp [countAfter, hx, hcooled, hu, hlow]
          rw [hprobes, if_pos ha]
          refine ⟨rfl, by omega, n + 1, by omega, ?_⟩
          rw [hq.2, hcount]
        · have hu : u.interface ≠ p.activeInterface := fun heq => ha (hname.symm.trans heq)
          have hcount : countAfter sys.steerer u e.now e.order
              { p with consecutiveDegraded := n } = n := by
            simp [countAfter, hu]
          rw [hprobes, if_neg ha]
          refine ⟨rfl, hk, n, hkn, ?_⟩
          rw [hq.2, hcount]

theorem lingers_run {a b : String} {v r : ℚ} (hpos : 0 < total w) (hmax : total w ≤ 255)
    (hauto : steering.autoFailover = true) (hrv : r ≤ v) (hv : v < steering.minViableScore)
    (h : Outscored w alpha steering a b v sys) {p : PathState ℚ} {k : Nat} (hk : Lingers a p k sys)
    (es : List Entry) (hread : Keeps w steering a b r es)
    (hcool : p.activeInterface = a → ∀ e ∈ es, steering.steeringCooldown ≤ e.now - p.lastSteering) :
    Lingers a p (k + probesOf a es) (run deliver sys es) := by
  induction es generalizing sys k with
  | nil => simpa [probesOf, run] using hk
  | cons e es ih =>
    have hnext := lingers_deliver hpos hmax hauto hrv hv h hk hread
      (fun ha => hcool ha e (.head es))
    have hsplit : probesOf a (e :: es) = probesOf a [e] + probesOf a es := by
      rw [probesOf, probesOf, probesOf, ← List.countP_append, List.singleton_append]
    rw [hsplit, ← Nat.add_assoc]
    exact ih (outscored_deliver hpos hmax hrv h hread) hnext hread.tail
      (fun ha f hf => hcool ha f (.tail e hf))

theorem stays_away_run {a b : String} {v r : ℚ} (hpos : 0 < total w) (hmax : total w ≤ 255)
    (hrv : r ≤ v) (hv : v < steering.minViableScore) (h : Outscored w alpha steering a b v sys)
    (hoff : active sys ≠ some a) (es : List Entry) (hread : Keeps w steering a b r es) :
    active (run deliver sys es) ≠ some a := by
  induction es generalizing sys with
  | nil => exact hoff
  | cons e es ih =>
    have hafter := outscored_deliver hpos hmax hrv h hread
    exact ih hafter (stays_away hpos hmax hv h.joined hafter hoff) hread.tail

theorem leaves_run {a b : String} {v r : ℚ} (hpos : 0 < total w) (hmax : total w ≤ 255)
    (hauto : steering.autoFailover = true) (hrv : r ≤ v) (hv : v < steering.minViableScore)
    (h : Outscored w alpha steering a b v sys) (es : List Entry)
    (hread : Keeps w steering a b r es) (hthree : 3 ≤ probesOf a es)
    (hcool : ∀ p, path sys = some p → p.activeInterface = a →
      ∀ e ∈ es, steering.steeringCooldown ≤ e.now - p.lastSteering) :
    active (run deliver sys es) ≠ some a := by
  by_cases hon : active sys = some a
  · obtain ⟨p, hp, ha⟩ := Option.map_eq_some_iff.mp hon
    have hstart : Lingers a p 0 sys :=
      .inr ⟨ha, Nat.zero_le 2, p.consecutiveDegraded, Nat.zero_le _, hp⟩
    rcases lingers_run hpos hmax hauto hrv hv h hstart es hread (hcool p hp) with
      hoff | ⟨-, htwo, -⟩
    · exact hoff
    · omega
  · exact stays_away_run hpos hmax hrv hv h hon es hread

end

def configured (w : HealthWeights) : HealthWeightsConfig :=
  ⟨w.rtt, w.jitter, w.loss, w.throughput, w.stability⟩

theorem joined_new (checks : Bool) (monitoring : MonitorConfig) (w : HealthWeights)
    (steering : SteeringConfig ℚ) :
    Joined (configured w) (share monitoring.emaAlpha) steering
      (System.new checks monitoring w steering) := by
  refine ⟨rfl, rfl, rfl, fun _ => rfl, ?_⟩
  intro name s hs
  cases hs

theorem overall_le_hundred {w : HealthWeightsConfig} {s : HealthScore ℚ}
    (h : point s ∈ rawPoints w) : s.overall ≤ 100 := h.1.2 .overall

theorem joined_scoresAtMost {w : HealthWeightsConfig} {alpha : ℚ} {steering : SteeringConfig ℚ}
    {sys : System} (h : Joined w alpha steering sys) (a : String) : ScoresAtMost a 100 sys :=
  fun s hs => overall_le_hundred (h.range a s hs)

theorem le_hundred_of_faded {share r low : ℚ} (hshare : share ∈ Set.Icc (0 : ℚ) 1) (n : Nat)
    (hlow : low ≤ 100) (h : r + (1 - share) ^ n * (100 - r) < low) : r ≤ 100 := by
  by_contra hr
  have hgap : 100 - r ≤ 0 := sub_nonpos.mpr (not_le.mp hr).le
  have hpow : (1 - share) ^ n ≤ 1 :=
    pow_le_one₀ (sub_nonneg.mpr hshare.2) (sub_le_self 1 hshare.1)
  have hpart : 100 - r ≤ (1 - share) ^ n * (100 - r) := le_mul_of_le_one_left hgap hpow
  linarith

/-- A link that keeps being read at `r` or less is left for a viable one, after
as many probes as take a score of 100 below the threshold and three more with
the cooldown over, and it is not returned to while this lasts. -/
theorem failing_link_left (checks : Bool) (monitoring : MonitorConfig) (weights : HealthWeights)
    (steering : SteeringConfig ℚ) (hpos : 0 < total (configured weights))
    (hmax : total (configured weights) ≤ 255) (hauto : steering.autoFailover = true)
    (before fade late more : List Entry) (a b : String) (r : ℚ)
    (hread : Keeps (configured weights) steering a b r (fade ++ late ++ more))
    (hb : ScoresAtLeast b steering.minViableScore
      (run deliver (System.new checks monitoring weights steering) before))
    (hfade : r + (1 - share monitoring.emaAlpha) ^ probesOf a fade * (100 - r) <
      steering.minViableScore)
    (hthree : 3 ≤ probesOf a late)
    (hcool : ∀ p, path (run deliver (System.new checks monitoring weights steering)
        (before ++ fade)) = some p → p.activeInterface = a →
      ∀ e ∈ late, steering.steeringCooldown ≤ e.now - p.lastSteering) :
    active (run deliver (System.new checks monitoring weights steering)
      (before ++ fade ++ late ++ more)) ≠ some a := by
  obtain ⟨hfront, hmore⟩ := keeps_append hread
  obtain ⟨hfading, hlate⟩ := keeps_append hfront
  have hjoined := joined_run hpos hmax (joined_new checks monitoring weights steering) before
  have hshare := share_mem monitoring.emaAlpha
  rw [← share] at hshare
  have hr : r ≤ 100 := by
    obtain ⟨s, hs, hlow⟩ := hb
    exact le_hundred_of_faded hshare _ (hlow.trans (overall_le_hundred (hjoined.range b s hs))) hfade
  have hstart := Outscored.mk hjoined (joined_scoresAtMost hjoined a) hb
  have hlow := scoresAtMost_run hpos hmax hjoined hr hstart.low fade hfading.low
  have hfaded := outscored_run hpos hmax hr hstart fade hfading
  rw [← run_append] at hlow hfaded
  have hrv : r ≤ r + (1 - share monitoring.emaAlpha) ^ probesOf a fade * (100 - r) :=
    le_add_of_nonneg_right
      (mul_nonneg (pow_nonneg (sub_nonneg.mpr hshare.2) _) (sub_nonneg.mpr hr))
  have hbelow := Outscored.mk hfaded.joined hlow hfaded.other
  have hleft := leaves_run hpos hmax hauto hrv hfade hbelow late hlate hthree hcool
  have hafter := outscored_run hpos hmax hrv hbelow late hlate
  rw [← run_append] at hleft hafter
  rw [run_append]
  exact stays_away_run hpos hmax hrv hfade hafter hleft more hmore

/-- What the monitor takes for a probe whose ping fails. -/
def unanswered (name : String) (now : Nat) : Entry :=
  ⟨bareInterface name .up, some ⟨name, 999, 100, 100, 1000, 0, 0⟩, 0, now, .id _⟩

/-- The pings over eth0 fail from some point on, those over eth1 do not. The
first eight fall into the cooldown. -/
theorem failing_link_left_eth0 :
    active (run deliver freshSystem (bothUp ++ List.replicate 8 (unanswered "eth0" (10 * 10 ^ 9)) ++
      List.replicate 3 (unanswered "eth0" (60 * 10 ^ 9)) ++ [probed "eth1" .up (60 * 10 ^ 9)])) ≠
      some "eth0" := by
  have hb : ((run deliver freshSystem bothUp).monitor.previousScores.lookup "eth1").map
      (·.overall) = some 100 := by decide +kernel
  have hpath : path (run deliver freshSystem
      (bothUp ++ List.replicate 8 (unanswered "eth0" (10 * 10 ^ 9)))) =
        some ⟨"eth0", 100, 0, 0⟩ := by
    decide +kernel
  have hbad : ∀ now, reading (configured HealthWeights.default) (unanswered "eth0" now) =
      some 25 := by
    intro now
    have hnow : reading (configured HealthWeights.default) (unanswered "eth0" now) =
        reading (configured HealthWeights.default) (unanswered "eth0" 0) := rfl
    rw [hnow]
    decide +kernel
  obtain ⟨score, hscore, hoverall⟩ := Option.map_eq_some_iff.mp hb
  apply failing_link_left true defaultMonitorConfig HealthWeights.default defaultSteeringConfig
    (by decide) (by decide) rfl bothUp _ _ _ "eth0" "eth1" 25
  · constructor
    · intro e he hname
      simp only [List.mem_append, List.mem_replicate, List.mem_singleton] at he
      rcases he with (⟨-, rfl⟩ | ⟨-, rfl⟩) | rfl
      · exact ⟨25, hbad _, le_rfl⟩
      · exact ⟨25, hbad _, le_rfl⟩
      · exact absurd hname (by decide)
    · intro e he hname v hv
      simp only [List.mem_append, List.mem_replicate, List.mem_singleton] at he
      rcases he with (⟨-, rfl⟩ | ⟨-, rfl⟩) | rfl
      · exact absurd hname (by decide)
      · exact absurd hname (by decide)
      · have hgood : reading (configured HealthWeights.default)
            (probed "eth1" .up (60 * 10 ^ 9)) = some 100 := by decide +kernel
        cases hgood.symm.trans hv
        decide +kernel
  · exact ⟨score, hscore, by rw [hoverall]; decide +kernel⟩
  · decide +kernel
  · decide
  · intro p hp _ e he
    cases hpath.symm.trans hp
    rw [(List.mem_replicate.mp he).2]
    decide

end Netfusion.Core.FailingLink
