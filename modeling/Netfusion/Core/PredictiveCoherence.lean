import Netfusion.Core.PredictiveIndicators

namespace Netfusion.Core.PredictiveCoherence

open Netfusion.Lib.Regression
open Netfusion.Core.Predictive Netfusion.Core.PredictiveTrend Netfusion.Core.PredictiveIndicators

variable {F : Type} [Field F] [LinearOrder F]

/-- The fields of a prediction agree. -/
structure Coherent (p : FailurePrediction F) : Prop where
  confidence : 0 ≤ p.confidence ∧ p.confidence ≤ 1
  severity : p.severity = .none ↔ p.reason = .stable
  reason : p.reason = .stable ↔ p.confidence = 0
  timeToFailure : p.reason = .stable → p.timeToFailure = none

def keptValues (recentWindow : UInt64) (readings : List (String × F)) (interface : String) :
    List F := (values (readingsOf interface readings)).rtake (recentWindow * 4).toNat

def note (noticed : Prop) [Decidable noticed] (weight : F) (severity : Severity)
    (reason : PredictionReason) (x : F × Severity × PredictionReason) :
    F × Severity × PredictionReason :=
  if noticed then (x.1 + weight, x.2.1.max severity, reason) else x

def noteTrend (trend : TrendAnalysis F) : F × Severity × PredictionReason :=
  if trend.isDegrading then
    (0 + trend.rSquared * 0.5, if trend.slope < -0.1 then .high else .medium, .downwardTrend)
  else (0, .none, .stable)

def noteAll (trend : TrendAnalysis F) (accelerating : Bool) (anomalyScore : F) :
    F × Severity × PredictionReason :=
  note (anomalyScore > 3.0) 0.4 .medium .anomaly
    (note (accelerating = true) 0.3 .high .acceleratingDegradation (noteTrend trend))

/-- Something is noticed, and all three say so. -/
def Noticed (x : F × Severity × PredictionReason) : Prop :=
  0 < x.1 ∧ x.2.1 ≠ .none ∧ x.2.2 ≠ .stable

theorem max_ne_none (a : Severity) {b : Severity} (h : b ≠ .none) : a.max b ≠ .none := by
  revert h
  cases a <;> cases b <;> decide

section

variable [IsStrictOrderedRing F] {p : Prop} [Decidable p] {weight : F} {severity : Severity}
  {reason : PredictionReason} {x : F × Severity × PredictionReason}

theorem noticed_note (hx : 0 ≤ x.1) (hweight : 0 < weight) (hseverity : severity ≠ .none)
    (hreason : reason ≠ .stable) (h : p) : Noticed (note p weight severity reason x) := by
  rw [note, if_pos h]
  exact ⟨by dsimp only; linarith, max_ne_none _ hseverity, hreason⟩

theorem noticed_kept (hx : Noticed x) (hweight : 0 ≤ weight) (hseverity : severity ≠ .none)
    (hreason : reason ≠ .stable) : Noticed (note p weight severity reason x) := by
  rw [note]
  split
  · obtain ⟨hpos, -, -⟩ := hx
    exact ⟨by dsimp only; linarith, max_ne_none _ hseverity, hreason⟩
  · exact hx

end

section

variable [IsStrictOrderedRing F] (interface : String) {trend : TrendAnalysis F}
  {accelerating : Bool} {anomalyScore : F}

theorem noteTrend_eq : noteTrend trend =
    if trend.isDegrading then
      (0 + trend.rSquared * (1 / 2), if trend.slope < -(1 / 10) then .high else .medium,
        .downwardTrend)
    else (0, .none, .stable) := by
  have hhalf : (0.5 : F) = 1 / 2 := by norm_num
  have htenth : (0.1 : F) = 1 / 10 := by norm_num
  rw [noteTrend, hhalf, htenth]

theorem noteAll_eq : noteAll trend accelerating anomalyScore =
    note (anomalyScore > 3) (4 / 10) .medium .anomaly
      (note (accelerating = true) (3 / 10) .high .acceleratingDegradation (noteTrend trend)) := by
  have hthree : (3.0 : F) = 3 := by norm_num
  have hmedium : (0.4 : F) = 4 / 10 := by norm_num
  have hhigh : (0.3 : F) = 3 / 10 := by norm_num
  rw [noteAll, hthree, hmedium, hhigh]

theorem noteAll_quiet (htrend : trend.isDegrading = false) (haccelerating : accelerating = false)
    (hanomaly : ¬ 3 < anomalyScore) :
    noteAll trend accelerating anomalyScore = (0, .none, .stable) := by
  simp [noteAll_eq, note, noteTrend, htrend, haccelerating, hanomaly]

theorem noteAll_noticed
    (hfit : trend.isDegrading = true → 1 / 2 < trend.rSquared)
    (h : trend.isDegrading = true ∨ accelerating = true ∨ 3 < anomalyScore) :
    Noticed (noteAll trend accelerating anomalyScore) := by
  have htrend : trend.isDegrading = true → Noticed (noteTrend trend) := by
    intro hdegrading
    have hhalf := hfit hdegrading
    rw [noteTrend_eq, if_pos hdegrading]
    have hseverity : (if trend.slope < -(1 / 10) then Severity.high else .medium) ≠ .none := by
      split <;> decide
    exact ⟨by dsimp only; linarith, hseverity, PredictionReason.noConfusion⟩
  have hnonneg : 0 ≤ (noteTrend trend).1 := by
    by_cases hdegrading : trend.isDegrading = true
    · exact (htrend hdegrading).1.le
    · rw [noteTrend, if_neg hdegrading]
  have hsecond : 0 ≤ (note (accelerating = true) (3 / 10) .high .acceleratingDegradation
      (noteTrend trend)).1 := by
    rw [note]
    split
    · dsimp only
      linarith
    · exact hnonneg
  rw [noteAll_eq]
  rcases h with h | h | h
  · apply noticed_kept _ (by norm_num) (by decide) (by decide)
    exact noticed_kept (htrend h) (by norm_num) (by decide) (by decide)
  · apply noticed_kept _ (by norm_num) (by decide) (by decide)
    exact noticed_note hnonneg (by norm_num) (by decide) (by decide) h
  · exact noticed_note hsecond (by norm_num) (by decide) (by decide) h

theorem combineIndicators_eq : combineIndicators interface trend accelerating anomalyScore =
    let x := noteAll trend accelerating anomalyScore
    let several := note (x.1 > 6 / 10 ∧ (trend.isDegrading ∨ accelerating) ∧ anomalyScore > 2)
      0 .critical .multiIndicator x
    ⟨interface, trend.timeToCritical, min x.1 1, several.2.1, several.2.2⟩ := by
  simp only [combineIndicators, noteAll_eq, note, noteTrend_eq]
  split_ifs <;> rfl

theorem combineIndicators_quiet (htrend : trend.isDegrading = false)
    (haccelerating : accelerating = false) (hanomaly : ¬ 3 < anomalyScore) :
    combineIndicators interface trend accelerating anomalyScore =
      ⟨interface, trend.timeToCritical, 0, .none, .stable⟩ := by
  have hlow : ¬ (0 : F) > 6 / 10 := by norm_num
  rw [combineIndicators_eq, noteAll_quiet htrend haccelerating hanomaly]
  simp [note, hlow]

theorem combineIndicators_anomaly (htrend : trend.isDegrading = false)
    (haccelerating : accelerating = false) (hanomaly : 3 < anomalyScore) :
    combineIndicators interface trend accelerating anomalyScore =
      ⟨interface, trend.timeToCritical, 4 / 10, .medium, .anomaly⟩ := by
  have hlow : ¬ (4 / 10 : F) > 6 / 10 := by norm_num
  have hcap : min (4 / 10 : F) 1 = 4 / 10 := min_eq_left (by norm_num)
  have hall : noteAll trend accelerating anomalyScore = (4 / 10, .medium, .anomaly) := by
    simp [noteAll_eq, note, noteTrend, htrend, haccelerating, hanomaly, Severity.max,
      Severity.rank]
  rw [combineIndicators_eq, hall]
  dsimp only
  rw [hcap, note, if_neg (fun hseveral => hlow hseveral.1)]

theorem combineIndicators_noticed
    (hfit : trend.isDegrading = true → 1 / 2 < trend.rSquared)
    (h : trend.isDegrading = true ∨ accelerating = true ∨ 3 < anomalyScore) :
    let p := combineIndicators interface trend accelerating anomalyScore
    0 < p.confidence ∧ p.confidence ≤ 1 ∧ p.severity ≠ .none ∧ p.reason ≠ .stable := by
  have hnoticed := noteAll_noticed hfit h
  obtain ⟨-, hseverity, hreason⟩ := noticed_kept (x := noteAll trend accelerating anomalyScore)
    (p := (noteAll trend accelerating anomalyScore).1 > 6 / 10 ∧
      (trend.isDegrading ∨ accelerating) ∧ anomalyScore > 2) hnoticed le_rfl
    (by decide : Severity.critical ≠ .none) (by decide : PredictionReason.multiIndicator ≠ .stable)
  rw [combineIndicators_eq]
  exact ⟨lt_min hnoticed.1 one_pos, min_le_right _ _, hseverity, hreason⟩

/-- Only the time of a steep line with a poor fit is passed on by itself. -/
theorem combineIndicators_coherent
    (hfit : trend.isDegrading = true → 1 / 2 < trend.rSquared) :
    Coherent (combineIndicators interface trend accelerating anomalyScore) ↔
      trend.isDegrading = true ∨ accelerating = true ∨ 3 < anomalyScore ∨
        trend.timeToCritical = none := by
  by_cases h : trend.isDegrading = true ∨ accelerating = true ∨ 3 < anomalyScore
  · obtain ⟨hpos, hcap, hseverity, hreason⟩ := combineIndicators_noticed interface hfit h
    apply iff_of_true
    · exact ⟨⟨hpos.le, hcap⟩, iff_of_false hseverity hreason, iff_of_false hreason hpos.ne',
        fun hstable => absurd hstable hreason⟩
    · tauto
  · rw [not_or, not_or] at h
    obtain ⟨htrend, haccelerating, hanomaly⟩ := h
    rw [combineIndicators_quiet interface (by simpa using htrend) (by simpa using haccelerating)
      hanomaly]
    constructor
    · exact fun hcoherent => .inr (.inr (.inr (hcoherent.timeToFailure rfl)))
    · intro h
      have hnone : trend.timeToCritical = none := by tauto
      exact ⟨⟨le_rfl, zero_le_one⟩, iff_of_true rfl rfl, iff_of_true rfl rfl, fun _ => hnone⟩

end

omit [LinearOrder F] in
theorem timeline_recent (t : F) (w : ℕ) (vs : List F) :
    ∃ u, ((timeline t vs).reverse.take w).reverse = timeline u (vs.rtake w) := by
  rw [← List.rtake_eq_reverse_take_reverse, List.rtake, List.rtake, timeline_length]
  exact timeline_drop t _ vs

section

variable [IsStrictOrderedRing F] (sqrt : F → F) {checks : Bool} {minSamples recentWindow : UInt64}
  (interface : String)

theorem analyze_kept {readings : List (String × F)} {e : PredictiveEngine F}
    (h : feed checks (PredictiveEngine.new minSamples recentWindow) readings = .ok e) :
    analyze sqrt e interface = analyzePoints sqrt (PredictiveEngine.new minSamples recentWindow)
      interface (timeline 0 (keptValues recentWindow readings interface)) := by
  have hretains : Retains minSamples recentWindow (recentWindow * 4).toNat readings e := by
    cases hlimit : historyLimit checks recentWindow with
    | error panic =>
      cases readings with
      | nil =>
        cases h
        exact retains_new _
      | cons r readings =>
        rw [feed_panics hlimit] at h
        cases h
    | ok limit =>
      obtain ⟨e', he', hkept⟩ := feed_retains minSamples hlimit readings
      cases he'.symm.trans h
      rw [historyLimit] at hlimit
      split at hlimit
      · cases hlimit
      · cases hlimit
        exact hkept
  exact analyze_retained sqrt hretains interface 0

/-- The window falls steeply and far from its line, and nothing else is noticed. -/
def Overlooked (recentWindow : UInt64) (vs : List F) : Prop :=
  Steep (vs.rtake recentWindow.toNat) ∧ Scattered (vs.rtake recentWindow.toNat) ∧
    ¬ Accelerates (vs.rtake recentWindow.toNat) ∧ ¬ Outlier sqrt 3.0 vs

theorem analyzePoints_coherent (t : F) (vs : List F) :
    Coherent (analyzePoints sqrt (PredictiveEngine.new minSamples recentWindow) interface
      (timeline t vs)) ↔ ¬ (minSamples.toNat ≤ vs.length ∧ Overlooked sqrt recentWindow vs) := by
  rw [analyzePoints, timeline_length]
  by_cases hfew : vs.length < minSamples.toNat
  · rw [PredictiveEngine.new, if_pos hfew]
    apply iff_of_true
    · exact ⟨⟨le_rfl, zero_le_one⟩, iff_of_true rfl rfl, iff_of_true rfl rfl, fun _ => rfl⟩
    · exact fun h => absurd h.1 (not_le.mpr hfew)
  · obtain ⟨u, hrecent⟩ := timeline_recent t recentWindow.toNat vs
    obtain ⟨hdegrading, htime, hfit⟩ := analyzeTrend_timeline u (vs.rtake recentWindow.toNat)
    have hthree : (3.0 : F) = 3 := by norm_num
    rw [PredictiveEngine.new, if_neg hfew]
    dsimp only
    rw [hrecent, combineIndicators_coherent interface (fun h => (hfit h).1), hdegrading,
      detectAcceleration_timeline, detectAnomalies_timeline sqrt t vs (by norm_num), htime,
      Overlooked, hthree]
    constructor
    · rintro h ⟨-, hsteep, hscattered, hsteady, hinlier⟩
      rcases h with ⟨-, hfits⟩ | haccelerates | houtlier | hflat
      · exact hfits hscattered
      · exact hsteady haccelerates
      · exact hinlier houtlier
      · exact hflat hsteep
    · intro h
      by_contra hquiet
      rw [not_or, not_or, not_or, not_not, not_and_not_right] at hquiet
      obtain ⟨hscattered, hsteady, hinlier, hsteep⟩ := hquiet
      exact h ⟨not_lt.mp hfew, hsteep, hscattered hsteep, hsteady, hinlier⟩

end

/-- After any readings the fields of a prediction agree except where a steep
line with a poor fit is all there is: then a stable interface has a time to
failure. -/
theorem analyze_coherent_iff [IsStrictOrderedRing F] (sqrt : F → F) (checks : Bool)
    (minSamples recentWindow : UInt64) (readings : List (String × F)) (interface : String)
    (e : PredictiveEngine F)
    (h : feed checks (PredictiveEngine.new minSamples recentWindow) readings = .ok e) :
    Coherent (analyze sqrt e interface) ↔
      ¬ (minSamples.toNat ≤ (keptValues recentWindow readings interface).length ∧
        Overlooked sqrt recentWindow (keptValues recentWindow readings interface)) := by
  rw [analyze_kept sqrt interface h]
  exact analyzePoints_coherent sqrt interface 0 _

def unsteadyLink : List (String × ℝ) := [("eth0", 50.0), ("eth0", 10.0), ("eth0", 40.0)]

theorem keptValues_unsteady : keptValues 10 unsteadyLink "eth0" = [50, 10, 40] := by
  have hlink : unsteadyLink = [("eth0", 50), ("eth0", 10), ("eth0", 40)] := by
    rw [unsteadyLink]
    norm_num
  simp [keptValues, hlink, readingsOf, values, List.rtake]

theorem analyze_coherent_iff_unsteady :
    ∃ e, feed true (PredictiveEngine.new 3 10) unsteadyLink = .ok e ∧
      (Coherent (analyze Real.sqrt e "eth0") ↔
        ¬ ((3 : UInt64).toNat ≤ (keptValues 10 unsteadyLink "eth0").length ∧
          Overlooked Real.sqrt 10 (keptValues 10 unsteadyLink "eth0"))) := by
  have hlimit : historyLimit true 10 = .ok 40 := by decide
  obtain ⟨e, he, -⟩ := feed_retains 3 hlimit unsteadyLink
  exact ⟨e, he, analyze_coherent_iff Real.sqrt true 3 10 unsteadyLink "eth0" e he⟩

/-- A line that falls by one a second through values all over the place. -/
theorem overlooked_unsteady : Overlooked Real.sqrt 10 [50, 10, 40] := by
  have hwindow : ([50, 10, 40] : List ℝ).rtake (10 : UInt64).toNat = [50, 10, 40] := by
    have hten : (10 : UInt64).toNat = 10 := by decide
    simp [List.rtake, hten]
  rw [Overlooked, hwindow]
  refine ⟨⟨by decide, ?_⟩, ?_, fun h => absurd h.1 (by decide), fun h => absurd h.1 (by decide)⟩
  · norm_num [slopeOf, lineSlope, spreadX, sumX, sumY, sumXY, sumXX, coords, timeline]
  · norm_num [Scattered, variation, meanOf, unexplained, lineResidual, lineSlope, lineIntercept,
      spreadX, sumX, sumY, sumXY, sumXX, coords, timeline]

/-- It is stable, and there is a time to its failure. -/
theorem unsteady_incoherent : ∃ e, feed true (PredictiveEngine.new 3 10) unsteadyLink = .ok e ∧
    ¬ Coherent (analyze Real.sqrt e "eth0") := by
  have hlimit : historyLimit true 10 = .ok 40 := by decide
  obtain ⟨e, he, -⟩ := feed_retains 3 hlimit unsteadyLink
  refine ⟨e, he, ?_⟩
  rw [analyze_kept Real.sqrt "eth0" he, analyzePoints_coherent, not_not, keptValues_unsteady]
  exact ⟨by decide, overlooked_unsteady⟩

end Netfusion.Core.PredictiveCoherence
