import Mathlib.Algebra.Order.Field.Basic
import Mathlib.Analysis.Real.Sqrt
import Mathlib.Tactic.Linarith
import Netfusion.Lib.Collections
import Netfusion.Lib.Regression
import Netfusion.Lib.Windows

namespace Netfusion.Core.Predictive

open Netfusion.Lib.Collections Netfusion.Lib.Regression Netfusion.Lib.Windows

inductive Severity where
  | none | low | medium | high | critical
deriving DecidableEq

def Severity.rank : Severity → Nat
  | .none => 0
  | .low => 1
  | .medium => 2
  | .high => 3
  | .critical => 4

def Severity.max (a b : Severity) : Severity := if b.rank < a.rank then a else b

inductive PredictionReason where
  | stable | downwardTrend | acceleratingDegradation | anomaly | multiIndicator
deriving DecidableEq

structure FailurePrediction (F : Type) where
  interface : String
  timeToFailure : Option F
  confidence : F
  severity : Severity
  reason : PredictionReason
deriving DecidableEq

structure DataPoint (F : Type) where
  time : F
  value : F

structure RegressionResult (F : Type) where
  slope : F
  intercept : F
  rSquared : F

structure TrendAnalysis (F : Type) where
  slope : F
  rSquared : F
  currentValue : F
  timeToCritical : Option F
  isDegrading : Bool

variable {F : Type} [Field F] [LinearOrder F]

/-- Numbers are exact: elements of any ordered field, with any function on it
for the square root. -/
def tiny : F := 1 / 10 ^ 10

def linearRegression (points : List (DataPoint F)) : Option (RegressionResult F) :=
  if points.length < 3 then none
  else
    let n : F := points.length
    let sumX := (points.map (fun p => p.time)).sum
    let sumY := (points.map (fun p => p.value)).sum
    let sumXY := (points.map (fun p => p.time * p.value)).sum
    let sumX2 := (points.map (fun p => p.time * p.time)).sum
    let denom := n * sumX2 - sumX * sumX
    if |denom| < tiny then none
    else
      let slope := (n * sumXY - sumX * sumY) / denom
      let intercept := (sumY - slope * sumX) / n
      let meanY := sumY / n
      let ssTot : F := (points.map (fun p => (p.value - meanY) ^ 2)).sum
      let ssRes : F := (points.map (fun p => (p.value - (slope * p.time + intercept)) ^ 2)).sum
      let rSquared := if |ssTot| < tiny then 1 else 1 - ssRes / ssTot
      some ⟨slope, intercept, rSquared⟩

def zScore (value mean stddev : F) : F := if stddev < tiny then 0 else (value - mean) / stddev

def analyzeTrend (points : List (DataPoint F)) : TrendAnalysis F :=
  match linearRegression points with
  | none => ⟨0, 0, 0, none, false⟩
  | some reg =>
    let currentTime := (points.getLast?.map (·.time)).getD 0
    let currentValue := (points.getLast?.map (·.value)).getD 0
    let criticalThreshold : F := 20
    let timeToCritical :=
      if reg.slope < -(1 / 100) then
        let t := (criticalThreshold - reg.intercept) / reg.slope
        let secondsFromNow := t - currentTime
        if secondsFromNow > 0 then some secondsFromNow else some 0
      else none
    ⟨reg.slope, reg.rSquared, currentValue, timeToCritical,
      decide (reg.slope < -(1 / 100) ∧ reg.rSquared > 1 / 2)⟩

def detectAcceleration (points : List (DataPoint F)) : Bool :=
  if points.length < 10 then false
  else
    let mid := points.length / 2
    match linearRegression (points.take mid), linearRegression (points.drop mid) with
    | some r₁, some r₂ => decide (r₂.slope < r₁.slope ∧ r₂.slope < -(2 / 100))
    | _, _ => false

def detectAnomalies (sqrt : F → F) (points : List (DataPoint F)) : F :=
  if points.length < 10 then 0
  else
    let values := points.map (·.value)
    let mean := values.sum / values.length
    let stddev := sqrt ((values.map (fun v => (v - mean) ^ 2)).sum / values.length)
    match values.getLast? with
    | some last =>
      let z := |zScore last mean stddev|
      if z > 2 then z else 0
    | none => 0

def combineIndicators (interface : String) (trend : TrendAnalysis F) (accelerating : Bool)
    (anomalyScore : F) : FailurePrediction F :=
  let confidence : F := 0
  let severity := Severity.none
  let reason := PredictionReason.stable
  let (confidence, severity, reason) :=
    if trend.isDegrading then
      (confidence + trend.rSquared * (1 / 2),
        if trend.slope < -(1 / 10) then Severity.high else .medium, PredictionReason.downwardTrend)
    else (confidence, severity, reason)
  let (confidence, severity, reason) :=
    if accelerating then
      (confidence + 3 / 10, severity.max .high, .acceleratingDegradation)
    else (confidence, severity, reason)
  let (confidence, severity, reason) :=
    if anomalyScore > 3 then (confidence + 4 / 10, severity.max .medium, .anomaly)
    else (confidence, severity, reason)
  let (severity, reason) :=
    if confidence > 6 / 10 ∧ (trend.isDegrading ∨ accelerating) ∧ anomalyScore > 2 then
      (severity.max .critical, .multiIndicator)
    else (severity, reason)
  ⟨interface, trend.timeToCritical, min confidence 1, severity, reason⟩

structure PredictiveEngine (F : Type) where
  minSamples : UInt64
  recentWindow : UInt64
  history : HashMap String (List (DataPoint F))

def PredictiveEngine.new (minSamples recentWindow : UInt64) : PredictiveEngine F :=
  ⟨minSamples, recentWindow, ∅⟩

inductive Panic where
  | attemptToMultiplyWithOverflow
deriving DecidableEq

/-- Four windows. A product too big for a word panics in a build with overflow
checks and wraps in one without. -/
def historyLimit (checks : Bool) (recentWindow : UInt64) : Except Panic UInt64 :=
  if checks = true ∧ 2 ^ 64 ≤ recentWindow.toNat * 4 then .error .attemptToMultiplyWithOverflow
  else .ok (recentWindow * 4)

def nextTime (entry : List (DataPoint F)) : F :=
  match entry.getLast? with
  | some last => last.time + 5
  | none => 0

def addReading (checks : Bool) (e : PredictiveEngine F) (interface : String) (score : F) :
    Except Panic (PredictiveEngine F) := do
  let entry := (e.history.lookup interface).getD []
  let entry := entry ++ [⟨nextTime entry, score⟩]
  let limit ← historyLimit checks e.recentWindow
  return { e with history := e.history.insert interface (keepLast limit.toNat entry) }

def stable (interface : String) : FailurePrediction F := ⟨interface, none, 0, .none, .stable⟩

def analyzePoints (sqrt : F → F) (e : PredictiveEngine F) (interface : String)
    (points : List (DataPoint F)) : FailurePrediction F :=
  if points.length < e.minSamples.toNat then stable interface
  else
    let recent := (points.reverse.take e.recentWindow.toNat).reverse
    combineIndicators interface (analyzeTrend recent) (detectAcceleration recent)
      (detectAnomalies sqrt points)

def analyze (sqrt : F → F) (e : PredictiveEngine F) (interface : String) : FailurePrediction F :=
  match e.history.lookup interface with
  | none => stable interface
  | some points => analyzePoints sqrt e interface points

def feed (checks : Bool) (e : PredictiveEngine F) (readings : List (String × F)) :
    Except Panic (PredictiveEngine F) :=
  readings.foldlM (fun e r => addReading checks e r.1 r.2) e

def coords (points : List (DataPoint F)) : List (F × F) := points.map (fun p => (p.time, p.value))

/-- The regression of the engine is the least squares line through the points. -/
theorem linearRegression_eq (points : List (DataPoint F)) :
    linearRegression points =
      if points.length < 3 ∨ |spreadX (coords points)| < tiny then none
      else
        let meanY := sumY (coords points) / points.length
        let ssTot : F := (points.map (fun p => (p.value - meanY) ^ 2)).sum
        some ⟨lineSlope (coords points), lineIntercept (coords points),
          if |ssTot| < tiny then 1 else 1 - lineResidual (coords points) / ssTot⟩ := by
  have hlength : (coords points).length = points.length := List.length_map _
  by_cases h : points.length < 3
  · rw [linearRegression, if_pos h, if_pos (.inl h)]
  · simp only [linearRegression, h, if_false, false_or, spreadX, lineSlope, lineIntercept,
      lineResidual, hlength]
    simp only [sumX, sumY, sumXY, sumXX, coords, List.map_map, Function.comp_def]

def shift (d : F) (p : DataPoint F) : DataPoint F := ⟨p.time + d, p.value⟩

omit [LinearOrder F] in
theorem coords_shift (d : F) (points : List (DataPoint F)) :
    coords (points.map (shift d)) = translateX d (coords points) := by
  simp only [coords, translateX, List.map_map, Function.comp_def, shift]

section

variable [IsStrictOrderedRing F] (d : F) (points : List (DataPoint F))

theorem linearRegression_shift :
    linearRegression (points.map (shift d)) =
      (linearRegression points).map
        (fun r => { r with intercept := r.intercept - r.slope * d }) := by
  have hlength : (coords points).length = points.length := List.length_map _
  rw [linearRegression_eq, linearRegression_eq, coords_shift, spreadX_translateX, List.length_map]
  by_cases h : points.length < 3 ∨ |spreadX (coords points)| < tiny
  · rw [if_pos h, if_pos h]
    rfl
  · have hne : ((coords points).length : F) ≠ 0 := by
      rw [hlength]
      apply Nat.cast_ne_zero.mpr
      intro hzero
      exact h (.inl (by omega))
    rw [if_neg h, if_neg h]
    simp only [lineSlope_translateX, lineIntercept_translateX d (coords points) hne,
      lineResidual_translateX d (coords points) hne, sumY_translateX, List.map_map,
      Function.comp_def, shift, Option.map_some]

theorem analyzeTrend_shift : analyzeTrend (points.map (shift d)) = analyzeTrend points := by
  rw [analyzeTrend, analyzeTrend, linearRegression_shift]
  cases hreg : linearRegression points with
  | none => rfl
  | some reg =>
    obtain ⟨last, hlast⟩ : ∃ last, points.getLast? = some last := by
      cases h : points.getLast? with
      | none =>
        rw [List.getLast?_eq_none_iff.mp h, linearRegression_eq] at hreg
        simp at hreg
      | some last => exact ⟨last, rfl⟩
    simp only [Option.map_some, List.getLast?_map, hlast, Option.getD_some, shift]
    by_cases hslope : reg.slope < -(1 / 100)
    · have hne : reg.slope ≠ 0 := by
        intro hzero
        rw [hzero] at hslope
        norm_num at hslope
      have hcross : (20 - (reg.intercept - reg.slope * d)) / reg.slope - (last.time + d) =
          (20 - reg.intercept) / reg.slope - last.time := by
        field_simp
        ring
      simp only [if_pos hslope, hcross]
    · simp only [if_neg hslope]

theorem detectAcceleration_shift :
    detectAcceleration (points.map (shift d)) = detectAcceleration points := by
  rw [detectAcceleration, detectAcceleration, List.length_map]
  simp only [← List.map_take, ← List.map_drop, linearRegression_shift]
  split
  · rfl
  · cases linearRegression (points.take (points.length / 2)) with
    | none => rfl
    | some r₁ => cases linearRegression (points.drop (points.length / 2)) <;> rfl

theorem analyzePoints_shift (sqrt : F → F) (e : PredictiveEngine F) (interface : String) :
    analyzePoints sqrt e interface (points.map (shift d)) =
      analyzePoints sqrt e interface points := by
  have hvalues : detectAnomalies sqrt (points.map (shift d)) = detectAnomalies sqrt points := by
    simp only [detectAnomalies, List.length_map, List.map_map, Function.comp_def, shift]
  rw [analyzePoints, analyzePoints, List.length_map]
  simp only [← List.map_reverse, ← List.map_take, analyzeTrend_shift, detectAcceleration_shift,
    hvalues]

end

def timeline (t : F) : List F → List (DataPoint F)
  | [] => []
  | v :: vs => ⟨t, v⟩ :: timeline (t + 5) vs

section

omit [LinearOrder F]

theorem timeline_length (t : F) (vs : List F) : (timeline t vs).length = vs.length := by
  induction vs generalizing t with
  | nil => rfl
  | cons v vs ih => exact congrArg (· + 1) (ih (t + 5))

theorem timeline_shift (t d : F) (vs : List F) :
    timeline (t + d) vs = (timeline t vs).map (shift d) := by
  induction vs generalizing t with
  | nil => rfl
  | cons v vs ih =>
    have hnext : t + d + 5 = t + 5 + d := by ring
    rw [timeline, timeline, List.map_cons, hnext, ih]
    rfl

theorem timeline_concat (t : F) (vs : List F) (v : F) :
    timeline t (vs ++ [v]) = timeline t vs ++ [⟨t + vs.length * 5, v⟩] := by
  induction vs generalizing t with
  | nil => simp [timeline]
  | cons w vs ih =>
    have hnext : t + 5 + (vs.length : F) * 5 = t + ((w :: vs).length : F) * 5 := by
      push_cast [List.length_cons]
      ring
    rw [List.cons_append, timeline, timeline, ih, hnext, List.cons_append]

theorem timeline_drop (t : F) (k : Nat) (vs : List F) :
    ∃ u, (timeline t vs).drop k = timeline u (vs.drop k) := by
  induction k generalizing t vs with
  | zero => exact ⟨t, rfl⟩
  | succ k ih =>
    cases vs with
    | nil => exact ⟨t, rfl⟩
    | cons v vs => exact ih (t + 5) vs

theorem timeline_next (t : F) (vs : List F) (v : F) :
    ∃ u, timeline t vs ++ [⟨nextTime (timeline t vs), v⟩] = timeline u (vs ++ [v]) := by
  rcases List.eq_nil_or_concat vs with rfl | ⟨init, last, rfl⟩
  · exact ⟨0, rfl⟩
  · refine ⟨t, ?_⟩
    have hnext : nextTime (timeline t (init ++ [last])) = t + (init ++ [last]).length * 5 := by
      rw [nextTime, timeline_concat, List.getLast?_concat]
      push_cast [List.length_append, List.length_singleton]
      ring
    rw [List.concat_eq_append, hnext, ← timeline_concat]

theorem timeline_kept (limit : Nat) (t : F) (vs : List F) :
    ∃ u, keepLast limit (timeline t vs) = timeline u (vs.rtake limit) := by
  rw [keepLast_eq, List.rtake, List.rtake, timeline_length]
  exact timeline_drop t _ vs

end

def readingsOf (interface : String) (readings : List (String × F)) : List (String × F) :=
  readings.filter (fun r => r.1 = interface)

def values (readings : List (String × F)) : List F := readings.map Prod.snd

/-- Each interface keeps its last values, on some timeline. -/
structure Retains (minSamples recentWindow : UInt64) (limit : Nat) (readings : List (String × F))
    (e : PredictiveEngine F) : Prop where
  minSamples : e.minSamples = minSamples
  recentWindow : e.recentWindow = recentWindow
  history : ∀ interface, ∃ t, (e.history.lookup interface).getD [] =
    timeline t ((values (readingsOf interface readings)).rtake limit)

section

omit [LinearOrder F]

variable {checks : Bool} {minSamples recentWindow : UInt64}

omit [Field F] in
theorem values_concat (interface : String) (readings : List (String × F)) (r : String × F) :
    values (readingsOf interface (readings ++ [r])) =
      if r.1 = interface then values (readingsOf interface readings) ++ [r.2]
      else values (readingsOf interface readings) := by
  by_cases h : r.1 = interface <;> simp [values, readingsOf, List.filter_append, h]

theorem feed_concat (e : PredictiveEngine F) (readings : List (String × F)) (r : String × F) :
    feed checks e (readings ++ [r]) =
      (feed checks e readings).bind (fun e => addReading checks e r.1 r.2) := by
  rw [feed, List.foldlM_append]
  exact congrArg _ (funext fun e => by simp)

theorem addReading_eq {e : PredictiveEngine F} {limit : UInt64}
    (h : historyLimit checks e.recentWindow = .ok limit) (interface : String) (score : F) :
    addReading checks e interface score = .ok { e with
      history := e.history.insert interface (keepLast limit.toNat
        ((e.history.lookup interface).getD [] ++
          [⟨nextTime ((e.history.lookup interface).getD []), score⟩])) } := by
  rw [addReading, h]
  rfl

theorem retains_add {e : PredictiveEngine F} {limit : UInt64}
    (hlimit : historyLimit checks recentWindow = .ok limit) {readings : List (String × F)}
    (h : Retains minSamples recentWindow limit.toNat readings e) (r : String × F) :
    ∃ e', addReading checks e r.1 r.2 = .ok e' ∧
      Retains minSamples recentWindow limit.toNat (readings ++ [r]) e' := by
  rw [← h.recentWindow] at hlimit
  refine ⟨_, addReading_eq hlimit r.1 r.2, h.minSamples, h.recentWindow, ?_⟩
  intro interface
  obtain ⟨t, ht⟩ := h.history interface
  rw [values_concat, lookup_insert_eq]
  by_cases hname : r.1 = interface
  · subst hname
    obtain ⟨u, hu⟩ := timeline_next t ((values (readingsOf r.1 readings)).rtake limit.toNat) r.2
    obtain ⟨u', hu'⟩ := timeline_kept limit.toNat u
      ((values (readingsOf r.1 readings)).rtake limit.toNat ++ [r.2])
    refine ⟨u', ?_⟩
    rw [if_pos rfl, if_pos rfl, Option.getD_some, ht, hu, hu', rtake_concat]
  · rw [if_neg hname, if_neg (Ne.symm hname)]
    exact ⟨t, ht⟩

theorem retains_new (limit : Nat) :
    Retains minSamples recentWindow limit []
      (PredictiveEngine.new minSamples recentWindow : PredictiveEngine F) := by
  refine ⟨rfl, rfl, ?_⟩
  intro interface
  refine ⟨0, ?_⟩
  rw [readingsOf, List.filter_nil, values, List.map_nil, List.rtake_nil]
  rfl

/-- Where the limit fits a word, or nothing checks that it does, every run goes through. -/
theorem feed_retains (minSamples : UInt64) {limit : UInt64}
    (hlimit : historyLimit checks recentWindow = .ok limit) (readings : List (String × F)) :
    ∃ e, feed checks (PredictiveEngine.new minSamples recentWindow) readings = .ok e ∧
      Retains minSamples recentWindow limit.toNat readings e := by
  induction readings using List.reverseRecOn with
  | nil => exact ⟨_, rfl, retains_new limit.toNat⟩
  | append_singleton readings r ih =>
    obtain ⟨e, he, hretains⟩ := ih
    obtain ⟨e', he', hretains'⟩ := retains_add hlimit hretains r
    refine ⟨e', ?_, hretains'⟩
    rw [feed_concat, he]
    exact he'

/-- Where it does not, the first reading panics. -/
theorem feed_panics {panic : Panic} (hlimit : historyLimit checks recentWindow = .error panic)
    (r : String × F) (readings : List (String × F)) :
    feed checks (PredictiveEngine.new minSamples recentWindow) (r :: readings) = .error panic := by
  have hadd : addReading checks (PredictiveEngine.new minSamples recentWindow) r.1 r.2 =
      .error panic := by
    rw [addReading]
    simp only [PredictiveEngine.new, hlimit]
    rfl
  rw [feed, List.foldlM_cons, hadd]
  rfl

end

theorem analyzePoints_nil (sqrt : F → F) (e : PredictiveEngine F) (interface : String)
    [IsStrictOrderedRing F] : analyzePoints sqrt e interface [] = stable interface := by
  rw [analyzePoints]
  split
  · rfl
  · have hnone : linearRegression ([] : List (DataPoint F)) = none := by simp [linearRegression]
    have hzero : ¬ (3 : F) < 0 := by norm_num
    simp [combineIndicators, analyzeTrend, detectAcceleration, detectAnomalies, hnone, hzero, stable]

section

variable [IsStrictOrderedRing F] {minSamples recentWindow : UInt64} (sqrt : F → F)

theorem analyze_retained {limit : Nat} {readings : List (String × F)} {e : PredictiveEngine F}
    (h : Retains minSamples recentWindow limit readings e) (interface : String) (t : F) :
    analyze sqrt e interface =
      analyzePoints sqrt (PredictiveEngine.new minSamples recentWindow) interface
        (timeline t ((values (readingsOf interface readings)).rtake limit)) := by
  obtain ⟨u, hu⟩ := h.history interface
  have hanalyze : analyze sqrt e interface =
      analyzePoints sqrt e interface ((e.history.lookup interface).getD []) := by
    rw [analyze]
    cases e.history.lookup interface with
    | none => exact (analyzePoints_nil sqrt e interface).symm
    | some points => rfl
  have hparams : ∀ points, analyzePoints sqrt e interface points =
      analyzePoints sqrt (PredictiveEngine.new minSamples recentWindow) interface points := by
    intro points
    rw [analyzePoints, analyzePoints, h.minSamples, h.recentWindow]
    rfl
  have hstart : u = t + (u - t) := by ring
  rw [hanalyze, hu, hparams, hstart, timeline_shift, analyzePoints_shift]

end

omit [Field F] [LinearOrder F] in
theorem values_window {limit n : Nat} (h : limit ≤ n) (interface : String)
    (readings : List (String × F)) :
    (values (readingsOf interface ((readingsOf interface readings).rtake n))).rtake limit =
      (values (readingsOf interface readings)).rtake limit := by
  have hall : readingsOf interface ((readingsOf interface readings).rtake n) =
      (readingsOf interface readings).rtake n := by
    apply List.filter_eq_self.mpr
    intro r hr
    exact (List.mem_filter.mp (List.mem_of_mem_drop hr)).2
  rw [hall, values, values, ← rtake_map, rtake_rtake h]

theorem historyLimit_le {checks : Bool} {recentWindow limit : UInt64}
    (h : historyLimit checks recentWindow = .ok limit) : limit.toNat ≤ 4 * recentWindow.toNat := by
  rw [historyLimit] at h
  split at h
  · cases h
  · cases h
    rw [UInt64.toNat_mul]
    exact (Nat.mod_le _ _).trans (by rw [Nat.mul_comm]; rfl)

/-- After any readings an engine predicts what a fresh one predicts from the
last four windows of the interface alone. -/
theorem analyze_depends_on_window [IsStrictOrderedRing F] (sqrt : F → F) (checks : Bool)
    (minSamples recentWindow : UInt64) (readings : List (String × F)) (interface : String)
    (e : PredictiveEngine F)
    (h : feed checks (PredictiveEngine.new minSamples recentWindow) readings = .ok e) :
    ∃ e', feed checks (PredictiveEngine.new minSamples recentWindow)
        ((readingsOf interface readings).rtake (4 * recentWindow.toNat)) = .ok e' ∧
      analyze sqrt e interface = analyze sqrt e' interface := by
  cases hlimit : historyLimit checks recentWindow with
  | error panic =>
    cases readings with
    | nil =>
      rw [readingsOf, List.filter_nil, List.rtake_nil]
      exact ⟨e, h, rfl⟩
    | cons r readings =>
      rw [feed_panics hlimit] at h
      cases h
  | ok limit =>
    obtain ⟨long, hlong, hkept⟩ := feed_retains minSamples hlimit readings
    cases hlong.symm.trans h
    obtain ⟨fresh, hfresh, hwindow⟩ := feed_retains minSamples hlimit
      ((readingsOf interface readings).rtake (4 * recentWindow.toNat))
    refine ⟨fresh, hfresh, ?_⟩
    rw [analyze_retained sqrt hkept interface 0, analyze_retained sqrt hwindow interface 0,
      values_window (historyLimit_le hlimit)]

def fallingLink (F : Type) [Field F] : List (String × F) :=
  [("eth0", 95), ("eth1", 50)] ++
    (List.range 13).map (fun i : Nat => ("eth0", 90 - 5 * (i : F))) ++ [("eth1", 40)]

/-- The first two of fourteen readings are out of a history of twelve. -/
theorem analyze_depends_on_window_falling :
    ∃ e : PredictiveEngine ℝ, feed true (PredictiveEngine.new 3 3) (fallingLink ℝ) = .ok e ∧
      ∃ e', feed true (PredictiveEngine.new 3 3)
          ((readingsOf "eth0" (fallingLink ℝ)).rtake 12) = .ok e' ∧
        analyze Real.sqrt e "eth0" = analyze Real.sqrt e' "eth0" := by
  have hlimit : historyLimit true 3 = .ok 12 := by decide
  obtain ⟨e, he, -⟩ := feed_retains 3 hlimit (fallingLink ℝ)
  exact ⟨e, he, analyze_depends_on_window Real.sqrt true 3 3 (fallingLink ℝ) "eth0" e he⟩

end Netfusion.Core.Predictive
