import Netfusion.Core.Predictive

namespace Netfusion.Core.PredictiveClearing

open Netfusion.Lib.Collections
open Netfusion.Core.Predictive

variable {F : Type} [Field F]

def clear (e : PredictiveEngine F) (interface : String) : PredictiveEngine F :=
  { e with history := e.history.erase interface }

def clearAll (e : PredictiveEngine F) : PredictiveEngine F := { e with history := ∅ }

/-- The interfaces are visited in no particular order. -/
def analyzeAll [LinearOrder F] (sqrt : F → F) (e : PredictiveEngine F)
    (order : Shuffle (Sigma (fun _ : String => List (DataPoint F)))) :
    List (FailurePrediction F) :=
  (order.run e.history.entries).map (fun entry => analyze sqrt e entry.1)

inductive Op (F : Type) where
  | addReading (interface : String) (score : F)
  | clear (interface : String)
  | clearAll

def perform (checks : Bool) (e : PredictiveEngine F) : Op F → Except Panic (PredictiveEngine F)
  | .addReading interface score => addReading checks e interface score
  | .clear interface => .ok (clear e interface)
  | .clearAll => .ok (clearAll e)

def performAll (checks : Bool) (e : PredictiveEngine F) (ops : List (Op F)) :
    Except Panic (PredictiveEngine F) := ops.foldlM (perform checks) e

def after (readings : List (String × F)) : Op F → List (String × F)
  | .addReading interface score => readings ++ [(interface, score)]
  | .clear interface => readings.filter (fun r => r.1 ≠ interface)
  | .clearAll => []

/-- The readings that have not been cleared since. -/
def uncleared (ops : List (Op F)) : List (String × F) := ops.foldl after []

/-- The engine retains these readings, and knows their interfaces alone. -/
structure Follows (minSamples recentWindow : UInt64) (limit : Nat) (readings : List (String × F))
    (e : PredictiveEngine F) : Prop where
  retains : Retains minSamples recentWindow limit readings e
  known : ∀ interface, (e.history.lookup interface).isSome = true ↔
    readingsOf interface readings ≠ []

section

omit [Field F]

theorem uncleared_concat (ops : List (Op F)) (op : Op F) :
    uncleared (ops ++ [op]) = after (uncleared ops) op := by
  rw [uncleared, List.foldl_append]
  rfl

theorem readingsOf_cleared (interface other : String) (readings : List (String × F)) :
    readingsOf other (readings.filter (fun r => r.1 ≠ interface)) =
      if other = interface then [] else readingsOf other readings := by
  rw [readingsOf, List.filter_filter]
  by_cases h : other = interface
  · subst h
    simp
  · rw [if_neg h, readingsOf]
    apply List.filter_congr
    intro r _
    by_cases hr : r.1 = other
    · simp [hr, h]
    · simp [hr]

theorem readingsOf_self (interface : String) (readings : List (String × F)) :
    readingsOf interface (readingsOf interface readings) = readingsOf interface readings :=
  List.filter_eq_self.mpr (fun _ hr => (List.mem_filter.mp hr).2)

theorem readingsOf_ne_nil (interface : String) (readings : List (String × F)) (r : String × F) :
    readingsOf interface (readings ++ [r]) ≠ [] ↔
      r.1 = interface ∨ readingsOf interface readings ≠ [] := by
  by_cases h : r.1 = interface
  · simp [readingsOf, h]
  · simp [readingsOf, h]

end

theorem timeline_nothing (n : Nat) :
    timeline 0 ((values ([] : List (String × F))).rtake n) = [] := by
  rw [values, List.map_nil, List.rtake_nil]
  rfl

theorem performAll_concat (checks : Bool) (e : PredictiveEngine F) (ops : List (Op F)) (op : Op F) :
    performAll checks e (ops ++ [op]) =
      (performAll checks e ops).bind (fun e => perform checks e op) := by
  rw [performAll, List.foldlM_append]
  exact congrArg _ (funext fun e => by simp)

section

variable {checks : Bool} {minSamples recentWindow limit : UInt64}
  {readings : List (String × F)} {e : PredictiveEngine F}

theorem follows_add (hlimit : historyLimit checks recentWindow = .ok limit)
    (h : Follows minSamples recentWindow limit.toNat readings e) (interface : String) (score : F) :
    ∃ e', addReading checks e interface score = .ok e' ∧
      Follows minSamples recentWindow limit.toNat (readings ++ [(interface, score)]) e' := by
  obtain ⟨e', he', hretains⟩ := retains_add hlimit h.retains (interface, score)
  refine ⟨e', he', hretains, fun other => ?_⟩
  rw [← h.retains.recentWindow] at hlimit
  have hnext := (addReading_eq hlimit interface score).symm.trans he'
  injection hnext with hnext
  rw [← hnext, lookup_insert_eq, readingsOf_ne_nil, ← h.known]
  by_cases hother : other = interface
  · simp [hother]
  · simp [hother, Ne.symm hother]

theorem follows_clear {n : Nat} (h : Follows minSamples recentWindow n readings e)
    (interface : String) : Follows minSamples recentWindow n
      (readings.filter (fun r => r.1 ≠ interface)) (clear e interface) := by
  refine ⟨⟨h.retains.minSamples, h.retains.recentWindow, fun other => ?_⟩, fun other => ?_⟩
  · rw [clear, lookup_erase_eq, readingsOf_cleared]
    split
    · exact ⟨0, (timeline_nothing n).symm⟩
    · exact h.retains.history other
  · rw [clear, lookup_erase_eq, readingsOf_cleared]
    split
    · simp
    · exact h.known other

theorem follows_nothing {n : Nat} (hmin : e.minSamples = minSamples)
    (hwindow : e.recentWindow = recentWindow) (hempty : e.history = ∅) :
    Follows minSamples recentWindow n [] e := by
  refine ⟨⟨hmin, hwindow, fun interface => ⟨0, ?_⟩⟩, fun interface => ?_⟩
  · rw [hempty, readingsOf, List.filter_nil, timeline_nothing]
    rfl
  · rw [hempty]
    simp [readingsOf]

theorem performAll_follows (minSamples : UInt64)
    (hlimit : historyLimit checks recentWindow = .ok limit) (ops : List (Op F)) :
    ∃ e, performAll checks (PredictiveEngine.new minSamples recentWindow) ops = .ok e ∧
      Follows minSamples recentWindow limit.toNat (uncleared ops) e := by
  induction ops using List.reverseRecOn with
  | nil => exact ⟨_, rfl, follows_nothing rfl rfl rfl⟩
  | append_singleton ops op ih =>
    obtain ⟨e, he, hfollows⟩ := ih
    rw [performAll_concat, he, uncleared_concat]
    cases op with
    | addReading interface score => exact follows_add hlimit hfollows interface score
    | clear interface => exact ⟨_, rfl, follows_clear hfollows interface⟩
    | clearAll =>
      exact ⟨_, rfl, follows_nothing hfollows.retains.minSamples hfollows.retains.recentWindow rfl⟩

theorem performAll_cleared {panic : Panic}
    (hlimit : historyLimit checks recentWindow = .error panic) (ops : List (Op F))
    (h : performAll checks (PredictiveEngine.new minSamples recentWindow) ops = .ok e) :
    Follows minSamples recentWindow 0 [] e ∧ uncleared ops = [] := by
  induction ops using List.reverseRecOn generalizing e with
  | nil =>
    cases h
    exact ⟨follows_nothing rfl rfl rfl, rfl⟩
  | append_singleton ops op ih =>
    rw [performAll_concat] at h
    cases hops : performAll checks (PredictiveEngine.new minSamples recentWindow) ops with
    | error panic =>
      rw [hops] at h
      cases h
    | ok before =>
      rw [hops] at h
      obtain ⟨hfollows, hnone⟩ := ih hops
      rw [uncleared_concat, hnone]
      cases op with
      | addReading interface score =>
        rw [← hfollows.retains.recentWindow] at hlimit
        simp [perform, addReading, hlimit, Except.bind, bind] at h
      | clear interface =>
        cases h
        exact ⟨follows_clear hfollows interface, rfl⟩
      | clearAll =>
        cases h
        exact ⟨follows_nothing hfollows.retains.minSamples hfollows.retains.recentWindow rfl, rfl⟩

theorem performAll_predicts {ops : List (Op F)}
    (h : performAll checks (PredictiveEngine.new minSamples recentWindow) ops = .ok e) :
    ∃ limit, Follows minSamples recentWindow limit (uncleared ops) e ∧ ∀ interface, ∃ e',
      feed checks (PredictiveEngine.new minSamples recentWindow)
        (readingsOf interface (uncleared ops)) = .ok e' ∧
      Retains minSamples recentWindow limit (readingsOf interface (uncleared ops)) e' := by
  cases hlimit : historyLimit checks recentWindow with
  | error panic =>
    obtain ⟨hfollows, hnone⟩ := performAll_cleared hlimit ops h
    rw [hnone]
    exact ⟨0, hfollows, fun interface => ⟨_, rfl, retains_new 0⟩⟩
  | ok limit =>
    obtain ⟨e', he', hfollows⟩ := performAll_follows minSamples hlimit ops
    cases he'.symm.trans h
    exact ⟨limit.toNat, hfollows, fun interface => feed_retains minSamples hlimit _⟩

end

section

variable [LinearOrder F]

theorem analyze_interface (sqrt : F → F) (e : PredictiveEngine F) (interface : String) :
    (analyze sqrt e interface).interface = interface := by
  rw [analyze]
  split
  · rfl
  · rw [analyzePoints]
    split
    · rfl
    · rfl

/-- After any readings and clearings all interfaces that have a reading left
are predicted, each once, and each as a fresh engine predicts it from the
readings that are left to it. -/
theorem predictions_isolated [IsStrictOrderedRing F] (sqrt : F → F) (checks : Bool)
    (minSamples recentWindow : UInt64) (ops : List (Op F)) (e : PredictiveEngine F)
    (h : performAll checks (PredictiveEngine.new minSamples recentWindow) ops = .ok e)
    (order : Shuffle (Sigma (fun _ : String => List (DataPoint F)))) :
    ((analyzeAll sqrt e order).map FailurePrediction.interface).Nodup ∧
      ∀ p, p ∈ analyzeAll sqrt e order ↔
        ∃ interface e', readingsOf interface (uncleared ops) ≠ [] ∧
          feed checks (PredictiveEngine.new minSamples recentWindow)
            (readingsOf interface (uncleared ops)) = .ok e' ∧
          p = analyze sqrt e' interface := by
  obtain ⟨limit, hfollows, hfeed⟩ := performAll_predicts h
  have hsame : ∀ interface, ∃ e', feed checks (PredictiveEngine.new minSamples recentWindow)
      (readingsOf interface (uncleared ops)) = .ok e' ∧
      analyze sqrt e interface = analyze sqrt e' interface := by
    intro interface
    obtain ⟨e', he', hretains⟩ := hfeed interface
    refine ⟨e', he', ?_⟩
    rw [analyze_retained sqrt hfollows.retains interface 0,
      analyze_retained sqrt hretains interface 0, readingsOf_self]
  constructor
  · have hnames : ∀ entry : Sigma (fun _ : String => List (DataPoint F)),
        (analyze sqrt e entry.1).interface = entry.1 := fun entry => analyze_interface sqrt e entry.1
    rw [analyzeAll, List.map_map]
    simp only [Function.comp_def, hnames]
    exact shuffle_keys_nodup order e.history
  · intro p
    rw [analyzeAll, List.mem_map]
    constructor
    · rintro ⟨⟨interface, points⟩, hentry, rfl⟩
      have hlookup := (mem_shuffle_entries order e.history interface points).mp hentry
      obtain ⟨e', he', hanalyze⟩ := hsame interface
      exact ⟨interface, e', (hfollows.known interface).mp (by rw [hlookup]; rfl), he', hanalyze⟩
    · rintro ⟨interface, e', hleft, he', rfl⟩
      obtain ⟨points, hlookup⟩ := Option.isSome_iff_exists.mp ((hfollows.known interface).mpr hleft)
      obtain ⟨e'', he'', hanalyze⟩ := hsame interface
      cases he''.symm.trans he'
      exact ⟨⟨interface, points⟩,
        (mem_shuffle_entries order e.history interface points).mpr hlookup, hanalyze⟩

end

/-- A link that comes back, and one that was not there again. -/
def backAgain (F : Type) [Field F] : List (Op F) :=
  [.addReading "eth0" 91, .addReading "eth1" 52, .clear "eth0", .addReading "eth0" 83,
    .clear "eth1", .addReading "eth0" 74]

theorem predictions_isolated_back : ∃ e : PredictiveEngine ℝ,
    performAll true (PredictiveEngine.new 1 1) (backAgain ℝ) = .ok e ∧
      ((analyzeAll Real.sqrt e (Shuffle.id _)).map FailurePrediction.interface).Nodup ∧
      ∀ p, p ∈ analyzeAll Real.sqrt e (Shuffle.id _) ↔
        ∃ interface e', readingsOf interface (uncleared (backAgain ℝ)) ≠ [] ∧
          feed true (PredictiveEngine.new 1 1) (readingsOf interface (uncleared (backAgain ℝ))) =
            .ok e' ∧ p = analyze Real.sqrt e' interface := by
  have hlimit : historyLimit true 1 = .ok 4 := by decide
  obtain ⟨e, he, -⟩ := performAll_follows 1 hlimit (backAgain ℝ)
  exact ⟨e, he, predictions_isolated Real.sqrt true 1 1 (backAgain ℝ) e he (Shuffle.id _)⟩

example : uncleared (backAgain ℚ) = [("eth0", 83), ("eth0", 74)] := by decide

end Netfusion.Core.PredictiveClearing
