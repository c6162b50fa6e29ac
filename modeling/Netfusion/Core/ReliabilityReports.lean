import Netfusion.Lib.Fallible
import Netfusion.Lib.Windows
import Netfusion.Core.Reliability

namespace Netfusion.Core.ReliabilityReports

open Netfusion.Lib.Collections Netfusion.Lib.Extremes Netfusion.Lib.Fallible Netfusion.Lib.Windows
open Netfusion.Shared.Types
open Netfusion.Core.Analytics Netfusion.Core.Reliability

structure AnalyticsTracker (F : Type) where
  maxSamples : ℕ
  samples : HashMap String (List (HealthSample F))

def AnalyticsTracker.new (F : Type) (maxSamples : ℕ) : AnalyticsTracker F := ⟨maxSamples, ∅⟩

variable {F : Type}

def addSample (t : AnalyticsTracker F) (interface : String) (sample : HealthSample F) :
    AnalyticsTracker F :=
  let queue := (t.samples.lookup interface).getD [] ++ [sample]
  { t with samples := t.samples.insert interface (keepLast t.maxSamples queue) }

section

variable [Field F] [LinearOrder F] [FloorSemiring F] (sqrt : F → F)

def analyze (clock : DateTime × DateTime) (t : AnalyticsTracker F) (interface : String) :
    Except Panic (Option (InterfaceAnalytics F)) :=
  match t.samples.lookup interface with
  | none => .ok none
  | some queue => do
    let a ← fromSamples sqrt clock interface queue
    .ok (some a)

/-- The keys come in any order, and each analysis has its own reading of the clock. -/
def generateReport (clock : String → DateTime × DateTime) (generatedAt : DateTime)
    (order : Shuffle String) (t : AnalyticsTracker F) : Except Panic (PerformanceReport F) := do
  let analyses ← (order.run t.samples.keys).mapM (fun interface =>
    analyze sqrt (clock interface) t interface)
  .ok ⟨analyses.filterMap id, generatedAt⟩

end

def samplesOf (name : String) (adds : List (String × HealthSample F)) : List (HealthSample F) :=
  (adds.filter (fun a => a.1 = name)).map Prod.snd

def track (maxSamples : ℕ) (adds : List (String × HealthSample F)) : AnalyticsTracker F :=
  adds.foldl (fun t a => addSample t a.1 a.2) (.new F maxSamples)

theorem samplesOf_concat (name : String) (adds : List (String × HealthSample F))
    (a : String × HealthSample F) :
    samplesOf name (adds ++ [a]) =
      if a.1 = name then samplesOf name adds ++ [a.2] else samplesOf name adds := by
  by_cases h : a.1 = name <;> simp [samplesOf, List.filter_append, h]

theorem track_concat (maxSamples : ℕ) (adds : List (String × HealthSample F))
    (a : String × HealthSample F) :
    track maxSamples (adds ++ [a]) = addSample (track maxSamples adds) a.1 a.2 := by
  rw [track, List.foldl_append]
  rfl

theorem track_maxSamples (maxSamples : ℕ) (adds : List (String × HealthSample F)) :
    (track maxSamples adds).maxSamples = maxSamples := by
  induction adds using List.reverseRecOn with
  | nil => rfl
  | append_singleton adds a ih =>
    rw [track_concat]
    exact ih

theorem track_queue (maxSamples : ℕ) (adds : List (String × HealthSample F)) (name : String) :
    (track maxSamples adds).samples.lookup name =
      if samplesOf name adds = [] then none
      else some ((samplesOf name adds).rtake maxSamples) := by
  induction adds using List.reverseRecOn with
  | nil => rfl
  | append_singleton adds a ih =>
    rw [track_concat, addSample, lookup_insert_eq, track_maxSamples, keepLast_eq, samplesOf_concat]
    by_cases hname : a.1 = name
    · subst hname
      have hqueue : ((track maxSamples adds).samples.lookup a.1).getD [] =
          (samplesOf a.1 adds).rtake maxSamples := by
        rw [ih]
        split
        · rename_i hempty
          rw [hempty, List.rtake_nil]
          rfl
        · rfl
      rw [if_pos rfl, if_pos rfl, if_neg (by simp), hqueue, rtake_concat]
    · rw [if_neg (Ne.symm hname), if_neg hname]
      exact ih

section

variable [Field F] [LinearOrder F] [IsStrictOrderedRing F] [FloorSemiring F] (sqrt : F → F)

theorem fromSamples_total (clock : DateTime × DateTime) (interface : String)
    (samples : List (HealthSample F)) :
    ∃ a, fromSamples sqrt clock interface samples = .ok a := by
  by_cases h : samples = []
  · subst h
    exact ⟨_, rfl⟩
  · obtain ⟨a, ha, -⟩ := fromSamples_ok sqrt clock interface h
    exact ⟨a, ha⟩

/-- A report never panics, and consists of the analytics of every interface. -/
theorem generateReport_ok (clock : String → DateTime × DateTime) (generatedAt : DateTime)
    (order : Shuffle String) (t : AnalyticsTracker F) :
    ∃ report, generateReport sqrt clock generatedAt order t = .ok report ∧
      ∀ name queue a, t.samples.lookup name = some queue →
        fromSamples sqrt (clock name) name queue = .ok a → a ∈ report.interfaces := by
  have hanalyze : ∀ name ∈ order.run t.samples.keys,
      ∃ r, analyze sqrt (clock name) t name = .ok r := by
    intro name _
    rw [analyze]
    cases t.samples.lookup name with
    | none => exact ⟨none, rfl⟩
    | some queue =>
      obtain ⟨a, ha⟩ := fromSamples_total sqrt (clock name) name queue
      exact ⟨some a, bind_ok_iff.mpr ⟨a, ha, rfl⟩⟩
  obtain ⟨analyses, hanalyses⟩ := mapM_ok hanalyze
  refine ⟨_, bind_ok_iff.mpr ⟨analyses, hanalyses, rfl⟩, ?_⟩
  intro name queue a hqueue ha
  have hkey : name ∈ order.run t.samples.keys := by
    rw [mem_shuffle, ← AList.mem_keys, ← AList.lookup_isSome, hqueue]
    rfl
  obtain ⟨r, hr, hname⟩ := mem_mapM_ok hanalyses hkey
  have hsome : analyze sqrt (clock name) t name = .ok (some a) := by
    rw [analyze, hqueue]
    exact bind_ok_iff.mpr ⟨a, ha, rfl⟩
  cases hsome.symm.trans hname
  exact List.mem_filterMap.mpr ⟨some a, hr, rfl⟩

/-- After any samples the report has an interface to recommend as soon as there
is one, and none is rated better by its last samples. -/
theorem track_best (maxSamples : ℕ) (adds : List (String × HealthSample F))
    (clock : String → DateTime × DateTime) (generatedAt : DateTime) (order : Shuffle String) :
    ∃ report, generateReport sqrt clock generatedAt order (track maxSamples adds) = .ok report ∧
      ∀ name, samplesOf name adds ≠ [] → ∃ a best,
        fromSamples sqrt (clock name) name ((samplesOf name adds).rtake maxSamples) = .ok a ∧
        bestInterface report = some best ∧
        rank (reliabilityRating a) ≤ rank (reliabilityRating best) := by
  obtain ⟨report, hreport, hall⟩ :=
    generateReport_ok sqrt clock generatedAt order (track maxSamples adds)
  refine ⟨report, hreport, ?_⟩
  intro name hname
  obtain ⟨a, ha⟩ :=
    fromSamples_total sqrt (clock name) name ((samplesOf name adds).rtake maxSamples)
  have hmem : a ∈ report.interfaces := by
    apply hall name _ a _ ha
    rw [track_queue, if_neg hname]
  cases hbest : bestInterface report with
  | none =>
    rw [bestInterface, maxBy_eq_none] at hbest
    rw [hbest] at hmem
    cases hmem
  | some best => exact ⟨a, best, ha, rfl, rank_le_best hbest a hmem⟩

end

end Netfusion.Core.ReliabilityReports
