import Netfusion.Core.TunnelCreation

namespace Netfusion.Core.Qdisc

open Netfusion.Lib.Collections Netfusion.Lib.Fallible
open Netfusion.Shared.Config
open Netfusion.Core.Command Netfusion.Core.WireGuard
open Netfusion.Core.TunnelCreation (succeeded refused succeeded_iff not_succeeds_refused)

/-- A root qdisc as `tc` was told to add it: its handle, its kind and the words
after the kind. -/
structure RootQdisc where
  handle : Option String
  kind : String
  options : List String
deriving DecidableEq

/-- The interfaces the kernel has, each with the root qdisc that was added to
it. An interface without one has the kernel's default, which is none of its
own. -/
abbrev Kernel := HashMap String (Option RootQdisc)

def rootQdisc (k : Kernel) (interface : String) : Option RootQdisc := (k.lookup interface).join

/-- A command that the kernel refuses, because of the interface or of what it
has, does not succeed; one that does not succeed changes nothing. -/
def tcDelRoot (interface : String) (answer : CommandOutput) (k : Kernel) : CommandOutput × Kernel :=
  match k.lookup interface with
  | none => (refused ("Cannot find device \"" ++ interface ++ "\"") answer, k)
  | some none => (refused "Error: Cannot delete qdisc with handle of zero." answer, k)
  | some (some _) => (answer, if succeeded answer then k.insert interface none else k)

def tcAddRoot (interface : String) (root : RootQdisc) (answer : CommandOutput) (k : Kernel) :
    CommandOutput × Kernel :=
  match k.lookup interface with
  | none => (refused ("Cannot find device \"" ++ interface ++ "\"") answer, k)
  | some (some _) => (refused "Error: Exclusivity flag on, cannot modify." answer, k)
  | some none => (answer, if succeeded answer then k.insert interface (some root) else k)

/-- How the commands of one call end, unless the kernel refuses what they ask
for. -/
structure CommandAnswers where
  del : CommandOutput
  add : CommandOutput

/-- A deletion that fails is only logged. -/
def remove (interface : String) (answer : CommandOutput) (k : Kernel) :
    Except CoreError Unit × Kernel :=
  match tcDelRoot interface answer k with
  | (.error e, k) => (.error (.internal e), k)
  | (.ok _, k) => (.ok (), k)

def applyRoot (label : String) (root : RootQdisc) (interface : String) (answer : CommandOutput)
    (k : Kernel) : Except CoreError Unit × Kernel :=
  let (out, k) := tcAddRoot interface root answer k
  (require out ("Failed to apply " ++ label ++ " on " ++ interface ++ ": "), k)

def word (value : Option UInt32) (default : UInt32) : String :=
  toString (value.getD default).toNat

def fqCodelRoot (config : QdiscConfig) : RootQdisc where
  handle := none
  kind := "fq_codel"
  options := ["limit", word config.limit 10240, "target", word config.targetMs 5 ++ "ms",
    "interval", word config.intervalMs 100 ++ "ms", "ecn"]

def applyFqCodel (interface : String) (config : QdiscConfig) :
    CommandOutput → Kernel → Except CoreError Unit × Kernel :=
  applyRoot "fq_codel" (fqCodelRoot config) interface

def cakeRoot (config : QdiscConfig) : RootQdisc where
  handle := none
  kind := "cake"
  options := ["autorate-ingress", "diffserv4", "nat"] ++
    (match config.limit with
      | some limit => ["limit", toString limit.toNat]
      | none => [])

def applyCake (interface : String) (config : QdiscConfig) :
    CommandOutput → Kernel → Except CoreError Unit × Kernel :=
  applyRoot "CAKE" (cakeRoot config) interface

def htbRoot : RootQdisc := ⟨some "1:", "htb", ["default", "30"]⟩

def applyHtb (interface : String) (_config : QdiscConfig) :
    CommandOutput → Kernel → Except CoreError Unit × Kernel :=
  applyRoot "HTB root" htbRoot interface

def prioRoot : RootQdisc :=
  ⟨some "1:", "prio", ["bands", "3", "priomap"] ++ List.replicate 16 "0"⟩

def applyPrio (interface : String) : CommandOutput → Kernel → Except CoreError Unit × Kernel :=
  applyRoot "prio" prioRoot interface

def pfifoFastRoot : RootQdisc := ⟨some "1:", "pfifo_fast", []⟩

def applyPfifoFast (interface : String) : CommandOutput → Kernel → Except CoreError Unit × Kernel :=
  applyRoot "pfifo_fast" pfifoFastRoot interface

def requestedType (config : QdiscConfig) : QdiscType := config.qdisc.getD .fqCodel

def applyType (interface : String) (config : QdiscConfig) :
    CommandOutput → Kernel → Except CoreError Unit × Kernel :=
  match requestedType config with
  | .fqCodel => applyFqCodel interface config
  | .cake => applyCake interface config
  | .htb => applyHtb interface config
  | .prio => applyPrio interface
  | .pfifoFast => applyPfifoFast interface

/-- First the root qdisc is removed, then the requested one is added. -/
def QdiscManager.apply (interface : String) (config : QdiscConfig) (c : CommandAnswers)
    (k : Kernel) : Except CoreError Unit × Kernel :=
  attemptAll k [remove interface c.del, applyType interface config c.add]

def kindOf : QdiscType → String
  | .fqCodel => "fq_codel"
  | .cake => "cake"
  | .htb => "htb"
  | .prio => "prio"
  | .pfifoFast => "pfifo_fast"

/-- Success leaves a root qdisc of the requested type, and an error the one
there was. -/
def ChangesAtomically (k : Kernel) (interface : String) (config : QdiscConfig)
    (c : CommandAnswers) : Prop :=
  match QdiscManager.apply interface config c k with
  | (.ok _, after) =>
    (rootQdisc after interface).map (·.kind) = some (kindOf (requestedType config))
  | (.error _, after) => rootQdisc after interface = rootQdisc k interface

/-- The five ways to add a qdisc differ in its words only, and each adds one of
the type it is for. -/
theorem applyType_eq (interface : String) (config : QdiscConfig) :
    ∃ label root, applyType interface config = applyRoot label root interface ∧
      root.kind = kindOf (requestedType config) := by
  rw [applyType]
  cases requestedType config with
  | fqCodel => exact ⟨_, _, rfl, rfl⟩
  | cake => exact ⟨_, _, rfl, rfl⟩
  | htb => exact ⟨_, _, rfl, rfl⟩
  | prio => exact ⟨_, _, rfl, rfl⟩
  | pfifoFast => exact ⟨_, _, rfl, rfl⟩

theorem require_error {out : CommandOutput} (h : ¬ Succeeds out) (failure : String) :
    ∃ e, require out failure = .error e := by
  cases hresult : require out failure with
  | error e => exact ⟨e, rfl⟩
  | ok u => exact absurd ((require_ok_iff out failure u).mp hresult) h

@[simp] theorem rootQdisc_insert (k : Kernel) (interface : String) (root : Option RootQdisc) :
    rootQdisc (k.insert interface root) interface = root := by
  simp [rootQdisc]

theorem applyRoot_free {k : Kernel} {interface : String} (h : k.lookup interface = some none)
    (label : String) (root : RootQdisc) (answer : CommandOutput) :
    (Succeeds answer → applyRoot label root interface answer k =
      (.ok (), k.insert interface (some root))) ∧
    (¬ Succeeds answer → ∃ e, applyRoot label root interface answer k = (.error e, k)) := by
  have hadd : tcAddRoot interface root answer k =
      (answer, if succeeded answer then k.insert interface (some root) else k) := by
    simp only [tcAddRoot, h]
  constructor
  · intro hs
    simp only [applyRoot, hadd, if_pos ((succeeded_iff answer).mpr hs),
      (require_ok_iff answer _ ()).mpr hs]
  · intro hs
    obtain ⟨e, he⟩ := require_error hs ("Failed to apply " ++ label ++ " on " ++ interface ++ ": ")
    refine ⟨e, ?_⟩
    rw [← succeeded_iff] at hs
    simp only [applyRoot, hadd, if_neg hs, he]

theorem applyRoot_refused {k : Kernel} {interface : String} (h : k.lookup interface ≠ some none)
    (label : String) (root : RootQdisc) (answer : CommandOutput) :
    ∃ e, applyRoot label root interface answer k = (.error e, k) := by
  have hadd : ∃ text, tcAddRoot interface root answer k = (refused text answer, k) := by
    rw [tcAddRoot]
    cases hk : k.lookup interface with
    | none => exact ⟨_, rfl⟩
    | some there =>
      cases there with
      | none => exact absurd hk h
      | some q => exact ⟨_, rfl⟩
  obtain ⟨text, hadd⟩ := hadd
  obtain ⟨e, he⟩ := require_error (not_succeeds_refused text answer)
    ("Failed to apply " ++ label ++ " on " ++ interface ++ ": ")
  exact ⟨e, by simp only [applyRoot, hadd, he]⟩

theorem applyType_cases (interface : String) (config : QdiscConfig) (answer : CommandOutput)
    (k : Kernel) :
    (∃ e, applyType interface config answer k = (.error e, k)) ∨
    ∃ root, root.kind = kindOf (requestedType config) ∧
      applyType interface config answer k = (.ok (), k.insert interface (some root)) := by
  obtain ⟨label, root, happly, hkind⟩ := applyType_eq interface config
  rw [happly]
  by_cases hfree : k.lookup interface = some none
  · by_cases hs : Succeeds answer
    · exact .inr ⟨root, hkind, (applyRoot_free hfree label root answer).1 hs⟩
    · exact .inl ((applyRoot_free hfree label root answer).2 hs)
  · exact .inl (applyRoot_refused hfree label root answer)

theorem applyType_free {k : Kernel} {interface : String} (h : k.lookup interface = some none)
    (config : QdiscConfig) (answer : CommandOutput) :
    (applyType interface config answer k).1 = .ok () ↔ Succeeds answer := by
  obtain ⟨label, root, happly, -⟩ := applyType_eq interface config
  rw [happly]
  by_cases hs : Succeeds answer
  · rw [(applyRoot_free h label root answer).1 hs]
    exact iff_of_true rfl hs
  · obtain ⟨e, he⟩ := (applyRoot_free h label root answer).2 hs
    rw [he]
    exact iff_of_false (by simp) hs

def Removes (k : Kernel) (interface : String) (answer : CommandOutput) : Prop :=
  (rootQdisc k interface).isSome = true ∧ Succeeds answer

theorem remove_taken {k : Kernel} {interface : String} {answer : CommandOutput}
    (h : Removes k interface answer) :
    remove interface answer k = (.ok (), k.insert interface none) := by
  obtain ⟨hroot, hs⟩ := h
  obtain ⟨q, hq⟩ := Option.isSome_iff_exists.mp hroot
  have hlookup : k.lookup interface = some (some q) := Option.join_eq_some_iff.mp hq
  have hsucceeded := (succeeded_iff answer).mpr hs
  obtain ⟨out, rfl, -⟩ := hs
  simp [remove, tcDelRoot, hlookup, hsucceeded]

theorem remove_kept {k : Kernel} {interface : String} {answer : CommandOutput}
    (h : ¬ Removes k interface answer) : (remove interface answer k).2 = k := by
  have hdel : (tcDelRoot interface answer k).2 = k := by
    rw [tcDelRoot]
    cases hk : k.lookup interface with
    | none => rfl
    | some there =>
      cases there with
      | none => rfl
      | some q =>
        apply if_neg
        intro hs
        exact h ⟨by simp [rootQdisc, hk], (succeeded_iff answer).mp hs⟩
  rw [remove]
  split <;> simp_all

theorem changes_of_kept {k : Kernel} {interface : String} {c : CommandAnswers}
    (h : ¬ Removes k interface c.del) (config : QdiscConfig) :
    ChangesAtomically k interface config c := by
  have hkept := remove_kept h
  rw [ChangesAtomically, QdiscManager.apply]
  cases hresult : (remove interface c.del k).1 with
  | error e =>
    have hstep : remove interface c.del k = (.error e, k) := Prod.ext hresult hkept
    rw [attemptAll_cons_error hresult, hstep]
  | ok u =>
    rw [attemptAll_cons_ok hresult, hkept]
    obtain ⟨e, he⟩ | ⟨root, hkind, hroot⟩ := applyType_cases interface config c.add k
    · simp [attemptAll, he]
    · simp [attemptAll, hroot, hkind]

/-- What was taken away comes back only in the shape of the requested qdisc. -/
theorem changes_of_taken {k : Kernel} {interface : String} {c : CommandAnswers}
    (h : Removes k interface c.del) (config : QdiscConfig) :
    ChangesAtomically k interface config c ↔ Succeeds c.add := by
  have hremoved := remove_taken h
  have hfree : (k.insert interface none).lookup interface = some none := AList.lookup_insert k
  rw [ChangesAtomically, QdiscManager.apply, attemptAll_cons_ok (by rw [hremoved]), hremoved,
    ← applyType_free hfree config c.add]
  obtain ⟨e, he⟩ | ⟨root, hkind, hroot⟩ :=
    applyType_cases interface config c.add (k.insert interface none)
  · -- the interface is left without a root qdisc
    have hlost : none ≠ rootQdisc k interface := by
      intro hnone
      have hsome := h.1
      rw [← hnone] at hsome
      cases hsome
    simp [attemptAll, he, hlost]
  · simp [attemptAll, hroot, hkind]

/-- Whatever the interface has and however the commands end, a change is atomic
unless the root qdisc is removed and the requested one is then not added. -/
theorem changesAtomically_iff (k : Kernel) (interface : String) (config : QdiscConfig)
    (c : CommandAnswers) :
    ChangesAtomically k interface config c ↔
      ((rootQdisc k interface).isSome = true → Succeeds c.del → Succeeds c.add) := by
  by_cases h : Removes k interface c.del
  · rw [changes_of_taken h config]
    exact ⟨fun hadd _ _ => hadd, fun hadd => hadd h.1 h.2⟩
  · apply iff_of_true (changes_of_kept h config)
    intro hroot hdel
    exact absurd ⟨hroot, hdel⟩ h

def shaped : Kernel := (∅ : Kernel).insert "eth0" (some (fqCodelRoot ⟨none, none, none, none⟩))

def cakeUnknown : CommandAnswers where
  del := exited true "" ""
  add := exited false "" "Error: Specified qdisc kind is unknown."

/-- CAKE is not there on this kernel, and the fq_codel of before is gone. -/
theorem failed_change_loses_qdisc :
    (rootQdisc shaped "eth0").map (·.kind) = some "fq_codel" ∧
    (QdiscManager.apply "eth0" ⟨some .cake, none, none, none⟩ cakeUnknown shaped).1 =
      .error (.internal
        "Failed to apply CAKE on eth0: Error: Specified qdisc kind is unknown.") ∧
    rootQdisc (QdiscManager.apply "eth0" ⟨some .cake, none, none, none⟩ cakeUnknown shaped).2
      "eth0" = none ∧
    ¬ ChangesAtomically shaped "eth0" ⟨some .cake, none, none, none⟩ cakeUnknown := by
  refine ⟨by decide +kernel, by decide +kernel, by decide +kernel, ?_⟩
  have hremoved : Removes shaped "eth0" cakeUnknown.del := ⟨by decide +kernel, _, rfl, rfl⟩
  rw [changes_of_taken hremoved]
  rintro ⟨out, hout, hsuccess⟩
  cases hout
  cases hsuccess

end Netfusion.Core.Qdisc
