import Netfusion.Shared.Validate
import Netfusion.Core.BondLinks

namespace Netfusion.Core.BondNames

open Netfusion.Lib.Collections Netfusion.Lib.Machine Netfusion.Lib.Text
open Netfusion.Shared.Config Netfusion.Shared.Types
open Netfusion.Core.Command Netfusion.Core.BondLinks
open Netfusion.Core.Bonding hiding step

variable {F : Type}

def Concerns (config : BondConfig) : Call → Prop
  | .create other _ => other = config
  | .delete name _ => name = config.name

/-- The host as it would be if the interface of the bond were not there. -/
def without (h : Host F) (name : String) : Host F := ⟨h.manager, h.links.erase (bondLink name)⟩

def commandsOf (h : Host F) : Call → List IpCommand
  | .create config added =>
    (createBond h.manager config (admitted h.links (bondLink config.name) added)).1.2
  | .delete name _ => (deleteBond h.manager name).1.2

def asBond : IpCommand → Option String
  | .addBond name _ => some name
  | .delLink name => some name
  | .setMaster _ bond => some bond
  | .setNoMaster _ => none

def asMember : IpCommand → Option String
  | .addBond _ _ => none
  | .delLink _ => none
  | .setMaster iface _ => some iface
  | .setNoMaster iface => some iface

def listed (h : Host F) : Call → List String
  | .create config _ => config.members
  | .delete name _ =>
    match h.manager.bonds.lookup name with
    | none => []
    | some state => state.activeMembers ++ state.standbyMembers

/-- The interface of `other` makes no difference to the answer of a call, and
the call makes none to it: it stays as it is, no command treats it as a bond,
and as a member only if it is listed as one. -/
structure Undisturbed (other : BondConfig) (h : Host F) (call : Call) : Prop where
  answer : (step h call).1 = (step (without h other.name) call).1
  interface : bondLink other.name ∈ (step h call).2.links ↔ bondLink other.name ∈ h.links
  bond : ∀ command ∈ commandsOf h call, asBond command ≠ some (bondLink other.name)
  member : ∀ command ∈ commandsOf h call, asMember command = some (bondLink other.name) →
    bondLink other.name ∈ listed h call

def Independent (F : Type) (config other : BondConfig) : Prop :=
  ∀ calls call, Concerns config call → Undisturbed other (run step (Host.new F) calls) call

/-- The interfaces have different names, and no call for one bond is in touch
with the interface of the other. -/
structure OwnInterfaces (F : Type) (a b : BondConfig) : Prop where
  names : bondLink a.name ≠ bondLink b.name
  first : Independent F a b
  second : Independent F b a

section

variable (h : Host F) (config other : BondConfig)

theorem create_answer (added : CommandOutput) :
    (step h (.create config added)).1 =
      (createBondInterface (bondLink config.name) config
        (admitted h.links (bondLink config.name) added)).1 := by
  simp only [step, createBond]
  rw [bondLink]
  split
  · rename_i hcreate
    rw [hcreate]
  · rename_i hcreate
    rw [hcreate]

theorem admitted_without (hne : bondLink config.name ≠ bondLink other.name)
    (added : CommandOutput) :
    admitted (without h other.name).links (bondLink config.name) added =
      admitted h.links (bondLink config.name) added := by
  have hmem : bondLink config.name ∈ (without h other.name).links ↔
      bondLink config.name ∈ h.links := by
    rw [without, Finset.mem_erase]
    exact and_iff_right hne
  simp only [admitted, hmem]

theorem create_command {added : CommandOutput} {command : IpCommand}
    (hcommand : command ∈ commandsOf h (.create config added)) :
    asBond command = some (bondLink config.name) ∧
      ∀ iface, asMember command = some iface → iface ∈ config.members := by
  have hmade : command = .addBond (bondLink config.name) (modeNumber config.mode) ∨
      ∃ member ∈ config.members, command = .setMaster member (bondLink config.name) := by
    by_cases hs : succeeded (admitted h.links (bondLink config.name) added) = true
    · rw [commandsOf, createBond_succeeded h.manager config hs] at hcommand
      rcases List.mem_cons.mp hcommand with hadd | hmaster
      · exact .inl hadd
      · obtain ⟨member, hmember, rfl⟩ := List.mem_map.mp hmaster
        exact .inr ⟨member, hmember, rfl⟩
    · obtain ⟨e, he⟩ := createBond_refused h.manager config hs
      rw [commandsOf, he] at hcommand
      exact .inl (List.mem_singleton.mp hcommand)
  obtain rfl | ⟨member, hmember, rfl⟩ := hmade
  · exact ⟨rfl, fun iface hiface => by cases hiface⟩
  · refine ⟨rfl, ?_⟩
    rintro iface ⟨⟩
    exact hmember

theorem delete_command (hs : Linked h) {name : String} {deleted : CommandOutput}
    {command : IpCommand} (hcommand : command ∈ commandsOf h (.delete name deleted)) :
    (∀ link, asBond command = some link → link = bondLink name) ∧
      ∀ iface, asMember command = some iface → iface ∈ listed h (.delete name deleted) := by
  cases hn : h.manager.bonds.lookup name with
  | none => simp [commandsOf, deleteBond, hn] at hcommand
  | some state =>
    simp only [commandsOf, deleteBond, hn, (hs.link name state hn).1, Option.toList_some,
      List.map_cons, List.map_nil] at hcommand
    rcases List.mem_append.mp hcommand with hrelease | hdelete
    · obtain ⟨member, hmember, rfl⟩ := List.mem_map.mp hrelease
      refine ⟨fun link hlink => (by cases hlink), ?_⟩
      rintro iface ⟨⟩
      rw [listed, hn]
      exact hmember
    · obtain rfl := List.mem_singleton.mp hdelete
      refine ⟨?_, fun iface hiface => (by cases hiface)⟩
      rintro link ⟨⟩
      rfl

theorem undisturbed_create (hne : bondLink config.name ≠ bondLink other.name)
    (added : CommandOutput) : Undisturbed other h (.create config added) := by
  constructor
  · rw [create_answer, create_answer, admitted_without h config other hne]
  · obtain hsame | ⟨-, hinsert⟩ := create_cases h config added
    · rw [hsame]
    · rw [hinsert, Finset.mem_insert]
      exact or_iff_right hne.symm
  · intro command hcommand hbond
    rw [(create_command h config hcommand).1] at hbond
    exact hne (Option.some.inj hbond)
  · intro command hcommand
    exact (create_command h config hcommand).2 _

theorem undisturbed_delete (hs : Linked h) (hne : bondLink config.name ≠ bondLink other.name)
    (deleted : CommandOutput) : Undisturbed other h (.delete config.name deleted) := by
  constructor
  · rfl
  · cases hn : h.manager.bonds.lookup config.name with
    | none => rw [delete_unknown h config.name deleted hn]
    | some state =>
      rw [delete_known h config.name deleted hn (hs.link config.name state hn).1]
      split
      · rw [Finset.mem_erase]
        exact and_iff_right hne.symm
      · rfl
  · intro command hcommand hbond
    exact hne ((delete_command h hs hcommand).1 _ hbond).symm
  · intro command hcommand
    exact (delete_command h hs hcommand).2 _

theorem create_taken (htaken : bondLink config.name ∈ h.links) :
    (step h (.create config (exited true "" ""))).1 =
      .error (.createFailed (bondLink config.name)
        "ip command failed: RTNETLINK answers: File exists") := by
  have hrefused : admitted h.links (bondLink config.name) (exited true "" "") =
      exited false "" "RTNETLINK answers: File exists" := if_pos ⟨rfl, htaken⟩
  rw [create_answer, hrefused]
  rfl

theorem create_free (hfree : bondLink config.name ∉ h.links) :
    (step h (.create config (exited true "" ""))).1 = .ok () ∧
      bondLink config.name ∈ (step h (.create config (exited true "" ""))).2.links := by
  have haccepted : admitted h.links (bondLink config.name) (exited true "" "") =
      exited true "" "" := if_neg (fun htaken => hfree htaken.2)
  constructor
  · rw [create_answer, haccepted]
    rfl
  · simp only [step]
    rw [haccepted]
    simp only [createBond, createBondInterface, exited, if_true, execute, List.foldl_cons]
    rw [← execute, execute_masters]
    exact Finset.mem_insert_self _ _

end

theorem independent_of_ne (config other : BondConfig)
    (hne : bondLink config.name ≠ bondLink other.name) : Independent F config other := by
  intro calls call hcall
  cases call with
  | create config' added =>
    obtain rfl : config' = config := hcall
    exact undisturbed_create _ config' other hne added
  | delete name deleted =>
    obtain rfl : name = config.name := hcall
    exact undisturbed_delete _ config other (linked_run calls) hne deleted

/-- Where two bonds come to the same name, the second to be created fails, as
it would not without the first. -/
theorem not_independent_of_eq (config other : BondConfig)
    (heq : bondLink config.name = bondLink other.name) : ¬ Independent F config other := by
  intro hind
  have hundisturbed := hind [.create other (exited true "" "")]
    (.create config (exited true "" "")) rfl
  have htaken : bondLink config.name ∈
      (run step (Host.new F) [.create other (exited true "" "")]).links := by
    rw [heq]
    exact (create_free (Host.new F) other (Finset.notMem_empty _)).2
  have hfree : bondLink config.name ∉
      (without (run step (Host.new F) [.create other (exited true "" "")]) other.name).links := by
    rw [heq]
    exact Finset.notMem_erase _ _
  have hanswer := hundisturbed.answer
  rw [create_taken _ config htaken, (create_free _ config hfree).1] at hanswer
  cases hanswer

theorem independent_iff (config other : BondConfig) :
    Independent F config other ↔ bondLink config.name ≠ bondLink other.name := by
  constructor
  · intro hind heq
    exact not_independent_of_eq config other heq hind
  · exact independent_of_ne config other

theorem bondLink_eq_iff (name other : String) :
    bondLink name = bondLink other ↔ SameButCopies "bond".toList name.toList other.toList := by
  rw [← trimStartMatches_eq_iff (by decide), bondLink, bondLink]
  exact String.append_right_inj _

/-- Two bonds keep to interfaces of their own exactly when neither name is the
other with copies of `bond` in front. -/
theorem ownInterfaces_iff (F : Type) (a b : BondConfig) :
    OwnInterfaces F a b ↔ ¬ SameButCopies "bond".toList a.name.toList b.name.toList := by
  rw [← bondLink_eq_iff]
  constructor
  · intro h
    exact h.names
  · intro hne
    exact ⟨hne, (independent_iff a b).mpr hne, (independent_iff b a).mpr (Ne.symm hne)⟩

def plainConfig : BondConfig := { pairConfig with name := "0" }

/-- `bond0` and `0` are two valid names for one interface. -/
theorem bond0_and_0_collide :
    pairConfig.errors = [] ∧ plainConfig.errors = [] ∧ pairConfig.name ≠ plainConfig.name ∧
      ¬ OwnInterfaces ℕ pairConfig plainConfig := by
  refine ⟨by decide, by decide, by decide, ?_⟩
  intro h
  exact h.names (by decide)

end Netfusion.Core.BondNames
