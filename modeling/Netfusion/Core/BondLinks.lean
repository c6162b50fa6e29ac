import Mathlib.Data.Finset.Basic
import Netfusion.Core.Bonding

namespace Netfusion.Core.BondLinks

open Netfusion.Lib.Collections Netfusion.Lib.Machine Netfusion.Lib.Text
open Netfusion.Shared.Config Netfusion.Shared.Types
open Netfusion.Core.Command Netfusion.Core.Bonding

variable {F : Type}

/-- The manager, and the links it has added to the kernel that are still there. -/
structure Host (F : Type) where
  manager : BondManager F
  links : Finset String

def Host.new (F : Type) : Host F := ⟨BondManager.new F, ∅⟩

def bondLink (name : String) : String := "netfusion" ++ trimStartMatches name "bond"

def succeeded : CommandOutput → Bool
  | .ok out => out.success
  | .error _ => false

/-- The kernel takes no second link of one name, whatever would become of the
command otherwise. -/
def admitted (links : Finset String) (name : String) (added : CommandOutput) : CommandOutput :=
  if succeeded added ∧ name ∈ links then exited false "" "RTNETLINK answers: File exists"
  else added

/-- What a command that ended so leaves in the kernel. -/
def effect (result : CommandOutput) (links : Finset String) : IpCommand → Finset String
  | .addBond name _ => if succeeded result then insert name links else links
  | .delLink name => if succeeded result then links.erase name else links
  | .setMaster _ _ => links
  | .setNoMaster _ => links

def execute (result : CommandOutput) (commands : List IpCommand) (links : Finset String) :
    Finset String := commands.foldl (effect result) links

/-- Each call comes with how its `ip link add` or `ip link del` ends. -/
inductive Call where
  | create (config : BondConfig) (added : CommandOutput)
  | delete (name : String) (deleted : CommandOutput)

def step (h : Host F) : Call → Except BondingError Unit × Host F
  | .create config added =>
    let result := admitted h.links (bondLink config.name) added
    let ((answer, commands), manager) := createBond h.manager config result
    (answer, ⟨manager, execute result commands h.links⟩)
  | .delete name deleted =>
    let ((answer, commands), manager) := deleteBond h.manager name
    (answer, ⟨manager, execute deleted commands h.links⟩)

def addition (config : BondConfig) : IpCommand :=
  .addBond (bondLink config.name) (modeNumber config.mode)

def Tracked (h : Host F) : Prop :=
  ∀ link ∈ h.links, ∃ name state, h.manager.bonds.lookup name = some state ∧
    state.bondInterface = some link

/-- A bond that is deleted with success takes its link along. -/
def DeletesLink (h : Host F) (call : Call) : Prop :=
  ∀ name deleted state link, call = .delete name deleted →
    h.manager.bonds.lookup name = some state → state.bondInterface = some link →
    (step h call).1 = .ok () → link ∉ (step h call).2.links

def DeletionSucceeds (h : Host F) (call : Call) : Prop :=
  ∀ name deleted, call = .delete name deleted → (h.manager.bonds.lookup name).isSome = true →
    Succeeds deleted

/-- Every bond has its own link, and it is in the kernel. -/
structure Linked (h : Host F) : Prop where
  link : ∀ name state, h.manager.bonds.lookup name = some state →
    state.bondInterface = some (bondLink name) ∧ bondLink name ∈ h.links
  own : ∀ name other state state', h.manager.bonds.lookup name = some state →
    h.manager.bonds.lookup other = some state' → bondLink name = bondLink other → name = other

theorem succeeded_iff (result : CommandOutput) : succeeded result = true ↔ Succeeds result := by
  cases result with
  | ok out => simp [succeeded, Succeeds]
  | error e => simp [succeeded, Succeeds]

theorem execute_append (result : CommandOutput) (front back : List IpCommand)
    (links : Finset String) :
    execute result (front ++ back) links = execute result back (execute result front links) :=
  List.foldl_append

theorem execute_masters (result : CommandOutput) (members : List String) (bond : String)
    (links : Finset String) :
    execute result (members.map (fun member => .setMaster member bond)) links = links := by
  induction members with
  | nil => rfl
  | cons member members ih => exact ih

theorem execute_releases (result : CommandOutput) (members : List String) (links : Finset String) :
    execute result (members.map IpCommand.setNoMaster) links = links := by
  induction members with
  | nil => rfl
  | cons member members ih => exact ih

theorem admitted_succeeded {links : Finset String} {name : String} {added : CommandOutput}
    (h : succeeded (admitted links name added) = true) : name ∉ links := by
  intro hname
  rw [admitted] at h
  split at h
  · cases h
  · rename_i hno
    exact hno ⟨h, hname⟩

theorem createBond_succeeded (m : BondManager F) (config : BondConfig) {added : CommandOutput}
    (h : succeeded added = true) : createBond m config added =
      ((.ok (), addition config ::
        config.members.map (fun member => .setMaster member (bondLink config.name))),
      ⟨m.bonds.insert config.name (freshBond F config (bondLink config.name))⟩) := by
  cases added with
  | error e => cases h
  | ok out =>
    rw [succeeded] at h
    simp only [createBond, createBondInterface, h, if_true]
    rfl

theorem createBond_refused (m : BondManager F) (config : BondConfig) {added : CommandOutput}
    (h : ¬ succeeded added = true) :
    ∃ e, createBond m config added = ((.error e, [addition config]), m) := by
  cases added with
  | error e => exact ⟨_, rfl⟩
  | ok out =>
    rw [succeeded] at h
    simp only [createBond, createBondInterface, h]
    exact ⟨_, rfl⟩

theorem create_cases (h : Host F) (config : BondConfig) (added : CommandOutput) :
    (step h (.create config added)).2 = h ∨
    bondLink config.name ∉ h.links ∧ (step h (.create config added)).2 =
      ⟨⟨h.manager.bonds.insert config.name (freshBond F config (bondLink config.name))⟩,
        insert (bondLink config.name) h.links⟩ := by
  have hnew : succeeded (admitted h.links (bondLink config.name) added) = true →
      bondLink config.name ∉ h.links := admitted_succeeded
  simp only [step, createBond, createBondInterface]
  cases hr : admitted h.links (bondLink config.name) added with
  | error e => exact .inl rfl
  | ok out =>
    rw [hr] at hnew
    by_cases hs : out.success = true
    · refine .inr ⟨hnew hs, ?_⟩
      simp only [hs, if_true, execute, List.foldl_cons, effect, succeeded]
      rw [← execute, execute_masters]
      rfl
    · simp only [hs]
      simp [execute, effect, succeeded, hs]

theorem delete_unknown (h : Host F) (name : String) (deleted : CommandOutput)
    (hn : h.manager.bonds.lookup name = none) : (step h (.delete name deleted)).2 = h := by
  simp [step, deleteBond, hn, execute]

theorem delete_known (h : Host F) (name : String) (deleted : CommandOutput)
    {state : BondState (Score F)} (hn : h.manager.bonds.lookup name = some state) {link : String}
    (hlink : state.bondInterface = some link) :
    step h (.delete name deleted) = (.ok (), ⟨⟨h.manager.bonds.erase name⟩,
      if succeeded deleted then h.links.erase link else h.links⟩) := by
  simp only [step, deleteBond, hn, hlink, execute_append, execute_releases]
  rfl

theorem linked_create (h : Host F) (config : BondConfig) (added : CommandOutput) (hs : Linked h) :
    Linked (step h (.create config added)).2 := by
  obtain hsame | ⟨hnew, hinsert⟩ := create_cases h config added
  · rwa [hsame]
  rw [hinsert]
  have hfresh : ∀ name state, h.manager.bonds.lookup name = some state →
      bondLink name ≠ bondLink config.name :=
    fun name state hname heq => hnew (heq ▸ (hs.link name state hname).2)
  constructor
  · apply insert_keeps
    · exact ⟨rfl, Finset.mem_insert_self _ _⟩
    · intro name state hname
      obtain ⟨hiface, hmem⟩ := hs.link name state hname
      exact ⟨hiface, Finset.mem_insert_of_mem hmem⟩
  · intro name other state state' hname hother heq
    rw [lookup_insert_eq] at hname hother
    split at hname <;> split at hother
    · rename_i hn ho
      exact hn.trans ho.symm
    · rename_i hn _
      exact absurd (hn ▸ heq).symm (hfresh other state' hother)
    · rename_i _ ho
      exact absurd (ho ▸ heq) (hfresh name state hname)
    · exact hs.own name other state state' hname hother heq

theorem linked_delete (h : Host F) (name : String) (deleted : CommandOutput) (hs : Linked h) :
    Linked (step h (.delete name deleted)).2 := by
  cases hn : h.manager.bonds.lookup name with
  | none => rwa [delete_unknown h name deleted hn]
  | some state =>
    rw [delete_known h name deleted hn (hs.link name state hn).1]
    constructor
    · intro other state' hother
      simp only [lookup_erase_eq] at hother
      split at hother
      · cases hother
      · rename_i hne
        obtain ⟨hiface, hmem⟩ := hs.link other state' hother
        refine ⟨hiface, ?_⟩
        split
        · apply Finset.mem_erase.mpr
          exact ⟨fun heq => hne (hs.own other name state' state hother hn heq), hmem⟩
        · exact hmem
    · intro a b state' state'' ha hb heq
      simp only [lookup_erase_eq] at ha hb
      split at ha
      · cases ha
      · split at hb
        · cases hb
        · exact hs.own a b state' state'' ha hb heq

theorem linked_run (calls : List Call) : Linked (run step (Host.new F) calls) := by
  apply run_keeps
  · constructor
    · intro name state h
      cases h
    · intro name other state state' h
      cases h
  · intro h call hs
    cases call with
    | create config added => exact linked_create h config added hs
    | delete name deleted => exact linked_delete h name deleted hs

theorem tracked_create (h : Host F) (config : BondConfig) (added : CommandOutput) (hs : Linked h)
    (ht : Tracked h) : Tracked (step h (.create config added)).2 := by
  obtain hsame | ⟨hnew, hinsert⟩ := create_cases h config added
  · rwa [hsame]
  rw [hinsert]
  intro link hlink
  rcases Finset.mem_insert.mp hlink with rfl | hlink
  · exact ⟨config.name, _, AList.lookup_insert _, rfl⟩
  · obtain ⟨name, state, hname, hiface⟩ := ht link hlink
    refine ⟨name, state, ?_, hiface⟩
    rw [lookup_insert_eq, if_neg]
    · exact hname
    · rintro rfl
      exact hnew (hs.link config.name state hname).2

theorem tracked_delete (h : Host F) (name : String) (deleted : CommandOutput) (hs : Linked h)
    (ht : Tracked h) (hdel : DeletionSucceeds h (.delete name deleted)) :
    Tracked (step h (.delete name deleted)).2 := by
  cases hn : h.manager.bonds.lookup name with
  | none => rwa [delete_unknown h name deleted hn]
  | some state =>
    have hok := (succeeded_iff deleted).mpr (hdel name deleted rfl (by rw [hn]; rfl))
    rw [delete_known h name deleted hn (hs.link name state hn).1, hok]
    intro link hlink
    obtain ⟨hne, hlink⟩ := Finset.mem_erase.mp hlink
    obtain ⟨other, state', hother, hiface⟩ := ht link hlink
    refine ⟨other, state', ?_, hiface⟩
    rw [lookup_erase_eq, if_neg]
    · exact hother
    · rintro rfl
      have heq := (hs.link other state' hother).1.symm.trans hiface
      cases heq
      exact hne rfl

theorem deletesLink_iff (h : Host F) (hs : Linked h) (call : Call) :
    DeletesLink h call ↔ DeletionSucceeds h call := by
  constructor
  · rintro hgone name deleted rfl hknown
    obtain ⟨state, hn⟩ := Option.isSome_iff_exists.mp hknown
    obtain ⟨hiface, hmem⟩ := hs.link name state hn
    have hstep := delete_known h name deleted hn hiface
    by_contra hfail
    apply hgone name deleted state (bondLink name) rfl hn hiface (by rw [hstep])
    rw [hstep, if_neg (fun hok => hfail ((succeeded_iff deleted).mp hok))]
    exact hmem
  · rintro hdel name deleted state link rfl hn hiface -
    have hok := (succeeded_iff deleted).mpr (hdel name deleted rfl (by rw [hn]; rfl))
    rw [delete_known h name deleted hn hiface, hok]
    exact Finset.notMem_erase link h.links

/-- No link is lost track of, in any state of the run, and every deletion takes
its link along. -/
def NoneLost (F : Type) (calls : List Call) : Prop :=
  (∀ pre post, calls = pre ++ post → Tracked (run step (Host.new F) pre)) ∧
  EachStep step (Host.new F) calls (fun _ h call => DeletesLink h call)

theorem tracked_run (calls : List Call)
    (h : EachStep step (Host.new F) calls (fun _ h call => DeletionSucceeds h call)) :
    Tracked (run step (Host.new F) calls) := by
  have hboth : Linked (run step (Host.new F) calls) ∧ Tracked (run step (Host.new F) calls) := by
    apply run_invariant (J := fun _ h => Linked h ∧ Tracked h) _ _ h
    · refine ⟨linked_run [], ?_⟩
      exact fun link hlink => absurd hlink (Finset.notMem_empty link)
    · rintro _ h call hdel ⟨hs, ht⟩
      cases call with
      | create config added =>
        exact ⟨linked_create h config added hs, tracked_create h config added hs ht⟩
      | delete name deleted =>
        exact ⟨linked_delete h name deleted hs, tracked_delete h name deleted hs ht hdel⟩
  exact hboth.2

/-- Every bond in the kernel is tracked through a run exactly when each
deletion of a known bond succeeds in the kernel. -/
theorem none_lost_iff (F : Type) (calls : List Call) :
    NoneLost F calls ↔
      EachStep step (Host.new F) calls (fun _ h call => DeletionSucceeds h call) := by
  constructor
  · rintro ⟨-, hgone⟩ pre call post he
    exact (deletesLink_iff _ (linked_run pre) call).mp (hgone pre call post he)
  · intro h
    constructor
    · rintro pre post rfl
      exact tracked_run pre (eachStep_front post h)
    · intro pre call post he
      exact (deletesLink_iff _ (linked_run pre) call).mpr (h pre call post he)

/-- A bond is created, and the command that should delete its link fails. -/
def busyRun : List Call :=
  [.create pairConfig (exited true "" ""),
    .delete "bond0" (exited false "" "Device or resource busy")]

theorem busy_link_lost : ¬ NoneLost ℕ busyRun := by
  rintro ⟨htracked, -⟩
  have hlink : "netfusion0" ∈ (run step (Host.new ℕ) busyRun).links := by decide +kernel
  obtain ⟨name, state, hname, -⟩ := htracked busyRun [] rfl "netfusion0" hlink
  have hkeys : (run step (Host.new ℕ) busyRun).manager.bonds.keys = [] := by decide +kernel
  have hmem := AList.mem_keys.mp (AList.lookup_isSome.mp (Option.isSome_of_mem hname))
  rw [hkeys] at hmem
  cases hmem

end Netfusion.Core.BondLinks
