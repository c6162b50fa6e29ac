import Netfusion.Core.BondLinks
import Netfusion.Core.BondMembers

namespace Netfusion.Core.BondSlaves

open Netfusion.Lib.Collections Netfusion.Lib.Machine
open Netfusion.Shared.Config Netfusion.Shared.Types
open Netfusion.Core.Command
open Netfusion.Core.Bonding hiding step
open Netfusion.Core.BondLinks hiding Host Host.new Call step execute create_cases delete_known

variable {F : Type}

/-- The links that were added and are still there, and the link an interface is
enslaved to. -/
structure Kernel where
  links : Finset String
  masters : String → Option String

/-- An interface that has a master is moved to the new one. A link that goes
is no master any more, and has none. -/
def Kernel.execute (ends : IpCommand → CommandOutput) (k : Kernel) (command : IpCommand) :
    Kernel :=
  if succeeded (ends command) then
    match command with
    | .addBond name _ => { k with links := insert name k.links }
    | .delLink name =>
      ⟨k.links.erase name,
        fun i => if i = name ∨ k.masters i = some name then none else k.masters i⟩
    | .setMaster iface bond =>
      if bond ∈ k.links then { k with masters := Function.update k.masters iface (some bond) }
      else k
    | .setNoMaster iface => { k with masters := Function.update k.masters iface none }
  else k

/-- The kernel takes no second link of one name. -/
def answered (k : Kernel) (ends : IpCommand → CommandOutput) : IpCommand → CommandOutput
  | .addBond name mode => admitted k.links name (ends (.addBond name mode))
  | command => ends command

structure Host (F : Type) where
  manager : BondManager F
  kernel : Kernel

def Host.new (F : Type) : Host F := ⟨BondManager.new F, ∅, fun _ => none⟩

def Host.linked (h : Host F) : BondLinks.Host F := ⟨h.manager, h.kernel.links⟩

def members (state : BondState (Score F)) : List String :=
  state.activeMembers ++ state.standbyMembers

def roster (m : BondManager F) (name : String) : Option (Option String × Finset String) :=
  (m.bonds.lookup name).map (fun state => (state.bondInterface, (members state).toFinset))

/-- Calls that run commands come with how each of them ends. -/
inductive Call (F : Type) [LinearOrder F] where
  | create (config : BondConfig) (ends : IpCommand → CommandOutput)
  | delete (name : String) (ends : IpCommand → CommandOutput)
  | update (u : MembershipUpdate F)

def step [LinearOrder F] (h : Host F) : Call F → Reply × Host F
  | .create config ends =>
    let ends := answered h.kernel ends
    let ((answer, commands), manager) := createBond h.manager config (ends (addition config))
    (.managed answer commands, ⟨manager, commands.foldl (Kernel.execute ends) h.kernel⟩)
  | .delete name ends =>
    let ((answer, commands), manager) := deleteBond h.manager name
    (.managed answer commands, ⟨manager, commands.foldl (Kernel.execute ends) h.kernel⟩)
  | .update u =>
    let (answer, manager) := update h.manager u
    (.updated answer, ⟨manager, h.kernel⟩)

theorem enslave_all (ends : IpCommand → CommandOutput) (k : Kernel) {bond : String}
    (hbond : bond ∈ k.links) (ifaces : List String) :
    (ifaces.map (fun iface => .setMaster iface bond)).foldl (Kernel.execute ends) k =
      { k with masters := fun i =>
          if i ∈ ifaces ∧ succeeded (ends (.setMaster i bond)) = true then some bond
          else k.masters i } := by
  rw [List.foldl_map, ← foldl_update (fun i => succeeded (ends (.setMaster i bond)))]
  induction ifaces generalizing k with
  | nil => rfl
  | cons iface ifaces ih =>
    rw [List.foldl_cons, List.foldl_cons]
    by_cases hs : succeeded (ends (.setMaster iface bond)) = true
    · simp only [Kernel.execute, hs, hbond, if_true]
      exact ih _ hbond
    · simp only [Kernel.execute, hs, if_false, Bool.false_eq_true]
      exact ih k hbond

theorem release_all (ends : IpCommand → CommandOutput) (k : Kernel) (ifaces : List String) :
    (ifaces.map IpCommand.setNoMaster).foldl (Kernel.execute ends) k =
      { k with masters := fun i =>
          if i ∈ ifaces ∧ succeeded (ends (.setNoMaster i)) = true then none
          else k.masters i } := by
  rw [List.foldl_map, ← foldl_update (fun i => succeeded (ends (.setNoMaster i)))]
  induction ifaces generalizing k with
  | nil => rfl
  | cons iface ifaces ih =>
    rw [List.foldl_cons, List.foldl_cons]
    by_cases hs : succeeded (ends (.setNoMaster iface)) = true
    · simp only [Kernel.execute, hs, if_true]
      exact ih _
    · simp only [Kernel.execute, hs, if_false, Bool.false_eq_true]
      exact ih k

theorem roster_eq_some {m : BondManager F} {name : String} {x : Option String × Finset String} :
    roster m name = some x ↔ ∃ state, m.bonds.lookup name = some state ∧
      (state.bondInterface, (members state).toFinset) = x := Option.map_eq_some_iff

theorem roster_insert (m : BondManager F) (name : String) (state : BondState (Score F)) :
    roster ⟨m.bonds.insert name state⟩ =
      Function.update (roster m) name (some (state.bondInterface, (members state).toFinset)) := by
  funext other
  rw [roster, lookup_insert_eq, Function.update_apply]
  by_cases h : other = name
  · simp [h]
  · simp [h, roster]

theorem roster_erase (m : BondManager F) (name : String) :
    roster ⟨m.bonds.erase name⟩ = Function.update (roster m) name none := by
  funext other
  rw [roster, lookup_erase_eq, Function.update_apply]
  by_cases h : other = name
  · simp [h]
  · simp [h, roster]

theorem linked_of_roster {h h' : Host F} (hroster : roster h'.manager = roster h.manager)
    (hlinks : h'.kernel.links = h.kernel.links) (hs : Linked h.linked) : Linked h'.linked := by
  have hback : ∀ name state', h'.manager.bonds.lookup name = some state' →
      ∃ state, h.manager.bonds.lookup name = some state ∧
        state.bondInterface = state'.bondInterface := by
    intro name state' hstate'
    have hsame := congrFun hroster name
    rw [roster_eq_some.mpr ⟨state', hstate', rfl⟩] at hsame
    obtain ⟨state, hstate, hx⟩ := roster_eq_some.mp hsame.symm
    exact ⟨state, hstate, congrArg Prod.fst hx⟩
  constructor
  · intro name state' hstate'
    obtain ⟨state, hstate, hiface⟩ := hback name state' hstate'
    obtain ⟨hlink, hmem⟩ := hs.link name state hstate
    exact ⟨hiface.symm.trans hlink, by rwa [Host.linked, hlinks]⟩
  · intro name other state state' hname hother
    obtain ⟨_, hname', -⟩ := hback name state hname
    obtain ⟨_, hother', -⟩ := hback other state' hother
    exact hs.own name other _ _ hname' hother'

def released (ends : IpCommand → CommandOutput) (state : BondState (Score F)) (k : Kernel) :
    Kernel :=
  { k with masters := fun i =>
      if i ∈ members state ∧ succeeded (ends (.setNoMaster i)) = true then none else k.masters i }

theorem released_eq_some {ends : IpCommand → CommandOutput} {state : BondState (Score F)}
    {k : Kernel} {i bond : String} : (released ends state k).masters i = some bond ↔
      k.masters i = some bond ∧ ¬ (i ∈ members state ∧ Succeeds (ends (.setNoMaster i))) := by
  rw [released, ← succeeded_iff]
  by_cases h : i ∈ members state ∧ succeeded (ends (.setNoMaster i)) = true
  · simp [h]
  · simp [h]

structure Sound (h : Host F) : Prop where
  linked : Linked h.linked
  split : ∀ name state, h.manager.bonds.lookup name = some state → Split state

theorem Sound.interface {h : Host F} (hs : Sound h) {name : String}
    {x : Option String × Finset String} (hx : roster h.manager name = some x) :
    x.1 = some (bondLink name) ∧ bondLink name ∈ h.kernel.links := by
  obtain ⟨state, hstate, rfl⟩ := roster_eq_some.mp hx
  exact hs.linked.link name state hstate

theorem Sound.own {h : Host F} (hs : Sound h) {name other : String}
    (hname : (roster h.manager name).isSome = true)
    (hother : (roster h.manager other).isSome = true) (heq : bondLink name = bondLink other) :
    name = other := by
  obtain ⟨_, hname⟩ := Option.isSome_iff_exists.mp hname
  obtain ⟨_, hother⟩ := Option.isSome_iff_exists.mp hother
  obtain ⟨state, hname, -⟩ := roster_eq_some.mp hname
  obtain ⟨state', hother, -⟩ := roster_eq_some.mp hother
  exact hs.linked.own name other state state' hname hother heq

theorem execute_addition {ends : IpCommand → CommandOutput} {config : BondConfig}
    (h : succeeded (ends (addition config)) = true) (k : Kernel) :
    k.execute ends (addition config) =
      { k with links := insert (bondLink config.name) k.links } := by
  rw [addition] at h ⊢
  rw [Kernel.execute, if_pos h]

theorem execute_refused {ends : IpCommand → CommandOutput} {command : IpCommand}
    (h : ¬ succeeded (ends command) = true) (k : Kernel) : k.execute ends command = k :=
  if_neg h

section

variable [LinearOrder F]

theorem create_cases (h : Host F) (config : BondConfig) (ends : IpCommand → CommandOutput) :
    (step h (.create config ends)).2 = h ∧
        (∀ commands, (step h (.create config ends)).1 ≠ .managed (.ok ()) commands) ∨
    bondLink config.name ∉ h.kernel.links ∧ (step h (.create config ends)).2 =
      ⟨⟨h.manager.bonds.insert config.name (freshBond F config (bondLink config.name))⟩,
        insert (bondLink config.name) h.kernel.links,
        fun i => if i ∈ config.members ∧
            succeeded (ends (.setMaster i (bondLink config.name))) = true
          then some (bondLink config.name) else h.kernel.masters i⟩ := by
  rw [step]
  by_cases hs : succeeded (answered h.kernel ends (addition config)) = true
  · refine .inr ⟨admitted_succeeded hs, ?_⟩
    rw [createBond_succeeded h.manager config hs]
    dsimp only
    rw [List.foldl_cons, execute_addition hs, enslave_all _ _ (Finset.mem_insert_self _ _)]
    rfl
  · obtain ⟨e, he⟩ := createBond_refused h.manager config hs
    rw [he]
    dsimp only
    rw [List.foldl_cons, List.foldl_nil, execute_refused hs]
    exact .inl ⟨rfl, by simp⟩

theorem delete_unknown (h : Host F) {name : String} (ends : IpCommand → CommandOutput)
    (hn : h.manager.bonds.lookup name = none) : (step h (.delete name ends)).2 = h := by
  simp [step, deleteBond, hn]

theorem delete_known (h : Host F) {name : String} (ends : IpCommand → CommandOutput)
    {state : BondState (Score F)} (hn : h.manager.bonds.lookup name = some state) {link : String}
    (hlink : state.bondInterface = some link) :
    (step h (.delete name ends)).2 = ⟨⟨h.manager.bonds.erase name⟩,
      (released ends state h.kernel).execute ends (.delLink link)⟩ := by
  have hreleased := release_all ends h.kernel (members state)
  simp only [step, deleteBond, hn, hlink, List.foldl_append]
  rw [← members, hreleased]
  rfl

theorem links_create (h : Host F) (config : BondConfig) (ends : IpCommand → CommandOutput) :
    (step h (.create config ends)).2.linked =
      (BondLinks.step h.linked (.create config (ends (addition config)))).2 := by
  have hresult : admitted h.linked.links (bondLink config.name) (ends (addition config)) =
      answered h.kernel ends (addition config) := rfl
  rw [step, BondLinks.step, hresult]
  by_cases hs : succeeded (answered h.kernel ends (addition config)) = true
  · have hlinked := createBond_succeeded h.linked.manager config hs
    rw [createBond_succeeded h.manager config hs, hlinked]
    dsimp only
    have heffect : effect (answered h.kernel ends (addition config)) h.linked.links
        (addition config) = insert (bondLink config.name) h.kernel.links := if_pos hs
    rw [List.foldl_cons, execute_addition hs, enslave_all _ _ (Finset.mem_insert_self _ _),
      BondLinks.execute, List.foldl_cons, heffect, ← BondLinks.execute, execute_masters]
    rfl
  · obtain ⟨e, he⟩ := createBond_refused h.manager config hs
    have hlinked : createBond h.linked.manager config
        (answered h.kernel ends (addition config)) = ((.error e, [addition config]), h.manager) := he
    have heffect : effect (answered h.kernel ends (addition config)) h.linked.links
        (addition config) = h.kernel.links := if_neg hs
    rw [he, hlinked]
    dsimp only
    rw [List.foldl_cons, List.foldl_nil, execute_refused hs, BondLinks.execute, List.foldl_cons,
      heffect]
    rfl

theorem links_delete (h : Host F) (name : String) (ends : IpCommand → CommandOutput)
    (hs : Linked h.linked) : (step h (.delete name ends)).2.linked =
      (BondLinks.step h.linked (.delete name (ends (.delLink (bondLink name))))).2 := by
  cases hn : h.manager.bonds.lookup name with
  | none => rw [delete_unknown h ends hn, BondLinks.delete_unknown _ _ _ hn]
  | some state =>
    have hlink := (hs.link name state hn).1
    rw [delete_known h ends hn hlink, BondLinks.delete_known _ _ _ hn hlink, Kernel.execute]
    by_cases hdel : succeeded (ends (.delLink (bondLink name))) = true
    · simp only [hdel, if_true]
      rfl
    · simp only [hdel, if_false, Bool.false_eq_true]
      rfl

theorem roster_update {m : BondManager F}
    (hsplit : ∀ name state, m.bonds.lookup name = some state → Split state)
    (u : MembershipUpdate F) : roster (update m u).2 = roster m := by
  obtain ⟨hsame, -⟩ | ⟨state, best, score, hstate, hmem, -, hup⟩ := update_cases m u
  · rw [hsame]
  · have hkept : (members (activate state u.health best u.now)).toFinset =
        (members state).toFinset := by
      ext i
      have h := mem_activate (hsplit u.bondName state hstate) (mem_scoredMembers.mp hmem).1
        u.health u.now i
      simp only [List.mem_append, or_comm] at h
      simp only [members, List.mem_toFinset, List.mem_append]
      exact h
    rw [hup, roster_insert, hkept]
    exact Function.update_eq_self_iff.mpr (roster_eq_some.mpr ⟨state, hstate, rfl⟩).symm

theorem sound_step {h : Host F} (hs : Sound h) (call : Call F) : Sound (step h call).2 := by
  cases call with
  | create config ends =>
    constructor
    · rw [links_create]
      exact linked_create h.linked config _ hs.linked
    · obtain ⟨hsame, -⟩ | ⟨-, hinsert⟩ := create_cases h config ends
      · rw [hsame]
        exact hs.split
      · rw [hinsert]
        exact insert_keeps (split_freshBond config _) hs.split
  | delete name ends =>
    constructor
    · rw [links_delete h name ends hs.linked]
      exact linked_delete h.linked name _ hs.linked
    · cases hn : h.manager.bonds.lookup name with
      | none =>
        rw [delete_unknown h ends hn]
        exact hs.split
      | some state =>
        rw [delete_known h ends hn (hs.linked.link name state hn).1]
        exact erase_keeps hs.split
  | update u =>
    constructor
    · exact linked_of_roster (roster_update hs.split u) rfl hs.linked
    · obtain ⟨hsame, -⟩ | ⟨state, best, score, -, -, -, hup⟩ := update_cases h.manager u
      · simp only [step, hsame]
        exact hs.split
      · simp only [step, hup]
        exact insert_keeps (split_activate state u.health best u.now) hs.split

theorem sound_run (calls : List (Call F)) : Sound (run step (Host.new F) calls) := by
  apply run_keeps
  · constructor
    · exact linked_run []
    · intro name state hstate
      cases hstate
  · exact fun h call hs => sound_step hs call

theorem delete_masters {h : Host F} (hs : Sound h) {name : String}
    (hknown : (roster h.manager name).isSome = true) (ends : IpCommand → CommandOutput)
    {i bond : String} :
    (step h (.delete name ends)).2.kernel.masters i = some bond ↔
      h.kernel.masters i = some bond ∧
      ¬ (∃ x, roster h.manager name = some x ∧ i ∈ x.2 ∧ Succeeds (ends (.setNoMaster i))) ∧
      ¬ (Succeeds (ends (.delLink (bondLink name))) ∧
        (i = bondLink name ∨ bond = bondLink name)) := by
  obtain ⟨x, hx⟩ := Option.isSome_iff_exists.mp hknown
  obtain ⟨state, hn, hx'⟩ := roster_eq_some.mp hx
  have hmembers : i ∈ x.2 ↔ i ∈ members state := by
    rw [← hx', List.mem_toFinset]
  have hlink := (hs.linked.link name state hn).1
  rw [delete_known h ends hn hlink, Kernel.execute,
    ← succeeded_iff (ends (.delLink (bondLink name)))]
  simp only [hx, Option.some.injEq, exists_eq_left', hmembers]
  rw [← and_assoc, ← released_eq_some]
  by_cases hdel : succeeded (ends (.delLink (bondLink name))) = true
  · simp only [hdel, if_true, true_and]
    by_cases hi : i = bondLink name
    · simp [hi]
    · simp only [hi, false_or]
      by_cases hb : (released ends state h.kernel).masters i = some (bondLink name)
      · simp [hb, eq_comm]
      · simp only [hb, if_false, iff_self_and]
        rintro hbond rfl
        exact hb hbond
  · simp [hdel]

theorem delete_roster {h : Host F} (hs : Sound h) {name : String}
    (hknown : (roster h.manager name).isSome = true) (ends : IpCommand → CommandOutput) :
    roster (step h (.delete name ends)).2.manager =
      Function.update (roster h.manager) name none := by
  obtain ⟨x, hx⟩ := Option.isSome_iff_exists.mp hknown
  obtain ⟨state, hn, -⟩ := roster_eq_some.mp hx
  rw [delete_known h ends hn (hs.linked.link name state hn).1, roster_erase]

/-- Whatever is enslaved is a member of the known bond that it is enslaved to. -/
def SlavesKnown (h : Host F) : Prop :=
  ∀ iface bond, h.kernel.masters iface = some bond →
    ∃ name x, roster h.manager name = some x ∧ x.1 = some bond ∧ iface ∈ x.2

/-- When a known bond is deleted, its link goes, or all that is enslaved to it
is released. -/
def Freed (h : Host F) (call : Call F) : Prop :=
  ∀ name ends, call = .delete name ends → (roster h.manager name).isSome = true →
    Succeeds (ends (.delLink (bondLink name))) ∨
      ∀ iface, h.kernel.masters iface = some (bondLink name) →
        Succeeds (ends (.setNoMaster iface))

theorem slavesKnown_create {h : Host F} (hs : Sound h) (hk : SlavesKnown h) (config : BondConfig)
    (ends : IpCommand → CommandOutput) : SlavesKnown (step h (.create config ends)).2 := by
  obtain ⟨hsame, -⟩ | ⟨hnew, hinsert⟩ := create_cases h config ends
  · rwa [hsame]
  rw [hinsert]
  intro i bond hi
  dsimp only at hi
  rw [roster_insert]
  split at hi
  · rename_i henslaved
    cases hi
    refine ⟨config.name, _, Function.update_self _ _ _, rfl, ?_⟩
    simpa [members, freshBond] using henslaved.1
  · obtain ⟨name, x, hx, hbond, hmem⟩ := hk i bond hi
    refine ⟨name, x, ?_, hbond, hmem⟩
    rw [Function.update_of_ne, hx]
    rintro rfl
    exact hnew (hs.interface hx).2

theorem slavesKnown_update {h : Host F} (hs : Sound h) (hk : SlavesKnown h)
    (u : MembershipUpdate F) : SlavesKnown (step h (.update u)).2 := by
  intro i bond hi
  simp only [step, roster_update hs.split u]
  exact hk i bond hi

theorem slavesKnown_delete_iff {h : Host F} (hs : Sound h) (hk : SlavesKnown h) (name : String)
    (ends : IpCommand → CommandOutput) :
    SlavesKnown (step h (.delete name ends)).2 ↔ Freed h (.delete name ends) := by
  cases hroster : roster h.manager name with
  | none =>
    have hn : h.manager.bonds.lookup name = none := Option.map_eq_none_iff.mp hroster
    rw [delete_unknown h ends hn]
    refine iff_of_true hk ?_
    rintro _ _ ⟨⟩ hknown
    rw [hroster] at hknown
    cases hknown
  | some x =>
    have hknown : (roster h.manager name).isSome = true := by rw [hroster]; rfl
    rw [SlavesKnown, delete_roster hs hknown ends]
    constructor
    · rintro hafter _ _ ⟨⟩ -
      by_contra hkept
      push Not at hkept
      obtain ⟨hlink, i, hi, hrelease⟩ := hkept
      have hstays := (delete_masters hs hknown ends).mpr
        ⟨hi, fun ⟨_, _, _, hreleased⟩ => hrelease hreleased, fun hgone => hlink hgone.1⟩
      obtain ⟨other, y, hy, hbond, -⟩ := hafter i (bondLink name) hstays
      rw [Function.update_apply] at hy
      split at hy
      · cases hy
      · rename_i hne
        have hsame := (hs.interface hy).1.symm.trans hbond
        injection hsame with hsame
        exact hne (hs.own (by rw [hy]; rfl) hknown hsame)
    · intro hfreed i bond hi
      obtain ⟨hbefore, hunreleased, hkept⟩ := (delete_masters hs hknown ends).mp hi
      obtain ⟨other, y, hy, hbond, hmem⟩ := hk i bond hbefore
      refine ⟨other, y, ?_, hbond, hmem⟩
      rw [Function.update_of_ne, hy]
      rintro rfl
      have hlink : bond = bondLink other := by
        have hsame := hbond.symm.trans (hs.interface hy).1
        injection hsame
      cases hfreed other ends rfl hknown with
      | inl hgone => exact hkept ⟨hgone, .inr hlink⟩
      | inr hreleased => exact hunreleased ⟨y, hy, hmem, hreleased i (hlink ▸ hbefore)⟩

theorem slavesKnown_step_iff {h : Host F} (hs : Sound h) (hk : SlavesKnown h) (call : Call F) :
    SlavesKnown (step h call).2 ↔ Freed h call := by
  cases call with
  | create config ends =>
    refine iff_of_true (slavesKnown_create hs hk config ends) ?_
    rintro _ _ ⟨⟩
  | delete name ends => exact slavesKnown_delete_iff hs hk name ends
  | update u =>
    refine iff_of_true (slavesKnown_update hs hk u) ?_
    rintro _ _ ⟨⟩

/-- Every slave is a member of the known bond that it is enslaved to, in every
state of a run, exactly when each deletion frees what was enslaved. -/
theorem slaves_known_iff (calls : List (Call F)) :
    (∀ pre post, calls = pre ++ post → SlavesKnown (run step (Host.new F) pre)) ↔
      EachStep step (Host.new F) calls (fun _ h call => Freed h call) := by
  have hboth : (∀ pre post, calls = pre ++ post →
      Sound (run step (Host.new F) pre) ∧ SlavesKnown (run step (Host.new F) pre)) ↔
      EachStep step (Host.new F) calls (fun _ h call => Freed h call) := by
    apply always_iff (I := fun _ h => Sound h ∧ SlavesKnown h)
    · exact ⟨sound_run [], fun i bond hi => nomatch hi⟩
    · rintro _ h call ⟨hs, hk⟩
      exact (and_iff_right (sound_step hs call)).trans (slavesKnown_step_iff hs hk call)
  rw [← hboth]
  apply forall₃_congr
  exact fun pre _ _ => (and_iff_right (sound_run pre)).symm

def MastersLinked (h : Host F) : Prop :=
  ∀ iface bond, h.kernel.masters iface = some bond → bond ∈ h.kernel.links

theorem mastersLinked_step {h : Host F} (hs : Sound h) (hm : MastersLinked h) (call : Call F) :
    MastersLinked (step h call).2 := by
  cases call with
  | create config ends =>
    obtain ⟨hsame, -⟩ | ⟨-, hinsert⟩ := create_cases h config ends
    · rwa [hsame]
    rw [hinsert]
    intro i bond hi
    dsimp only at hi
    split at hi
    · cases hi
      exact Finset.mem_insert_self _ _
    · exact Finset.mem_insert_of_mem (hm i bond hi)
  | delete name ends =>
    cases hn : h.manager.bonds.lookup name with
    | none => rwa [delete_unknown h ends hn]
    | some state =>
      have hknown : (roster h.manager name).isSome = true := by rw [roster, hn]; rfl
      intro i bond hi
      obtain ⟨hbefore, -, hkept⟩ := (delete_masters hs hknown ends).mp hi
      have hthere := hm i bond hbefore
      rw [delete_known h ends hn (hs.linked.link name state hn).1, Kernel.execute]
      by_cases hdel : succeeded (ends (.delLink (bondLink name))) = true
      · rw [if_pos hdel]
        refine Finset.mem_erase.mpr ⟨fun hbond => ?_, hthere⟩
        exact hkept ⟨(succeeded_iff _).mp hdel, .inr hbond⟩
      · rw [if_neg hdel]
        exact hthere
  | update u => exact hm

/-- A call that has to do with no member of the bond, and does not delete it. -/
def Apart (config : BondConfig) : Call F → Prop
  | .create other _ => ∀ i ∈ other.members, i ∉ config.members
  | .delete name _ => name ≠ config.name ∧ bondLink name ∉ config.members
  | .update _ => True

/-- The bond is known, no other known bond shares a member with it, and its
slaves are those members that took it as their master. -/
structure Held (config : BondConfig) (ends : IpCommand → CommandOutput) (h : Host F) : Prop where
  sound : Sound h
  known : (roster h.manager config.name).isSome = true
  disjoint : ∀ name x, name ≠ config.name → roster h.manager name = some x →
    ∀ i ∈ x.2, i ∉ config.members
  slaves : ∀ i, h.kernel.masters i = some (bondLink config.name) ↔
    i ∈ config.members ∧ Succeeds (ends (.setMaster i (bondLink config.name)))

theorem held_create {config : BondConfig} {ends : IpCommand → CommandOutput} {h : Host F}
    (hh : Held config ends h) (other : BondConfig) (hapart : ∀ i ∈ other.members, i ∉ config.members)
    (ends' : IpCommand → CommandOutput) : Held config ends (step h (.create other ends')).2 := by
  obtain ⟨hsame, -⟩ | ⟨hnew, hinsert⟩ := create_cases h other ends'
  · rwa [hsame]
  obtain ⟨x, hx⟩ := Option.isSome_iff_exists.mp hh.known
  have hlink := (hh.sound.interface hx).2
  have hne : bondLink other.name ≠ bondLink config.name := fun heq => hnew (heq ▸ hlink)
  have hname : config.name ≠ other.name := fun heq => hne (congrArg bondLink heq.symm)
  refine ⟨sound_step hh.sound _, ?_, ?_, ?_⟩
  · rw [hinsert, roster_insert, Function.update_of_ne hname]
    exact hh.known
  · intro name y hy hroster
    rw [hinsert, roster_insert, Function.update_apply] at hroster
    split at hroster
    · cases hroster
      intro i hi
      exact hapart i (by simpa [members, freshBond] using hi)
    · exact hh.disjoint name y hy hroster
  · intro i
    rw [← hh.slaves i, hinsert]
    dsimp only
    split
    · rename_i hi
      have hother := mt (fun h => ((hh.slaves i).mp h).1) (hapart i hi.1)
      simp [hne, hother]
    · rfl

theorem held_delete {config : BondConfig} {ends : IpCommand → CommandOutput} {h : Host F}
    (hh : Held config ends h) {name : String} (hname : name ≠ config.name)
    (hmember : bondLink name ∉ config.members) (ends' : IpCommand → CommandOutput) :
    Held config ends (step h (.delete name ends')).2 := by
  cases hn : h.manager.bonds.lookup name with
  | none => rwa [delete_unknown h ends' hn]
  | some state =>
    have hknown : (roster h.manager name).isSome = true := by rw [roster, hn]; rfl
    refine ⟨sound_step hh.sound _, ?_, ?_, ?_⟩
    · rw [delete_roster hh.sound hknown, Function.update_of_ne hname.symm]
      exact hh.known
    · intro other y hy hroster
      rw [delete_roster hh.sound hknown, Function.update_apply] at hroster
      split at hroster
      · cases hroster
      · exact hh.disjoint other y hy hroster
    · intro i
      rw [delete_masters hh.sound hknown ends', hh.slaves i]
      refine ⟨And.left, fun hi => ⟨hi, ?_, ?_⟩⟩
      · rintro ⟨x, hx, hmem, -⟩
        exact hh.disjoint name x hname hx i hmem hi.1
      · rintro ⟨-, rfl | hlink⟩
        · exact hmember hi.1
        · exact hname (hh.sound.own hknown hh.known hlink.symm)

theorem held_step {config : BondConfig} {ends : IpCommand → CommandOutput} {h : Host F}
    (hh : Held config ends h) {call : Call F} (hapart : Apart config call) :
    Held config ends (step h call).2 := by
  cases call with
  | create other ends' => exact held_create hh other hapart ends'
  | delete name ends' => exact held_delete hh hapart.1 hapart.2 ends'
  | update u =>
    have hroster := roster_update hh.sound.split u
    refine ⟨sound_step hh.sound _, ?_, ?_, hh.slaves⟩
    · simp only [step, hroster]
      exact hh.known
    · simp only [step, hroster]
      exact hh.disjoint

theorem mastersLinked_run (calls : List (Call F)) :
    MastersLinked (run step (Host.new F) calls) := by
  have hboth : Sound (run step (Host.new F) calls) ∧
      MastersLinked (run step (Host.new F) calls) := by
    apply run_keeps (I := fun h => Sound h ∧ MastersLinked h)
    · exact ⟨sound_run [], fun i bond hi => nomatch hi⟩
    · exact fun h call hI => ⟨sound_step hI.1 call, mastersLinked_step hI.1 hI.2 call⟩
  exact hboth.2

/-- A bond that has been created, apart from all others, holds its slaves
until it is deleted: whatever is elected, and whatever happens to other bonds. -/
theorem slaves_held (past : List (Call F)) (config : BondConfig) (ends : IpCommand → CommandOutput)
    {commands : List IpCommand} (hcreated : (step (run step (Host.new F) past)
      (.create config ends)).1 = .managed (.ok ()) commands)
    (hdisjoint : ∀ name x, roster (run step (Host.new F) past).manager name = some x →
      ∀ i ∈ x.2, i ∉ config.members)
    (later : List (Call F)) (hlater : ∀ call ∈ later, Apart config call) (iface : String) :
    (run step (Host.new F) (past ++ .create config ends :: later)).kernel.masters iface =
        some (bondLink config.name) ↔
      iface ∈ config.members ∧ Succeeds (ends (.setMaster iface (bondLink config.name))) := by
  have hsound := sound_run past
  have hlinked := mastersLinked_run past
  rw [run_append]
  set h := run step (Host.new F) past
  have hheld : Held config ends (step h (.create config ends)).2 := by
    obtain ⟨-, hfailed⟩ | ⟨hnew, hinsert⟩ := create_cases h config ends
    · exact absurd hcreated (hfailed commands)
    refine ⟨sound_step hsound _, ?_, ?_, ?_⟩
    · rw [hinsert, roster_insert, Function.update_self]
      rfl
    · intro name x hne hx
      rw [hinsert, roster_insert, Function.update_of_ne hne] at hx
      exact hdisjoint name x hx
    · intro i
      rw [hinsert, ← succeeded_iff]
      dsimp only
      split
      · rename_i hi
        exact iff_of_true rfl hi
      · rename_i hi
        exact iff_of_false (fun hold => hnew (hlinked i _ hold)) hi
  have hend : Held config ends (run step (step h (.create config ends)).2 later) :=
    run_invariant (J := fun _ h => Held config ends h) hheld
      (fun _ h call hcall hh => held_step hh hcall) (eachStep_mem.mpr hlater)
  exact hend.slaves iface

end

def spareConfig : BondConfig := { pairConfig with name := "bond1", members := ["eth2"] }

/-- The second member does not take its master. -/
def busyMember (command : IpCommand) : CommandOutput :=
  if command = .setMaster "eth1" "netfusion0" then exited false "" "Device or resource busy"
  else exited true "" ""

def accepted (_ : IpCommand) : CommandOutput := exited true "" ""

def failoverRun : List (Call ℕ) :=
  [.create spareConfig accepted, .update (reading "bond0" [("eth0", 90), ("eth1", 80)] 0),
    .update (reading "bond0" [("eth0", 10), ("eth1", 80)] 1), .delete "bond1" accepted]

theorem slaves_held_failover :
    (run step (Host.new ℕ) ([] ++ .create pairConfig busyMember :: failoverRun)).kernel.masters
        "eth0" = some (bondLink "bond0") ↔
      "eth0" ∈ ["eth0", "eth1"] ∧ Succeeds (busyMember (.setMaster "eth0" (bondLink "bond0"))) := by
  have hcreated : (step (run step (Host.new ℕ) []) (.create pairConfig busyMember)).1 =
      .managed (.ok ()) [addition pairConfig, .setMaster "eth0" "netfusion0",
        .setMaster "eth1" "netfusion0"] := rfl
  have hfirst : ∀ name x, roster (run step (Host.new ℕ) []).manager name = some x →
      ∀ i ∈ x.2, i ∉ pairConfig.members := fun name x hx => nomatch hx
  have hlater : ∀ call ∈ failoverRun, Apart pairConfig call := by
    have hmembers : ∀ i ∈ spareConfig.members, i ∉ pairConfig.members := by decide
    rw [failoverRun, List.forall_mem_cons, List.forall_mem_cons, List.forall_mem_cons,
      List.forall_mem_singleton]
    exact ⟨hmembers, trivial, trivial, by decide, by decide⟩
  exact slaves_held [] pairConfig busyMember hcreated hfirst failoverRun hlater "eth0"

example : (run step (Host.new ℕ) (.create pairConfig busyMember :: failoverRun)).kernel.masters
    "eth1" = none := by decide +kernel

end Netfusion.Core.BondSlaves
