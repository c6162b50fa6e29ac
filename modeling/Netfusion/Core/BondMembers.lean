import Mathlib.Data.List.Count
import Netfusion.Core.Bonding

namespace Netfusion.Core.BondMembers

open Netfusion.Lib.Collections Netfusion.Lib.Machine Netfusion.Lib.Sorting
open Netfusion.Shared.Config Netfusion.Shared.Types
open Netfusion.Core.Command Netfusion.Core.Bonding

variable {F : Type}

/-- The members of the bond are shared out between active and standby, each to
one of them. -/
def SharesOut (members : List String) (state : BondState (Score F)) : Prop :=
  Split state ∧ (state.activeMembers ++ state.standbyMembers).Perm members

theorem sharesOut_freshBond (config : BondConfig) (bondName : String) :
    SharesOut config.members (freshBond F config bondName) :=
  ⟨split_freshBond config bondName, List.Perm.refl _⟩

theorem cons_filter_ne_perm {best : String} {l : List String} (hl : l.Nodup) (h : best ∈ l) :
    (best :: l.filter (· ≠ best)).Perm l := by
  have herase : l.filter (· ≠ best) = l.erase best := by
    rw [hl.erase_eq_filter]
    exact List.filter_congr (fun x _ => by by_cases hx : x = best <;> simp [hx])
  rw [herase]
  exact (List.perm_cons_erase h).symm

theorem sharesOut_activate {members : List String} (hnodup : members.Nodup)
    {state : BondState (Score F)} (h : SharesOut members state)
    (health : HashMap String (HealthScore (Score F))) {best : String} {score : Score F}
    (now : DateTime) (hmem : (best, score) ∈ scoredMembers state health) :
    SharesOut members (activate state health best now) := by
  obtain ⟨⟨hone, hdisjoint⟩, hperm⟩ := h
  refine ⟨split_activate state health best now, List.Perm.trans ?_ hperm⟩
  have hbest : best ∈ state.standbyMembers ++ state.activeMembers := (mem_scoredMembers.mp hmem).1
  have hall : (state.activeMembers ++ state.standbyMembers).Nodup := hperm.nodup_iff.mpr hnodup
  cases hactive : state.activeMembers with
  | nil =>
    rw [hactive] at hbest hall
    simp only [activate, standbyWith, hactive, List.head?_nil]
    exact cons_filter_ne_perm hall (by simpa using hbest)
  | cons prev rest =>
    obtain rfl : rest = [] := List.length_eq_zero_iff.mp (by simpa [hactive] using hone)
    have hprev : prev ∉ state.standbyMembers := hdisjoint prev (by simp [hactive])
    have hback : standbyWith state.standbyMembers (some prev) = state.standbyMembers ++ [prev] := by
      simp [standbyWith, hprev]
    have hswap : ([prev] ++ state.standbyMembers).Perm (state.standbyMembers ++ [prev]) :=
      List.perm_append_comm
    rw [hactive] at hbest hall
    simp only [activate, hactive, List.head?_cons, hback]
    exact (cons_filter_ne_perm (hswap.nodup_iff.mp hall) hbest).trans hswap.symm

def releases (commands : List IpCommand) (iface : String) : Nat :=
  commands.count (.setNoMaster iface)

theorem releases_deleteBond {m : BondManager F} {name : String} {state : BondState (Score F)}
    (h : m.bonds.lookup name = some state) (iface : String) :
    releases (deleteBond m name).1.2 iface =
      (state.activeMembers ++ state.standbyMembers).count iface := by
  have hdel : (state.bondInterface.toList.map IpCommand.delLink).count (.setNoMaster iface) = 0 :=
    List.count_eq_zero.mpr (by simp)
  have hcommands : (deleteBond m name).1.2 =
      (state.activeMembers ++ state.standbyMembers).map IpCommand.setNoMaster ++
        state.bondInterface.toList.map IpCommand.delLink := by simp only [deleteBond, h]
  rw [releases, hcommands, List.count_append, hdel, Nat.add_zero]
  apply List.count_map_of_injective
  intro a b hab
  injection hab

theorem createBond_ok {m : BondManager F} {config : BondConfig} {added : CommandOutput}
    (h : (createBond m config added).1.1 = .ok ()) :
    ∃ bondName, (createBond m config added).2.bonds.lookup config.name =
      some (freshBond F config bondName) := by
  simp only [createBond] at h ⊢
  split at h
  · cases h
  · exact ⟨_, AList.lookup_insert _⟩

variable [LinearOrder F]

theorem sharesOut_update {members : List String} (hnodup : members.Nodup) (name : String)
    (m : BondManager F) (u : MembershipUpdate F)
    (hm : ∃ state, m.bonds.lookup name = some state ∧ SharesOut members state) :
    ∃ state, (update m u).2.bonds.lookup name = some state ∧ SharesOut members state := by
  obtain ⟨hsame, -⟩ | ⟨state, best, score, hstate, hmem, -, h⟩ := update_cases m u
  · rw [hsame]
    exact hm
  · rw [h]
    simp only [lookup_insert_eq]
    obtain ⟨other, hother, hshares⟩ := hm
    split
    · rename_i heq
      subst heq
      cases hstate.symm.trans hother
      exact ⟨_, rfl, sharesOut_activate hnodup hshares u.health u.now hmem⟩
    · exact ⟨other, hother, hshares⟩

/-- After the creation of a bond and any membership updates, of this bond and
of others, its members are shared out between active and standby, and deleting
the bond releases each of them once and nothing else. -/
theorem members_never_lost (m : BondManager F) (config : BondConfig) (added : CommandOutput)
    (hnodup : config.members.Nodup) (hcreated : (createBond m config added).1.1 = .ok ())
    (us : List (MembershipUpdate F)) :
    ∃ state, (run update (createBond m config added).2 us).bonds.lookup config.name = some state ∧
      state.activeMembers.length ≤ 1 ∧
      (∀ member ∈ state.activeMembers, member ∉ state.standbyMembers) ∧
      (state.activeMembers ++ state.standbyMembers).Perm config.members ∧
      ∀ iface, releases
          (deleteBond (run update (createBond m config added).2 us) config.name).1.2 iface =
        if iface ∈ config.members then 1 else 0 := by
  obtain ⟨bondName, hfresh⟩ := createBond_ok hcreated
  obtain ⟨state, hstate, ⟨hone, hdisjoint⟩, hperm⟩ :=
    run_keeps (I := fun m : BondManager F => ∃ state, m.bonds.lookup config.name = some state ∧
      SharesOut config.members state)
      ⟨_, hfresh, sharesOut_freshBond config bondName⟩ (sharesOut_update hnodup config.name) us
  refine ⟨state, hstate, hone, hdisjoint, hperm, fun iface => ?_⟩
  rw [releases_deleteBond hstate, hperm.count_eq, hnodup.count]

theorem members_never_lost_pair :
    ∃ state, (run update (createBond (BondManager.new ℕ) pairConfig (exited true "" "")).2
        [reading "bond0" [("eth1", 80)] 0,
          reading "bond0" [("eth0", 90), ("eth1", 80)] 1]).bonds.lookup
        "bond0" = some state ∧
      state.activeMembers.length ≤ 1 ∧
      (∀ member ∈ state.activeMembers, member ∉ state.standbyMembers) ∧
      (state.activeMembers ++ state.standbyMembers).Perm ["eth0", "eth1"] ∧
      ∀ iface, releases
          (deleteBond (run update (createBond (BondManager.new ℕ) pairConfig (exited true "" "")).2
            [reading "bond0" [("eth1", 80)] 0, reading "bond0" [("eth0", 90), ("eth1", 80)] 1])
            "bond0").1.2 iface =
        if iface ∈ ["eth0", "eth1"] then 1 else 0 :=
  members_never_lost (BondManager.new ℕ) pairConfig (exited true "" "") (by decide) rfl _

end Netfusion.Core.BondMembers
