import Mathlib.Data.Finset.Insert
import Mathlib.Data.List.Nodup
import Netfusion.Core.SafeApply

namespace Netfusion.Core.Rollback

open Netfusion.Lib.Machine
open Netfusion.Core.Command Netfusion.Core.Routing Netfusion.Core.SafeApply

def keys (routes : List ManagedRoute) : List RouteKey := routes.map ManagedRoute.key

theorem keys_filter_ne (routes : List ManagedRoute) (k : RouteKey) :
    keys (routes.filter (fun r => r.key ≠ k)) = (keys routes).filter (· ≠ k) := by
  simp only [keys, List.filter_map]
  rfl

theorem any_same_iff (previous : List ManagedRoute) (route : ManagedRoute) :
    previous.any (fun r => r.gateway = route.gateway ∧ r.interface = route.interface ∧
      r.metric = route.metric) = true ↔ route.key ∈ keys previous := by
  simp only [List.any_eq_true, decide_eq_true_eq, ManagedRoute.key_eq_iff, keys, List.mem_map]
  rfl

section

variable (deleted : DeletedRoute) (s : Surroundings) (previous : List ManagedRoute)
  {route : ManagedRoute}

theorem rollbackRoutes_known (h : route.key ∈ keys previous) (success : Bool) (e : RoutingEngine)
    (rest : List ManagedRoute) :
    rollbackRoutes deleted s previous success e (route :: rest) =
      rollbackRoutes deleted s previous success e rest := by
  rw [rollbackRoutes, if_pos ((any_same_iff previous route).mpr h)]

theorem rollbackRoutes_fresh (h : route.key ∉ keys previous) {out : Output}
    (hdel : s.deletion route.key = .ok out) (success : Bool) (e : RoutingEngine)
    (rest : List ManagedRoute) :
    rollbackRoutes deleted s previous success e (route :: rest) =
      rollbackRoutes deleted s previous success
        ⟨if out.success then
            { e.kernel with
              routes := e.kernel.routes.erase (deleted route.key (s.chosen route.key)) }
          else e.kernel,
        e.managedRoutes.filter (fun r => r.key ≠ route.key)⟩ rest := by
  have hdelete := delDefaultRoute_ok deleted e route.key out (s.chosen route.key)
  rw [rollbackRoutes, if_neg (fun hany => h ((any_same_iff previous route).mp hany)), hdel]
  rw [ManagedRoute.key] at hdelete ⊢
  rw [hdelete]

theorem rollbackRoutes_success (success : Bool) (e : RoutingEngine) (routes : List ManagedRoute) :
    (rollbackRoutes deleted s previous success e routes).1 = true ↔
      success = true ∧ ∀ r ∈ routes, r.key ∉ keys previous → Starts (s.deletion r.key) := by
  induction routes generalizing success e with
  | nil => simp [rollbackRoutes]
  | cons route rest ih =>
    rw [rollbackRoutes]
    split
    · rename_i hknown
      rw [any_same_iff] at hknown
      simp [ih, hknown]
    · rename_i hknown
      rw [any_same_iff] at hknown
      cases hdel : s.deletion route.key with
      | error err => simp [delDefaultRoute, ih, hknown, hdel, Starts]
      | ok out => simp [delDefaultRoute, ih, hknown, hdel, Starts]

theorem rollbackRoutes_unstarted (h : route.key ∉ keys previous) {err : String}
    (hdel : s.deletion route.key = .error err) (success : Bool) (e : RoutingEngine)
    (rest : List ManagedRoute) :
    rollbackRoutes deleted s previous success e (route :: rest) =
      rollbackRoutes deleted s previous false e rest := by
  rw [rollbackRoutes, if_neg (fun hany => h ((any_same_iff previous route).mp hany)), hdel]
  rfl

theorem rollbackRoutes_leaves (view : RoutingEngine → RouteKey → Prop)
    (Takes : RouteKey → RouteKey → Prop) (hstarts : ∀ named k, Takes named k →
      Starts (s.deletion named))
    (hdeleted : ∀ (e : RoutingEngine) {named : RouteKey} {out : Output},
      s.deletion named = .ok out → ∀ k,
      (view ⟨if out.success then
            { e.kernel with routes := e.kernel.routes.erase (deleted named (s.chosen named)) }
          else e.kernel, e.managedRoutes.filter (fun r => r.key ≠ named)⟩ k ↔
        view e k ∧ ¬ Takes named k))
    (routes : List ManagedRoute) (success : Bool) (e : RoutingEngine) (k : RouteKey) :
    view (rollbackRoutes deleted s previous success e routes).2 k ↔
      view e k ∧ ∀ named ∈ keys routes, named ∉ keys previous → ¬ Takes named k := by
  induction routes generalizing success e with
  | nil => simp [rollbackRoutes, keys]
  | cons route rest ih =>
    have hcons : keys (route :: rest) = route.key :: keys rest := rfl
    rw [hcons, List.forall_mem_cons]
    by_cases hknown : route.key ∈ keys previous
    · rw [rollbackRoutes_known deleted s previous hknown, ih]
      simp [hknown]
    · cases hdel : s.deletion route.key with
      | error err =>
        have hstays : ¬ Takes route.key k := by
          intro htakes
          obtain ⟨out, hout⟩ := hstarts route.key k htakes
          cases hdel.symm.trans hout
        rw [rollbackRoutes_unstarted deleted s previous hknown hdel, ih]
        simp [hstays]
      | ok out =>
        rw [rollbackRoutes_fresh deleted s previous hknown hdel, ih, hdeleted e hdel, and_assoc]
        simp [hknown]

theorem mem_rollbackRoutes (routes : List ManagedRoute) (success : Bool) (e : RoutingEngine)
    (k : RouteKey) :
    k ∈ (rollbackRoutes deleted s previous success e routes).2.kernel.routes ↔
      k ∈ e.kernel.routes ∧ ∀ named ∈ keys routes, named ∉ keys previous →
        ¬ (Succeeds (s.deletion named) ∧ deleted named (s.chosen named) = k) := by
  refine rollbackRoutes_leaves deleted s previous (fun e k => k ∈ e.kernel.routes)
    (fun named k => Succeeds (s.deletion named) ∧ deleted named (s.chosen named) = k) ?_ ?_
    routes success e k
  · rintro named k ⟨⟨out, hout, -⟩, -⟩
    exact ⟨out, hout⟩
  · intro e named out hdel k
    have hsucceeds : Succeeds (s.deletion named) ↔ out.success = true := by
      simp [Succeeds, hdel]
    rw [hsucceeds]
    cases hs : out.success with
    | false => simp
    | true =>
      simp only [if_true, Finset.mem_erase, true_and, ne_comm, ne_eq]
      exact and_comm

theorem mem_rollbackRoutes_log (routes : List ManagedRoute) (success : Bool) (e : RoutingEngine)
    (k : RouteKey) :
    k ∈ keys (rollbackRoutes deleted s previous success e routes).2.managedRoutes ↔
      k ∈ keys e.managedRoutes ∧
        ¬ (k ∈ keys routes ∧ k ∉ keys previous ∧ Starts (s.deletion k)) := by
  have hleaves := rollbackRoutes_leaves deleted s previous (fun e k => k ∈ keys e.managedRoutes)
    (fun named k => Starts (s.deletion named) ∧ named = k) (fun _ _ htakes => htakes.1) ?_
    routes success e k
  · rw [hleaves]
    simp only [not_and]
    constructor
    · rintro ⟨hk, hkept⟩
      exact ⟨hk, fun hin hnew hstarts => hkept k hin hnew hstarts rfl⟩
    · rintro ⟨hk, hkept⟩
      refine ⟨hk, ?_⟩
      rintro named hin hnew hstarts rfl
      exact hkept hin hnew hstarts
  · intro e named out hdel k
    have hstarts : Starts (s.deletion named) := ⟨out, hdel⟩
    rw [keys_filter_ne, List.mem_filter, decide_eq_true_eq]
    simp [hstarts, ne_comm]

theorem rollbackRoutes_sublist (routes : List ManagedRoute) (success : Bool) (e : RoutingEngine) :
    ((rollbackRoutes deleted s previous success e routes).2.managedRoutes).Sublist
      e.managedRoutes := by
  induction routes generalizing success e with
  | nil => exact List.Sublist.refl _
  | cons route rest ih =>
    by_cases hknown : route.key ∈ keys previous
    · rw [rollbackRoutes_known deleted s previous hknown]
      exact ih success e
    · cases hdel : s.deletion route.key with
      | error err =>
        rw [rollbackRoutes_unstarted deleted s previous hknown hdel]
        exact ih false e
      | ok out =>
        rw [rollbackRoutes_fresh deleted s previous hknown hdel]
        exact (ih success _).trans List.filter_sublist

variable {s previous} {routes : List ManagedRoute}
  (hstarts : ∀ r ∈ routes, r.key ∉ keys previous → Starts (s.deletion r.key))

include hstarts

theorem rollbackRoutes_rules (success : Bool) (e : RoutingEngine) :
    (rollbackRoutes deleted s previous success e routes).2.kernel.rules = e.kernel.rules := by
  induction routes generalizing e with
  | nil => rfl
  | cons route rest ih =>
    have ih' := ih (fun r hr => hstarts r (List.mem_cons_of_mem route hr))
    by_cases hknown : route.key ∈ keys previous
    · rw [rollbackRoutes_known deleted s previous hknown]
      exact ih' e
    · obtain ⟨out, hout⟩ := hstarts route (by simp) hknown
      rw [rollbackRoutes_fresh deleted s previous hknown hout, ih']
      split <;> rfl

theorem rollbackRoutes_log (success : Bool) (e : RoutingEngine) :
    (rollbackRoutes deleted s previous success e routes).2.managedRoutes =
      e.managedRoutes.filter (fun r => r.key ∈ keys previous ∨ r.key ∉ keys routes) := by
  induction routes generalizing e with
  | nil => simp [rollbackRoutes, keys]
  | cons route rest ih =>
    have ih' := ih (fun r hr => hstarts r (List.mem_cons_of_mem route hr))
    have hcons : ∀ k, k ∈ keys (route :: rest) ↔ k = route.key ∨ k ∈ keys rest :=
      fun k => List.mem_cons
    by_cases hknown : route.key ∈ keys previous
    · rw [rollbackRoutes_known deleted s previous hknown, ih']
      apply List.filter_congr
      intro r _
      by_cases hk : r.key = route.key
      · simp [hk, hknown]
      · simp [hcons, hk]
    · obtain ⟨out, hout⟩ := hstarts route (by simp) hknown
      rw [rollbackRoutes_fresh deleted s previous hknown hout, ih', List.filter_filter]
      apply List.filter_congr
      intro r _
      by_cases hk : r.key = route.key
      · simp [hcons, hk, hknown]
      · simp [hcons, hk]

end

/-- Where a route is known by its key, of the routes that are new to the log
those go whose deletion succeeds. -/
theorem mem_rollbackRoutes_keyed (s : Surroundings) (previous routes : List ManagedRoute)
    (success : Bool) (e : RoutingEngine) (k : RouteKey) :
    k ∈ (rollbackRoutes keyed s previous success e routes).2.kernel.routes ↔
      k ∈ e.kernel.routes ∧
        ¬ (k ∈ keys routes ∧ k ∉ keys previous ∧ Succeeds (s.deletion k)) := by
  rw [mem_rollbackRoutes]
  constructor
  · rintro ⟨hk, hkept⟩
    exact ⟨hk, fun hgone => hkept k hgone.1 hgone.2.1 ⟨hgone.2.2, rfl⟩⟩
  · rintro ⟨hk, hkept⟩
    refine ⟨hk, ?_⟩
    rintro named hin hnew ⟨hsucceeds, rfl⟩
    exact hkept ⟨hin, hnew, hsucceeds⟩

/-- The routes that are new to the log are installed, and each is logged once. -/
def FreshInstalled (previous : List ManagedRoute) (e : RoutingEngine) : Prop :=
  (∀ k ∈ keys e.managedRoutes, k ∉ keys previous → k ∈ e.kernel.routes) ∧
  ((keys e.managedRoutes).filter (· ∉ keys previous)).Nodup

theorem freshInstalled_add {previous : List ManagedRoute} {e : RoutingEngine}
    (h : FreshInstalled previous e) (route : ManagedRoute) (hnew : route.key ∉ e.kernel.routes) :
    FreshInstalled previous ⟨{ e.kernel with routes := insert route.key e.kernel.routes },
      e.managedRoutes ++ [route]⟩ := by
  obtain ⟨hinstalled, hnodup⟩ := h
  have hkeys : keys (e.managedRoutes ++ [route]) = keys e.managedRoutes ++ [route.key] := by
    simp [keys]
  constructor
  · intro k hk hfresh
    rw [hkeys, List.mem_append, List.mem_singleton] at hk
    rcases hk with hk | rfl
    · exact Finset.mem_insert_of_mem (hinstalled k hk hfresh)
    · exact Finset.mem_insert_self _ _
  · rw [hkeys, List.filter_append]
    by_cases hfresh : route.key ∈ keys previous
    · simpa [hfresh] using hnodup
    · have hnot : route.key ∉ keys e.managedRoutes := fun hk => hnew (hinstalled _ hk hfresh)
      simp only [List.filter_singleton, hfresh, not_false_eq_true, decide_true, cond_true]
      apply hnodup.append (List.nodup_singleton _)
      simp [hnot]

theorem freshInstalled_del {previous : List ManagedRoute} {e : RoutingEngine}
    (h : FreshInstalled previous e) (k : RouteKey) (out : Output) :
    FreshInstalled previous
      ⟨if out.success then { e.kernel with routes := e.kernel.routes.erase k } else e.kernel,
        e.managedRoutes.filter (fun r => r.key ≠ k)⟩ := by
  obtain ⟨hinstalled, hnodup⟩ := h
  constructor
  · intro other hother hfresh
    rw [keys_filter_ne, List.mem_filter, decide_eq_true_eq] at hother
    have hin := hinstalled other hother.1 hfresh
    split
    · exact Finset.mem_erase.mpr ⟨hother.2, hin⟩
    · exact hin
  · rw [keys_filter_ne, List.filter_comm]
    exact hnodup.filter _

theorem freshInstalled_call (previous : List ManagedRoute) (e : RoutingEngine) (c : Call)
    (h : FreshInstalled previous e) : FreshInstalled previous (call keyed e c).2 := by
  obtain ⟨route, -, hnew, hcall⟩ | ⟨key, out, chosen, -, hcall⟩ | ⟨-, -, hroutes, hlog⟩ :=
    call_cases keyed e c
  · rw [hcall]
    exact freshInstalled_add h route hnew
  · rw [hcall]
    exact freshInstalled_del h key out
  · rw [FreshInstalled, hroutes, hlog]
    exact h

theorem freshInstalled_applyChanges (e : RoutingEngine) (changes : Changes) :
    FreshInstalled e.managedRoutes (applyChanges keyed e changes) := by
  apply run_keeps (I := FreshInstalled e.managedRoutes) _ (freshInstalled_call e.managedRoutes)
  constructor
  · exact fun k hk hfresh => absurd hk hfresh
  · have hnone : (keys e.managedRoutes).filter (· ∉ keys e.managedRoutes) = [] :=
      List.filter_eq_nil_iff.mpr (by simp)
    rw [hnone]
    exact List.nodup_nil

def NewlyLogged (before after : RoutingEngine) (k : RouteKey) : Prop :=
  k ∈ keys after.managedRoutes ∧ k ∉ keys before.managedRoutes

/-- What the changes have to leave for deleting the newly logged routes to
undo them: the rules and the log of before, no route added or deleted but the
newly logged ones, and of those the ones that were there before are those
whose deletion fails. -/
structure Undone (s : Surroundings) (before after : RoutingEngine) : Prop where
  rules : after.kernel.rules = before.kernel.rules
  log : after.managedRoutes.filter (fun r => r.key ∈ keys before.managedRoutes) =
    before.managedRoutes
  other : ∀ k, ¬ NewlyLogged before after k → (k ∈ after.kernel.routes ↔ k ∈ before.kernel.routes)
  logged : ∀ k, NewlyLogged before after k →
    (k ∈ before.kernel.routes ↔ ¬ Succeeds (s.deletion k))

def DeletionsStart (s : Surroundings) (before after : RoutingEngine) : Prop :=
  ∀ k, NewlyLogged before after k → Starts (s.deletion k)

theorem rollback_success_iff (s : Surroundings) (before after : RoutingEngine) :
    (rollback keyed s before.managedRoutes after).1 = true ↔ DeletionsStart s before after := by
  rw [rollback, rollbackRoutes_success]
  constructor
  · rintro ⟨-, h⟩ k ⟨hk, hfresh⟩
    obtain ⟨r, hr, rfl⟩ := List.mem_map.mp hk
    exact h r hr hfresh
  · intro h
    exact ⟨rfl, fun r hr hfresh => h r.key ⟨List.mem_map_of_mem hr, hfresh⟩⟩

theorem engine_eq {e e' : RoutingEngine} (hroutes : e.kernel.routes = e'.kernel.routes)
    (hrules : e.kernel.rules = e'.kernel.rules) (hlog : e.managedRoutes = e'.managedRoutes) :
    e = e' := by
  obtain ⟨⟨routes, rules⟩, log⟩ := e
  obtain ⟨⟨routes', rules'⟩, log'⟩ := e'
  cases hroutes
  cases hrules
  cases hlog
  rfl

theorem filter_kept (before after : RoutingEngine) :
    after.managedRoutes.filter (fun r => r.key ∈ keys before.managedRoutes ∨
        r.key ∉ keys after.managedRoutes) =
      after.managedRoutes.filter (fun r => r.key ∈ keys before.managedRoutes) := by
  apply List.filter_congr
  intro r hr
  have hmem : r.key ∈ keys after.managedRoutes := List.mem_map_of_mem hr
  simp [hmem]

theorem rollback_restores_iff (s : Surroundings) (before after : RoutingEngine)
    (hfresh : FreshInstalled before.managedRoutes after) (hstarts : DeletionsStart s before after) :
    (rollback keyed s before.managedRoutes after).2 = before ↔ Undone s before after := by
  have hstarts' : ∀ r ∈ after.managedRoutes, r.key ∉ keys before.managedRoutes →
      Starts (s.deletion r.key) := fun r hr hnew => hstarts r.key ⟨List.mem_map_of_mem hr, hnew⟩
  have hrules := rollbackRoutes_rules keyed hstarts' true after
  have hroutes := mem_rollbackRoutes_keyed s before.managedRoutes after.managedRoutes true after
  have hlog := rollbackRoutes_log keyed hstarts' true after
  rw [filter_kept] at hlog
  constructor
  · intro h
    rw [rollback] at h
    rw [h] at hrules hroutes hlog
    refine ⟨hrules.symm, hlog.symm, fun k hk => ?_, fun k hk => ?_⟩
    · rw [hroutes k]
      exact (and_iff_left (fun hd => hk ⟨hd.1, hd.2.1⟩)).symm
    · rw [hroutes k]
      have hin := hfresh.1 k hk.1 hk.2
      simp [hin, hk.1, hk.2]
  · rintro ⟨hsame, hback, hother, hlogged⟩
    apply engine_eq
    · ext k
      rw [rollback, hroutes k]
      by_cases hk : NewlyLogged before after k
      · simp [hlogged k hk, hfresh.1 k hk.1 hk.2, hk.1, hk.2]
      · rw [hother k hk]
        exact and_iff_left (fun hd => hk ⟨hd.1, hd.2.1⟩)
    · exact hrules.trans hsame
    · exact hlog.trans hback

/-- Where a route is known by its key, a run that reports a successful rollback
has restored the kernel and the log exactly when, if it rolled back and every
deletion started, the deletions could undo the changes. -/
theorem reported_rollback_restores_iff (config : SafeApplyConfig) (s : Surroundings)
    (e : RoutingEngine) (changes : Changes) :
    (ReportsRollback (execute keyed config s e changes).1 →
        (execute keyed config s e changes).2 = e) ↔
      (RollsBack config s changes → DeletionsStart s e (applyChanges keyed e changes) →
        Undone s e (applyChanges keyed e changes)) := by
  have hfresh := freshInstalled_applyChanges e changes
  obtain ⟨hrolls, hstate, hreports⟩ | ⟨hnot, hsilent⟩ := execute_cases keyed config s e changes
  · rw [hreports, hstate, rollback_success_iff]
    constructor
    · intro h _ hstarts
      exact (rollback_restores_iff s e _ hfresh hstarts).mp (h hstarts)
    · intro h hstarts
      exact (rollback_restores_iff s e _ hfresh hstarts).mpr (h hrolls hstarts)
  · exact iff_of_true (fun h => absurd h hsilent) (fun h => absurd h hnot)

def uplink : ManagedRoute := ⟨some "0.0.0.0/0", "192.168.1.1", "eth0", 100, none⟩

def uplinkOnly : RoutingEngine := ⟨⟨{uplink.key}, ∅⟩, [uplink]⟩

/-- The changes take the uplink away, and then fail. -/
def uplinkTaken : Changes :=
  ⟨[.delDefaultRoute uplink.gateway uplink.interface uplink.metric (exited true "" "")
      uplink.metric],
    .error (.policyConflict "no bond")⟩

def allCommandsSucceed : Surroundings :=
  ⟨exited true "" "", some (exited true "" ""), fun _ => exited true "" "", fun k => k.metric, id⟩

/-- The rollback has nothing to delete, reports success, and leaves the host
without its default route. -/
theorem deleted_route_not_restored :
    ReportsRollback
        (execute keyed SafeApplyConfig.default allCommandsSucceed uplinkOnly uplinkTaken).1 ∧
      (execute keyed SafeApplyConfig.default allCommandsSucceed uplinkOnly uplinkTaken).2 ≠
        uplinkOnly := by
  constructor
  · rfl
  · decide +kernel

end Netfusion.Core.Rollback
