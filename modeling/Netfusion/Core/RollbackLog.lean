import Netfusion.Core.Rollback

namespace Netfusion.Core.RollbackLog

open Netfusion.Lib.Machine
open Netfusion.Core.Command Netfusion.Core.Routing Netfusion.Core.SafeApply Netfusion.Core.Rollback

inductive Op where
  | call (c : Call)
  | rollback (s : Surroundings) (previous : List ManagedRoute)

inductive Answer where
  | returned (result : Except RoutingError Unit)
  | rolledBack (success : Bool)

/-- A step with a kernel where the metric 0 stands for any. -/
def step (e : RoutingEngine) : Op → Answer × RoutingEngine
  | .call c => (.returned (call zeroMatchesAny e c).1, (call zeroMatchesAny e c).2)
  | .rollback s previous =>
    (.rolledBack (rollback zeroMatchesAny s previous e).1, (rollback zeroMatchesAny s previous e).2)

def Installed (past : List (Op × Answer)) (k : RouteKey) : Prop :=
  ∃ c, (.call c, .returned (.ok ())) ∈ past ∧ c.adds = some k

/-- Of the routes that the calls have installed, the log lists once each those
that are still there, and nothing else. -/
structure LogMatches (past : List (Op × Answer)) (e : RoutingEngine) : Prop where
  once : (keys e.managedRoutes).Nodup
  listed : ∀ k, k ∈ keys e.managedRoutes ↔ Installed past k ∧ k ∈ e.kernel.routes

/-- A rollback that reports success has left no route that it should remove. -/
def HonestRollback (past : List (Op × Answer)) (e : RoutingEngine) (op : Op) : Prop :=
  ∀ s previous, op = .rollback s previous → (rollback zeroMatchesAny s previous e).1 = true →
    ∀ k, Installed past k → k ∉ keys previous →
      k ∉ (rollback zeroMatchesAny s previous e).2.kernel.routes

/-- If the command starts, it takes of the logged routes the one that is named
and no other. -/
def DeletesNamed (e : RoutingEngine) (named : RouteKey) (result : CommandOutput)
    (chosen : UInt32) : Prop :=
  Starts result → ∀ k ∈ keys e.managedRoutes,
    (Succeeds result ∧ zeroMatchesAny named chosen = k ↔ k = named)

/-- Every deletion of a step takes of the logged routes what it names. -/
def DeletionsMatch (e : RoutingEngine) : Op → Prop
  | .call (.delDefaultRoute gateway interface metric result chosen) =>
    DeletesNamed e ⟨gateway, interface, metric⟩ result chosen
  | .call _ => True
  | .rollback s previous =>
    ∀ named ∈ keys e.managedRoutes, named ∉ keys previous →
      DeletesNamed e named (s.deletion named) (s.chosen named)

theorem installed_concat (past : List (Op × Answer)) (op : Op) (answer : Answer) (k : RouteKey) :
    Installed (past ++ [(op, answer)]) k ↔
      Installed past k ∨ ∃ c, op = .call c ∧ answer = .returned (.ok ()) ∧ c.adds = some k := by
  constructor
  · rintro ⟨c, hmem, hadds⟩
    rcases List.mem_append.mp hmem with hpast | hlast
    · exact .inl ⟨c, hpast, hadds⟩
    · obtain ⟨rfl, rfl⟩ := Prod.mk.inj (List.mem_singleton.mp hlast)
      exact .inr ⟨c, rfl, rfl, hadds⟩
  · rintro (⟨c, hpast, hadds⟩ | ⟨c, rfl, rfl, hadds⟩)
    · exact ⟨c, List.mem_append_left _ hpast, hadds⟩
    · exact ⟨c, by simp, hadds⟩

/-- What a rollback takes from the kernel is what it takes from the log exactly
if each of its deletions takes of the logged routes what it names. -/
theorem deletionsMatch_rollback_iff (e : RoutingEngine) (s : Surroundings)
    (previous : List ManagedRoute) :
    (∀ k ∈ keys e.managedRoutes, (k ∉ keys previous ∧ Starts (s.deletion k) ↔
      ∃ named ∈ keys e.managedRoutes, named ∉ keys previous ∧
        Succeeds (s.deletion named) ∧ zeroMatchesAny named (s.chosen named) = k)) ↔
      DeletionsMatch e (.rollback s previous) := by
  constructor
  · intro htaken
    -- a route of metric 0 is taken only by its own deletion
    have hzero : ∀ named ∈ keys e.managedRoutes, named ∉ keys previous →
        Starts (s.deletion named) → named.metric = 0 →
        Succeeds (s.deletion named) ∧ zeroMatchesAny named (s.chosen named) = named := by
      intro named hin hnew hstarts hmetric
      obtain ⟨taker, -, -, hsucceeds, htakes⟩ := (htaken named hin).mp ⟨hnew, hstarts⟩
      obtain hsame | ⟨-, hother⟩ := zeroMatchesAny_cases taker (s.chosen taker)
      · obtain rfl : taker = named := hsame.symm.trans htakes
        exact ⟨hsucceeds, htakes⟩
      · exact absurd (htakes ▸ hmetric) hother
    have hown : ∀ named ∈ keys e.managedRoutes, named ∉ keys previous →
        Starts (s.deletion named) →
        Succeeds (s.deletion named) ∧ zeroMatchesAny named (s.chosen named) = named := by
      intro named hin hnew hstarts
      obtain ⟨taker, hin', hnew', hsucceeds, htakes⟩ := (htaken named hin).mp ⟨hnew, hstarts⟩
      have hself : zeroMatchesAny taker (s.chosen taker) = taker := by
        obtain hsame | ⟨hmetric, -⟩ := zeroMatchesAny_cases taker (s.chosen taker)
        · exact hsame
        · exact (hzero taker hin' hnew' hsucceeds.starts hmetric).2
      obtain rfl : taker = named := hself.symm.trans htakes
      exact ⟨hsucceeds, htakes⟩
    intro named hin hnew hstarts k _
    obtain ⟨hsucceeds, htakes⟩ := hown named hin hnew hstarts
    rw [htakes]
    exact ⟨fun hk => hk.2.symm, fun hk => ⟨hsucceeds, hk.symm⟩⟩
  · intro hsound k hk
    constructor
    · rintro ⟨hnew, hstarts⟩
      exact ⟨k, hk, hnew, (hsound k hk hnew hstarts k hk).mpr rfl⟩
    · rintro ⟨named, hin, hnew, hsucceeds, htakes⟩
      obtain rfl := (hsound named hin hnew hsucceeds.starts k hk).mp ⟨hsucceeds, htakes⟩
      exact ⟨hnew, hsucceeds.starts⟩

section

variable {past : List (Op × Answer)} {e : RoutingEngine} (h : LogMatches past e)

include h

theorem logMatches_add {c : Call} {route : ManagedRoute} (hadds : c.adds = some route.key)
    (hnew : route.key ∉ e.kernel.routes) :
    LogMatches (past ++ [(.call c, .returned (.ok ()))])
      ⟨{ e.kernel with routes := insert route.key e.kernel.routes },
        e.managedRoutes ++ [route]⟩ := by
  have hkeys : keys (e.managedRoutes ++ [route]) = keys e.managedRoutes ++ [route.key] := by
    simp [keys]
  have hfresh : route.key ∉ keys e.managedRoutes := fun hk => hnew ((h.listed _).mp hk).2
  constructor
  · rw [hkeys]
    apply h.once.append (List.nodup_singleton _)
    simp [hfresh]
  · intro k
    rw [hkeys, List.mem_append, List.mem_singleton, h.listed, installed_concat, Finset.mem_insert]
    by_cases hk : k = route.key
    · subst hk
      simp [hadds]
    · simp [hk, hadds, Ne.symm hk]

theorem logMatches_del_iff (op : Op) (answer : Answer) (hother : ∀ k,
    Installed (past ++ [(op, answer)]) k ↔ Installed past k) (named : RouteKey) (out : Output)
    (chosen : UInt32) :
    LogMatches (past ++ [(op, answer)])
        ⟨if out.success then
            { e.kernel with routes := e.kernel.routes.erase (zeroMatchesAny named chosen) }
          else e.kernel,
          e.managedRoutes.filter (fun r => r.key ≠ named)⟩ ↔
      DeletesNamed e named (.ok out) chosen := by
  have hkept : ∀ k, k ∈ (if out.success then
        { e.kernel with routes := e.kernel.routes.erase (zeroMatchesAny named chosen) }
      else e.kernel).routes ↔
      k ∈ e.kernel.routes ∧ ¬ (Succeeds (.ok out) ∧ zeroMatchesAny named chosen = k) := by
    intro k
    cases hs : out.success with
    | false => simp [Succeeds, hs]
    | true =>
      simp only [if_true, Finset.mem_erase, Succeeds, Except.ok.injEq, exists_eq_left', hs,
        true_and, ne_comm, ne_eq]
      exact and_comm
  constructor
  · rintro ⟨-, hlisted⟩ - k hk
    have hin := (h.listed k).mp hk
    have hiff := hlisted k
    rw [hother, hkept, keys_filter_ne, List.mem_filter, decide_eq_true_eq] at hiff
    tauto
  · intro hnamed
    constructor
    · rw [keys_filter_ne]
      exact h.once.filter _
    · intro k
      rw [hother, hkept, keys_filter_ne, List.mem_filter, decide_eq_true_eq, h.listed]
      have htaken := hnamed ⟨out, rfl⟩ k
      rw [h.listed] at htaken
      tauto

theorem logMatches_rollback_iff (s : Surroundings) (previous : List ManagedRoute) (success : Bool) :
    LogMatches (past ++ [(.rollback s previous, .rolledBack success)])
        (rollback zeroMatchesAny s previous e).2 ↔
      DeletionsMatch e (.rollback s previous) := by
  have hinstalled : ∀ k, Installed (past ++ [(.rollback s previous, .rolledBack success)]) k ↔
      Installed past k := by
    intro k
    rw [installed_concat]
    simp
  have hroutes := mem_rollbackRoutes zeroMatchesAny s previous e.managedRoutes true e
  have hlog := mem_rollbackRoutes_log zeroMatchesAny s previous e.managedRoutes true e
  rw [← rollback] at hroutes hlog
  rw [← deletionsMatch_rollback_iff]
  constructor
  · rintro ⟨-, hlisted⟩ k hk
    have hin := (h.listed k).mp hk
    have hiff := hlisted k
    rw [hinstalled, hroutes, hlog] at hiff
    grind
  · intro htaken
    constructor
    · exact List.Nodup.sublist
        ((rollbackRoutes_sublist zeroMatchesAny s previous e.managedRoutes true e).map _) h.once
    · intro k
      have hk := htaken k
      rw [hinstalled, hroutes, hlog]
      rw [h.listed] at hk ⊢
      grind

theorem logMatches_unchanged {e' : RoutingEngine} {c : Call} {result : Except RoutingError Unit}
    (hnone : c.adds = none ∨ result ≠ .ok ()) (hroutes : e'.kernel.routes = e.kernel.routes)
    (hlog : e'.managedRoutes = e.managedRoutes) :
    LogMatches (past ++ [(.call c, .returned result)]) e' := by
  constructor
  · rw [hlog]
    exact h.once
  · intro k
    have hsame : ¬ ∃ c', Op.call c = .call c' ∧ Answer.returned result = .returned (.ok ()) ∧
        c'.adds = some k := by
      rintro ⟨c', hc, hresult, hadds⟩
      cases hc
      rcases hnone with hnone | hfails
      · rw [hnone] at hadds
        cases hadds
      · exact hfails (Answer.returned.inj hresult)
    rw [hlog, hroutes, h.listed, installed_concat, or_iff_left hsame]

/-- A log that matches goes on matching exactly if the deletions of a step
succeed, those of a rollback included. -/
theorem logMatches_step_iff (op : Op) :
    LogMatches (past ++ [(op, (step e op).1)]) (step e op).2 ↔ DeletionsMatch e op := by
  cases op with
  | rollback s previous => exact logMatches_rollback_iff h s previous _
  | call c =>
    rw [step]
    obtain ⟨route, hadds, hnew, hcall⟩ | ⟨named, out, chosen, rfl, hcall⟩ |
        ⟨hnone, hnodel, hroutes, hlog⟩ := call_cases zeroMatchesAny e c
    · rw [hcall]
      apply iff_of_true (logMatches_add h hadds hnew)
      cases c with
      | addDefaultRoute gateway interface metric found answer => trivial
      | _ => cases hadds
    · rw [hcall]
      apply logMatches_del_iff h
      intro k
      rw [installed_concat]
      simp [Call.adds]
    · apply iff_of_true (logMatches_unchanged h hnone hroutes hlog)
      cases c with
      | delDefaultRoute gateway interface metric result chosen =>
        rintro ⟨out, rfl⟩
        exact absurd rfl (hnodel ⟨gateway, interface, metric⟩ out chosen)
      | _ => trivial

theorem honestRollback_of_sound (op : Op) (hsound : DeletionsMatch e op) :
    HonestRollback past e op := by
  rintro s previous rfl hsuccess k hin hnew hleft
  rw [rollback, mem_rollbackRoutes] at hleft
  rw [rollback, rollbackRoutes_success] at hsuccess
  have hlisted : k ∈ keys e.managedRoutes := (h.listed k).mpr ⟨hin, hleft.1⟩
  obtain ⟨route, hroute, rfl⟩ := List.mem_map.mp hlisted
  have hstarts := hsuccess.2 route hroute hnew
  exact hleft.2 route.key hlisted hnew
    ((hsound route.key hlisted hnew hstarts route.key hlisted).mpr rfl)

end

theorem logMatches_cleared (e : RoutingEngine) : LogMatches [] (clearManagedRoutes e) := by
  constructor
  · exact List.nodup_nil
  · intro k
    constructor
    · intro hk
      cases hk
    · rintro ⟨⟨c, hc, -⟩, -⟩
      cases hc

/-- From when the log was cleared on, it matches the kernel after every call
and every rollback, and no rollback reports success while a route it should
remove is there, exactly when each deletion that starts takes of the logged
routes the one it names and no other. -/
theorem log_matches_iff (e : RoutingEngine) (ops : List Op) :
    ((∀ pre post, ops = pre ++ post →
        LogMatches (trace step (clearManagedRoutes e) pre) (run step (clearManagedRoutes e) pre)) ∧
      EachTraced step (clearManagedRoutes e) ops HonestRollback) ↔
      EachStep step (clearManagedRoutes e) ops (fun _ e op => DeletionsMatch e op) := by
  have hmatches : (∀ pre post, ops = pre ++ post → LogMatches
      (trace step (clearManagedRoutes e) pre) (run step (clearManagedRoutes e) pre)) ↔
      EachTraced step (clearManagedRoutes e) ops (fun _ e op => DeletionsMatch e op) :=
    always_traced_iff (logMatches_cleared e) (fun past t op ht => logMatches_step_iff ht op)
  constructor
  · rintro ⟨hall, -⟩ pre op post he
    exact hmatches.mp hall pre op post he
  · intro hsound
    have hall := hmatches.mpr (fun pre op post he => hsound pre op post he)
    refine ⟨hall, ?_⟩
    intro pre op post he
    exact honestRollback_of_sound (hall pre (op :: post) he) op (hsound pre op post he)

def noRoutes : RoutingEngine := clearManagedRoutes ⟨⟨∅, ∅⟩, []⟩

def addUplink : Call :=
  .addDefaultRoute uplink.gateway uplink.interface uplink.metric (.ok (some 2)) (.ok ())

def notPermitted : CommandOutput := exited false "" "RTNETLINK answers: Operation not permitted"

def addAndDelete : List Op :=
  [.call addUplink,
    .call (.delDefaultRoute uplink.gateway uplink.interface uplink.metric notPermitted
      uplink.metric)]

def addAndRollback : List Op :=
  [.call addUplink, .rollback { allCommandsSucceed with deletion := fun _ => notPermitted } []]

theorem uplink_installed (rest : List Op) :
    Installed (trace step noRoutes (.call addUplink :: rest)) uplink.key := by
  have hok : (call zeroMatchesAny noRoutes addUplink).1 = .ok () := by decide +kernel
  refine ⟨addUplink, ?_, rfl⟩
  rw [trace, step, hok]
  exact .head _

/-- A deletion that fails takes the route off the log only, and a rollback
reports it as a success. -/
theorem failed_deletion_unlogged :
    ¬ LogMatches (trace step noRoutes addAndDelete) (run step noRoutes addAndDelete) ∧
    ¬ EachTraced step noRoutes addAndRollback HonestRollback := by
  constructor
  · intro h
    have hkey := (h.listed uplink.key).mpr ⟨uplink_installed _, by decide +kernel⟩
    have hnone : (run step noRoutes addAndDelete).managedRoutes = [] := by decide +kernel
    rw [hnone] at hkey
    cases hkey
  · intro h
    apply h [.call addUplink] _ [] rfl _ [] rfl
    · decide +kernel
    · exact uplink_installed []
    · exact List.not_mem_nil
    · decide +kernel

-- a deletion with the metric 0 takes the uplink, which stays on the log
example :
    let e := run step noRoutes [.call addUplink,
      .call (.delDefaultRoute uplink.gateway uplink.interface 0 (exited true "" "") uplink.metric)]
    e.kernel.routes = ∅ ∧ e.managedRoutes = [uplink] := by
  decide +kernel

end Netfusion.Core.RollbackLog
