import Netfusion.Lib.Columns
import Netfusion.Core.Command
import Netfusion.Core.Routing
import Netfusion.Core.WeightedBalancing

namespace Netfusion.Core.Ecmp

open Netfusion.Lib.Collections Netfusion.Lib.Columns Netfusion.Lib.Text
open Netfusion.Shared.Types
open Netfusion.Core.Command Netfusion.Core.WeightedBalancing
open Netfusion.Core.Routing (RoutingError)

def decimal (n : Nat) : String := String.ofList (Nat.toDigits 10 n)

def nexthopArgs (route : EcmpRoute) : List String :=
  ["nexthop", "via", route.gateway, "dev", route.interface] ++
    if route.weight > 1 then ["weight", decimal route.weight.toNat] else []

/-- A single route has a metric and no weight, several have weights and no metric. -/
def routeArgs : List EcmpRoute → List String
  | [route] => ["via", route.gateway, "dev", route.interface] ++
      if route.metric > 0 then ["metric", decimal route.metric.toNat] else []
  | routes => routes.flatMap nexthopArgs

/-- What comes back, and the arguments of the `ip` command, if it is run. -/
def setupEcmp (routes : List EcmpRoute) (output : CommandOutput) :
    Except RoutingError Unit × List (List String) :=
  if routes.isEmpty then (.error (.routeModify "no routes provided for ECMP"), [])
  else
    (match output with
      | .error e => .error (.routeModify e)
      | .ok out =>
        if out.success then .ok ()
        else .error (.routeModify ("ip route failed: " ++ out.stderr)),
      [["route", "replace", "default"] ++ routeArgs routes])

def deletionArgs (route : EcmpRoute) : List String :=
  ["route", "del", "default", "via", route.gateway, "dev", route.interface]

/-- A deletion that fails is passed over. One that cannot be started ends the call. -/
def teardownEcmp (ends : EcmpRoute → CommandOutput) :
    List EcmpRoute → Except RoutingError Unit × List (List String)
  | [] => (.ok (), [])
  | route :: routes =>
    match ends route with
    | .error e => (.error (.routeModify e), [deletionArgs route])
    | .ok _ =>
      let (result, commands) := teardownEcmp ends routes
      (result, deletionArgs route :: commands)

structure NextHop where
  gateway : String
  dev : String
  weight : Nat
deriving DecidableEq

def readWeight : List String → Option (Nat × List String)
  | option :: weight :: rest =>
    if option = "weight" then (parseUint 256 weight.toList).map (fun w => (w, rest))
    else some (1, option :: weight :: rest)
  | rest => some (1, rest)

/-- The next hops in the arguments of `ip route`, one for each unit of fuel. -/
def readHops : Nat → List String → Option (List NextHop)
  | _, [] => some []
  | fuel + 1, nexthop :: via :: gateway :: dev :: name :: rest =>
    if nexthop = "nexthop" ∧ via = "via" ∧ dev = "dev" then do
      let (weight, rest) ← readWeight rest
      let hops ← readHops fuel rest
      return ⟨gateway, name, weight⟩ :: hops
    else none
  | _, _ => none

def readSingle : List String → Option (List NextHop)
  | via :: gateway :: dev :: name :: options =>
    if via = "via" ∧ dev = "dev" ∧ ∀ option ∈ options.head?, option = "metric" then
      some [⟨gateway, name, 1⟩]
    else none
  | _ => none

def readRoute : List String → Option (List NextHop)
  | route :: replace :: default :: rest =>
    if route = "route" ∧ replace = "replace" ∧ default = "default" then
      if rest.head? = some "nexthop" then readHops rest.length rest else readSingle rest
    else none
  | _ => none

def hopOf (route : EcmpRoute) : NextHop :=
  ⟨route.gateway, route.interface, max 1 route.weight.toNat⟩

theorem parse_decimal {n : Nat} (h : n < 256) : parseUint 256 (decimal n).toList = some n := by
  rw [decimal, String.toList_ofList, parseUint_toDigits h]

theorem readWeight_hops (routes : List EcmpRoute) :
    readWeight (routes.flatMap nexthopArgs) = some (1, routes.flatMap nexthopArgs) := by
  cases routes with
  | nil => rfl
  | cons route routes =>
    have hne : ¬ "nexthop" = "weight" := by decide
    have hargs : (route :: routes).flatMap nexthopArgs =
        "nexthop" :: "via" :: (route.gateway :: "dev" :: route.interface ::
          ((if route.weight > 1 then ["weight", decimal route.weight.toNat] else []) ++
            routes.flatMap nexthopArgs)) := rfl
    rw [hargs, readWeight, if_neg hne]

theorem readWeight_args (route : EcmpRoute) (routes : List EcmpRoute) :
    readWeight ((if route.weight > 1 then ["weight", decimal route.weight.toNat] else []) ++
      routes.flatMap nexthopArgs) =
        some (max 1 route.weight.toNat, routes.flatMap nexthopArgs) := by
  by_cases hweight : route.weight > 1
  · have hone : 1 < route.weight.toNat := UInt8.lt_iff_toNat_lt.mp hweight
    have hparse := parse_decimal route.weight.toNat_lt
    rw [if_pos hweight, Nat.max_eq_right hone.le, List.cons_append, List.singleton_append,
      readWeight, if_pos rfl, hparse]
    rfl
  · have hone : route.weight.toNat ≤ 1 := UInt8.le_iff_toNat_le.mp (UInt8.not_lt.mp hweight)
    rw [if_neg hweight, Nat.max_eq_left hone, List.nil_append, readWeight_hops]

theorem readHops_args (fuel : Nat) (routes : List EcmpRoute) (h : routes.length ≤ fuel) :
    readHops fuel (routes.flatMap nexthopArgs) = some (routes.map hopOf) := by
  induction routes generalizing fuel with
  | nil =>
    cases fuel with
    | zero => rfl
    | succ fuel => rfl
  | cons route routes ih =>
    cases fuel with
    | zero => exact absurd h (Nat.not_succ_le_zero _)
    | succ fuel =>
      have hrest := ih fuel (Nat.le_of_succ_le_succ h)
      have hargs : (route :: routes).flatMap nexthopArgs =
          "nexthop" :: "via" :: route.gateway :: "dev" :: route.interface ::
            ((if route.weight > 1 then ["weight", decimal route.weight.toNat] else []) ++
              routes.flatMap nexthopArgs) := rfl
      rw [hargs, readHops, if_pos ⟨rfl, rfl, rfl⟩, readWeight_args]
      simp only [Option.bind_eq_bind, Option.bind_some, hrest]
      rfl

theorem length_le_args (routes : List EcmpRoute) :
    routes.length ≤ (routes.flatMap nexthopArgs).length := by
  induction routes with
  | nil => exact Nat.le_refl 0
  | cons route routes ih =>
    rw [List.flatMap_cons, List.length_append, List.length_cons, nexthopArgs, List.length_append,
      List.length_cons]
    omega

/-- The weight of a next hop counts for nothing where there is no other. -/
def hopsOf (routes : List EcmpRoute) : List NextHop :=
  routes.map (fun route =>
    if routes.length = 1 then { hopOf route with weight := 1 } else hopOf route)

theorem readRoute_single (route : EcmpRoute) :
    readRoute (["route", "replace", "default"] ++ routeArgs [route]) = some (hopsOf [route]) := by
  have hoptions : ∀ option ∈ (if route.metric > 0 then ["metric", decimal route.metric.toNat]
      else []).head?, option = "metric" := by
    split
    · rintro option ⟨⟩
      rfl
    · rintro option ⟨⟩
  have hargs : ["route", "replace", "default"] ++ routeArgs [route] =
      "route" :: "replace" :: "default" :: "via" :: route.gateway :: "dev" :: route.interface ::
        (if route.metric > 0 then ["metric", decimal route.metric.toNat] else []) := rfl
  have hsingle : ∀ rest : List String, ("via" :: rest).head? ≠ some "nexthop" := by
    intro rest
    rw [List.head?_cons]
    decide
  rw [hargs, readRoute, if_pos ⟨rfl, rfl, rfl⟩, if_neg (hsingle _), readSingle,
    if_pos ⟨rfl, rfl, hoptions⟩]
  rfl

theorem readRoute_args {routes : List EcmpRoute} (h : routes ≠ []) :
    readRoute (["route", "replace", "default"] ++ routeArgs routes) = some (hopsOf routes) := by
  match routes with
  | [route] => exact readRoute_single route
  | first :: second :: rest =>
    have hargs : routeArgs (first :: second :: rest) =
        (first :: second :: rest).flatMap nexthopArgs := rfl
    have hhead : ((first :: second :: rest).flatMap nexthopArgs).head? = some "nexthop" := by
      rw [List.flatMap_cons, nexthopArgs]
      rfl
    have hmany : ¬ (first :: second :: rest).length = 1 := by simp
    rw [hargs, hopsOf]
    simp only [if_neg hmany, List.cons_append, List.nil_append]
    rw [readRoute, if_pos ⟨rfl, rfl, rfl⟩, if_pos hhead, readHops_args _ _ (length_le_args _)]

theorem mem_hopsOf {routes : List EcmpRoute} {hop : NextHop} : hop ∈ hopsOf routes ↔
    ∃ route ∈ routes, hop.gateway = route.gateway ∧ hop.dev = route.interface ∧
      hop.weight = if routes.length = 1 then 1 else max 1 route.weight.toNat := by
  rw [hopsOf, List.mem_map]
  constructor
  · rintro ⟨route, hroute, rfl⟩
    refine ⟨route, hroute, ?_⟩
    split
    · exact ⟨rfl, rfl, rfl⟩
    · exact ⟨rfl, rfl, rfl⟩
  · rintro ⟨route, hroute, hgateway, hdev, hweight⟩
    refine ⟨route, hroute, ?_⟩
    obtain ⟨gateway, dev, weight⟩ := hop
    dsimp only at hgateway hdev hweight
    subst hgateway hdev hweight
    split
    · rfl
    · rfl

theorem dev_hopsOf (routes : List EcmpRoute) :
    (hopsOf routes).map NextHop.dev = routes.map EcmpRoute.interface := by
  rw [hopsOf, List.map_map]
  apply List.map_congr_left
  intro route _
  rw [Function.comp_apply]
  split
  · rfl
  · rfl

theorem interfaces_nodup (b : WeightedBalancer) (gateways : HashMap String String)
    (order : Shuffle (Sigma (fun _ : String => UInt8))) :
    ((generateRoutes b gateways order).map EcmpRoute.interface).Nodup := by
  have hsub : ∀ entries : List (Sigma (fun _ : String => UInt8)),
      ((entries.filterMap (fun e => (gateways.lookup e.1).map (fun gw =>
        (⟨gw, e.1, 100, e.2⟩ : EcmpRoute)))).map EcmpRoute.interface).Sublist
        (entries.map Sigma.fst) := by
    intro entries
    induction entries with
    | nil => exact .slnil
    | cons e entries ih =>
      rw [List.filterMap_cons]
      cases gateways.lookup e.1 with
      | none => exact ih.cons _
      | some gw => exact ih.cons_cons _
  exact (shuffle_keys_nodup order b.weights).sublist (hsub _)

theorem setupEcmp_ok_iff (routes : List EcmpRoute) (output : CommandOutput) :
    (setupEcmp routes output).1 = .ok () ↔ routes ≠ [] ∧ Succeeds output := by
  cases routes with
  | nil => simp [setupEcmp]
  | cons route routes =>
    cases output with
    | error e => simp [setupEcmp, Succeeds]
    | ok out =>
      by_cases hs : out.success = true
      · simp [setupEcmp, Succeeds, hs]
      · simp [setupEcmp, Succeeds, hs]

theorem setupEcmp_commands (routes : List EcmpRoute) (output : CommandOutput) :
    (setupEcmp routes output).2 =
      if routes = [] then [] else [["route", "replace", "default"] ++ routeArgs routes] := by
  cases routes with
  | nil => rfl
  | cons route routes => rfl

theorem teardownEcmp_started {ends : EcmpRoute → CommandOutput} (routes : List EcmpRoute)
    (h : ∀ route ∈ routes, Starts (ends route)) :
    teardownEcmp ends routes = (.ok (), routes.map deletionArgs) := by
  induction routes with
  | nil => rfl
  | cons route routes ih =>
    obtain ⟨out, hout⟩ := h route List.mem_cons_self
    rw [teardownEcmp, hout, ih (fun other hother => h other (List.mem_cons_of_mem _ hother))]
    rfl

section

variable {b : WeightedBalancer} {health : HashMap String (HealthScore ℚ)} (order : Shuffle Score)
  (hpos : 0 < viableHealth b health) (gateways : HashMap String String)
  (order' : Shuffle (Sigma (fun _ : String => UInt8)))

include hpos

theorem mem_routes (route : EcmpRoute) :
    route ∈ generateRoutes (computeWeights b health order).2 gateways order' ↔
      ∃ score, health.lookup route.interface = some score ∧ score.overall ≥ b.minHealth ∧
        gateways.lookup route.interface = some route.gateway ∧ route.metric = 100 ∧
        route.weight = weightOf score.overall (viableHealth b health) := by
  rw [mem_generateRoutes, computeWeights_stores]
  dsimp only
  rw [lookup_computeWeights order hpos]
  constructor
  · rintro ⟨⟨score, hscore, hviable, hweight⟩, hgateway, hmetric⟩
    exact ⟨score, hscore, hviable, hgateway, hmetric, hweight⟩
  · rintro ⟨score, hscore, hviable, hgateway, hmetric, hweight⟩
    exact ⟨⟨score, hscore, hviable, hweight⟩, hgateway, hmetric⟩

/-- From scores to the command: it has a next hop for each viable interface
with a gateway, with the weight of its score, and there is none only when no
such interface is left. -/
theorem nexthops_follow_health (output : CommandOutput) :
    let setup := setupEcmp (generateRoutes (computeWeights b health order).2 gateways order') output
    (setup.1 = .ok () ↔ setup.2 ≠ [] ∧ Succeeds output) ∧
      (setup.2 = [] ↔ ∀ name score, health.lookup name = some score →
        score.overall ≥ b.minHealth → gateways.lookup name = none) ∧
      ∀ args ∈ setup.2, ∃ hops, readRoute args = some hops ∧ (hops.map NextHop.dev).Nodup ∧
        ∀ hop, hop ∈ hops ↔ ∃ score, health.lookup hop.dev = some score ∧
          score.overall ≥ b.minHealth ∧ gateways.lookup hop.dev = some hop.gateway ∧
          hop.weight = if hops.length = 1 then 1
            else (weightOf score.overall (viableHealth b health)).toNat := by
  intro setup
  have hmem := mem_routes order hpos gateways order'
  have hnodup := interfaces_nodup (computeWeights b health order).2 gateways order'
  set routes := generateRoutes (computeWeights b health order).2 gateways order'
  have hcommands : setup.2 = if routes = [] then []
      else [["route", "replace", "default"] ++ routeArgs routes] := setupEcmp_commands routes output
  have hnone : setup.2 = [] ↔ routes = [] := by
    rw [hcommands]
    split
    · rename_i hroutes
      exact iff_of_true rfl hroutes
    · rename_i hroutes
      exact iff_of_false (List.cons_ne_nil _ _) hroutes
  refine ⟨?_, ?_, ?_⟩
  · have hok : setup.1 = .ok () ↔ routes ≠ [] ∧ Succeeds output := setupEcmp_ok_iff routes output
    rw [hok, Ne, Ne, hnone]
  · rw [hnone, List.eq_nil_iff_forall_not_mem]
    constructor
    · intro hempty name score hscore hviable
      cases hgateway : gateways.lookup name with
      | none => rfl
      | some gw =>
        have hroute := (hmem ⟨gw, name, 100, weightOf score.overall (viableHealth b health)⟩).mpr
          ⟨score, hscore, hviable, hgateway, rfl, rfl⟩
        exact absurd hroute (hempty _)
    · intro hnogateway route hroute
      obtain ⟨score, hscore, hviable, hgateway, -⟩ := (hmem route).mp hroute
      rw [hnogateway _ score hscore hviable] at hgateway
      cases hgateway
  · intro args hargs
    rw [hcommands] at hargs
    split at hargs
    · cases hargs
    rename_i hroutes
    rw [List.mem_singleton.mp hargs]
    refine ⟨hopsOf routes, readRoute_args hroutes, ?_, fun hop => ?_⟩
    · rw [dev_hopsOf]
      exact hnodup
    · have hlength : (hopsOf routes).length = routes.length := List.length_map _
      have hone : ∀ x, max 1 (weightOf x (viableHealth b health)).toNat =
          (weightOf x (viableHealth b health)).toNat :=
        fun x => Nat.max_eq_right (weightOf_range x _).1
      rw [mem_hopsOf, hlength]
      constructor
      · rintro ⟨route, hroute, hgateway, hdev, hweight⟩
        obtain ⟨score, hscore, hviable, hgw, -, hw⟩ := (hmem route).mp hroute
        rw [hw, hone] at hweight
        rw [hdev, hgateway]
        exact ⟨score, hscore, hviable, hgw, hweight⟩
      · rintro ⟨score, hscore, hviable, hgateway, hweight⟩
        refine ⟨⟨hop.gateway, hop.dev, 100, weightOf score.overall (viableHealth b health)⟩,
          (hmem _).mpr ⟨score, hscore, hviable, hgateway, rfl, rfl⟩, rfl, rfl, ?_⟩
        dsimp only
        rw [hone]
        exact hweight

end

def wiredAndWireless : HashMap String String :=
  ((∅ : HashMap String String).insert "eth0" "192.0.2.1").insert "wlan0" "198.51.100.1"

theorem nexthops_follow_health_two :
    let setup := setupEcmp (generateRoutes (computeWeights (.new 20) twoScores (.id _)).2
      wiredAndWireless (.id _)) (exited true "" "")
    (setup.1 = .ok () ↔ setup.2 ≠ [] ∧ Succeeds (exited true "" "")) ∧
      (setup.2 = [] ↔ ∀ name score, twoScores.lookup name = some score →
        score.overall ≥ (WeightedBalancer.new 20).minHealth → wiredAndWireless.lookup name = none) ∧
      ∀ args ∈ setup.2, ∃ hops, readRoute args = some hops ∧ (hops.map NextHop.dev).Nodup ∧
        ∀ hop, hop ∈ hops ↔ ∃ score, twoScores.lookup hop.dev = some score ∧
          score.overall ≥ (WeightedBalancer.new 20).minHealth ∧
          wiredAndWireless.lookup hop.dev = some hop.gateway ∧
          hop.weight = if hops.length = 1 then 1
            else (weightOf score.overall (viableHealth (.new 20) twoScores)).toNat := by
  have hpos : 0 < viableHealth (.new 20) twoScores := by decide +kernel
  exact nexthops_follow_health (.id _) hpos wiredAndWireless (.id _) (exited true "" "")

end Netfusion.Core.Ecmp
