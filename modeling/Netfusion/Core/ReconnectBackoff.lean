import Mathlib.Algebra.Group.Nat.Defs
import Netfusion.Core.Reconnect

namespace Netfusion.Core.ReconnectBackoff

open Netfusion.Lib.Collections Netfusion.Lib.Machine
open Netfusion.Shared.Config
open Netfusion.Core.Command Netfusion.Core.WireGuard Netfusion.Core.Tunnels
open Netfusion.Core.Reconnect

structure Check where
  circumstances : String → Circumstances
  order : Shuffle TunnelEntry

/-- The manager, and the attempts to reconnect one of its tunnels since that
was last found healthy, the latest first. -/
structure Care where
  manager : TunnelManager
  streak : List Circumstances

def foundHealthy (m : TunnelManager) (name : String) (c : Circumstances) : Bool :=
  match m.wgTunnels.lookup name with
  | some tunnel => healthy tunnel c
  | none => false

def isAttempt (name : String) : Happening → Bool
  | .attempted other _ => other = name
  | _ => false

def attempted (name : String) (happenings : List Happening) : Bool :=
  happenings.any (isAttempt name)

def step (name : String) (w : Care) (check : Check) : List Happening × Care :=
  let c := check.circumstances name
  let (happenings, manager) := checkHealth w.manager check.circumstances check.order
  let streak :=
    if foundHealthy w.manager name c then []
    else if attempted name happenings then c :: w.streak
    else w.streak
  (happenings, ⟨manager, streak⟩)

/-- The delay asked for after the `k`-th attempt, in nanoseconds. -/
def backoff (k : Nat) : Nat := min (2 ^ k) 300 * 10 ^ 9

def KeepsDistance (name : String) (w : Care) (check : Check) : Prop :=
  attempted name (step name w check).1 = true → ∀ last rest, w.streak = last :: rest →
    last.now + backoff w.streak.length ≤ (check.circumstances name).now

/-- The check does not find the tunnel unhealthy between the second after the
last attempt was done and the end of the backoff of that attempt. -/
def OutsideWindow (name : String) (w : Care) (check : Check) : Prop :=
  ∀ last rest tunnel, w.streak = last :: rest → w.manager.wgTunnels.lookup name = some tunnel →
    healthy tunnel (check.circumstances name) = false →
    ¬ (last.done + 10 ^ 9 ≤ (check.circumstances name).now ∧
      (check.circumstances name).now < last.now + backoff w.streak.length)

structure JustStarted (m : TunnelManager) (name : String) (config : TunnelConfig) : Prop where
  filed : Filed m
  configured : m.configs.lookup name = some config
  auto : config.autoReconnect = true
  wireGuard : config.type = .wireGuard
  held : (m.wgTunnels.lookup name).isSome = true
  info : reconnectInfo m name = .new

/-- While the tunnel is held, the state of its reconnects is the one that the
last attempt of the streak left. -/
structure StartedOver (name : String) (config : TunnelConfig) (w : Care) : Prop where
  filed : Filed w.manager
  configured : w.manager.configs.lookup name = some config
  auto : config.autoReconnect = true
  info : ∀ last rest, w.streak = last :: rest →
    (w.manager.wgTunnels.lookup name).isSome = true →
    reconnectInfo w.manager name = resetInfo last.done

theorem attempted_iff (name : String) (happenings : List Happening) :
    attempted name happenings = true ↔ ∃ result, .attempted name result ∈ happenings := by
  rw [attempted, List.any_eq_true]
  constructor
  · rintro ⟨happening, hmem, h⟩
    cases happening with
    | attempted other result =>
      obtain rfl : other = name := of_decide_eq_true h
      exact ⟨result, hmem⟩
    | started config result => cases h
    | removed other => cases h
  · rintro ⟨result, hmem⟩
    exact ⟨_, hmem, decide_eq_true rfl⟩

theorem attemptReconnect_info (m : TunnelManager) (name : String) (config : TunnelConfig)
    (hname : config.name = name) (c : Circumstances)
    (h : ((attemptReconnect m name config c).2.wgTunnels.lookup name).isSome = true) :
    reconnectInfo (attemptReconnect m name config c).2 name = resetInfo c.done := by
  obtain ⟨tunnel, htunnel⟩ := (attemptReconnect_own m name config hname c).mp h
  simp [attemptReconnect, startTunnelBlocking, htunnel, setReconnect, reconnectInfo]

theorem tryReconnect_info (m : TunnelManager) (hm : Filed m) (name : String) (c : Circumstances)
    {config : TunnelConfig} (ha : Attempts m name c.now config)
    (h : ((tryReconnect m name c).2.wgTunnels.lookup name).isSome = true) :
    reconnectInfo (tryReconnect m name c).2 name = resetInfo c.done := by
  obtain ⟨hidle, -⟩ | ⟨other, hother, htry⟩ := tryReconnect_cases m name c
  · exact absurd ha (hidle config)
  · rw [htry] at h ⊢
    exact attemptReconnect_info _ name other (hm name other hother.2.1) c h

theorem tryReconnect_idle_info (m : TunnelManager) (name : String) (c : Circumstances)
    (h : ∀ config, ¬ Attempts m name c.now config) :
    (tryReconnect m name c).1 = none ∧
    reconnectInfo (tryReconnect m name c).2 name = reconnectInfo m name := by
  obtain ⟨-, htry⟩ | ⟨config, hattempts, -⟩ := tryReconnect_cases m name c
  · rw [htry]
    exact ⟨rfl, by simp [reconnectInfo, setReconnect]⟩
  · exact absurd hattempts (h config)

section

variable (m : TunnelManager) (hm : Filed m) (c : String → Circumstances)
  (order : Shuffle TunnelEntry) (name : String)

include hm

theorem checkHealth_due_info {config : TunnelConfig} (h : Due m name (c name) config)
    (hheld : ((checkHealth m c order).2.wgTunnels.lookup name).isSome = true) :
    reconnectInfo (checkHealth m c order).2 name = resetInfo (c name).done := by
  obtain ⟨m', hfiled, hattempts, hafter, -⟩ := checkHealth_turn m hm c order name h
  refine hafter.info.trans ?_
  apply tryReconnect_info m' hfiled name (c name) hattempts
  rw [← hafter.tunnel]
  exact hheld

theorem checkHealth_notDue_info (h : ∀ config, ¬ Due m name (c name) config) :
    attempted name (checkHealth m c order).1 = false ∧
    reconnectInfo (checkHealth m c order).2 name = reconnectInfo m name := by
  rw [← Bool.not_eq_true, attempted_iff]
  by_cases hsick : name ∈ unhealthyNames m c order
  · obtain ⟨m', hbefore, hafter, hmem⟩ :=
      reconnectAll_present c (unhealthyNames_nodup m c order) hsick
      { m with healthScores := scored m.healthScores c (order.run m.wgTunnels.entries) } hm
    obtain ⟨hnone, hinfo⟩ := tryReconnect_idle_info m' name (c name) (fun config ha =>
      h config ⟨(mem_unhealthyNames m c order name).mp hsick,
        (attempts_of_sameAt hbefore _ config).mp ha⟩)
    constructor
    · rintro ⟨result, hresult⟩
      cases hnone.symm.trans ((hmem result).mp hresult)
    · exact hafter.info.trans (hinfo.trans hbefore.info)
  · obtain ⟨hsame, hnone⟩ := reconnectAll_absent c hsick
      { m with healthScores := scored m.healthScores c (order.run m.wgTunnels.entries) } hm
    exact ⟨fun ⟨result, hresult⟩ => hnone result hresult, hsame.info⟩

end

theorem due_of_attempted {m : TunnelManager} (hm : Filed m) {c : String → Circumstances}
    {order : Shuffle TunnelEntry} {name : String}
    (h : attempted name (checkHealth m c order).1 = true) :
    ∃ config, Due m name (c name) config := by
  by_contra hno
  obtain ⟨hnone, -⟩ := checkHealth_notDue_info m hm c order name (not_exists.mp hno)
  rw [hnone] at h
  cases h

theorem shouldReconnect_resetInfo (done now : Nat) :
    shouldReconnect (resetInfo done) now = true ↔ done + 10 ^ 9 ≤ now := by
  have hdecide : shouldReconnect (resetInfo done) now = true ↔ now - done ≥ 10 ^ 9 :=
    decide_eq_true_iff
  rw [hdecide]
  omega

theorem startedOver_step (name : String) (config : TunnelConfig) (w : Care) (check : Check)
    (h : StartedOver name config w) : StartedOver name config (step name w check).2 := by
  have hconfigs := checkHealth_configs w.manager check.circumstances check.order
  refine ⟨filed_of_configs hconfigs h.filed, ?_, h.auto, ?_⟩
  · exact (congrArg (AList.lookup name) hconfigs).trans h.configured
  · intro last rest hstreak hheld
    simp only [step] at hstreak hheld ⊢
    split at hstreak
    · cases hstreak
    · split at hstreak
      · rename_i hattempted
        obtain ⟨other, hdue⟩ := due_of_attempted h.filed hattempted
        cases hstreak
        exact checkHealth_due_info _ h.filed _ _ name hdue hheld
      · rename_i hidle
        have hnot : ∀ other, ¬ Due w.manager name (check.circumstances name) other := by
          intro other hdue
          apply hidle
          rw [attempted_iff]
          exact (checkHealth_due _ h.filed _ check.order name hdue).1
        rw [checkHealth_notDue _ h.filed _ check.order name hnot] at hheld
        rw [(checkHealth_notDue_info _ h.filed _ check.order name hnot).2]
        exact h.info last rest hstreak hheld

/-- After a reset the only delay is one second, so what is late enough for the
code need not be late enough for the backoff. -/
theorem keepsDistance_iff (name : String) (config : TunnelConfig) (w : Care) (check : Check)
    (h : StartedOver name config w) : KeepsDistance name w check ↔ OutsideWindow name w check := by
  constructor
  · rintro hkeeps last rest tunnel hstreak htunnel hsick ⟨hlate, hearly⟩
    have hinfo := h.info last rest hstreak (by rw [htunnel]; rfl)
    have hattempts : Attempts w.manager name (check.circumstances name).now config := by
      refine ⟨?_, h.configured, h.auto⟩
      rw [hinfo]
      exact (shouldReconnect_resetInfo last.done _).mpr hlate
    have hdone := (checkHealth_due w.manager h.filed check.circumstances check.order name
      ⟨⟨tunnel, htunnel, hsick⟩, hattempts⟩).1
    have hspaced := hkeeps ((attempted_iff name _).mpr hdone) last rest hstreak
    omega
  · rintro houtside hattempted last rest hstreak
    obtain ⟨other, ⟨tunnel, htunnel, hsick⟩, hdelay, -⟩ := due_of_attempted h.filed hattempted
    rw [h.info last rest hstreak (by rw [htunnel]; rfl)] at hdelay
    have hlate := (shouldReconnect_resetInfo last.done _).mp hdelay
    have hnot := houtside last rest tunnel hstreak htunnel hsick
    omega

/-- From the start of the tunnel on, its reconnects back off exponentially in a
run of checks exactly when no check falls into the window between the delay
that the code starts over with and the backoff. -/
theorem backs_off_iff (name : String) (config : TunnelConfig) (m : TunnelManager)
    (hm : JustStarted m name config) (checks : List Check) :
    EachStep (step name) ⟨m, []⟩ checks (fun _ w check => KeepsDistance name w check) ↔
      EachStep (step name) ⟨m, []⟩ checks (fun _ w check => OutsideWindow name w check) := by
  apply eachStep_congr (I := StartedOver name config)
  · refine ⟨hm.filed, hm.configured, hm.auto, ?_⟩
    intro last rest h
    cases h
  · intro w check hw
    exact startedOver_step name config w check hw
  · intro _ w check hw
    exact keepsDistance_iff name config w check hw

/-- The link is up, and the peer has never answered. -/
def unanswered (now : Nat) : Circumstances where
  shown := exited true "7: wg0: <POINTOPOINT,NOARP,UP,LOWER_UP> mtu 1420 state UNKNOWN" ""
  handshakes := exited true "b\t0\n" ""
  teardown := exited true "" ""
  create := allSucceed
  now := now
  done := now

def wg0Started : TunnelManager :=
  run Tunnels.step .new [.addConfig wg0, .startAutoConnect (fun _ => allSucceed) (.id _)]

theorem wg0_justStarted : JustStarted wg0Started "wg0" wg0 := by
  refine ⟨?_, rfl, rfl, rfl, by decide +kernel, by decide +kernel⟩
  exact run_keeps filed_new filed_step _

/-- A check every second: the second attempt comes a second after the first. -/
def everySecond : List Check :=
  [⟨fun _ => unanswered (10 * 10 ^ 9), .id _⟩, ⟨fun _ => unanswered (11 * 10 ^ 9), .id _⟩]

theorem no_backoff_unanswered :
    JustStarted wg0Started "wg0" wg0 ∧
    ¬ EachStep (step "wg0") ⟨wg0Started, []⟩ everySecond
      (fun _ w check => KeepsDistance "wg0" w check) := by
  refine ⟨wg0_justStarted, ?_⟩
  intro h
  have hone : (run (step "wg0") ⟨wg0Started, []⟩ (everySecond.take 1)).streak.map (·.now) =
      [10 * 10 ^ 9] := by decide +kernel
  obtain ⟨last, hstreak, hnow⟩ := List.map_eq_singleton_iff.mp hone
  have hkeeps := h (everySecond.take 1) ⟨fun _ => unanswered (11 * 10 ^ 9), .id _⟩ [] rfl
    (by decide +kernel) last [] hstreak
  rw [hstreak, hnow] at hkeeps
  have hsoon : ¬ 10 * 10 ^ 9 + backoff 1 ≤ 11 * 10 ^ 9 := by decide
  exact hsoon hkeeps

theorem backs_off_iff_wg0 :
    EachStep (step "wg0") ⟨wg0Started, []⟩ everySecond
        (fun _ w check => KeepsDistance "wg0" w check) ↔
      EachStep (step "wg0") ⟨wg0Started, []⟩ everySecond
        (fun _ w check => OutsideWindow "wg0" w check) :=
  backs_off_iff "wg0" wg0 wg0Started wg0_justStarted everySecond

end Netfusion.Core.ReconnectBackoff
