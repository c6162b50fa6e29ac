import Netfusion.Core.Reconnect
import Netfusion.Core.WireGuardReports
import Netfusion.Shared.Types

namespace Netfusion.Core.TunnelStates

open Netfusion.Lib.Collections Netfusion.Lib.Fallible Netfusion.Lib.Machine Netfusion.Lib.Text
open Netfusion.Shared.Config Netfusion.Shared.Types
open Netfusion.Core.Command Netfusion.Core.WireGuard Netfusion.Core.WireGuardReports
open Netfusion.Core.Tunnels Netfusion.Core.Reconnect

/-- What the commands show of a tunnel when its state is asked for, and the time. -/
structure Look where
  shown : CommandOutput
  transfer : CommandOutput
  now : DateTime

def stateOf (m : TunnelManager) (look : Look) (name : String) (config : TunnelConfig) :
    TunnelState :=
  let tunnel := m.wgTunnels.lookup name
  let connected := (tunnel.map (fun t => isOperational t look.shown)).getD false
  let (rxBytes, txBytes) :=
    (tunnel.bind (fun _ => (getTransferBytes look.transfer).toOption)).getD (0, 0)
  { name := name
    connected := connected
    remote := config.remote
    interface := tunnel.map (fun _ => name)
    connectedSince := if connected then some look.now else none
    txBytes := txBytes
    rxBytes := rxBytes
    reconnectCount := ((m.reconnectState.lookup name).map ReconnectInfo.attempts).getD 0
    lastError := none }

def getStates (m : TunnelManager) (look : String → Look) (order : Shuffle ConfigEntry) :
    List TunnelState :=
  (order.run m.configs.entries).map (fun e => stateOf m (look e.1) e.1 e.2)

def Fresh (info : ReconnectInfo) : Prop := info.attempts = 0 ∧ info.currentDelay = 10 ^ 9

def Spent (info : ReconnectInfo) : Prop := info.attempts = 1 ∧ info.currentDelay = 2 * 10 ^ 9

/-- A tunnel that is held was created under its name and has lost no reconnect;
one that is not may have lost a single one. -/
structure Stands (m : TunnelManager) (name : String) : Prop where
  created : ∀ tunnel, m.wgTunnels.lookup name = some tunnel →
    tunnel.config.interface = name ∧ tunnel.isUp = true
  tried : Fresh (reconnectInfo m name) ∨
    Spent (reconnectInfo m name) ∧ m.wgTunnels.lookup name = none

theorem create_ok {t created : WireGuardTunnel} {commands : CreateCommands}
    (h : create t commands = .ok created) : created = { t with isUp := true } := by
  rw [create] at h
  obtain ⟨_, -, h⟩ := bind_ok_iff.mp h
  obtain ⟨_, -, h⟩ := bind_ok_iff.mp h
  by_cases hport : t.config.listenPort.isSome = true
  · simp only [hport, if_true, bind_ok_iff] at h
    obtain ⟨_, -, _, -, _, -, _, -, h⟩ := h
    exact (Except.ok.inj h).symm
  · simp only [hport, Bool.false_eq_true, if_false, bind_ok_iff] at h
    obtain ⟨_, -, _, -, _, -, h⟩ := h
    exact (Except.ok.inj h).symm

theorem createTunnel_created {config : TunnelConfig} {commands : CreateCommands}
    {tunnel : WireGuardTunnel} (h : createTunnel config commands = .ok tunnel) :
    tunnel.config.interface = config.name ∧ tunnel.isUp = true := by
  obtain ⟨wg, hwg, hcreate⟩ := bind_ok_iff.mp h
  obtain ⟨privateKey, -, hwg⟩ := bind_ok_iff.mp hwg
  obtain ⟨publicKey, -, hwg⟩ := bind_ok_iff.mp hwg
  obtain ⟨address, -, hwg⟩ := bind_ok_iff.mp hwg
  cases hwg
  rw [create_ok hcreate]
  exact ⟨rfl, rfl⟩

theorem recreate_created {config : TunnelConfig} {commands : CreateCommands}
    {tunnel : WireGuardTunnel} (h : recreate config commands = .ok tunnel) :
    tunnel.config.interface = config.name ∧ tunnel.isUp = true := by
  rw [recreate] at h
  split at h
  · exact createTunnel_created h
  · cases h

theorem stands_of_sameAt {name : String} {m m' : TunnelManager} (h : SameAt name m m')
    (hm : Stands m name) : Stands m' name := by
  refine ⟨?_, ?_⟩
  · rw [h.tunnel]
    exact hm.created
  · rw [h.info, h.tunnel]
    exact hm.tried

theorem fresh_new : Fresh .new := ⟨rfl, rfl⟩

theorem fresh_of_held {m : TunnelManager} {name : String} (h : Stands m name)
    (hheld : (m.wgTunnels.lookup name).isSome = true) : Fresh (reconnectInfo m name) := by
  rcases h.tried with hfresh | ⟨-, hnone⟩
  · exact hfresh
  · rw [hnone] at hheld
    cases hheld

theorem attemptReconnect_stands (m : TunnelManager) (name : String) (config : TunnelConfig)
    (hname : config.name = name) (c : Circumstances) (h : Fresh (reconnectInfo m name)) :
    Stands (attemptReconnect m name config c).2 name := by
  obtain ⟨hattempts, hdelay⟩ := h
  simp only [attemptReconnect, startTunnelBlocking]
  cases hcreated : recreate config c.create with
  | error e =>
    refine ⟨?_, .inr ⟨?_, ?_⟩⟩
    · intro tunnel htunnel
      simp [dropTunnel] at htunnel
    · have hinfo : ∀ info,
          reconnectInfo (dropTunnel (setReconnect m name info) name) name = info := by
        simp [reconnectInfo, dropTunnel, setReconnect]
      rw [hinfo]
      constructor
      · simp [nextDelay, hattempts]
      · simp [nextDelay, hdelay, maxReconnectDelay]
    · simp [dropTunnel]
  | ok tunnel =>
    refine ⟨?_, .inl ?_⟩
    · intro other hother
      simp only [setReconnect, hname, AList.lookup_insert] at hother
      cases hother
      exact hname ▸ recreate_created hcreated
    · simp [reconnectInfo, setReconnect, resetInfo, Fresh]

theorem tryReconnect_stands (m : TunnelManager) (hm : Filed m) (name : String) (c : Circumstances)
    (h : Stands m name) (hheld : (m.wgTunnels.lookup name).isSome = true) :
    Stands (tryReconnect m name c).2 name := by
  have hset : SameAt name m (setReconnect m name (reconnectInfo m name)) :=
    ⟨rfl, by simp [reconnectInfo, setReconnect], rfl⟩
  obtain ⟨-, htry⟩ | ⟨config, hattempts, htry⟩ := tryReconnect_cases m name c
  · rw [htry]
    exact stands_of_sameAt hset h
  · rw [htry]
    apply attemptReconnect_stands _ name config (hm name config hattempts.2.1) c
    rw [hset.info]
    exact fresh_of_held h hheld

theorem checkHealth_stands (m : TunnelManager) (hm : Filed m) (c : String → Circumstances)
    (order : Shuffle TunnelEntry) (name : String) (h : Stands m name) :
    Stands (checkHealth m c order).2 name := by
  by_cases hsick : name ∈ unhealthyNames m c order
  · obtain ⟨m', hbefore, hafter, -⟩ := reconnectAll_present c (unhealthyNames_nodup m c order) hsick
      { m with healthScores := scored m.healthScores c (order.run m.wgTunnels.entries) } hm
    have hm' : Stands m' name := stands_of_sameAt hbefore ⟨h.created, h.tried⟩
    obtain ⟨tunnel, htunnel, -⟩ := (mem_unhealthyNames m c order name).mp hsick
    have hheld : (m'.wgTunnels.lookup name).isSome = true := by
      rw [hbefore.tunnel]
      exact Option.isSome_of_eq_some htunnel
    exact stands_of_sameAt hafter
      (tryReconnect_stands m' (filed_of_configs hbefore.configs hm) name (c name) hm' hheld)
  · have hsame := (reconnectAll_absent c hsick
      { m with healthScores := scored m.healthScores c (order.run m.wgTunnels.entries) } hm).1
    exact stands_of_sameAt hsame ⟨h.created, h.tried⟩

theorem startTunnel_stands (m : TunnelManager) (config : TunnelConfig) (commands : CreateCommands)
    (name : String) (h : Stands m name) : Stands (startTunnel m config commands).2 name := by
  rw [startTunnel, startWireguard]
  split
  · cases hcreated : createTunnel config commands with
    | error e => exact h
    | ok tunnel =>
      by_cases hname : name = config.name
      · subst hname
        refine ⟨?_, .inl ?_⟩
        · intro other hother
          simp only [AList.lookup_insert] at hother
          cases hother
          exact createTunnel_created hcreated
        · simp [reconnectInfo, fresh_new]
      · refine ⟨?_, ?_⟩
        · simpa [AList.lookup_insert_ne hname] using h.created
        · simpa [reconnectInfo, AList.lookup_insert_ne hname] using h.tried
  · exact h

theorem startAll_stands (commands : String → CreateCommands) (configs : List TunnelConfig)
    (m : TunnelManager) (name : String) (h : Stands m name) :
    Stands (startAll m commands configs).2 name := by
  induction configs generalizing m with
  | nil => exact h
  | cons config rest ih => exact ih _ (startTunnel_stands m config (commands config.name) name h)

theorem dropTunnel_stands (m : TunnelManager) (name other : String) (h : Stands m name) :
    Stands (dropTunnel m other) name := by
  by_cases hname : name = other
  · subst hname
    refine ⟨?_, ?_⟩
    · intro tunnel htunnel
      simp [dropTunnel] at htunnel
    · rcases h.tried with hfresh | ⟨hspent, -⟩
      · exact .inl hfresh
      · exact .inr ⟨hspent, by simp [dropTunnel]⟩
  · exact stands_of_sameAt (dropTunnel_other m (Ne.symm hname)) h

theorem forget_stands (m : TunnelManager) (name other : String) (h : Stands m name) :
    Stands { m with
      configs := m.configs.erase other
      reconnectState := m.reconnectState.erase other
      healthScores := m.healthScores.erase other } name := by
  refine ⟨h.created, ?_⟩
  by_cases hname : name = other
  · subst hname
    exact .inl (by simp [reconnectInfo, fresh_new])
  · simpa [reconnectInfo, AList.lookup_erase_ne hname] using h.tried

theorem removeTunnel_stands (m : TunnelManager) (name other : String) (result : CommandOutput)
    (h : Stands m name) : Stands (removeTunnel m other result).2 name := by
  have hdropped := dropTunnel_stands m name other h
  simp only [removeTunnel]
  split
  · exact forget_stands m name other h
  · split
    · exact hdropped
    · exact forget_stands (dropTunnel m other) name other hdropped

theorem step_stands (m : TunnelManager) (op : Op) (name : String) (hm : Filed m)
    (h : Stands m name) : Stands (step m op).2 name := by
  cases op with
  | addConfig config => exact ⟨h.created, h.tried⟩
  | startAutoConnect commands order => exact startAll_stands commands _ m name h
  | removeTunnel other teardown => exact removeTunnel_stands m name other teardown h
  | checkHealth c order => exact checkHealth_stands m hm c order name h

theorem run_stands (ops : List Op) (name : String) :
    Stands (run step TunnelManager.new ops) name := by
  have hboth : Filed (run step TunnelManager.new ops) ∧
      Stands (run step TunnelManager.new ops) name := by
    apply run_keeps (I := fun m => Filed m ∧ Stands m name)
    · refine ⟨filed_new, ?_, .inl fresh_new⟩
      intro tunnel htunnel
      cases htunnel
    · rintro m op ⟨hm, h⟩
      exact ⟨filed_step m op hm, step_stands m op name hm h⟩
  exact hboth.2

def LinkUp (shown : CommandOutput) : Prop :=
  ∃ out, shown = .ok out ∧
    (contains out.stdout "state UP" = true ∨ contains out.stdout "UNKNOWN" = true)

/-- The reported state of a tunnel that is held. -/
structure Held (look : Look) (s : TunnelState) : Prop where
  interface : s.interface = some s.name
  connected : s.connected = true ↔ LinkUp look.shown
  bytes : (s.rxBytes, s.txBytes) = (getTransferBytes look.transfer).toOption.getD (0, 0)
  reconnectCount : s.reconnectCount = 0

/-- That of one that was never started, or removed, or lost in its only reconnect. -/
structure NotHeld (s : TunnelState) : Prop where
  interface : s.interface = none
  connected : s.connected = false
  bytes : (s.rxBytes, s.txBytes) = (0, 0)
  reconnectCount : s.reconnectCount = 0 ∨ s.reconnectCount = 1

theorem isOperational_iff (t : WireGuardTunnel) (shown : CommandOutput) (h : t.isUp = true) :
    isOperational t shown = true ↔ LinkUp shown := by
  cases shown with
  | error e => simp [isOperational, LinkUp]
  | ok out => simp [isOperational, LinkUp, h]

theorem reconnectCount_eq (m : TunnelManager) (look : Look) (name : String)
    (config : TunnelConfig) :
    (stateOf m look name config).reconnectCount = (reconnectInfo m name).attempts := by
  rw [stateOf, reconnectInfo]
  cases m.reconnectState.lookup name <;> rfl

theorem stateOf_held {m : TunnelManager} {name : String} (h : Stands m name)
    (hheld : (m.wgTunnels.lookup name).isSome = true) (look : Look) (config : TunnelConfig) :
    Held look (stateOf m look name config) := by
  have hfresh := fresh_of_held h hheld
  obtain ⟨tunnel, htunnel⟩ := Option.isSome_iff_exists.mp hheld
  constructor
  · simp [stateOf, htunnel]
  · rw [← isOperational_iff tunnel look.shown (h.created tunnel htunnel).2]
    simp [stateOf, htunnel]
  · simp [stateOf, htunnel]
  · rw [reconnectCount_eq]
    exact hfresh.1

theorem stateOf_notHeld {m : TunnelManager} {name : String} (h : Stands m name)
    (hnone : m.wgTunnels.lookup name = none) (look : Look) (config : TunnelConfig) :
    NotHeld (stateOf m look name config) := by
  constructor
  · simp [stateOf, hnone]
  · simp [stateOf, hnone]
  · simp [stateOf, hnone]
  · rw [reconnectCount_eq]
    exact h.tried.imp And.left (fun hspent => hspent.1.1)

/-- In every state that the manager reaches each configured tunnel is reported
once, as held or as not held according to the table of tunnels; none ever
counts more than one reconnect, that one only when it is not held, and the delay
never gets past its first doubling. -/
theorem reported_states (ops : List Op) (look : String → Look) (order : Shuffle ConfigEntry) :
    let m := run step TunnelManager.new ops
    ((getStates m look order).map TunnelState.name).Perm m.configs.keys ∧
      (∀ s ∈ getStates m look order,
        ((m.wgTunnels.lookup s.name).isSome = true → Held (look s.name) s) ∧
          (m.wgTunnels.lookup s.name = none → NotHeld s)) ∧
      ∀ name, (reconnectInfo m name).currentDelay ≤ 2 * 10 ^ 9 := by
  intro m
  refine ⟨?_, ?_, ?_⟩
  · have hkeys := (order.perm m.configs.entries).map Sigma.fst
    rw [getStates, List.map_map]
    exact hkeys
  · intro s hs
    obtain ⟨e, -, rfl⟩ := List.mem_map.mp hs
    constructor
    · intro hheld
      exact stateOf_held (run_stands ops e.1) hheld (look e.1) e.2
    · intro hnone
      exact stateOf_notHeld (run_stands ops e.1) hnone (look e.1) e.2
  · intro name
    rcases (run_stands ops name).tried with hfresh | ⟨hspent, -⟩
    · rw [hfresh.2]
      decide
    · exact hspent.2.le

end Netfusion.Core.TunnelStates
