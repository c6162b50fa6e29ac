import Netfusion.Core.Tunnels

namespace Netfusion.Core.Reconnect

open Netfusion.Lib.Collections Netfusion.Lib.Machine
open Netfusion.Shared.Config
open Netfusion.Core.Command Netfusion.Core.WireGuard Netfusion.Core.Tunnels

/-- Every configuration is filed under its own name. -/
def Filed (m : TunnelManager) : Prop :=
  ∀ name config, m.configs.lookup name = some config → config.name = name

structure SameAt (name : String) (m m' : TunnelManager) : Prop where
  tunnel : m'.wgTunnels.lookup name = m.wgTunnels.lookup name
  info : reconnectInfo m' name = reconnectInfo m name
  configs : m'.configs = m.configs

theorem SameAt.refl (name : String) (m : TunnelManager) : SameAt name m m := ⟨rfl, rfl, rfl⟩

theorem SameAt.trans {name : String} {a b c : TunnelManager} (hab : SameAt name a b)
    (hbc : SameAt name b c) : SameAt name a c :=
  ⟨hbc.tunnel.trans hab.tunnel, hbc.info.trans hab.info, hbc.configs.trans hab.configs⟩

theorem filed_of_configs {m m' : TunnelManager} (h : m'.configs = m.configs) (hm : Filed m) :
    Filed m' := by
  intro name config hc
  exact hm name config (h ▸ hc)

theorem setReconnect_other (m : TunnelManager) {name other : String} (h : other ≠ name)
    (info : ReconnectInfo) : SameAt name m (setReconnect m other info) :=
  ⟨rfl, by simp [reconnectInfo, setReconnect, AList.lookup_insert_ne (Ne.symm h)], rfl⟩

theorem startTunnelBlocking_other (m : TunnelManager) {name : String} (config : TunnelConfig)
    (h : config.name ≠ name) (commands : CreateCommands) :
    SameAt name m (startTunnelBlocking m config commands).2 := by
  rw [startTunnelBlocking]
  split
  · exact .refl name m
  · exact ⟨AList.lookup_insert_ne (Ne.symm h), rfl, rfl⟩

theorem dropTunnel_other (m : TunnelManager) {name other : String} (h : other ≠ name) :
    SameAt name m (dropTunnel m other) :=
  ⟨AList.lookup_erase_ne (Ne.symm h), rfl, rfl⟩

theorem attemptReconnect_other (m : TunnelManager) {name other : String} (h : other ≠ name)
    (config : TunnelConfig) (hname : config.name = other) (c : Circumstances) :
    SameAt name m (attemptReconnect m other config c).2 := by
  have hset := setReconnect_other m h
    { nextDelay (reconnectInfo m other) with lastAttempt := some c.now }
  have hstart := (hset.trans (dropTunnel_other _ h)).trans
    (startTunnelBlocking_other _ config (hname ▸ h) c.create)
  rw [attemptReconnect]
  simp only
  split
  · rename_i heq
    rwa [heq] at hstart
  · rename_i heq
    rw [heq] at hstart
    exact hstart.trans (setReconnect_other _ h _)

def Attempts (m : TunnelManager) (name : String) (now : Nat) (config : TunnelConfig) : Prop :=
  shouldReconnect (reconnectInfo m name) now = true ∧ m.configs.lookup name = some config ∧
  config.autoReconnect = true

/-- All that a try can do: it only notes the reconnect state of the tunnel, or
it attempts the reconnect that its configuration asks for. -/
theorem tryReconnect_cases (m : TunnelManager) (name : String) (c : Circumstances) :
    ((∀ config, ¬ Attempts m name c.now config) ∧
      tryReconnect m name c = (none, setReconnect m name (reconnectInfo m name))) ∨
    ∃ config, Attempts m name c.now config ∧
      tryReconnect m name c =
        (attemptReconnect (setReconnect m name (reconnectInfo m name)) name config c).map
          some id := by
  by_cases hdelay : shouldReconnect (reconnectInfo m name) c.now = true
  · cases hconfig : m.configs.lookup name with
    | none =>
      refine .inl ⟨fun config h => ?_, ?_⟩
      · cases hconfig.symm.trans h.2.1
      · simp [tryReconnect, setReconnect, hdelay, hconfig]
    | some config =>
      by_cases hauto : config.autoReconnect = true
      · refine .inr ⟨config, ⟨hdelay, hconfig, hauto⟩, ?_⟩
        simp [tryReconnect, setReconnect, hdelay, hconfig, hauto, Prod.map]
      · refine .inl ⟨fun other h => ?_, ?_⟩
        · cases hconfig.symm.trans h.2.1
          exact hauto h.2.2
        · simp [tryReconnect, setReconnect, hdelay, hconfig, hauto]
  · refine .inl ⟨fun config h => hdelay h.1, ?_⟩
    simp [tryReconnect, hdelay]

theorem tryReconnect_other (m : TunnelManager) (hm : Filed m) {name other : String}
    (h : other ≠ name) (c : Circumstances) : SameAt name m (tryReconnect m other c).2 := by
  have hset := setReconnect_other m h (reconnectInfo m other)
  obtain ⟨-, htry⟩ | ⟨config, hattempts, htry⟩ := tryReconnect_cases m other c
  · rw [htry]
    exact hset
  · rw [htry]
    apply hset.trans
    exact attemptReconnect_other _ h config (hm other config hattempts.2.1) c

theorem attemptReconnect_own (m : TunnelManager) (name : String) (config : TunnelConfig)
    (hname : config.name = name) (c : Circumstances) :
    ((attemptReconnect m name config c).2.wgTunnels.lookup name).isSome = true ↔
      ∃ tunnel, recreate config c.create = .ok tunnel := by
  subst hname
  rw [attemptReconnect, startTunnelBlocking]
  cases h : recreate config c.create with
  | error e => simp [dropTunnel]
  | ok tunnel => simp [setReconnect]

theorem attemptReconnect_configs (m : TunnelManager) (name : String) (config : TunnelConfig)
    (c : Circumstances) : (attemptReconnect m name config c).2.configs = m.configs := by
  simp only [attemptReconnect, startTunnelBlocking]
  cases recreate config c.create with
  | error e => rfl
  | ok tunnel => rfl

theorem tryReconnect_attempts (m : TunnelManager) (hm : Filed m) (name : String) (c : Circumstances)
    {config : TunnelConfig} (h : Attempts m name c.now config) :
    (∃ result, (tryReconnect m name c).1 = some result) ∧
    (((tryReconnect m name c).2.wgTunnels.lookup name).isSome = true ↔
      ∃ tunnel, recreate config c.create = .ok tunnel) := by
  obtain ⟨hidle, -⟩ | ⟨other, hother, htry⟩ := tryReconnect_cases m name c
  · exact absurd h (hidle config)
  · cases hother.2.1.symm.trans h.2.1
    rw [htry]
    exact ⟨⟨_, rfl⟩, attemptReconnect_own _ name config (hm name config h.2.1) c⟩

theorem tryReconnect_idle (m : TunnelManager) (name : String) (c : Circumstances)
    (h : ∀ config, ¬ Attempts m name c.now config) :
    (tryReconnect m name c).2.wgTunnels = m.wgTunnels := by
  obtain ⟨-, htry⟩ | ⟨config, hattempts, -⟩ := tryReconnect_cases m name c
  · rw [htry]
    rfl
  · exact absurd hattempts (h config)

theorem tryReconnect_configs (m : TunnelManager) (name : String) (c : Circumstances) :
    (tryReconnect m name c).2.configs = m.configs := by
  obtain ⟨-, htry⟩ | ⟨config, -, htry⟩ := tryReconnect_cases m name c
  · rw [htry]
    rfl
  · rw [htry]
    exact attemptReconnect_configs _ name config c

theorem reconnectAll_absent (c : String → Circumstances) {name : String} {names : List String}
    (hname : name ∉ names) (m : TunnelManager) (hm : Filed m) :
    SameAt name m (reconnectAll m c names).2 ∧
    ∀ result, .attempted name result ∉ (reconnectAll m c names).1 := by
  induction names generalizing m with
  | nil => exact ⟨.refl name m, by simp [reconnectAll]⟩
  | cons other rest ih =>
    obtain ⟨hne, hrest⟩ : name ≠ other ∧ name ∉ rest :=
      not_or.mp (fun h => hname (List.mem_cons.mpr h))
    have hfiled := filed_of_configs (tryReconnect_configs m other (c other)) hm
    obtain ⟨hsame, hnone⟩ := ih hrest (tryReconnect m other (c other)).2 hfiled
    refine ⟨(tryReconnect_other m hm (Ne.symm hne) (c other)).trans hsame, fun result hmem => ?_⟩
    rcases List.mem_append.mp hmem with hmem | hmem
    · obtain ⟨r, -, hr⟩ := List.mem_map.mp hmem
      injection hr with hother
      exact hne hother.symm
    · exact hnone result hmem

theorem reconnectAll_present (c : String → Circumstances) {name : String} {names : List String}
    (hnodup : names.Nodup) (hname : name ∈ names) (m : TunnelManager) (hm : Filed m) :
    ∃ m', SameAt name m m' ∧
      SameAt name (tryReconnect m' name (c name)).2 (reconnectAll m c names).2 ∧
      ∀ result, .attempted name result ∈ (reconnectAll m c names).1 ↔
        (tryReconnect m' name (c name)).1 = some result := by
  induction names generalizing m with
  | nil => cases hname
  | cons other rest ih =>
    obtain ⟨hnot, hrest⟩ := List.nodup_cons.mp hnodup
    have hfiled := filed_of_configs (tryReconnect_configs m other (c other)) hm
    by_cases heq : other = name
    · subst heq
      obtain ⟨hsame, hnone⟩ := reconnectAll_absent c hnot (tryReconnect m other (c other)).2 hfiled
      refine ⟨m, .refl other m, hsame, fun result => ?_⟩
      simp [reconnectAll, hnone result]
    · have hmem : name ∈ rest := (List.mem_cons.mp hname).resolve_left (Ne.symm heq)
      obtain ⟨m', hbefore, hafter, hattempt⟩ :=
        ih hrest hmem (tryReconnect m other (c other)).2 hfiled
      refine ⟨m', (tryReconnect_other m hm heq (c other)).trans hbefore, hafter, fun result => ?_⟩
      rw [← hattempt result]
      simp [reconnectAll, heq]

/-- A check finds the tunnel unhealthy and is to attempt a reconnect. -/
def Due (m : TunnelManager) (name : String) (c : Circumstances) (config : TunnelConfig) : Prop :=
  (∃ tunnel, m.wgTunnels.lookup name = some tunnel ∧ healthy tunnel c = false) ∧
  Attempts m name c.now config

theorem attempts_of_sameAt {name : String} {m m' : TunnelManager} (h : SameAt name m m') (now : Nat)
    (config : TunnelConfig) : Attempts m' name now config ↔ Attempts m name now config := by
  rw [Attempts, Attempts, h.info, h.configs]

def unhealthyNames (m : TunnelManager) (c : String → Circumstances) (order : Shuffle TunnelEntry) :
    List String :=
  ((order.run m.wgTunnels.entries).filter (fun e => !healthy e.2 (c e.1))).map Sigma.fst

theorem unhealthyNames_nodup (m : TunnelManager) (c : String → Circumstances)
    (order : Shuffle TunnelEntry) : (unhealthyNames m c order).Nodup := by
  have hkeys := shuffle_keys_nodup order m.wgTunnels
  exact (List.filter_sublist.map Sigma.fst).nodup hkeys

theorem mem_unhealthyNames (m : TunnelManager) (c : String → Circumstances)
    (order : Shuffle TunnelEntry) (name : String) :
    name ∈ unhealthyNames m c order ↔
      ∃ tunnel, m.wgTunnels.lookup name = some tunnel ∧ healthy tunnel (c name) = false := by
  simp only [unhealthyNames, List.mem_map, List.mem_filter, Bool.not_eq_true']
  constructor
  · rintro ⟨⟨_, tunnel⟩, ⟨hmem, hsick⟩, rfl⟩
    exact ⟨tunnel, (mem_shuffle_entries order m.wgTunnels _ tunnel).mp hmem, hsick⟩
  · rintro ⟨tunnel, hlookup, hsick⟩
    exact ⟨⟨name, tunnel⟩,
      ⟨(mem_shuffle_entries order m.wgTunnels name tunnel).mpr hlookup, hsick⟩, rfl⟩

theorem checkHealth_turn (m : TunnelManager) (hm : Filed m) (c : String → Circumstances)
    (order : Shuffle TunnelEntry) (name : String) {config : TunnelConfig}
    (h : Due m name (c name) config) :
    ∃ m', Filed m' ∧ Attempts m' name (c name).now config ∧
      SameAt name (tryReconnect m' name (c name)).2 (checkHealth m c order).2 ∧
      ∀ result, .attempted name result ∈ (checkHealth m c order).1 ↔
        (tryReconnect m' name (c name)).1 = some result := by
  obtain ⟨hsick, hattempts⟩ := h
  obtain ⟨m', hbefore, hafter, hmem⟩ := reconnectAll_present c (unhealthyNames_nodup m c order)
    ((mem_unhealthyNames m c order name).mpr hsick)
    { m with healthScores := scored m.healthScores c (order.run m.wgTunnels.entries) } hm
  exact ⟨m', filed_of_configs hbefore.configs hm,
    (attempts_of_sameAt hbefore _ config).mpr hattempts, hafter, hmem⟩

theorem checkHealth_due (m : TunnelManager) (hm : Filed m) (c : String → Circumstances)
    (order : Shuffle TunnelEntry) (name : String) {config : TunnelConfig}
    (h : Due m name (c name) config) :
    (∃ result, .attempted name result ∈ (checkHealth m c order).1) ∧
    (((checkHealth m c order).2.wgTunnels.lookup name).isSome = true ↔
      ∃ tunnel, recreate config (c name).create = .ok tunnel) := by
  obtain ⟨m', hfiled, hattempts, hafter, hmem⟩ := checkHealth_turn m hm c order name h
  obtain ⟨⟨result, hresult⟩, hkept⟩ := tryReconnect_attempts m' hfiled name (c name) hattempts
  refine ⟨⟨result, (hmem result).mpr hresult⟩, ?_⟩
  rw [← hkept, ← hafter.tunnel]

theorem checkHealth_notDue (m : TunnelManager) (hm : Filed m) (c : String → Circumstances)
    (order : Shuffle TunnelEntry) (name : String) (h : ∀ config, ¬ Due m name (c name) config) :
    (checkHealth m c order).2.wgTunnels.lookup name = m.wgTunnels.lookup name := by
  by_cases hsick : name ∈ unhealthyNames m c order
  · obtain ⟨m', hbefore, hafter, -⟩ := reconnectAll_present c (unhealthyNames_nodup m c order) hsick
      { m with healthScores := scored m.healthScores c (order.run m.wgTunnels.entries) } hm
    have hidle := tryReconnect_idle m' name (c name) (fun config ha =>
      h config ⟨(mem_unhealthyNames m c order name).mp hsick,
        (attempts_of_sameAt hbefore _ config).mp ha⟩)
    exact hafter.tunnel.trans ((congrArg (AList.lookup name) hidle).trans hbefore.tunnel)
  · exact (reconnectAll_absent c hsick
      { m with healthScores := scored m.healthScores c (order.run m.wgTunnels.entries) } hm).1.tunnel

theorem reconnectAll_configs (c : String → Circumstances) (names : List String) (m : TunnelManager) :
    (reconnectAll m c names).2.configs = m.configs := by
  induction names generalizing m with
  | nil => rfl
  | cons name rest ih => exact (ih _).trans (tryReconnect_configs m name (c name))

theorem checkHealth_configs (m : TunnelManager) (c : String → Circumstances)
    (order : Shuffle TunnelEntry) : (checkHealth m c order).2.configs = m.configs :=
  reconnectAll_configs c _ _

theorem checkHealth_happenings (m : TunnelManager) (c : String → Circumstances)
    (order : Shuffle TunnelEntry) :
    ∀ h ∈ (checkHealth m c order).1, ∃ name result, h = .attempted name result := by
  have hall : ∀ names m, ∀ h ∈ (reconnectAll m c names).1, ∃ name result,
      h = .attempted name result := by
    intro names
    induction names with
    | nil => simp [reconnectAll]
    | cons name rest ih =>
      intro m h hmem
      rcases List.mem_append.mp hmem with hmem | hmem
      · obtain ⟨result, -, rfl⟩ := List.mem_map.mp hmem
        exact ⟨name, result, rfl⟩
      · exact ih _ h hmem
  exact hall _ _

def running (name : String) (before : Bool) : Happening → Bool
  | .started config (.ok _) =>
    if config.name = name ∧ config.type = .wireGuard then true else before
  | .started _ (.error _) => before
  | .removed other => if other = name then false else before
  | .attempted _ _ => before

def Owed (name : String) (os : List (List Happening)) : Prop :=
  os.flatten.foldl (running name) false = true

theorem owed_concat (name : String) (os : List (List Happening)) (o : List Happening) :
    Owed name (os ++ [o]) ↔
      o.foldl (running name) (os.flatten.foldl (running name) false) = true := by
  simp [Owed]

theorem foldl_running_attempts (name : String) (o : List Happening) (before : Bool)
    (h : ∀ x ∈ o, ∃ other result, x = .attempted other result) :
    o.foldl (running name) before = before := by
  induction o with
  | nil => rfl
  | cons x rest ih =>
    obtain ⟨other, result, rfl⟩ := h x (by simp)
    exact ih (fun y hy => h y (List.mem_cons_of_mem _ hy))

theorem startTunnel_configs (m : TunnelManager) (config : TunnelConfig) (commands : CreateCommands) :
    (startTunnel m config commands).2.configs = m.configs := by
  rw [startTunnel, startWireguard]
  split
  · split <;> rfl
  · rfl

theorem startTunnel_keeps (m : TunnelManager) (config : TunnelConfig) (commands : CreateCommands)
    (name : String) {before : Bool} (h : before = true → (m.wgTunnels.lookup name).isSome = true) :
    running name before (.started config (startTunnel m config commands).1) = true →
      ((startTunnel m config commands).2.wgTunnels.lookup name).isSome = true := by
  rw [startTunnel, startWireguard]
  split
  · rename_i htype
    cases createTunnel config commands with
    | error e => exact h
    | ok tunnel =>
      intro hrunning
      simp only [lookup_insert_eq]
      split
      · rfl
      · rename_i hne
        simp only [running, Ne.symm hne, false_and, if_false] at hrunning
        exact h hrunning
  · rename_i htype
    intro hrunning
    rw [running, if_neg (fun hc => htype hc.2)] at hrunning
    exact h hrunning

theorem startAll_configs (commands : String → CreateCommands) (configs : List TunnelConfig)
    (m : TunnelManager) : (startAll m commands configs).2.configs = m.configs := by
  induction configs generalizing m with
  | nil => rfl
  | cons config rest ih => exact (ih _).trans (startTunnel_configs m config (commands config.name))

theorem startAll_keeps (commands : String → CreateCommands) (configs : List TunnelConfig)
    (name : String) (m : TunnelManager) (before : Bool)
    (h : before = true → (m.wgTunnels.lookup name).isSome = true) :
    (startAll m commands configs).1.foldl (running name) before = true →
      ((startAll m commands configs).2.wgTunnels.lookup name).isSome = true := by
  induction configs generalizing m before with
  | nil => exact h
  | cons config rest ih =>
    exact ih _ _ (startTunnel_keeps m config (commands config.name) name h)

theorem removeTunnel_other (m : TunnelManager) {name other : String} (h : other ≠ name)
    (result : CommandOutput) :
    (removeTunnel m other result).2.wgTunnels.lookup name = m.wgTunnels.lookup name := by
  rw [removeTunnel]
  simp only
  split
  · rfl
  · split <;> exact AList.lookup_erase_ne (Ne.symm h)

theorem filed_step (m : TunnelManager) (op : Op) (hm : Filed m) : Filed (step m op).2 := by
  cases op with
  | addConfig config =>
    exact insert_keeps rfl hm
  | startAutoConnect commands order => exact filed_of_configs (startAll_configs commands _ m) hm
  | checkHealth c order => exact filed_of_configs (checkHealth_configs m c order) hm
  | removeTunnel name teardown =>
    have herase : ∀ other config, (m.configs.erase name).lookup other = some config →
        config.name = other := erase_keeps hm
    simp only [step, removeTunnel]
    split
    · exact herase
    · split
      · exact hm
      · exact herase

theorem recreate_ok_iff (config : TunnelConfig) (commands : CreateCommands) :
    (∃ tunnel, recreate config commands = .ok tunnel) ↔
      config.type = .wireGuard ∧ CreationSucceeds config commands := by
  rw [← createTunnel_ok_iff]
  rw [recreate]
  split <;> simp_all

/-- Whenever a check is to attempt a reconnect of the tunnel, its configuration
is one of a WireGuard tunnel and every command of the creation succeeds. -/
def ReconnectsSucceed (name : String) (os : List (List Happening)) (m : TunnelManager) (op : Op) :
    Prop :=
  ∀ c order config, op = .checkHealth c order → Owed name os → Due m name (c name) config →
    config.type = .wireGuard ∧ CreationSucceeds config (c name).create

def Watched (name : String) (os : List (List Happening)) (m : TunnelManager) : Prop :=
  Owed name os → (m.wgTunnels.lookup name).isSome = true

theorem watched_step (name : String) (os : List (List Happening)) (m : TunnelManager) (op : Op)
    (hop : ReconnectsSucceed name os m op) (hm : Filed m) (h : Watched name os m) :
    Watched name (os ++ [(step m op).1]) (step m op).2 := by
  rw [Watched, owed_concat]
  cases op with
  | addConfig config => exact h
  | startAutoConnect commands order => exact startAll_keeps commands _ name m _ h
  | removeTunnel other teardown =>
    intro howed
    simp only [step, List.foldl_cons, List.foldl_nil, running] at howed ⊢
    split at howed
    · cases howed
    · rename_i hne
      rw [removeTunnel_other m hne teardown]
      exact h howed
  | checkHealth c order =>
    rw [step, foldl_running_attempts name _ _ (checkHealth_happenings m c order)]
    intro howed
    by_cases hdue : ∃ config, Due m name (c name) config
    · obtain ⟨config, hdue⟩ := hdue
      exact (checkHealth_due m hm c order name hdue).2.mpr
        ((recreate_ok_iff config _).mpr (hop c order config rfl howed hdue))
    · have hsame := checkHealth_notDue m hm c order name (not_exists.mp hdue)
      exact (congrArg Option.isSome hsame).trans (h howed)

/-- A tunnel stays watched exactly when no reconnect that is due fails. -/
theorem watched_step_iff (name : String) (os : List (List Happening)) (m : TunnelManager) (op : Op)
    (hm : Filed m) (h : Watched name os m) :
    Watched name (os ++ [(step m op).1]) (step m op).2 ↔ ReconnectsSucceed name os m op := by
  constructor
  · rintro hnext c order config rfl howed hdue
    rw [Watched, owed_concat, step,
      foldl_running_attempts name _ _ (checkHealth_happenings _ c order)] at hnext
    exact (recreate_ok_iff config _).mp ((checkHealth_due _ hm c order name hdue).2.mp (hnext howed))
  · intro hop
    exact watched_step name os m op hop hm h

/-- The tunnel is not held, or is found without its link or a handshake. -/
def FoundDown (m : TunnelManager) (name : String) (c : Circumstances) : Prop :=
  ∀ tunnel, m.wgTunnels.lookup name = some tunnel → healthy tunnel c = false

/-- A check that finds the tunnel down, with its delay over and reconnects
asked for, makes an attempt. -/
def AttemptsWhenDown (name : String) (os : List (List Happening)) (m : TunnelManager) (op : Op) :
    Prop :=
  ∀ c order config, op = .checkHealth c order → Owed name os → FoundDown m name (c name) →
    Attempts m name (c name).now config → ∃ result, .attempted name result ∈ (step m op).1

/-- From its start to its removal the tunnel is held in every state, and every
check that finds it down makes an attempt when it is time. -/
def NeverAbandoned (name : String) (ops : List Op) : Prop :=
  (∀ pre post, ops = pre ++ post →
    Watched name (outputs step TunnelManager.new pre) (run step TunnelManager.new pre)) ∧
  EachStep step TunnelManager.new ops (AttemptsWhenDown name)

theorem filed_new : Filed TunnelManager.new := by
  intro name config h
  cases h

theorem attemptsWhenDown_of_watched (name : String) (os : List (List Happening)) (m : TunnelManager)
    (op : Op) (hm : Filed m) (h : Watched name os m) : AttemptsWhenDown name os m op := by
  rintro c order config rfl howed hdown hattempts
  obtain ⟨tunnel, htunnel⟩ := Option.isSome_iff_exists.mp (h howed)
  exact (checkHealth_due m hm c order name ⟨⟨tunnel, htunnel, hdown tunnel htunnel⟩, hattempts⟩).1

/-- In every run, a tunnel is never abandoned exactly when every reconnect
that is attempted for it succeeds. -/
theorem never_abandoned_iff (name : String) (ops : List Op) :
    NeverAbandoned name ops ↔
      EachStep step TunnelManager.new ops (ReconnectsSucceed name) := by
  have hfiled : ∀ pre, Filed (run step TunnelManager.new pre) := run_keeps filed_new filed_step
  have halways : (∀ pre post, ops = pre ++ post →
      Filed (run step TunnelManager.new pre) ∧
      Watched name (outputs step TunnelManager.new pre) (run step TunnelManager.new pre)) ↔
        EachStep step TunnelManager.new ops (ReconnectsSucceed name) := by
    apply always_iff (I := fun os m => Filed m ∧ Watched name os m)
    · exact ⟨filed_new, fun howed => by cases howed⟩
    · rintro os m op ⟨hm, h⟩
      rw [and_iff_right (filed_step m op hm)]
      exact watched_step_iff name os m op hm h
  rw [← halways]
  constructor
  · rintro ⟨hwatched, -⟩ pre post he
    exact ⟨hfiled pre, hwatched pre post he⟩
  · intro h
    constructor
    · exact fun pre post he => (h pre post he).2
    · intro pre op post he
      obtain ⟨hm, hwatched⟩ := h pre (op :: post) he
      exact attemptsWhenDown_of_watched name _ _ op hm hwatched

def wg0 : TunnelConfig where
  name := "wg0"
  type := .wireGuard
  remote := "vpn.example.com:51820"
  localBind := none
  authRef := none
  options := ((∅ : HashMap String String).insert "private_key" "a").insert "public_key" "b"
    |>.insert "tunnel_address" "10.0.0.2/24"
  autoConnect := true
  autoReconnect := true
  reconnectIntervalSecs := 10

def allSucceed : CreateCommands :=
  ⟨exited true "" "", .ok (), exited true "" "", exited true "" "", exited true "" "",
    exited true "" ""⟩

/-- The link is gone, and creating it again is refused. -/
def linkRefused : Circumstances where
  shown := exited false "" "Device \"wg0\" does not exist."
  handshakes := exited false "" "Unable to access interface: No such device"
  teardown := exited false "" "Cannot find device \"wg0\""
  create := { allSucceed with
    addLink := exited false "" "RTNETLINK answers: Operation not permitted" }
  now := 10 * 10 ^ 9
  done := 10 * 10 ^ 9

def startAndLose : List Op :=
  [.addConfig wg0, .startAutoConnect (fun _ => allSucceed) (.id _),
    .checkHealth (fun _ => linkRefused) (.id _)]

/-- One failed attempt, and no check looks at the tunnel any more. -/
theorem dropped_after_failed_attempt : ¬ NeverAbandoned "wg0" startAndLose := by
  rintro ⟨hwatched, -⟩
  have howed : Owed "wg0" (outputs step TunnelManager.new startAndLose) := by
    rw [Owed]
    decide +kernel
  have hlost : (run step TunnelManager.new startAndLose).wgTunnels.lookup "wg0" = none := by
    decide +kernel
  have hheld := hwatched startAndLose [] rfl howed
  rw [hlost] at hheld
  cases hheld

end Netfusion.Core.Reconnect
