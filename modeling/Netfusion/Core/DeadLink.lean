import Netfusion.Core.SteeringSpec

namespace Netfusion.Core.DeadLink

open Netfusion.Lib.Collections Netfusion.Lib.Machine
open Netfusion.Shared.Config Netfusion.Shared.Types
open Netfusion.Core.Monitoring Netfusion.Core.PathSteering Netfusion.Core.SteeringSpec

/-- The monitor with the steerer subscribed to its updates. -/
structure System where
  monitor : HealthMonitor
  steerer : PathSteerer ℚ

def System.new (overflowChecks : Bool) (monitoring : MonitorConfig) (weights : HealthWeights)
    (steering : SteeringConfig ℚ) : System :=
  ⟨HealthMonitor.new overflowChecks monitoring weights, PathSteerer.new steering⟩

/-- One interface of a round: what the monitor finds, and when and in which
order of the score map the steerer judges the update. -/
structure Entry where
  interface : InterfaceInfo ℚ
  probe : Option (ProbeResult ℚ)
  time : DateTime
  now : Nat
  order : Shuffle (ScoreEntry ℚ)

def Entry.call (e : Entry) : ProbeCall := ⟨e.interface, e.probe, e.time⟩

def published (sys : System) (e : Entry) : Option (HealthUpdate ℚ) :=
  emitted (probeStep sys.monitor e.call).1

def deliver (sys : System) (e : Entry) : Option (SteeringDecision ℚ) × System :=
  let monitor := (probeStep sys.monitor e.call).2
  match published sys e with
  | none => (none, ⟨monitor, sys.steerer⟩)
  | some u =>
    let (decision, steerer) := onHealthUpdate sys.steerer u e.now e.order
    (decision, ⟨monitor, steerer⟩)

def path (sys : System) : Option (PathState ℚ) := assigned sys.steerer

def active (sys : System) : Option String := (path sys).map (·.activeInterface)

theorem path_deliver (sys : System) (e : Entry) :
    path (deliver sys e).2 = match published sys e with
      | none => path sys
      | some u => assigned (onHealthUpdate sys.steerer u e.now e.order).2 := by
  rw [path, deliver]
  split <;> rfl

theorem published_cases (sys : System) (e : Entry) {u : HealthUpdate ℚ}
    (h : published sys e = some u) :
    e.interface.linkState = .up ∧ u.interface = e.interface.name := by
  obtain ⟨hnone, -⟩ | ⟨p, raw, hup, -, -, hstep⟩ :=
    probeInterface_cases sys.monitor e.interface e.probe e.time
  · exact absurd (hnone.symm.trans h) (by simp)
  · rw [published, probeStep, Entry.call, hstep] at h
    cases h
    exact ⟨hup, rfl⟩

theorem active_deliver (sys : System) (e : Entry) {p : PathState ℚ} (hp : path sys = some p) :
    (∃ u x, published sys e = some u ∧ SteersTo sys.steerer u e.now e.order p x ∧
      active (deliver sys e).2 = some x.1) ∨
    ((∀ u x, published sys e = some u → ¬ SteersTo sys.steerer u e.now e.order p x) ∧
      active (deliver sys e).2 = some p.activeInterface) := by
  rw [active, path_deliver]
  cases hu : published sys e with
  | none => exact .inr ⟨by simp, by simp [hp]⟩
  | some u =>
    by_cases hx : ∃ x, SteersTo sys.steerer u e.now e.order p x
    · obtain ⟨x, hx⟩ := hx
      have hmoved := onHealthUpdate_moved _ u e.now e.order hp hx
      exact .inl ⟨u, x, rfl, hx, by simp [hmoved.2]⟩
    · obtain ⟨-, n, hn⟩ := onHealthUpdate_stayed _ u e.now e.order hp (not_exists.mp hx)
      refine .inr ⟨?_, by simp [hn]⟩
      rintro _ x ⟨⟩
      exact not_exists.mp hx x

theorem path_stays_assigned (sys : System) (e : Entry) (h : (path sys).isSome = true) :
    (path (deliver sys e).2).isSome = true := by
  obtain ⟨p, hp⟩ := Option.isSome_iff_exists.mp h
  have hactive : (active (deliver sys e).2).isSome = true := by
    obtain ⟨u, x, -, -, hx⟩ | ⟨-, hx⟩ := active_deliver sys e hp
    · simp [hx]
    · simp [hx]
  simpa [active] using hactive

/-- An update steers a path that is on `a` away from it: the cooldown is over,
another interface is the best, and it is ahead by more than the hysteresis of
the score recorded for `a` when the path was assigned to it. -/
def SteersAway (a : String) (sys : System) (e : Entry) : Prop :=
  ∃ u p x, published sys e = some u ∧ path sys = some p ∧ p.activeInterface = a ∧
    sys.steerer.config.autoFailover = true ∧ ¬ CoolingDown sys.steerer p e.now ∧
    best sys.steerer u e.order = some x ∧ x.1 ≠ a ∧
    sys.steerer.config.switchHysteresis < x.2 - p.activeScore

def SteersBack (a : String) (sys : System) (e : Entry) : Prop :=
  ∃ u p x, published sys e = some u ∧ path sys = some p ∧ x.1 = a ∧
    SteersTo sys.steerer u e.now e.order p x

theorem not_degradedReading (sys : System) (e : Entry) {u : HealthUpdate ℚ} {p : PathState ℚ}
    (hu : published sys e = some u)
    (hdown : e.interface.name = p.activeInterface → e.interface.linkState = .down) :
    ¬ DegradedReading sys.steerer p u := by
  intro hdeg
  obtain ⟨hup, hname⟩ := published_cases sys e hu
  have hd := hdown (hname.symm.trans hdeg.1)
  cases hup.symm.trans hd

theorem leaves_iff (a : String) (sys : System) (e : Entry)
    (hdown : e.interface.name = a → e.interface.linkState = .down) :
    (active sys = some a ∧ active (deliver sys e).2 ≠ some a) ↔ SteersAway a sys e := by
  constructor
  · rintro ⟨ha, hleft⟩
    obtain ⟨p, hp, rfl⟩ := Option.map_eq_some_iff.mp ha
    obtain ⟨u, x, hu, ⟨hauto, hcool, hb, hne, hout⟩, -⟩ | ⟨-, hstay⟩ := active_deliver sys e hp
    · obtain ⟨hdeg, -⟩ | ⟨-, hhyst⟩ := hout
      · exact absurd hdeg (not_degradedReading sys e hu hdown)
      · exact ⟨u, p, x, hu, hp, rfl, hauto, hcool, hb, hne, hhyst⟩
    · exact absurd hstay hleft
  · rintro ⟨u, p, x, hu, hp, rfl, hauto, hcool, hb, hne, hhyst⟩
    refine ⟨by simp [active, hp], ?_⟩
    have hto : SteersTo sys.steerer u e.now e.order p x :=
      ⟨hauto, hcool, hb, hne, .inr ⟨not_degradedReading sys e hu hdown, hhyst⟩⟩
    obtain ⟨v, y, hv, hy, hactive⟩ | ⟨hno, -⟩ := active_deliver sys e hp
    · cases hu.symm.trans hv
      cases hb.symm.trans hy.2.2.1
      simpa [hactive] using hne
    · exact absurd hto (hno u x hu)

theorem returns_iff (a : String) (sys : System) (e : Entry) (h : (path sys).isSome = true)
    (hoff : active sys ≠ some a) : active (deliver sys e).2 = some a ↔ SteersBack a sys e := by
  obtain ⟨p, hp⟩ := Option.isSome_iff_exists.mp h
  constructor
  · intro ha
    obtain ⟨u, x, hu, hto, hx⟩ | ⟨-, hstay⟩ := active_deliver sys e hp
    · exact ⟨u, p, x, hu, hp, Option.some.inj (hx.symm.trans ha), hto⟩
    · exact absurd (by simpa [active, hp] using hstay.symm.trans ha) hoff
  · rintro ⟨u, q, x, hu, hq, rfl, hto⟩
    cases hp.symm.trans hq
    obtain ⟨v, y, hv, hy, hactive⟩ | ⟨hno, -⟩ := active_deliver sys e hp
    · cases hu.symm.trans hv
      cases hto.2.2.1.symm.trans hy.2.2.1
      exact hactive
    · exact absurd hto (hno u x hu)

/-- Some update of `es` steers the path away from `a`, and none after it
steers the path back. -/
def LeavesForGood (a : String) (sys : System) (es : List Entry) : Prop :=
  ∃ pre e post, es = pre ++ e :: post ∧ SteersAway a (run deliver sys pre) e ∧
    EachStep deliver (deliver (run deliver sys pre) e).2 post
      (fun _ t f => active t ≠ some a → ¬ SteersBack a t f)

theorem off_iff_leavesForGood (a : String) (sys : System) (done rest : List Entry)
    (hdown : ∀ e ∈ done ++ rest, e.interface.name = a → e.interface.linkState = .down)
    (h : active (run deliver sys done) = some a) :
    active (run deliver sys (done ++ rest)) ≠ some a ↔ LeavesForGood a sys (done ++ rest) := by
  rw [ne_eq, ended_iff (A := fun t => active t = some a) h]
  refine exists_congr fun pre => exists_congr fun e => exists_congr fun post => ?_
  refine and_congr_right fun he => ?_
  rw [← and_assoc, leaves_iff a _ e (hdown e (by simp [he]))]
  refine and_congr_right fun haway => ?_
  have hassigned : (path (deliver (run deliver sys pre) e).2).isSome = true := by
    obtain ⟨-, p, -, -, hp, -⟩ := haway
    exact path_stays_assigned _ e (by simp [hp])
  apply eachStep_congr (I := fun t => (path t).isSome = true) hassigned path_stays_assigned
  intro _ t f ht
  by_cases hon : active t = some a
  · simp [hon]
  · simp [hon, returns_iff a t f ht hon]

def FoundDown (a : String) (r : List Entry) : Prop :=
  (∃ e ∈ r, e.interface.name = a) ∧ ∀ e ∈ r, e.interface.name = a → e.interface.linkState = .down

/-- The round, run from `sys`, probes `b` and finds it up, and the smoothed
score the monitor holds for it afterwards is viable. -/
def FoundViable (b : String) (sys : System) (r : List Entry) : Prop :=
  (∃ e ∈ r, e.interface.name = b) ∧
  (∀ e ∈ r, e.interface.name = b → e.interface.linkState = .up) ∧
  ∃ score, (run deliver sys r).monitor.previousScores.lookup b = some score ∧
    sys.steerer.config.minViableScore ≤ score.overall

/-- What asks the path to leave `a` after the three rounds run from `sys`: the
steerer may switch, the path has been on `a` during them, `a` is down in each,
the cooldown is over in the third, and some other interface is up and viable in
each. -/
structure AskedToLeave (a : String) (sys : System) (r₁ r₂ r₃ : List Entry) : Prop where
  auto : sys.steerer.config.autoFailover = true
  active : ∃ done rest, r₁ ++ r₂ ++ r₃ = done ++ rest ∧ active (run deliver sys done) = some a
  down : FoundDown a r₁ ∧ FoundDown a r₂ ∧ FoundDown a r₃
  cooled : ∀ p, path (run deliver sys (r₁ ++ r₂)) = some p →
    ∀ e ∈ r₃, ¬ CoolingDown sys.steerer p e.now
  viable : ∃ b, b ≠ a ∧ FoundViable b sys r₁ ∧ FoundViable b (run deliver sys r₁) r₂ ∧
    FoundViable b (run deliver sys (r₁ ++ r₂)) r₃

/-- In every run, a path that is asked to leave an interface has left it after
the third round exactly when some update has steered it away for good. -/
theorem leaves_dead_link_iff (overflowChecks : Bool) (monitoring : MonitorConfig)
    (weights : HealthWeights) (steering : SteeringConfig ℚ) (before r₁ r₂ r₃ : List Entry)
    (a : String)
    (h : AskedToLeave a
      (run deliver (System.new overflowChecks monitoring weights steering) before) r₁ r₂ r₃) :
    active (run deliver (System.new overflowChecks monitoring weights steering)
        (before ++ (r₁ ++ r₂ ++ r₃))) ≠ some a ↔
      LeavesForGood a (run deliver (System.new overflowChecks monitoring weights steering) before)
        (r₁ ++ r₂ ++ r₃) := by
  obtain ⟨done, rest, hsplit, hactive⟩ := h.active
  rw [run_append, hsplit]
  apply off_iff_leavesForGood a _ done rest _ hactive
  intro e he
  rw [← hsplit] at he
  obtain he | he | he : e ∈ r₁ ∨ e ∈ r₂ ∨ e ∈ r₃ := by simpa using he
  · exact h.down.1.2 e he
  · exact h.down.2.1.2 e he
  · exact h.down.2.2.2 e he

def defaultSteeringConfig : SteeringConfig ℚ := ⟨30, 15, 30 * 10 ^ 9, 20, true⟩

def freshSystem : System :=
  System.new true defaultMonitorConfig HealthWeights.default defaultSteeringConfig

def probed (name : String) (linkState : LinkState) (now : Nat) : Entry :=
  ⟨bareInterface name linkState, some ⟨name, 5, 1, 0, 1000, 0, 0⟩, 0, now, .id _⟩

def bothUp : List Entry := [probed "eth0" .up 0, probed "eth1" .up 0]

def eth0Down : List Entry := [probed "eth0" .down (60 * 10 ^ 9), probed "eth1" .up (60 * 10 ^ 9)]

theorem eth1_foundViable (pre : List Entry)
    (h : ((run deliver (run deliver freshSystem pre) eth0Down).monitor.previousScores.lookup
      "eth1").map (·.overall) = some 100)
    (hmin : (run deliver freshSystem pre).steerer.config.minViableScore = 30) :
    FoundViable "eth1" (run deliver freshSystem pre) eth0Down := by
  obtain ⟨score, hscore, hoverall⟩ := Option.map_eq_some_iff.mp h
  refine ⟨⟨probed "eth1" .up (60 * 10 ^ 9), by simp [eth0Down], rfl⟩, ?_, score, hscore, ?_⟩
  · simp [eth0Down, probed, bareInterface]
  · rw [hoverall, hmin]
    norm_num

theorem eth0_foundDown : FoundDown "eth0" eth0Down := by
  refine ⟨⟨probed "eth0" .down (60 * 10 ^ 9), by simp [eth0Down], rfl⟩, ?_⟩
  simp [eth0Down, probed, bareInterface]

theorem asked_to_leave_eth0 :
    AskedToLeave "eth0" (run deliver freshSystem bothUp) eth0Down eth0Down eth0Down where
  auto := by decide +kernel
  active := ⟨[], eth0Down ++ eth0Down ++ eth0Down, rfl, by decide +kernel⟩
  down := ⟨eth0_foundDown, eth0_foundDown, eth0_foundDown⟩
  cooled := by
    have hp : path (run deliver (run deliver freshSystem bothUp) (eth0Down ++ eth0Down)) =
        some ⟨"eth0", 100, 0, 0⟩ := by decide +kernel
    have hcool : (run deliver freshSystem bothUp).steerer.config.steeringCooldown = 30 * 10 ^ 9 := by
      decide +kernel
    intro p hp' e he
    cases hp.symm.trans hp'
    have hnow : e.now = 60 * 10 ^ 9 := by
      simp only [eth0Down, List.mem_cons, List.not_mem_nil, or_false] at he
      obtain rfl | rfl := he <;> rfl
    rw [CoolingDown, hcool, hnow]
    decide
  viable := by
    refine ⟨"eth1", by decide, ?_, ?_, ?_⟩
    · exact eth1_foundViable bothUp (by decide +kernel) (by decide +kernel)
    · rw [← run_append]
      exact eth1_foundViable (bothUp ++ eth0Down) (by decide +kernel) (by decide +kernel)
    · rw [← run_append]
      exact eth1_foundViable (bothUp ++ (eth0Down ++ eth0Down)) (by decide +kernel)
        (by decide +kernel)

/-- Two links score 100, the active one goes down: the path never leaves it. -/
theorem dead_link_kept :
    AskedToLeave "eth0" (run deliver freshSystem bothUp) eth0Down eth0Down eth0Down ∧
    active (run deliver freshSystem (bothUp ++ (eth0Down ++ eth0Down ++ eth0Down))) =
      some "eth0" :=
  ⟨asked_to_leave_eth0, by decide +kernel⟩

theorem leaves_dead_link_iff_eth0 :
    active (run deliver freshSystem (bothUp ++ (eth0Down ++ eth0Down ++ eth0Down))) ≠
        some "eth0" ↔
      LeavesForGood "eth0" (run deliver freshSystem bothUp) (eth0Down ++ eth0Down ++ eth0Down) :=
  leaves_dead_link_iff true defaultMonitorConfig HealthWeights.default defaultSteeringConfig bothUp
    eth0Down eth0Down eth0Down "eth0" asked_to_leave_eth0

end Netfusion.Core.DeadLink
