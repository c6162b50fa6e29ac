import Netfusion.Core.WireGuard

namespace Netfusion.Core.TunnelCreation

open Netfusion.Lib.Collections Netfusion.Lib.Text Netfusion.Lib.Fallible
open Netfusion.Core.Command Netfusion.Core.WireGuard

structure Peer where
  endpoint : String
  allowedIps : List String
  presharedKey : Option String
  persistentKeepalive : Option UInt16

structure Link where
  privateKey : Option String
  listenPort : Option UInt16
  addresses : List String
  peers : HashMap String Peer
  up : Bool

def Link.new : Link := ⟨none, none, [], ∅, false⟩

def Link.setPrivateKey (link : Link) (key : String) : Link := { link with privateKey := some key }

def Link.setListenPort (link : Link) (port : UInt16) : Link := { link with listenPort := some port }

def Link.addAddress (link : Link) (address : String) : Link :=
  { link with addresses := address :: link.addresses }

def Link.setUp (link : Link) : Link := { link with up := true }

abbrev Kernel := HashMap String Link

/-- How the commands of one creation end, unless the kernel refuses what they
ask for. What is written to the standard error of the command that takes the
key on its standard input is not captured. -/
structure CommandAnswers where
  addLink : CommandOutput
  setPrivateKey : CommandOutput
  setListenPort : CommandOutput
  assignAddress : CommandOutput
  addPeer : CommandOutput
  bringUp : CommandOutput

def succeeded : CommandOutput → Bool
  | .ok out => out.success
  | .error _ => false

def refused (text : String) (answer : CommandOutput) : CommandOutput :=
  if succeeded answer then exited false "" text else answer

def ipLinkAdd (name : String) (answer : CommandOutput) (k : Kernel) : CommandOutput × Kernel :=
  if name ∈ k then (refused "RTNETLINK answers: File exists" answer, k)
  else (answer, if succeeded answer then k.insert name .new else k)

def onLink (missing name : String) (effect : Link → Link) (answer : CommandOutput) (k : Kernel) :
    CommandOutput × Kernel :=
  match k.lookup name with
  | none => (refused missing answer, k)
  | some link => (answer, if succeeded answer then k.insert name (effect link) else k)

def wgSet (name : String) (effect : Link → Link) (answer : CommandOutput) (k : Kernel) :
    CommandOutput × Kernel :=
  onLink "Unable to modify interface: No such device" name effect answer k

def ipLinkSetUp (name : String) (answer : CommandOutput) (k : Kernel) : CommandOutput × Kernel :=
  onLink ("Cannot find device \"" ++ name ++ "\"") name Link.setUp answer k

def hasAddress (k : Kernel) (name address : String) : Bool :=
  match k.lookup name with
  | none => false
  | some link => decide (address ∈ link.addresses)

def ipAddrAdd (address name : String) (answer : CommandOutput) (k : Kernel) :
    CommandOutput × Kernel :=
  if hasAddress k name address then (refused "RTNETLINK answers: File exists" answer, k)
  else onLink ("Cannot find device \"" ++ name ++ "\"") name (·.addAddress address) answer k

def judged (command : Kernel → CommandOutput × Kernel)
    (judge : CommandOutput → Except CoreError Unit) (k : Kernel) : Except CoreError Unit × Kernel :=
  (judge (command k).1, (command k).2)

def addLinkStep (config : WireGuardConfig) (c : CommandAnswers) :
    Kernel → Except CoreError Unit × Kernel :=
  judged (ipLinkAdd config.interface c.addLink) (fun out => requireOrExists out
    ("Failed to create WireGuard interface " ++ config.interface ++ ": "))

/-- How the command that takes the key ends is not looked at. -/
def setPrivateKeyStep (config : WireGuardConfig) (c : CommandAnswers) :
    Kernel → Except CoreError Unit × Kernel :=
  judged (wgSet config.interface (·.setPrivateKey config.privateKey) c.setPrivateKey)
    (fun out => setPrivateKey (out.map (fun _ => ())))

def setListenPortStep (config : WireGuardConfig) (c : CommandAnswers) (port : UInt16) :
    Kernel → Except CoreError Unit × Kernel :=
  judged (wgSet config.interface (·.setListenPort port) c.setListenPort) (setListenPort config)

def assignAddressStep (config : WireGuardConfig) (c : CommandAnswers) :
    Kernel → Except CoreError Unit × Kernel :=
  judged (ipAddrAdd config.tunnelAddress config.interface c.assignAddress) (assignAddress config)

/-- What the command says nothing of stays as it was. -/
def updatePeer (config : WireGuardConfig) (peer : Option Peer) : Peer where
  endpoint := config.endpoint
  allowedIps :=
    if config.allowedIps = [] then (peer.map (·.allowedIps)).getD [] else config.allowedIps
  presharedKey := config.presharedKey.or (peer.bind (·.presharedKey))
  persistentKeepalive := config.persistentKeepalive.or (peer.bind (·.persistentKeepalive))

def setPeer (config : WireGuardConfig) (link : Link) : Link :=
  { link with
    peers := link.peers.insert config.publicKey
      (updatePeer config (link.peers.lookup config.publicKey)) }

def addPeerStep (config : WireGuardConfig) (c : CommandAnswers) :
    Kernel → Except CoreError Unit × Kernel :=
  judged (wgSet config.interface (setPeer config) c.addPeer) (addPeer config)

def bringUpStep (config : WireGuardConfig) (c : CommandAnswers) :
    Kernel → Except CoreError Unit × Kernel :=
  judged (ipLinkSetUp config.interface c.bringUp) (bringUp config)

def configureSteps (config : WireGuardConfig) (c : CommandAnswers) :
    List (Kernel → Except CoreError Unit × Kernel) :=
  setPrivateKeyStep config c :: config.listenPort.toList.map (setListenPortStep config c) ++
    [assignAddressStep config c, addPeerStep config c, bringUpStep config c]

/-- An error leaves the tunnel and the kernel as they are at that point. -/
def createIn (t : WireGuardTunnel) (c : CommandAnswers) (k : Kernel) :
    Except CoreError Unit × WireGuardTunnel × Kernel :=
  match attemptAll k (addLinkStep t.config c :: configureSteps t.config c) with
  | (.error e, k) => (.error e, t, k)
  | (.ok _, k) => (.ok (), { t with isUp := true }, k)

def outputsOf (config : WireGuardConfig) (c : CommandAnswers) (k : Kernel) : CreateCommands :=
  let linked := ipLinkAdd config.interface c.addLink k
  let keyed := wgSet config.interface (·.setPrivateKey config.privateKey) c.setPrivateKey linked.2
  let listening := match config.listenPort with
    | none => keyed
    | some port => wgSet config.interface (·.setListenPort port) c.setListenPort keyed.2
  let addressed := ipAddrAdd config.tunnelAddress config.interface c.assignAddress listening.2
  let peered := wgSet config.interface (setPeer config) c.addPeer addressed.2
  ⟨linked.1, keyed.1.map (fun _ => ()), listening.1, addressed.1, peered.1,
    (ipLinkSetUp config.interface c.bringUp peered.2).1⟩

/-- With a kernel behind its commands, a creation returns what it does when it
is told what they answer. -/
theorem createIn_create (t : WireGuardTunnel) (c : CommandAnswers) (k : Kernel) :
    (createIn t c k).1 = (create t (outputsOf t.config c k)).map (fun _ => ()) := by
  have hresult : (createIn t c k).1 =
      (attemptAll k (addLinkStep t.config c :: configureSteps t.config c)).1 := by
    rw [createIn]
    split <;> simp_all
  rw [hresult, create]
  cases hport : t.config.listenPort with
  | none =>
    simp only [configureSteps, hport, attemptAll_bind, outputsOf, map_bind, Option.toList,
      List.map, List.nil_append, List.cons_append, Option.isSome_none, if_neg Bool.false_ne_true]
    rfl
  | some port =>
    simp only [configureSteps, hport, attemptAll_bind, outputsOf, map_bind, Option.toList,
      List.map, List.nil_append, List.cons_append, Option.isSome_some, if_true]
    rfl

structure Configured (config : WireGuardConfig) (link : Link) : Prop where
  privateKey : link.privateKey = some config.privateKey
  listenPort : ∀ port, config.listenPort = some port → link.listenPort = some port
  address : config.tunnelAddress ∈ link.addresses
  peer : ∃ before, link.peers.lookup config.publicKey = some (updatePeer config before)
  up : link.up = true

/-- Every command has done what it is for, or its address was there before. -/
structure Applied (k : Kernel) (config : WireGuardConfig) (c : CommandAnswers) : Prop where
  privateKey : Succeeds c.setPrivateKey
  listenPort : config.listenPort.isSome = true → Succeeds c.setListenPort
  address : hasAddress k config.interface config.tunnelAddress = true ∨ Succeeds c.assignAddress
  peer : Succeeds c.addPeer
  up : Succeeds c.bringUp

structure Unnoticed (config : WireGuardConfig) (c : CommandAnswers) : Prop where
  privateKey : Starts c.setPrivateKey
  listenPort : config.listenPort.isSome = true → Succeeds c.setListenPort
  address : SucceedsOrExists c.assignAddress
  peer : Succeeds c.addPeer
  up : Succeeds c.bringUp

/-- A creation brings the tunnel up with everything applied, or leaves no
interface of its own behind. -/
def AllOrNothing (k : Kernel) (config : WireGuardConfig) (c : CommandAnswers) : Prop :=
  match createIn (.new config) c k with
  | (.ok _, t, after) => t.isUp = true ∧ Applied k config c ∧
      ∃ link, after.lookup config.interface = some link ∧ Configured config link
  | (.error _, t, after) => t.isUp = false ∧ (config.interface ∉ k → config.interface ∉ after)

/-- Where the interface is created, every other command has to do its work;
where it was there, they all have to if none fails noticeably. -/
structure CreationSound (k : Kernel) (config : WireGuardConfig) (c : CommandAnswers) : Prop where
  created : config.interface ∉ k → Succeeds c.addLink → Applied k config c
  found : config.interface ∈ k → SucceedsOrExists c.addLink → Unnoticed config c →
    Applied k config c

theorem succeeded_iff (answer : CommandOutput) : succeeded answer = true ↔ Succeeds answer := by
  cases answer with
  | ok out => simp [succeeded, Succeeds]
  | error e => simp [succeeded, Succeeds]

/-- A refusal because what is added is there already passes for a success. -/
theorem refused_exists (answer : CommandOutput) :
    SucceedsOrExists (refused "RTNETLINK answers: File exists" answer) ↔
      SucceedsOrExists answer := by
  rw [refused]
  by_cases h : succeeded answer = true
  · rw [if_pos h]
    obtain ⟨out, hout, hsuccess⟩ := (succeeded_iff answer).mp h
    exact iff_of_true ⟨_, rfl, .inr (by decide)⟩ ⟨out, hout, .inl hsuccess⟩
  · rw [if_neg h]

theorem not_succeeds_refused (text : String) (answer : CommandOutput) :
    ¬ Succeeds (refused text answer) := by
  rw [← succeeded_iff, refused]
  split
  · exact Bool.false_ne_true
  · assumption

def Moves (name : String) (step : Kernel → Except CoreError Unit × Kernel) (P : Link → Prop)
    (f : Link → Link) : Prop :=
  ∀ k link, k.lookup name = some link →
    ((step k).1 = .ok () ↔ P link) ∧ (P link → (step k).2.lookup name = some (f link))

theorem moves_nil (name : String) : Moves name (attemptAll · []) (fun _ => True) id := by
  intro k link h
  exact ⟨iff_of_true rfl trivial, fun _ => h⟩

theorem moves_cons {name : String} {step : Kernel → Except CoreError Unit × Kernel}
    {rest : List (Kernel → Except CoreError Unit × Kernel)} {P Q : Link → Prop} {f g : Link → Link}
    (hstep : Moves name step P f) (hrest : Moves name (attemptAll · rest) Q g) :
    Moves name (attemptAll · (step :: rest)) (fun link => P link ∧ Q (f link))
      (fun link => g (f link)) := by
  intro k link h
  obtain ⟨hok, hmoved⟩ := hstep k link h
  cases hresult : (step k).1 with
  | ok u =>
    have hP : P link := hok.mp hresult
    obtain ⟨hok', hmoved'⟩ := hrest (step k).2 (f link) (hmoved hP)
    dsimp only at hok' hmoved' ⊢
    rw [attemptAll_cons_ok hresult, hok']
    exact ⟨(and_iff_right hP).symm, fun hPQ => hmoved' hPQ.2⟩
  | error e =>
    have hP : ¬ P link := by
      intro hP
      rw [hok.mpr hP] at hresult
      cases hresult
    dsimp only
    rw [attemptAll_cons_error hresult, hresult]
    exact ⟨iff_of_false (by simp) (fun hPQ => hP hPQ.1), fun hPQ => absurd hPQ.1 hP⟩

theorem onLink_present {k : Kernel} {link : Link} {name : String} (missing : String)
    (effect : Link → Link) (answer : CommandOutput) (h : k.lookup name = some link) :
    (onLink missing name effect answer k).1 = answer ∧
      (onLink missing name effect answer k).2.lookup name =
        some (if succeeded answer then effect link else link) := by
  simp only [onLink, h, true_and]
  by_cases hs : succeeded answer = true
  · rw [if_pos hs, if_pos hs, AList.lookup_insert]
  · rw [if_neg hs, if_neg hs, h]

theorem moves_require (missing failure name : String) (effect : Link → Link)
    (answer : CommandOutput) :
    Moves name (judged (onLink missing name effect answer) (fun out => require out failure))
      (fun _ => Succeeds answer) effect := by
  intro k link h
  obtain ⟨hanswer, hlink⟩ := onLink_present missing effect answer h
  constructor
  · rw [judged, hanswer, require_ok_iff]
  · intro hsucceeds
    rw [judged, hlink, if_pos ((succeeded_iff answer).mpr hsucceeds)]

def keyed (config : WireGuardConfig) (c : CommandAnswers) (link : Link) : Link :=
  if succeeded c.setPrivateKey then link.setPrivateKey config.privateKey else link

def listening (config : WireGuardConfig) (link : Link) : Link :=
  match config.listenPort with
  | none => link
  | some port => link.setListenPort port

def addressed (config : WireGuardConfig) (c : CommandAnswers) (link : Link) : Link :=
  if config.tunnelAddress ∈ link.addresses then link
  else if succeeded c.assignAddress then link.addAddress config.tunnelAddress else link

def configured (config : WireGuardConfig) (c : CommandAnswers) (link : Link) : Link :=
  (setPeer config (addressed config c (listening config (keyed config c link)))).setUp

section

variable (config : WireGuardConfig) (c : CommandAnswers)

theorem setPrivateKeyStep_moves :
    Moves config.interface (setPrivateKeyStep config c) (fun _ => Starts c.setPrivateKey)
      (keyed config c) := by
  intro k link h
  obtain ⟨hanswer, hlink⟩ := onLink_present "Unable to modify interface: No such device"
    (·.setPrivateKey config.privateKey) c.setPrivateKey h
  constructor
  · rw [setPrivateKeyStep, judged, wgSet, hanswer, setPrivateKey_ok_iff]
    cases c.setPrivateKey with
    | ok out => simp [Except.map, Starts]
    | error e => simp [Except.map, Starts]
  · intro _
    exact hlink

theorem setListenPortStep_moves (port : UInt16) :
    Moves config.interface (setListenPortStep config c port) (fun _ => Succeeds c.setListenPort)
      (·.setListenPort port) :=
  moves_require _ _ _ _ _

theorem hasAddress_present {k : Kernel} {link : Link} {name : String} (address : String)
    (h : k.lookup name = some link) :
    hasAddress k name address = true ↔ address ∈ link.addresses := by
  simp [hasAddress, h]

theorem assignAddressStep_moves :
    Moves config.interface (assignAddressStep config c) (fun _ => SucceedsOrExists c.assignAddress)
      (addressed config c) := by
  intro k link h
  rw [assignAddressStep, judged, ipAddrAdd, addressed]
  have hheld := hasAddress_present config.tunnelAddress h
  by_cases hin : config.tunnelAddress ∈ link.addresses
  · rw [if_pos (hheld.mpr hin), if_pos hin, assignAddress, requireOrExists_ok_iff, refused_exists]
    exact ⟨Iff.rfl, fun _ => h⟩
  · obtain ⟨hanswer, hlink⟩ := onLink_present ("Cannot find device \"" ++ config.interface ++ "\"")
      (·.addAddress config.tunnelAddress) c.assignAddress h
    rw [if_neg (fun hfound => hin (hheld.mp hfound)), if_neg hin, assignAddress, hanswer,
      requireOrExists_ok_iff]
    exact ⟨Iff.rfl, fun _ => hlink⟩

theorem addPeerStep_moves :
    Moves config.interface (addPeerStep config c) (fun _ => Succeeds c.addPeer) (setPeer config) :=
  moves_require _ _ _ _ _

theorem bringUpStep_moves :
    Moves config.interface (bringUpStep config c) (fun _ => Succeeds c.bringUp) Link.setUp :=
  moves_require _ _ _ _ _

theorem unnoticed_iff :
    Unnoticed config c ↔ Starts c.setPrivateKey ∧
      (config.listenPort.isSome = true → Succeeds c.setListenPort) ∧
      SucceedsOrExists c.assignAddress ∧ Succeeds c.addPeer ∧ Succeeds c.bringUp := by
  constructor
  · rintro ⟨hkey, hport, haddress, hpeer, hup⟩
    exact ⟨hkey, hport, haddress, hpeer, hup⟩
  · rintro ⟨hkey, hport, haddress, hpeer, hup⟩
    exact ⟨hkey, hport, haddress, hpeer, hup⟩

theorem configureSteps_moves :
    Moves config.interface (attemptAll · (configureSteps config c))
      (fun _ => Unnoticed config c) (configured config c) := by
  have hrest := moves_cons (assignAddressStep_moves config c)
    (moves_cons (addPeerStep_moves config c)
      (moves_cons (bringUpStep_moves config c) (moves_nil config.interface)))
  intro k link h
  simp only [unnoticed_iff]
  cases hport : config.listenPort with
  | none =>
    have hall := moves_cons (setPrivateKeyStep_moves config c) hrest k link h
    simpa [configureSteps, configured, listening, hport] using hall
  | some port =>
    have hall := moves_cons (setPrivateKeyStep_moves config c)
      (moves_cons (setListenPortStep_moves config c port) hrest) k link h
    simpa [configureSteps, configured, listening, hport] using hall

variable (link : Link)

theorem addresses_keyed : (keyed config c link).addresses = link.addresses := by
  rw [keyed]
  split <;> rfl

theorem listening_cases :
    (listening config link).addresses = link.addresses ∧
    (listening config link).privateKey = link.privateKey ∧
    ∀ port, config.listenPort = some port → (listening config link).listenPort = some port := by
  rw [listening]
  cases config.listenPort with
  | none => exact ⟨rfl, rfl, fun port h => by cases h⟩
  | some given => exact ⟨rfl, rfl, fun port h => h⟩

theorem addressed_cases :
    (addressed config c link).privateKey = link.privateKey ∧
    (addressed config c link).listenPort = link.listenPort ∧
    (config.tunnelAddress ∈ link.addresses ∨ Succeeds c.assignAddress →
      config.tunnelAddress ∈ (addressed config c link).addresses) := by
  rw [addressed, ← succeeded_iff]
  by_cases hin : config.tunnelAddress ∈ link.addresses
  · rw [if_pos hin]
    exact ⟨rfl, rfl, fun _ => hin⟩
  · rw [if_neg hin]
    by_cases hs : succeeded c.assignAddress = true
    · rw [if_pos hs]
      exact ⟨rfl, rfl, fun _ => .head _⟩
    · rw [if_neg hs]
      exact ⟨rfl, rfl, fun h => h.elim id (fun h => absurd h hs)⟩

theorem configured_of_applied (hkey : Succeeds c.setPrivateKey)
    (haddress : config.tunnelAddress ∈ link.addresses ∨ Succeeds c.assignAddress) :
    Configured config (configured config c link) := by
  obtain ⟨haddresses, hprivate, hport⟩ := listening_cases config (keyed config c link)
  obtain ⟨hprivate', hport', hheld⟩ :=
    addressed_cases config c (listening config (keyed config c link))
  rw [haddresses, addresses_keyed] at hheld
  constructor
  · apply (hprivate'.trans hprivate).trans
    rw [keyed, if_pos ((succeeded_iff _).mpr hkey)]
    rfl
  · intro port h
    exact hport'.trans (hport port h)
  · exact hheld haddress
  · exact ⟨_, AList.lookup_insert _⟩
  · rfl

end

theorem onLink_mem (missing name : String) (effect : Link → Link) (answer : CommandOutput)
    (k : Kernel) : name ∈ (onLink missing name effect answer k).2 ↔ name ∈ k := by
  rw [← AList.lookup_isSome, ← AList.lookup_isSome]
  cases h : k.lookup name with
  | none => simp [onLink, h]
  | some link =>
    rw [(onLink_present missing effect answer h).2]
    rfl

theorem configureSteps_mem (config : WireGuardConfig) (c : CommandAnswers) :
    ∀ step ∈ configureSteps config c, ∀ k, config.interface ∈ (step k).2 ↔ config.interface ∈ k := by
  intro step hstep k
  rw [configureSteps, List.cons_append, List.mem_cons, List.mem_append, List.mem_map] at hstep
  rcases hstep with rfl | ⟨port, -, rfl⟩ | hstep
  · exact onLink_mem _ _ _ _ k
  · exact onLink_mem _ _ _ _ k
  · rw [List.mem_cons, List.mem_cons, List.mem_singleton] at hstep
    rcases hstep with rfl | rfl | rfl
    · rw [assignAddressStep, judged, ipAddrAdd]
      split
      · rfl
      · exact onLink_mem _ _ _ _ k
    · exact onLink_mem _ _ _ _ k
    · exact onLink_mem _ _ _ _ k

theorem configureSteps_link (config : WireGuardConfig) (c : CommandAnswers) (k : Kernel) :
    config.interface ∈ (attemptAll k (configureSteps config c)).2 ↔ config.interface ∈ k := by
  apply attemptAll_keeps (I := fun k' => config.interface ∈ k' ↔ config.interface ∈ k)
  · intro step hstep k' hk'
    rw [configureSteps_mem config c step hstep, hk']
  · rfl

theorem configureSteps_absent (config : WireGuardConfig) (c : CommandAnswers) (k : Kernel)
    (h : config.interface ∉ k) : (attemptAll k (configureSteps config c)).1 ≠ .ok () := by
  intro hok
  obtain ⟨t, ht, hpeer⟩ := attemptAll_ok_step (I := fun k' => config.interface ∉ k')
    (fun step hstep k' hk' => by rwa [configureSteps_mem config c step hstep]) h hok
    (show addPeerStep config c ∈ configureSteps config c by simp [configureSteps])
  rw [← AList.lookup_eq_none] at ht
  rw [addPeerStep, judged, wgSet, addPeer, require_ok_iff, onLink, ht] at hpeer
  exact not_succeeds_refused _ _ hpeer

section

variable (k : Kernel) (config : WireGuardConfig) (c : CommandAnswers)

def attempted : Except CoreError Unit × Kernel :=
  attemptAll k (addLinkStep config c :: configureSteps config c)

theorem allOrNothing_ok (h : (attempted k config c).1 = .ok ()) :
    AllOrNothing k config c ↔ Applied k config c ∧
      ∃ link, (attempted k config c).2.lookup config.interface = some link ∧
        Configured config link := by
  rw [AllOrNothing, createIn, WireGuardTunnel.new]
  dsimp only
  rw [← attempted]
  rcases hrun : attempted k config c with ⟨result, after⟩
  rw [hrun] at h
  dsimp only at h
  simp [h]

theorem allOrNothing_error (h : (attempted k config c).1 ≠ .ok ()) :
    AllOrNothing k config c ↔
      (config.interface ∉ k → config.interface ∉ (attempted k config c).2) := by
  rw [AllOrNothing, createIn, WireGuardTunnel.new]
  dsimp only
  rw [← attempted]
  rcases hrun : attempted k config c with ⟨result, after⟩
  rw [hrun] at h
  cases result with
  | ok u => exact absurd rfl h
  | error e => simp

/-- A link that was there passes for one that is created. -/
theorem addLinkStep_found (h : config.interface ∈ k) :
    ((addLinkStep config c k).1 = .ok () ↔ SucceedsOrExists c.addLink) ∧
      (addLinkStep config c k).2 = k := by
  rw [addLinkStep, judged, ipLinkAdd, if_pos h, requireOrExists_ok_iff, refused_exists]
  exact ⟨Iff.rfl, rfl⟩

theorem addLinkStep_created (h : config.interface ∉ k) (hadd : Succeeds c.addLink) :
    (addLinkStep config c k).1 = .ok () ∧
      (addLinkStep config c k).2 = k.insert config.interface .new := by
  rw [addLinkStep, judged, ipLinkAdd, if_neg h, if_pos ((succeeded_iff _).mpr hadd),
    requireOrExists_ok_iff]
  obtain ⟨out, hout, hsuccess⟩ := hadd
  exact ⟨⟨out, hout, .inl hsuccess⟩, rfl⟩

theorem addLinkStep_missing (h : config.interface ∉ k) (hadd : ¬ Succeeds c.addLink) :
    (addLinkStep config c k).2 = k := by
  rw [addLinkStep, judged, ipLinkAdd, if_neg h, if_neg (fun hs => hadd ((succeeded_iff _).mp hs))]

theorem configured_iff {k' : Kernel} {link : Link} (h : k'.lookup config.interface = some link)
    (haddress : config.tunnelAddress ∈ link.addresses ↔
      hasAddress k config.interface config.tunnelAddress = true)
    (hpasses : Unnoticed config c) :
    (Applied k config c ∧ ∃ link, (attemptAll k' (configureSteps config c)).2.lookup
      config.interface = some link ∧ Configured config link) ↔ Applied k config c := by
  apply and_iff_left_of_imp
  intro happlied
  refine ⟨_, (configureSteps_moves config c k' link h).2 hpasses, ?_⟩
  apply configured_of_applied config c _ happlied.privateKey
  rw [haddress]
  exact happlied.address

theorem allOrNothing_found (h : config.interface ∈ k) :
    AllOrNothing k config c ↔
      (SucceedsOrExists c.addLink → Unnoticed config c → Applied k config c) := by
  obtain ⟨hadd, hkernel⟩ := addLinkStep_found k config c h
  obtain ⟨link, hlink⟩ := Option.isSome_iff_exists.mp (AList.lookup_isSome.mpr h)
  have hmoves := configureSteps_moves config c k link hlink
  by_cases hexists : SucceedsOrExists c.addLink
  · have hrun : attempted k config c = attemptAll k (configureSteps config c) := by
      rw [attempted, attemptAll_cons_ok (hadd.mpr hexists), hkernel]
    by_cases hpasses : Unnoticed config c
    · rw [allOrNothing_ok k config c (by rw [hrun]; exact hmoves.1.mpr hpasses), hrun,
        configured_iff k config c hlink (hasAddress_present _ hlink).symm hpasses]
      exact ⟨fun happlied _ _ => happlied, fun himp => himp hexists hpasses⟩
    · rw [allOrNothing_error k config c (by rw [hrun]; exact fun hok => hpasses (hmoves.1.mp hok))]
      exact iff_of_true (fun hnew => absurd h hnew) (fun _ hp => absurd hp hpasses)
  · have hfails : (attempted k config c).1 ≠ .ok () := by
      cases hresult : (addLinkStep config c k).1 with
      | ok u => exact absurd (hadd.mp hresult) hexists
      | error e =>
        rw [attempted, attemptAll_cons_error hresult, hresult]
        simp
    rw [allOrNothing_error k config c hfails]
    exact iff_of_true (fun hnew => absurd h hnew) (fun hs => absurd hs hexists)

theorem unnoticed_of_applied (h : config.interface ∉ k) (happlied : Applied k config c) :
    Unnoticed config c := by
  obtain ⟨⟨out, hout, -⟩, hport, haddress, hpeer, hup⟩ := happlied
  refine ⟨⟨out, hout⟩, hport, ?_, hpeer, hup⟩
  rcases haddress with hheld | ⟨out, hout, hsuccess⟩
  · rw [hasAddress, AList.lookup_eq_none.mpr h] at hheld
    cases hheld
  · exact ⟨out, hout, .inl hsuccess⟩

theorem allOrNothing_created (h : config.interface ∉ k) (hadd : Succeeds c.addLink) :
    AllOrNothing k config c ↔ Applied k config c := by
  obtain ⟨hok, hkernel⟩ := addLinkStep_created k config c h hadd
  have hlink : (k.insert config.interface .new).lookup config.interface = some Link.new :=
    AList.lookup_insert k
  have hmoves := configureSteps_moves config c _ _ hlink
  have hrun : attempted k config c =
      attemptAll (k.insert config.interface .new) (configureSteps config c) := by
    rw [attempted, attemptAll_cons_ok hok, hkernel]
  by_cases hpasses : Unnoticed config c
  · have haddress : config.tunnelAddress ∈ Link.new.addresses ↔
        hasAddress k config.interface config.tunnelAddress = true := by
      simp [Link.new, hasAddress, AList.lookup_eq_none.mpr h]
    rw [allOrNothing_ok k config c (by rw [hrun]; exact hmoves.1.mpr hpasses), hrun,
      configured_iff k config c hlink haddress hpasses]
  · rw [allOrNothing_error k config c (by rw [hrun]; exact fun hok => hpasses (hmoves.1.mp hok))]
    apply iff_of_false
    · intro hgone
      apply hgone h
      rw [hrun, configureSteps_link]
      exact AList.mem_insert k |>.mpr (.inl rfl)
    · exact fun happlied => hpasses (unnoticed_of_applied k config c h happlied)

theorem allOrNothing_missing (h : config.interface ∉ k) (hadd : ¬ Succeeds c.addLink) :
    AllOrNothing k config c := by
  have hkernel := addLinkStep_missing k config c h hadd
  cases hresult : (addLinkStep config c k).1 with
  | ok u =>
    have hrun : attempted k config c = attemptAll k (configureSteps config c) := by
      rw [attempted, attemptAll_cons_ok hresult, hkernel]
    rw [allOrNothing_error k config c (by rw [hrun]; exact configureSteps_absent config c k h), hrun,
      configureSteps_link]
    exact id
  | error e =>
    have hrun : attempted k config c = (.error e, k) := by
      rw [attempted, attemptAll_cons_error hresult]
      exact Prod.ext hresult hkernel
    rw [allOrNothing_error k config c (by rw [hrun]; simp), hrun]
    exact id

end

/-- A creation is all-or-nothing exactly when every command does its work, if
the interface is created or was there and no failure is noticed. -/
theorem create_all_or_nothing_iff (k : Kernel) (config : WireGuardConfig) (c : CommandAnswers) :
    AllOrNothing k config c ↔ CreationSound k config c := by
  by_cases h : config.interface ∈ k
  · rw [allOrNothing_found k config c h]
    exact ⟨fun hfound => ⟨fun hnew => absurd h hnew, fun _ => hfound⟩, fun hsound => hsound.found h⟩
  · by_cases hadd : Succeeds c.addLink
    · rw [allOrNothing_created k config c h hadd]
      exact ⟨fun happlied => ⟨fun _ _ => happlied, fun hin => absurd hin h⟩,
        fun hsound => hsound.created h hadd⟩
    · apply iff_of_true (allOrNothing_missing k config c h hadd)
      exact ⟨fun _ hs => absurd hs hadd, fun hin => absurd hin h⟩

def wg1 : WireGuardConfig where
  interface := "wg1"
  privateKey := "yAnz5TF+lXXJte14tji3zlMNq+hd2rYUIgJBgB3fBmk="
  listenPort := none
  endpoint := "vpn.example.com:51820"
  publicKey := "xTIBA5rboUvnH4htodjb6e697QjLERt1NAB4mZqp8Dg="
  presharedKey := none
  allowedIps := ["0.0.0.0/0"]
  persistentKeepalive := none
  tunnelAddress := "10.0.0.2/24"
  dnsServers := []

def everySucceeds : CommandAnswers :=
  ⟨exited true "" "", exited true "" "", exited true "" "", exited true "" "", exited true "" "",
    exited true "" ""⟩

def badKey : WireGuardConfig := { wg1 with privateKey := "not a key" }

def keyRejected : CommandAnswers :=
  { everySucceeds with
    setPrivateKey := exited false "" "Key is not the correct length or format" }

def badAddress : WireGuardConfig := { wg1 with tunnelAddress := "10.0.0.300/24" }

def addressRejected : CommandAnswers :=
  { everySucceeds with
    assignAddress := exited false ""
      "Error: any valid prefix is expected rather than \"10.0.0.300/24\"." }

/-- A key that is rejected is not noticed, and after an address that is
rejected the interface stays. -/
theorem not_all_or_nothing :
    ¬ AllOrNothing ∅ badKey keyRejected ∧ ¬ AllOrNothing ∅ badAddress addressRejected := by
  constructor
  · intro h
    rw [allOrNothing_created ∅ badKey keyRejected (AList.notMem_empty _) ⟨_, rfl, rfl⟩] at h
    obtain ⟨out, hout, hsuccess⟩ := h.privateKey
    cases hout
    cases hsuccess
  · intro h
    rw [allOrNothing_created ∅ badAddress addressRejected (AList.notMem_empty _) ⟨_, rfl, rfl⟩] at h
    rcases h.address with hheld | ⟨out, hout, hsuccess⟩
    · cases hheld
    · cases hout
      cases hsuccess

end Netfusion.Core.TunnelCreation
