import Mathlib.Data.List.Forall2
import Mathlib.Data.Rat.Defs
import Netfusion.Core.Discovery

namespace Netfusion.Core.LinkMessages

open Netfusion.Lib.Addresses Netfusion.Lib.Fallible Netfusion.Lib.Text
open Netfusion.Shared.Config Netfusion.Shared.Types Netfusion.Core.Discovery

inductive OperState where
  | unknown
  | notPresent
  | down
  | lowerLayerDown
  | testing
  | dormant
  | up
  | other (code : UInt8)

/-- Of the attributes that the scanner does not read only their presence is kept. -/
inductive LinkInfo (Kind : Type) where
  | kind (k : Kind)
  | other

inductive LinkAttribute (Kind : Type) where
  | ifName (name : String)
  | address (addr : List UInt8)
  | mtu (mtu : UInt32)
  | operState (state : OperState)
  | linkInfo (info : List (LinkInfo Kind))
  | other

structure LinkMessage (Kind : Type) where
  index : UInt32
  /-- Whether the flags of the header have `IFF_UP` among them. -/
  up : Bool
  attributes : List (LinkAttribute Kind)

variable {Kind : Type}

def nameOf : LinkAttribute Kind → Option String
  | .ifName name => some name
  | _ => none

def hexByte (b : UInt8) : List Char := (Nat.toDigits 16 b.toNat).leftpad 2 '0'

def addressOf : LinkAttribute Kind → Option String
  | .address addr => some (String.ofList ([':'].intercalate (addr.map hexByte)))
  | _ => none

def mtuOf : LinkAttribute Kind → Option UInt32
  | .mtu mtu => some mtu
  | _ => none

def operStateOf : LinkAttribute Kind → Option OperState
  | .operState state => some state
  | _ => none

def kindOf : LinkInfo Kind → Option Kind
  | .kind k => some k
  | .other => none

def kindAmong : LinkAttribute Kind → Option Kind
  | .linkInfo info => info.findSome? kindOf
  | _ => none

namespace LinkMessage

def name (msg : LinkMessage Kind) : String :=
  (msg.attributes.findSome? nameOf).getD ("unknown-" ++ toString msg.index.toNat)

/-- The flag decides where the operational state says nothing. -/
def state (msg : LinkMessage Kind) : LinkState :=
  match msg.attributes.findSome? operStateOf with
  | some .down => .down
  | some .lowerLayerDown => .up
  | some .dormant => .up
  | some .up => .up
  | _ => if msg.up then .up else .down

/-- The kind is that of the first link info that has one. -/
def kind (msg : LinkMessage Kind) : Option Kind := msg.attributes.findSome? kindAmong

/-- The link type is the text that the derived `Debug` has for the kind. -/
def entry (debug : Kind → String) (msg : LinkMessage Kind) : LinkEntry where
  index := msg.index
  name := msg.name
  mac := msg.attributes.findSome? addressOf
  mtu := (msg.attributes.findSome? mtuOf).getD 1500
  state := msg.state
  linkType := msg.kind.map debug

end LinkMessage

/-- The messages arrive one by one; the first error ends the enumeration. -/
def enumerateLinks (debug : Kind → String) (messages : List (Except String (LinkMessage Kind))) :
    Except ScanError (List LinkEntry) :=
  messages.mapM (fun msg => (msg.map (LinkMessage.entry debug)).mapError .enumerateLinks)

structure AddressMessage where
  index : UInt32
  prefixLen : UInt8
  addresses : List IpAddr

def AddressMessage.entry (msg : AddressMessage) : Option AddressEntry :=
  msg.addresses.head?.map (fun addr => ⟨msg.index, addr, msg.prefixLen⟩)

def enumerateAddresses (messages : List (Except String AddressMessage)) :
    Except ScanError (List AddressEntry) := do
  let messages ← messages.mapM (fun msg => msg.mapError ScanError.enumerateAddresses)
  return messages.filterMap AddressMessage.entry

/-- The name of a variant begins with a capital letter. -/
def Capitalised (debug : Kind → String) : Prop :=
  ∀ k, ∃ c rest, (debug k).toList = c :: rest ∧ c.isUpper = true

theorem linkTypeOf_capitalised {debug : Kind → String} (h : Capitalised debug) (k : Kind) :
    linkTypeOf (debug k) = .unknown := by
  obtain ⟨c, rest, htext, hupper⟩ := h k
  have hne : ∀ s : String, s.toList.all (fun c => !c.isUpper) = true → debug k ≠ s := by
    intro s hs heq
    have hlower := List.all_eq_true.mp hs c (by rw [← heq, htext]; exact List.mem_cons_self)
    rw [hupper] at hlower
    cases hlower
  have hnot : ∀ names : List String,
      names.all (fun s => s.toList.all (fun c => !c.isUpper)) = true → debug k ∉ names :=
    fun names hs hmem => hne (debug k) (List.all_eq_true.mp hs _ hmem) rfl
  rw [linkTypeOf, if_neg (hne "bond" (by decide)), if_neg (hne "bridge" (by decide)),
    if_neg (hne "vlan" (by decide)), if_neg (hnot _ (by decide)),
    if_neg (hne "wireguard" (by decide)), if_neg (hne "vxlan" (by decide)),
    if_neg (hnot _ (by decide)), if_neg (hnot _ (by decide)), if_neg (hnot _ (by decide))]

def onlyByKind : InterfaceType → Bool
  | .bond => true
  | .bridge => true
  | .vlan => true
  | .virtual => true
  | _ => false

theorem onlyByKind_detectByName (name : String) (mac : Option String) :
    onlyByKind (detectByName name mac) = false := by
  have hchain : ∀ (p : Bool) (a b : InterfaceType), onlyByKind a = false → onlyByKind b = false →
      onlyByKind (if p then a else b) = false := by
    intro p a b ha hb
    cases p
    · exact hb
    · exact ha
  rw [detectByName]
  repeat' apply hchain
  all_goals rfl

section

variable {F : Type}

theorem describe_ifType (addresses : List AddressEntry) (routes : List RouteEntry)
    (stats : Lib.Collections.HashMap UInt32 InterfaceStats) (metadata : String → Metadata F)
    (link : LinkEntry) :
    (describe addresses routes stats metadata link).ifType = detectInterfaceType link ∧
      (describe addresses routes stats metadata link).name = link.name := by
  obtain ⟨speed, duplex, hfields⟩ := collectDetailedMetadata_eq (metadata link.name) _
  rw [describe, hfields]
  exact ⟨rfl, rfl⟩

theorem enumerateAddresses_ok {messages : List (Except String AddressMessage)}
    {addresses : List AddressEntry} (h : enumerateAddresses messages = .ok addresses) :
    ∃ arrived : List AddressMessage, messages = arrived.map .ok ∧
      addresses = arrived.filterMap AddressMessage.entry := by
  obtain ⟨arrived, harrived, h⟩ := bind_ok_iff.mp h
  cases h
  refine ⟨arrived, ?_, rfl⟩
  have hall := mapM_forall₂ harrived
  clear harrived h
  induction hall with
  | nil => rfl
  | @cons msg _ _ _ hfirst _ ih =>
    cases msg with
    | error e => cases hfirst
    | ok msg =>
      cases hfirst
      rw [List.map_cons, ih]

/-- Each interface that is found has the addresses of the messages with its
index, in the order in which they arrived. -/
theorem scanned_addresses {messages : List (Except String AddressMessage)} {answers : Answers F}
    (haddresses : answers.addresses = enumerateAddresses messages)
    {found : List (InterfaceInfo F)} (hscan : scan answers = .ok found) :
    ∃ (links : List LinkEntry) (arrived : List AddressMessage),
      answers.links = .ok links ∧ messages = arrived.map .ok ∧
      List.Forall₂ (fun link interface => interface.addresses =
          ((arrived.filterMap AddressMessage.entry).filter (fun a => a.index = link.index)).map
            ipInfo)
        (links.filter (fun link => !skipped link)) found := by
  obtain ⟨links, addresses, routes, hlinks, hok, -, rfl⟩ := scan_ok hscan
  obtain ⟨arrived, hmessages, rfl⟩ := enumerateAddresses_ok (haddresses.symm.trans hok)
  refine ⟨links, arrived, hlinks, hmessages, ?_⟩
  rw [List.forall₂_map_right_iff, List.forall₂_same]
  intro link _
  obtain ⟨speed, duplex, hfields⟩ := collectDetailedMetadata_eq (answers.metadata link.name) _
  rw [describe, hfields, ← lookup_addrByIndex]

/-- Of a scan no interface is ever a bond, a bridge, a VLAN or virtual, and a
link that has a kind is of an unknown type: the names of kinds are looked up as
`Debug` writes them, in capitals. -/
theorem scanned_types {debug : Kind → String} (hdebug : Capitalised debug)
    {messages : List (Except String (LinkMessage Kind))} {answers : Answers F}
    (hlinks : answers.links = enumerateLinks debug messages)
    {found : List (InterfaceInfo F)} (hscan : scan answers = .ok found) :
    ∀ i ∈ found, onlyByKind i.ifType = false ∧
      ∃ msg, .ok msg ∈ messages ∧ msg.name = i.name ∧
        (msg.kind.isSome = true → i.ifType = .unknown) := by
  obtain ⟨links, addresses, routes, hok, -, -, rfl⟩ := scan_ok hscan
  intro i hi
  obtain ⟨link, hlink, rfl⟩ := List.mem_map.mp hi
  obtain ⟨msg, hmsg, hentry⟩ := mapM_ok_mem (hlinks.symm.trans hok) (List.mem_of_mem_filter hlink)
  obtain ⟨htype, hname⟩ := describe_ifType addresses routes answers.stats answers.metadata link
  cases msg with
  | error e => cases hentry
  | ok msg =>
    cases hentry
    rw [htype, hname, detectInterfaceType]
    cases hkind : msg.kind with
    | some k =>
      have hunknown := linkTypeOf_capitalised hdebug k
      simp only [LinkMessage.entry, hkind, Option.map_some, hunknown]
      exact ⟨rfl, msg, hmsg, rfl, fun _ => trivial⟩
    | none =>
      simp only [LinkMessage.entry, hkind, Option.map_none]
      refine ⟨onlyByKind_detectByName _ _, msg, hmsg, rfl, ?_⟩
      intro hsome
      rw [hkind] at hsome
      cases hsome

end

inductive InfoKind where
  | bond
  | wireguard
  | other (name : String)

def InfoKind.debug : InfoKind → String
  | .bond => "Bond"
  | .wireguard => "Wireguard"
  | .other name => "Other(\"" ++ name ++ "\")"

theorem infoKind_capitalised : Capitalised InfoKind.debug := by
  intro k
  cases k with
  | bond => exact ⟨'B', "ond".toList, rfl, rfl⟩
  | wireguard => exact ⟨'W', "ireguard".toList, rfl, rfl⟩
  | other name =>
    refine ⟨'O', "ther(\"".toList ++ name.toList ++ "\")".toList, ?_, rfl⟩
    rw [InfoKind.debug, String.toList_append, String.toList_append]
    rfl

def bondMessage : LinkMessage InfoKind :=
  ⟨5, true, [.ifName "bond0", .address [82, 84, 0, 18, 52, 86], .linkInfo [.other, .kind .bond],
    .operState .up]⟩

example : (bondMessage.entry InfoKind.debug).mac = some "52:54:00:12:34:56" := by decide +kernel

def bondAnswers : Answers ℚ :=
  ⟨enumerateLinks InfoKind.debug [.ok bondMessage], .ok [], [], ∅, fun _ => ⟨[], none, none⟩⟩

def bondFound : List (InterfaceInfo ℚ) :=
  ([bondMessage.entry InfoKind.debug].filter (fun link => !skipped link)).map
    (describe [] [] ∅ (fun _ => ⟨[], none, none⟩))

theorem scanned_types_bond :
    let i := describe (F := ℚ) [] [] ∅ (fun _ => ⟨[], none, none⟩)
      (bondMessage.entry InfoKind.debug)
    onlyByKind i.ifType = false ∧ ∃ msg, .ok msg ∈ [Except.ok (ε := String) bondMessage] ∧
      msg.name = i.name ∧ (msg.kind.isSome = true → i.ifType = .unknown) := by
  have hlinks : bondAnswers.links = enumerateLinks InfoKind.debug [.ok bondMessage] := rfl
  have hscan : scan bondAnswers = .ok bondFound := rfl
  have hmem : bondMessage.entry InfoKind.debug ∈
      [bondMessage.entry InfoKind.debug].filter (fun link => !skipped link) :=
    List.mem_filter.mpr ⟨List.mem_singleton_self _, by decide +kernel⟩
  exact scanned_types infoKind_capitalised hlinks hscan _ (List.mem_map_of_mem hmem)

end Netfusion.Core.LinkMessages
