import Netfusion.Shared.WireMessages

namespace Netfusion.Shared.WireCodec

open Netfusion.Lib.Bincode
open Netfusion.Lib.Collections
open Netfusion.Shared.Config Netfusion.Shared.Types Netfusion.Shared.Events Netfusion.Shared.Ipc
open Netfusion.Shared.Wire

@[simp] theorem option_taggable {α : Type} (f : α → Value) (h : ∀ a, taggable (f a) = true)
    (o : Option α) : taggable (option f o) = true := by
  cases o with
  | none => simp [option]
  | some a => simp [option, h a]

@[simp] theorem vec_taggable {α : Type} (f : α → Value) (h : ∀ a, taggable (f a) = true)
    (xs : List α) : taggable (vec f xs) = true := by
  simpa [vec] using taggableAll_map f h xs

@[simp] theorem vec_content {α : Type} (f : α → Value) (xs : List α) :
    taggableContent (vec f xs) = false := by
  simp [vec, taggableContent]

@[simp] theorem hashMap_taggable {α : Type} (f : α → Value) (h : ∀ a, taggable (f a) = true)
    (m : HashMap String α) : taggable (hashMap f m) = true := by
  have hm := taggableEntries_map (fun kv : Sigma (fun _ : String => α) => (Value.str kv.1, f kv.2))
    (fun kv => ⟨by simp, h kv.2⟩) m.entries
  simpa [hashMap] using hm

@[simp] theorem ints_taggable :
    (∀ n, taggable (u8 n) = true) ∧ (∀ n, taggable (u16 n) = true) ∧
    (∀ n, taggable (u32 n) = true) ∧ (∀ n, taggable (u64 n) = true) ∧
    (∀ n, taggable (i8 n) = true) ∧ (∀ n, taggable (i16 n) = true) := by
  simp [u8, u16, u32, u64, i8, i16]

@[simp] theorem enums_taggable :
    (∀ t, taggable (interfaceType t) = true) ∧ (∀ m, taggable (bondMode m) = true) ∧
    (∀ t, taggable (tunnelType t) = true) ∧ (∀ m, taggable (profileMode m) = true) ∧
    (∀ t, taggable (qdiscType t) = true) ∧ (∀ d, taggable (Wire.duplex d) = true) ∧
    (∀ s, taggable (Wire.linkState s) = true) := by
  refine ⟨?_, ?_, ?_, ?_, ?_, ?_, ?_⟩ <;> intro t <;> cases t <;> rfl

@[simp] theorem variant_taggable (tag name : String) (fs : List (String × Value)) :
    taggable (variant tag name fs) = taggableFields fs := by
  simp [variant]

@[simp] theorem config_parts_taggable :
    (∀ c : DaemonConfig, taggable c.serialize = true) ∧
    (∀ s : InterfaceSelector, taggable s.serialize = true) ∧
    (∀ c : BondConfig, taggable c.serialize = true) ∧
    (∀ c : RuleConfig, taggable c.serialize = true) ∧
    (∀ c : TunnelConfig, taggable c.serialize = true) ∧
    (∀ w : HealthWeights, taggable w.serialize = true) ∧
    (∀ c : ScheduleConfig, taggable c.serialize = true) ∧
    (∀ c : QdiscConfig, taggable c.serialize = true) ∧
    (∀ c : LoggingConfig, taggable c.serialize = true) ∧
    (∀ c : RelayConfig, taggable c.serialize = true) := by
  simp [DaemonConfig.serialize, InterfaceSelector.serialize, BondConfig.serialize,
    RuleConfig.serialize, TunnelConfig.serialize, HealthWeights.serialize,
    ScheduleConfig.serialize, QdiscConfig.serialize, LoggingConfig.serialize,
    RelayConfig.serialize]

@[simp] theorem policyAction_taggable (a : PolicyAction) : taggable a.serialize = true := by
  cases a <;> simp [PolicyAction.serialize]

@[simp] theorem config_groups_taggable :
    (∀ c : InterfaceConfig, taggable c.serialize = true) ∧
    (∀ c : PolicyConfig, taggable c.serialize = true) ∧
    (∀ c : QosConfig, taggable c.serialize = true) := by
  simp [InterfaceConfig.serialize, PolicyConfig.serialize, QosConfig.serialize]

@[simp] theorem interface_parts_taggable :
    (∀ i : IpInfo, taggable i.serialize = true) ∧
    (∀ c : CellularInfo, taggable c.serialize = true) ∧
    (∀ s : InterfaceStats, taggable s.serialize = true) := by
  simp [IpInfo.serialize, CellularInfo.serialize, InterfaceStats.serialize]

section

variable {F : Type} (fmt : Format F)

@[simp] theorem f64_taggable (x : F) : taggable (f64 fmt x) = true := by simp [f64]

@[simp] theorem dateTime_taggable (t : DateTime) : taggable (dateTime fmt t) = true := by
  simp [dateTime]

@[simp] theorem profileConfig_taggable (c : ProfileConfig F) :
    taggable (c.serialize fmt) = true := by
  simp [ProfileConfig.serialize]

@[simp] theorem netfusionConfig_taggable (c : NetfusionConfig F) :
    taggable (c.serialize fmt) = true := by
  simp [NetfusionConfig.serialize]

@[simp] theorem healthScore_taggable (h : HealthScore F) :
    taggable (h.serialize fmt) = true := by
  simp [HealthScore.serialize]

@[simp] theorem wirelessInfo_taggable (w : WirelessInfo F) :
    taggable (w.serialize fmt) = true := by
  simp [WirelessInfo.serialize]

@[simp] theorem interfaceInfo_taggable (i : InterfaceInfo F) :
    taggable (i.serialize fmt) = true := by
  simp [InterfaceInfo.serialize]

theorem encodeRequest_isOk (m : WireMessage (DaemonRequest F)) :
    (encodeRequest fmt m).isOk = true := by
  rw [encodeRequest, encode_isOk]
  cases h : m.payload <;> simp [WireMessage.serialize, h, DaemonRequest.serialize]

/-- The payloads of a response whose content has a place for the tag: those
that serialize as a struct. -/
def isRecord : ResponseData F → Bool
  | .status _ | .interface _ | .bond _ | .eventStream _ | .config _ | .health _ | .empty => true
  | .interfaces _ | .bonds _ | .tunnels _ | .events _ | .profile _ | .allHealth _
  | .bondCreated _ | .bondDeleted _ => false

theorem event_taggable (e : NetfusionEvent F) : taggableContent (e.serialize fmt) = true := by
  cases e <;> simp [NetfusionEvent.serialize, taggableContent, InterfaceEvent.serialize,
    HealthEvent.serialize, LossEvent.serialize, CongestionEvent.serialize,
    FailoverEvent.serialize, TunnelEvent.serialize, RouteEvent.serialize, RouteChange.serialize,
    BondEvent.serialize, ConfigEvent.serialize, ErrorEvent.serialize, ProfileEvent.serialize]

theorem responseData_taggable (d : ResponseData F) :
    taggable (d.serialize fmt) = isRecord d := by
  cases d with
  | eventStream e => simpa [ResponseData.serialize, isRecord] using event_taggable fmt e
  | profile p =>
    cases p <;> simp [ResponseData.serialize, isRecord, taggableContent, option]
  | _ =>
    simp [ResponseData.serialize, isRecord, taggableContent, SystemStatus.serialize,
      InterfaceInfo.serialize, BondState.serialize, NetfusionConfig.serialize,
      HealthScore.serialize]

/-- A response can be written unless its data is a list, an option or a
string. -/
theorem encodeResponse_isOk (m : WireMessage (DaemonResponse F)) :
    (encodeResponse fmt m).isOk = match m.payload with
      | .ok (some d) => isRecord d
      | _ => true := by
  rw [encodeResponse, encode_isOk]
  rcases h : m.payload with (_ | d) | ⟨message, recoverable⟩ <;>
    simp [WireMessage.serialize, h, DaemonResponse.serialize, responseData_taggable]

theorem encode_wireMessage {α : Type} (payload : α → Value) (m : WireMessage α) {bytes : List UInt8}
    (h : encode (m.serialize fmt payload) = .ok bytes) :
    ∃ body, bytes = leBytes 4 m.version.toNat ++ (withLength m.id.bytes ++
      (withLength (utf8 (fmt.toRfc3339 m.timestamp)) ++ body)) := by
  simp only [WireMessage.serialize, encode, encodeFields, Wire.u32, Wire.dateTime] at h
  cases hp : encode (payload m.payload) with
  | error e => simp [hp, append, bind, Except.bind] at h
  | ok body =>
    simp only [hp, append, bind, Except.bind, pure, Except.pure, List.append_nil,
      Except.ok.injEq] at h
    exact ⟨body, h.symm⟩

theorem readUuid_withLength (id : Uuid) (rest : List UInt8) :
    readUuid (withLength id.bytes ++ rest) = .ok (id, rest) := by
  have hid : id.bytes.length < 256 ^ 8 := by
    rw [id.length_eq]
    decide
  simp [readUuid, readBytes_withLength _ _ hid, bind, Except.bind, id.length_eq]

theorem readWireMessage_error {α : Type} (payload : Reader α)
    (h : ∀ bs, (payload bs).isOk = false) (bs : List UInt8) :
    (readWireMessage fmt payload bs).isOk = false := by
  rw [readWireMessage]
  cases readUint 4 bs with
  | error e => rfl
  | ok v =>
    cases hid : readUuid v.2 with
    | error e => simp [hid, bind, Except.bind]; rfl
    | ok id =>
      cases ht : readDateTime fmt id.2 with
      | error e => simp [hid, ht, bind, Except.bind]; rfl
      | ok t =>
        have hp := h t.2
        cases hr : payload t.2 with
        | error e => simp [hid, ht, hr, bind, Except.bind]; rfl
        | ok p => simp [hr] at hp; cases hp

end

end Netfusion.Shared.WireCodec
