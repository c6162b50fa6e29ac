import Mathlib.Data.List.Basic
import Netfusion.Shared.Config

namespace Netfusion.Shared.Validate

open Netfusion.Lib.Collections
open Netfusion.Shared.Config

structure ValidationError where
  path : List String
  code : String

abbrev ValidationErrors := List ValidationError

def length (field : String) (min : Nat) (max : Option Nat) (n : Nat) : ValidationErrors :=
  if min ≤ n ∧ ∀ m ∈ max, n ≤ m then [] else [⟨[field], "length"⟩]

def range (field : String) (min max : Nat) (n : Nat) : ValidationErrors :=
  if min ≤ n ∧ n ≤ max then [] else [⟨[field], "range"⟩]

def within (segment : String) (errors : ValidationErrors) : ValidationErrors :=
  errors.map (fun e => { e with path := segment :: e.path })

def nestedVec {α : Type} (field : String) (check : α → ValidationErrors) (xs : List α) :
    ValidationErrors :=
  within field (xs.zipIdx.flatMap (fun p => within (toString p.2) (check p.1)))

def nestedMap {α : Type} (field : String) (check : α → ValidationErrors) (m : HashMap String α) :
    ValidationErrors :=
  within field (m.entries.flatMap (fun kv => within kv.1 (check kv.2)))

def nestedOption {α : Type} (field : String) (check : α → ValidationErrors) :
    Option α → ValidationErrors
  | none => []
  | some a => within field (check a)

section

variable {α : Type} (field : String) (check : α → ValidationErrors)

end

theorem range_eq_nil (field : String) (min max n : Nat) :
    range field min max n = [] ↔ min ≤ n ∧ n ≤ max := by
  simp [range]

def outcome (errors : ValidationErrors) : Except ValidationErrors Unit :=
  if errors.isEmpty then .ok () else .error errors

end Netfusion.Shared.Validate

namespace Netfusion.Shared.Config

open Netfusion.Shared.Validate

def HealthWeights.errors (w : HealthWeights) : ValidationErrors :=
  range "rtt" 0 100 w.rtt.toNat ++ range "jitter" 0 100 w.jitter.toNat ++
  range "loss" 0 100 w.loss.toNat ++ range "throughput" 0 100 w.throughput.toNat ++
  range "stability" 0 100 w.stability.toNat

def BondConfig.errors (c : BondConfig) : ValidationErrors :=
  length "name" 1 (some 64) c.name.length ++ length "members" 1 none c.members.length

/-- No field of this section carries a constraint, and so in the others that
say the same. -/
def DaemonConfig.errors (_ : DaemonConfig) : ValidationErrors := []
def InterfaceSelector.errors (_ : InterfaceSelector) : ValidationErrors := []
def RuleConfig.errors (_ : RuleConfig) : ValidationErrors := []
def ScheduleConfig.errors (_ : ScheduleConfig) : ValidationErrors := []
def QdiscConfig.errors (_ : QdiscConfig) : ValidationErrors := []
def LoggingConfig.errors (_ : LoggingConfig) : ValidationErrors := []
def RelayConfig.errors (_ : RelayConfig) : ValidationErrors := []

def InterfaceConfig.errors (c : InterfaceConfig) : ValidationErrors :=
  nestedVec "selectors" InterfaceSelector.errors c.selectors

def PolicyConfig.errors (c : PolicyConfig) : ValidationErrors :=
  length "name" 1 (some 64) c.name.length ++ nestedVec "rules" RuleConfig.errors c.rules

def TunnelConfig.errors (c : TunnelConfig) : ValidationErrors :=
  length "name" 1 (some 64) c.name.length

def ProfileConfig.errors {F : Type} (c : ProfileConfig F) : ValidationErrors :=
  nestedOption "health_weights" HealthWeights.errors c.healthWeights ++
  nestedOption "schedule" ScheduleConfig.errors c.schedule

def QosConfig.errors (c : QosConfig) : ValidationErrors :=
  nestedMap "interface_overrides" QdiscConfig.errors c.interfaceOverrides

def NetfusionConfig.errors {F : Type} (c : NetfusionConfig F) : ValidationErrors :=
  within "daemon" c.daemon.errors ++ within "interfaces" c.interfaces.errors ++
  nestedVec "bonds" BondConfig.errors c.bonds ++
  nestedVec "policies" PolicyConfig.errors c.policies ++
  nestedVec "tunnels" TunnelConfig.errors c.tunnels ++
  nestedMap "profiles" ProfileConfig.errors c.profiles ++
  nestedOption "qos" QosConfig.errors c.qos ++
  nestedOption "logging" LoggingConfig.errors c.logging ++
  nestedOption "relay" RelayConfig.errors c.relay

def DaemonConfig.validate (c : DaemonConfig) : Except ValidationErrors Unit := outcome c.errors

def NetfusionConfig.validate {F : Type} (c : NetfusionConfig F) : Except ValidationErrors Unit :=
  outcome c.errors

def HealthWeights.InRange (w : HealthWeights) : Prop :=
  w.rtt.toNat ≤ 100 ∧ w.jitter.toNat ≤ 100 ∧ w.loss.toNat ≤ 100 ∧ w.throughput.toNat ≤ 100 ∧
  w.stability.toNat ≤ 100

theorem healthWeights_errors_eq_nil (w : HealthWeights) : w.errors = [] ↔ w.InRange := by
  simp [HealthWeights.errors, HealthWeights.InRange, range_eq_nil]

theorem daemonConfig_validate (c : DaemonConfig) : c.validate = .ok () := rfl

theorem netfusionConfig_default_valid (F : Type) :
    (NetfusionConfig.default F).validate = .ok () := rfl

end Netfusion.Shared.Config
