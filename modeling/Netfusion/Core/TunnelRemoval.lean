import Netfusion.Core.Reconnect

namespace Netfusion.Core.TunnelRemoval

open Netfusion.Lib.Collections Netfusion.Lib.Machine
open Netfusion.Core.Command Netfusion.Core.WireGuard Netfusion.Core.Tunnels
open Netfusion.Core.Reconnect

def GoneFrom {V : Type} (before after : HashMap String V) (name : String) : Prop :=
  ∀ other, after.lookup other = if other = name then none else before.lookup other

structure Removed (before after : TunnelManager) (name : String) : Prop where
  wgTunnels : GoneFrom before.wgTunnels after.wgTunnels name
  configs : GoneFrom before.configs after.configs name
  reconnectState : GoneFrom before.reconnectState after.reconnectState name
  healthScores : GoneFrom before.healthScores after.healthScores name

/-- A removal that succeeds takes the tunnel out of every map, and one that
fails changes none. -/
def RemovesAtomically (m : TunnelManager) (name : String) (teardownResult : CommandOutput) : Prop :=
  match removeTunnel m name teardownResult with
  | (.ok _, after) => Removed m after name
  | (.error _, after) => after = m

theorem goneFrom_erase {V : Type} (m : HashMap String V) (name : String) :
    GoneFrom m (m.erase name) name := fun other => lookup_erase_eq m other name

theorem goneFrom_absent {V : Type} (m : HashMap String V) (name : String)
    (h : m.lookup name = none) :
    GoneFrom m m name := by
  intro other
  by_cases hother : other = name
  · rw [if_pos hother, hother, h]
  · rw [if_neg hother]

theorem removeTunnel_absent (m : TunnelManager) (name : String) (teardownResult : CommandOutput)
    (h : m.wgTunnels.lookup name = none) : RemovesAtomically m name teardownResult := by
  rw [RemovesAtomically, removeTunnel, h]
  exact ⟨goneFrom_absent _ name h, goneFrom_erase _ name, goneFrom_erase _ name,
    goneFrom_erase _ name⟩

/-- The tunnel is dropped before it is torn down, so it is lost if the
teardown fails. -/
theorem removeTunnel_present (m : TunnelManager) (name : String) (teardownResult : CommandOutput)
    {tunnel : WireGuardTunnel} (h : m.wgTunnels.lookup name = some tunnel) :
    RemovesAtomically m name teardownResult ↔ Starts teardownResult := by
  rw [RemovesAtomically, removeTunnel, h]
  cases teardownResult with
  | ok out =>
    apply iff_of_true _ ⟨out, rfl⟩
    exact ⟨goneFrom_erase _ name, goneFrom_erase _ name, goneFrom_erase _ name,
      goneFrom_erase _ name⟩
  | error e =>
    apply iff_of_false
    · intro hsame
      have hlookup := congrArg (fun m => m.wgTunnels.lookup name) hsame
      simp [dropTunnel, h] at hlookup
    · rintro ⟨out, hout⟩
      cases hout

theorem removesAtomically_iff (m : TunnelManager) (name : String) (teardownResult : CommandOutput) :
    RemovesAtomically m name teardownResult ↔ (name ∈ m.wgTunnels → Starts teardownResult) := by
  cases h : m.wgTunnels.lookup name with
  | none =>
    apply iff_of_true (removeTunnel_absent m name teardownResult h)
    intro hmem
    rw [← AList.lookup_isSome, h] at hmem
    cases hmem
  | some tunnel =>
    have hmem : name ∈ m.wgTunnels := by rw [← AList.lookup_isSome, h]; rfl
    rw [removeTunnel_present m name teardownResult h]
    simp [hmem]

/-- In every state that a manager reaches, a removal is atomic exactly when
there is no tunnel of that name or the command that tears it down starts. -/
theorem reachable_removal_atomic_iff (ops : List Op) (name : String)
    (teardownResult : CommandOutput) :
    RemovesAtomically (run step TunnelManager.new ops) name teardownResult ↔
      (name ∈ (run step TunnelManager.new ops).wgTunnels → Starts teardownResult) :=
  removesAtomically_iff _ name teardownResult

def startWg0 : List Op := [.addConfig wg0, .startAutoConnect (fun _ => allSucceed) (.id _)]

/-- The command does not start, and the tunnel is forgotten while its
configuration stays: nobody is left to tear it down. -/
theorem failed_removal_forgets_tunnel :
    ¬ RemovesAtomically (run step TunnelManager.new startWg0) "wg0"
      (.error "Resource temporarily unavailable (os error 11)") := by
  rw [removesAtomically_iff]
  intro h
  obtain ⟨out, hout⟩ := h (by decide +kernel)
  cases hout

end Netfusion.Core.TunnelRemoval
