namespace Netfusion.Core.Command

structure Output where
  success : Bool
  stdout : String
  stderr : String
deriving DecidableEq

/-- The output of a command, or why it did not start. -/
abbrev CommandOutput := Except String Output

def exited (success : Bool) (stdout stderr : String) : CommandOutput :=
  .ok ⟨success, stdout, stderr⟩

def Succeeds (result : CommandOutput) : Prop := ∃ out, result = .ok out ∧ out.success = true

def Starts (result : CommandOutput) : Prop := ∃ out, result = .ok out

theorem Succeeds.starts {result : CommandOutput} (h : Succeeds result) : Starts result := by
  obtain ⟨out, hout, -⟩ := h
  exact ⟨out, hout⟩

end Netfusion.Core.Command
