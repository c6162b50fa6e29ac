import Mathlib.Logic.Function.Iterate
import Mathlib.Order.Lattice

namespace Netfusion.Lib.Saturation

variable {α : Type} [LinearOrder α] {f : α → α} {cap x : α}

def capped (f : α → α) (cap x : α) : α := min (f x) cap

theorem le_capped (hgrows : x ≤ f x) (hx : x ≤ cap) : x ≤ capped f cap x := le_min hgrows hx

theorem lt_capped (hgrows : x < f x) (hx : x < cap) : x < capped f cap x := lt_min hgrows hx

theorem capped_of_le (h : cap ≤ f x) : capped f cap x = cap := min_eq_right h

/-- To cap every step is to cap the last one, where `f` keeps the order and
does not lead back from the cap. -/
theorem capped_iterate (hmono : ∀ a b, a ≤ b → f a ≤ f b) (hcap : cap ≤ f cap) (hx : x ≤ cap)
    (n : ℕ) : (capped f cap)^[n] x = min (f^[n] x) cap := by
  induction n with
  | zero => exact (min_eq_left hx).symm
  | succ n ih =>
    rw [Function.iterate_succ_apply', Function.iterate_succ_apply', ih]
    by_cases h : f^[n] x ≤ cap
    · rw [min_eq_left h, capped]
    · have hbeyond : cap ≤ f^[n] x := (not_le.mp h).le
      have hnext : cap ≤ f (f^[n] x) := hcap.trans (hmono cap _ hbeyond)
      rw [min_eq_right hbeyond, capped_of_le hcap, min_eq_right hnext]

end Netfusion.Lib.Saturation
