import Mathlib.Order.Defs.LinearOrder
import Mathlib.Order.Lattice
import Mathlib.Data.List.Basic

namespace Netfusion.Lib.Extremes

variable {α β : Type}

section

variable [Ord β]

/-- The maximum of an iteration by a key. Among equal maxima the last one
visited wins. -/
def maxBy (key : α → β) : List α → Option α
  | [] => none
  | a :: l =>
    match maxBy key l with
    | none => some a
    | some b => if compare (key b) (key a) = .lt then some a else some b

theorem maxBy_eq_none (key : α → β) (l : List α) : maxBy key l = none ↔ l = [] := by
  cases l with
  | nil => simp [maxBy]
  | cons a l =>
    simp only [maxBy, reduceCtorEq, iff_false]
    split
    · simp
    · split <;> simp

theorem maxBy_mem (key : α → β) (l : List α) (b : α) (h : maxBy key l = some b) : b ∈ l := by
  induction l generalizing b with
  | nil => simp [maxBy] at h
  | cons a l ih =>
    simp only [maxBy] at h
    split at h
    · cases h; exact List.mem_cons_self
    · rename_i c hc
      split at h <;> cases h
      · exact List.mem_cons_self
      · exact List.mem_cons_of_mem a (ih _ hc)

end

theorem le_maxBy [LinearOrder β] (key : α → β) (l : List α) (b : α) (h : maxBy key l = some b) :
    ∀ a ∈ l, key a ≤ key b := by
  induction l generalizing b with
  | nil => simp
  | cons a l ih =>
    simp only [maxBy] at h
    split at h
    · rename_i hnone
      obtain rfl := (maxBy_eq_none key l).mp hnone
      cases h
      simp
    · rename_i c hc
      have hl := ih c hc
      split at h
      · rename_i hlt
        cases h
        intro x hx
        rcases List.mem_cons.mp hx with rfl | hx
        · exact le_rfl
        · exact (hl x hx).trans (compare_lt_iff_lt.mp hlt).le
      · rename_i hge
        cases h
        intro x hx
        rcases List.mem_cons.mp hx with rfl | hx
        · exact not_lt.mp (mt compare_lt_iff_lt.mpr hge)
        · exact hl x hx

end Netfusion.Lib.Extremes
