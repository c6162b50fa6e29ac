import Mathlib.Data.List.DropRight

namespace Netfusion.Lib.Windows

variable {α β : Type}

/-- The front of a queue goes until not more than `limit` elements are left. -/
def keepLast (limit : Nat) : List α → List α
  | [] => []
  | a :: l => if (a :: l).length > limit then keepLast limit l else a :: l

theorem keepLast_eq (limit : Nat) (l : List α) : keepLast limit l = l.rtake limit := by
  induction l with
  | nil => rw [keepLast, List.rtake_nil]
  | cons a l ih =>
    rw [keepLast, List.rtake]
    split
    · rename_i hover
      have hdrop : (a :: l).length - limit = l.length - limit + 1 := by
        rw [List.length_cons] at hover ⊢
        omega
      rw [ih, hdrop, List.drop_succ_cons, List.rtake]
    · rename_i hfits
      rw [Nat.sub_eq_zero_of_le (Nat.le_of_not_lt hfits), List.drop_zero]

/-- A window that is moved on step by step is the window of the whole list. -/
theorem rtake_concat (n : Nat) (l : List α) (a : α) :
    (l.rtake n ++ [a]).rtake n = (l ++ [a]).rtake n := by
  cases n with
  | zero => simp
  | succ n =>
    rw [List.rtake_concat_succ, List.rtake_concat_succ]
    simp only [List.rtake, List.drop_drop, List.length_drop]
    congr 2
    omega

theorem rtake_rtake {m n : Nat} (h : m ≤ n) (l : List α) : (l.rtake n).rtake m = l.rtake m := by
  simp only [List.rtake, List.drop_drop, List.length_drop]
  congr 1
  omega

theorem rtake_map (f : α → β) (n : Nat) (l : List α) :
    (l.map f).rtake n = (l.rtake n).map f := by
  rw [List.rtake, List.rtake, List.length_map, List.map_drop]

end Netfusion.Lib.Windows
