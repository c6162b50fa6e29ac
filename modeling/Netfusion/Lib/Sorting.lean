import Mathlib.Data.List.Sort
import Mathlib.Data.List.MinMax
import Mathlib.Order.Compare

namespace Netfusion.Lib.Sorting

variable {α β : Type}

/-- On the elements of the list the comparison is a total preorder. -/
def Ordered (cmp : α → α → Ordering) (l : List α) : Prop :=
  (∀ a ∈ l, ∀ b ∈ l, cmp b a = (cmp a b).swap) ∧
  ∀ a ∈ l, ∀ b ∈ l, ∀ c ∈ l, cmp a b ≠ .gt → cmp b c ≠ .gt → cmp a c ≠ .gt

def stableSort (cmp : α → α → Ordering) (l : List α) : List α :=
  l.insertionSort (fun a b => cmp a b ≠ .gt)

/-- A stable sort by a comparison that need not be an order. Where it is none
the list comes back in an unspecified order, or the sort panics. -/
structure SortBy (cmp : α → α → Ordering) where
  run : List α → Option (List α)
  perm : ∀ l l', run l = some l' → l'.Perm l
  sorted : ∀ l, Ordered cmp l → run l = some (stableSort cmp l)

/-- The sort that treats every comparison as if it were an order. -/
def SortBy.insertion (cmp : α → α → Ordering) : SortBy cmp where
  run l := some (stableSort cmp l)
  perm := by
    rintro l _ ⟨⟩
    exact List.perm_insertionSort _ l
  sorted _ _ := rfl

/-- A stable sort in descending order of a key puts the first of the greatest
elements in front. -/
theorem head?_stableSort [LinearOrder β] (cmp : α → α → Ordering) (key : α → β) (l : List α)
    (h : ∀ a ∈ l, ∀ b ∈ l, cmp a b ≠ .gt ↔ key b ≤ key a) :
    (stableSort cmp l).head? = l.argmax key := by
  induction l with
  | nil => rfl
  | cons a l ih =>
    have hl : ∀ a ∈ l, ∀ b ∈ l, cmp a b ≠ .gt ↔ key b ≤ key a :=
      fun x hx y hy => h x (List.mem_cons_of_mem a hx) y (List.mem_cons_of_mem a hy)
    have ih' : (l.insertionSort (fun a b => cmp a b ≠ .gt)).head? = l.argmax key := ih hl
    have hmem := fun x => List.mem_insertionSort (fun a b => cmp a b ≠ .gt) (l := l) (x := x)
    rw [stableSort, List.insertionSort_cons, List.argmax_cons, ← ih']
    cases hs : l.insertionSort (fun a b => cmp a b ≠ .gt) with
    | nil => rfl
    | cons c rest =>
      have hc : c ∈ l := (hmem c).mp (by simp [hs])
      have hac := h a (by simp) c (by simp [hc])
      rw [List.orderedInsert_cons]
      by_cases hle : key c ≤ key a
      · simp [hac.mpr hle, not_lt.mpr hle]
      · have hgt : cmp a c = .gt := not_not.mp (fun hne => hle (hac.mp hne))
        simp [hgt, not_le.mp hle]

def sortByKey [LinearOrder β] (key : α → β) (l : List α) : List α :=
  l.insertionSort (fun a b => key a ≤ key b)

theorem sortByKey_perm [LinearOrder β] (key : α → β) (l : List α) : (sortByKey key l).Perm l :=
  List.perm_insertionSort _ l

theorem sortByKey_pairwise [LinearOrder β] (key : α → β) (l : List α) :
    (sortByKey key l).Pairwise (fun a b => key a ≤ key b) := by
  have htotal : Std.Total (fun a b => key a ≤ key b) := ⟨fun a b => le_total (key a) (key b)⟩
  have htrans : IsTrans α (fun a b => key a ≤ key b) := ⟨fun _ _ _ => le_trans⟩
  exact List.pairwise_insertionSort _ l

theorem filter_not_mem_take [DecidableEq β] {name : α → β} {l arranged : List α}
    (hperm : arranged.Perm l) (hnames : (l.map name).Nodup) (k : ℕ) :
    (l.filter (fun a => name a ∉ (arranged.take k).map name)).Perm (arranged.drop k) := by
  have hnodup : ((arranged.take k).map name ++ (arranged.drop k).map name).Nodup := by
    rw [← List.map_append, List.take_append_drop]
    exact (hperm.map name).nodup_iff.mpr hnames
  have hdisjoint := (List.nodup_append'.mp hnodup).2.2
  apply (hperm.symm.filter _).trans
  apply List.Perm.of_eq
  have hsplit := List.filter_append (p := fun a => decide (name a ∉ (arranged.take k).map name))
    (arranged.take k) (arranged.drop k)
  rw [List.take_append_drop] at hsplit
  rw [hsplit, List.filter_eq_nil_iff.mpr, List.nil_append, List.filter_eq_self.mpr]
  · intro a ha
    exact decide_eq_true (fun h => hdisjoint h (List.mem_map_of_mem ha))
  · intro a ha
    rw [decide_eq_true_eq, not_not]
    exact List.mem_map_of_mem ha

end Netfusion.Lib.Sorting
