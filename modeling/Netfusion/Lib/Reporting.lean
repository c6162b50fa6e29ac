import Mathlib.Data.List.Basic

namespace Netfusion.Lib.Reporting

/-- What happens to something observed: it changes, or a change of it is
reported. -/
inductive Item (α : Type) where
  | change (x : α)
  | report (x : α)
deriving DecidableEq

variable {α : Type}

def changes (items : List (Item α)) : List α :=
  items.filterMap (fun | .change x => some x | .report _ => none)

/-- The reports are matched, injectively and in order, to earlier changes
they describe. -/
def Matched (items : List (Item α)) : Prop :=
  ∃ f : ℕ → ℕ,
    (∀ i x, items[i]? = some (.report x) → f i < i ∧ items[f i]? = some (.change x)) ∧
    ∀ i j x y, i < j → items[i]? = some (.report x) → items[j]? = some (.report y) → f i < f j

/-- Between any two reports there is a change. -/
def Fresh (items : List (Item α)) : Prop :=
  ∀ (i j : ℕ) x y, i < j → items[i]? = some (.report x) → items[j]? = some (.report y) →
    ∃ (k : ℕ) (z : α), i < k ∧ k < j ∧ items[k]? = some (.change z)

/-- Every report comes right after the change it describes. -/
def Prompt (items : List (Item α)) : Prop :=
  ∀ pre x post, items = pre ++ .report x :: post → pre.getLast? = some (.change x)

@[simp] theorem changes_append (as bs : List (Item α)) :
    changes (as ++ bs) = changes as ++ changes bs := List.filterMap_append

@[simp] theorem changes_change (x : α) : changes [.change x] = [x] := rfl

theorem mem_changes {items : List (Item α)} {x : α} : x ∈ changes items ↔ .change x ∈ items := by
  simp only [changes, List.mem_filterMap]
  constructor
  · rintro ⟨item, hitem, h⟩
    cases item with
    | change y => cases h; exact hitem
    | report y => cases h
  · exact fun h => ⟨_, h, rfl⟩

theorem getLast?_changes {items : List (Item α)} {x : α} (h : items.getLast? = some (.change x)) :
    (changes items).getLast? = some x := by
  obtain ⟨pre, rfl⟩ := List.getLast?_eq_some_iff.mp h
  simp

theorem prompt_nil : Prompt ([] : List (Item α)) := by
  intro pre x post h
  simp at h

theorem prompt_concat {items : List (Item α)} {item : Item α} (h : Prompt items)
    (hlast : ∀ x, item = .report x → items.getLast? = some (.change x)) :
    Prompt (items ++ [item]) := by
  intro pre x post he
  rcases List.eq_nil_or_concat post with rfl | ⟨post', last, rfl⟩
  · obtain ⟨rfl, hx⟩ := List.append_inj' he rfl
    exact hlast x (List.cons.inj hx).1
  · have hc : items ++ [item] = (pre ++ .report x :: post') ++ [last] := by simp [he]
    exact h pre x post' (List.append_inj' hc rfl).1

theorem exists_split {items : List (Item α)} {i : ℕ} {item : Item α} (h : items[i]? = some item) :
    ∃ pre post, items = pre ++ item :: post ∧ pre.length = i := by
  obtain ⟨hlt, hitem⟩ := List.getElem?_eq_some_iff.mp h
  refine ⟨items.take i, items.drop (i + 1), ?_, by simp [Nat.le_of_lt hlt]⟩
  rw [← hitem, ← List.drop_eq_getElem_cons hlt, List.take_append_drop]

theorem matched_of_prompt {items : List (Item α)} (h : Prompt items) : Matched items := by
  have hprev : ∀ i x, items[i]? = some (.report x) →
      0 < i ∧ items[i - 1]? = some (.change x) := by
    intro i x hi
    obtain ⟨pre, post, rfl, rfl⟩ := exists_split hi
    obtain ⟨front, hfront⟩ := List.getLast?_eq_some_iff.mp (h pre x post rfl)
    simp [hfront]
  refine ⟨fun i => i - 1, fun i x hi => ?_, fun i j x y hij hi hj => ?_⟩
  · obtain ⟨hpos, hchange⟩ := hprev i x hi
    exact ⟨Nat.sub_lt hpos Nat.one_pos, hchange⟩
  · have := (hprev i x hi).1
    show i - 1 < j - 1
    omega

theorem fresh_of_prompt {items : List (Item α)} (h : Prompt items) : Fresh items := by
  intro i j x y hij hi hj
  obtain ⟨pre, post, rfl, rfl⟩ := exists_split hj
  obtain ⟨front, hfront⟩ := List.getLast?_eq_some_iff.mp (h pre y post rfl)
  refine ⟨front.length, y, ?_, by simp [hfront], by simp [hfront]⟩
  by_contra hle
  have hlast : i = front.length := by
    simp only [hfront, List.length_append, List.length_singleton] at hij
    omega
  rw [hlast, hfront] at hi
  simp at hi

/-- Reports that are matched and fresh each describe an earlier change, and
each come right after some change. -/
theorem change_before_report {items : List (Item α)} (hm : Matched items) (hf : Fresh items)
    {pre post : List (Item α)} {x : α} (he : items = pre ++ .report x :: post) :
    .change x ∈ pre ∧ ∃ y, pre.getLast? = some (.change y) := by
  obtain ⟨f, hmatch, -⟩ := hm
  have hi : items[pre.length]? = some (.report x) := by simp [he]
  obtain ⟨hlt, hchange⟩ := hmatch _ x hi
  rw [he, List.getElem?_append_left hlt] at hchange
  refine ⟨List.mem_of_getElem? hchange, ?_⟩
  rcases List.eq_nil_or_concat pre with rfl | ⟨front, item, rfl⟩
  · simp at hlt
  · cases item with
    | change y => exact ⟨y, by simp⟩
    | report y =>
      have hprev : items[front.length]? = some (.report y) := by simp [he]
      obtain ⟨k, z, hlo, hhi, -⟩ := hf front.length _ y x (by simp) hprev hi
      simp only [List.concat_eq_append, List.length_append, List.length_singleton] at hhi
      omega

end Netfusion.Lib.Reporting
