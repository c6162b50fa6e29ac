import Mathlib.Data.List.AList
import Mathlib.Data.List.Induction

namespace Netfusion.Lib.Collections

/-- A finite map. The order in which its entries are listed carries no
meaning: whoever iterates over them does so through a shuffle. -/
abbrev HashMap (K V : Type) := AList (fun _ : K => V)

/-- The order in which one pass over an unordered collection visits it. -/
structure Shuffle (α : Type) where
  run : List α → List α
  perm : ∀ l, (run l).Perm l

def Shuffle.id (α : Type) : Shuffle α := ⟨fun l => l, fun _ => List.Perm.refl _⟩

variable {K V α : Type}

@[simp] theorem mem_shuffle (o : Shuffle α) (l : List α) (a : α) : a ∈ o.run l ↔ a ∈ l :=
  (o.perm l).mem_iff

theorem shuffle_keys_nodup (o : Shuffle (Sigma (fun _ : K => V))) (m : HashMap K V) :
    ((o.run m.entries).map Sigma.fst).Nodup := by
  rw [((o.perm m.entries).map Sigma.fst).nodup_iff]
  exact m.nodupKeys

variable [DecidableEq K]

theorem lookup_insert_eq (m : HashMap K V) (a b : K) (v : V) :
    (m.insert b v).lookup a = if a = b then some v else m.lookup a := by
  by_cases h : a = b
  · subst h; simp
  · simp [h, AList.lookup_insert_ne h]

theorem lookup_erase_eq (m : HashMap K V) (a b : K) :
    (m.erase b).lookup a = if a = b then none else m.lookup a := by
  by_cases h : a = b
  · subst h; simp
  · simp [h, AList.lookup_erase_ne h]

theorem insert_keeps {I : K → V → Prop} {m : HashMap K V} {b : K} {v : V} (hnew : I b v)
    (hm : ∀ a w, m.lookup a = some w → I a w) :
    ∀ a w, (m.insert b v).lookup a = some w → I a w := by
  intro a w h
  rw [lookup_insert_eq] at h
  split at h
  · rename_i hab
    subst hab
    cases h
    exact hnew
  · exact hm a w h

theorem erase_keeps {I : K → V → Prop} {m : HashMap K V} {b : K}
    (hm : ∀ a w, m.lookup a = some w → I a w) : ∀ a w, (m.erase b).lookup a = some w → I a w := by
  intro a w h
  rw [lookup_erase_eq] at h
  split at h
  · cases h
  · exact hm a w h

/-- The entries go into a map one after the other, so the last one with a key
stays. -/
def collect (entries : List (K × V)) : HashMap K V :=
  entries.foldl (fun m entry => m.insert entry.1 entry.2) ∅

theorem lookup_collect (entries : List (K × V)) (a : K) :
    (collect entries).lookup a = ((entries.filter (·.1 = a)).getLast?).map (·.2) := by
  induction entries using List.reverseRecOn with
  | nil => rfl
  | append_singleton entries entry ih =>
    have hcollect : collect (entries ++ [entry]) = (collect entries).insert entry.1 entry.2 := by
      simp [collect]
    rw [hcollect, lookup_insert_eq, List.filter_append]
    by_cases h : a = entry.1
    · simp [h]
    · simp [h, Ne.symm h, ih]

theorem mem_shuffle_entries (o : Shuffle (Sigma (fun _ : K => V))) (m : HashMap K V) (a : K)
    (v : V) :
    ⟨a, v⟩ ∈ o.run m.entries ↔ m.lookup a = some v := by
  rw [mem_shuffle]
  exact AList.mem_lookup_iff.symm

theorem entries_insertAll {W : Type} (f : Sigma (fun _ : K => V) → W)
    (l : List (Sigma (fun _ : K => V))) (m : HashMap K W) (hl : (l.map Sigma.fst).Nodup)
    (hm : ∀ e ∈ l, e.1 ∉ m) :
    (l.foldl (fun m e => m.insert e.1 (f e)) m).entries =
      (l.map (fun e => (⟨e.1, f e⟩ : Sigma (fun _ : K => W)))).reverse ++ m.entries := by
  induction l generalizing m with
  | nil => rfl
  | cons e l ih =>
    obtain ⟨hne, hnodup⟩ := List.nodup_cons.mp hl
    have hinsert : ∀ e' ∈ l, e'.1 ∉ m.insert e.1 (f e) := by
      intro e' he'
      rw [AList.mem_insert]
      rintro (hsame | hin)
      · exact hne (hsame ▸ List.mem_map_of_mem he')
      · exact hm e' (.tail e he') hin
    rw [List.foldl_cons, ih _ hnodup hinsert, AList.entries_insert_of_notMem (hm e (.head l))]
    simp

/-- Where each element that counts stands opposite one that counts, there are
no more of them. -/
theorem countP_le_opposite {α β : Type} {p : α → Bool} {q : β → Bool} {l : List α} {l' : List β}
    (h : List.Forall₂ (fun a b => q b = true → p a = true) l l') : l'.countP q ≤ l.countP p := by
  induction h with
  | nil => exact Nat.le_refl 0
  | @cons a b l l' hab _ ih =>
    rw [List.countP_cons, List.countP_cons]
    apply Nat.add_le_add ih
    by_cases hb : q b = true
    · rw [if_pos hb, if_pos (hab hb)]
    · rw [if_neg hb]
      exact Nat.zero_le _

theorem foldl_update {α β : Type} [DecidableEq α] (p : α → Bool) (v : β) (l : List α) (f : α → β) :
    l.foldl (fun f a => if p a then Function.update f a v else f) f =
      fun a => if a ∈ l ∧ p a = true then v else f a := by
  induction l generalizing f with
  | nil => simp
  | cons b l ih =>
    rw [List.foldl_cons, ih]
    funext a
    by_cases hab : a = b
    · subst hab
      by_cases hp : p a = true
      · simp [hp]
      · simp [hp]
    · by_cases hp : p b = true
      · simp [hp, hab]
      · simp [hp, hab]

end Netfusion.Lib.Collections
