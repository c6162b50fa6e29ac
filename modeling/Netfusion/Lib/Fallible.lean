import Mathlib.Data.List.Forall2

namespace Netfusion.Lib.Fallible

variable {ε α β : Type} {x : Except ε α}

theorem bind_ok_iff {f : α → Except ε β} {b : β} :
    x >>= f = .ok b ↔ ∃ a, x = .ok a ∧ f a = .ok b := by
  cases x with
  | error e => simp [bind, Except.bind]
  | ok a => simp [bind, Except.bind]

theorem map_ok_iff {f : α → β} {b : β} : f <$> x = .ok b ↔ ∃ a, x = .ok a ∧ f a = b := by
  cases x with
  | error e => simp [Functor.map, Except.map]
  | ok a => simp [Functor.map, Except.map]

theorem map_bind {γ : Type} {f : α → Except ε β} {g : β → γ} :
    (x >>= f).map g = x >>= fun a => (f a).map g := by
  cases x with
  | error e => rfl
  | ok a => rfl

/-- A pass without errors gives each input its result, in their order. -/
theorem mapM_forall₂ {f : α → Except ε β} {inputs : List α} {results : List β}
    (h : inputs.mapM f = .ok results) : List.Forall₂ (fun a b => f a = .ok b) inputs results := by
  induction inputs generalizing results with
  | nil =>
    cases h
    exact .nil
  | cons a inputs ih =>
    rw [List.mapM_cons] at h
    obtain ⟨b, hb, hrest⟩ := bind_ok_iff.mp h
    obtain ⟨bs, hbs, heq⟩ := bind_ok_iff.mp hrest
    cases heq
    exact .cons hb (ih hbs)

theorem forall₂_left {R : α → β → Prop} {as : List α} {bs : List β} (h : List.Forall₂ R as bs)
    {a : α} (ha : a ∈ as) : ∃ b ∈ bs, R a b := by
  induction h with
  | nil => cases ha
  | @cons first b as bs hfirst _ ih =>
    rcases List.mem_cons.mp ha with rfl | ha
    · exact ⟨b, List.mem_cons_self, hfirst⟩
    · obtain ⟨b', hb', hR⟩ := ih ha
      exact ⟨b', List.mem_cons_of_mem _ hb', hR⟩

theorem mem_mapM_ok {f : α → Except ε β} {inputs : List α} {results : List β}
    (h : inputs.mapM f = .ok results) {a : α} (ha : a ∈ inputs) : ∃ b ∈ results, f a = .ok b :=
  forall₂_left (mapM_forall₂ h) ha

theorem mapM_ok_mem {f : α → Except ε β} {inputs : List α} {results : List β}
    (h : inputs.mapM f = .ok results) {b : β} (hb : b ∈ results) : ∃ a ∈ inputs, f a = .ok b :=
  forall₂_left (List.Forall₂.flip (R := fun b a => f a = .ok b) (mapM_forall₂ h)) hb

theorem mapM_ok {f : α → Except ε β} {inputs : List α} (h : ∀ a ∈ inputs, ∃ b, f a = .ok b) :
    ∃ results, inputs.mapM f = .ok results := by
  induction inputs with
  | nil => exact ⟨[], rfl⟩
  | cons a inputs ih =>
    obtain ⟨b, hb⟩ := h a (.head inputs)
    obtain ⟨bs, hbs⟩ := ih (fun a' ha' => h a' (.tail a ha'))
    refine ⟨b :: bs, ?_⟩
    rw [List.mapM_cons, hb]
    exact bind_ok_iff.mpr ⟨b, rfl, bind_ok_iff.mpr ⟨bs, hbs, rfl⟩⟩

section

variable {σ : Type} {s : σ} {step : σ → Except ε Unit × σ}
  {rest : List (σ → Except ε Unit × σ)}

/-- Steps that may fail are made in order, until one does. -/
def attemptAll (s : σ) : List (σ → Except ε Unit × σ) → Except ε Unit × σ
  | [] => (.ok (), s)
  | step :: rest =>
    match step s with
    | (.error e, s) => (.error e, s)
    | (.ok _, s) => attemptAll s rest

theorem attemptAll_cons_ok (h : (step s).1 = .ok ()) :
    attemptAll s (step :: rest) = attemptAll (step s).2 rest := by
  rcases hstep : step s with ⟨result, t⟩
  rw [hstep] at h
  dsimp only at h
  simp [attemptAll, hstep, h]

theorem attemptAll_cons_error {e : ε} (h : (step s).1 = .error e) :
    attemptAll s (step :: rest) = step s := by
  rcases hstep : step s with ⟨result, t⟩
  rw [hstep] at h
  dsimp only at h
  simp [attemptAll, hstep, h]

theorem attemptAll_bind : (attemptAll s (step :: rest)).1 =
    ((step s).1 >>= fun _ => (attemptAll (step s).2 rest).1) := by
  cases hresult : (step s).1 with
  | error e =>
    rw [attemptAll_cons_error hresult, hresult]
    rfl
  | ok u =>
    rw [attemptAll_cons_ok hresult]
    rfl

/-- What every step keeps is kept, however far the attempt comes. -/
theorem attemptAll_keeps {I : σ → Prop} {steps : List (σ → Except ε Unit × σ)}
    (hsteps : ∀ step ∈ steps, ∀ s, I s → I (step s).2) (hs : I s) :
    I (attemptAll s steps).2 := by
  induction steps generalizing s with
  | nil => exact hs
  | cons step rest ih =>
    have hnext : I (step s).2 := hsteps step (.head rest) s hs
    have hrest := ih (fun a ha => hsteps a (.tail step ha)) hnext
    cases hresult : (step s).1 with
    | error e =>
      rw [attemptAll_cons_error hresult]
      exact hnext
    | ok u =>
      rw [attemptAll_cons_ok hresult]
      exact hrest

/-- An attempt succeeds only if every step does, where it comes to it. -/
theorem attemptAll_ok_step {I : σ → Prop} {steps : List (σ → Except ε Unit × σ)}
    (hsteps : ∀ step ∈ steps, ∀ s, I s → I (step s).2) (hs : I s)
    (h : (attemptAll s steps).1 = .ok ()) (hmem : step ∈ steps) :
    ∃ t, I t ∧ (step t).1 = .ok () := by
  induction steps generalizing s with
  | nil => cases hmem
  | cons first rest ih =>
    cases hresult : (first s).1 with
    | error e =>
      rw [attemptAll_cons_error hresult, hresult] at h
      cases h
    | ok u =>
      rw [attemptAll_cons_ok hresult] at h
      rcases List.mem_cons.mp hmem with rfl | hrest
      · exact ⟨s, hs, hresult⟩
      · exact ih (fun a ha => hsteps a (.tail first ha)) (hsteps first (.head rest) s hs) h hrest

end

end Netfusion.Lib.Fallible
