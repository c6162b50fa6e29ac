import Mathlib.Data.List.Induction

namespace Netfusion.Lib.Machine

variable {σ ε ω : Type} (step : σ → ε → ω × σ)

def run (s : σ) : List ε → σ
  | [] => s
  | e :: es => run (step s e).2 es

/-- What the machine answers along the way, one output for each input. -/
def outputs (s : σ) : List ε → List ω
  | [] => []
  | e :: es => (step s e).1 :: outputs (step s e).2 es

def trace (s : σ) : List ε → List (ε × ω)
  | [] => []
  | e :: es => (e, (step s e).1) :: trace (step s e).2 es

structure Change (ε α : Type) where
  before : α
  cause : ε
  after : α

def changes {α : Type} [DecidableEq α] (look : σ → α) (s : σ) : List ε → List (Change ε α)
  | [] => []
  | e :: es =>
    if look s = look (step s e).2 then changes look (step s e).2 es
    else ⟨look s, e, look (step s e).2⟩ :: changes look (step s e).2 es

/-- A condition on every step of a run. It sees the outputs so far, the
state before the step and the input. -/
def EachStep (s : σ) (es : List ε) (P : List ω → σ → ε → Prop) : Prop :=
  ∀ pre e post, es = pre ++ e :: post → P (outputs step s pre) (run step s pre) e

/-- The same for a condition that sees the inputs so far as well. -/
def EachTraced (s : σ) (es : List ε) (P : List (ε × ω) → σ → ε → Prop) : Prop :=
  ∀ pre e post, es = pre ++ e :: post → P (trace step s pre) (run step s pre) e

theorem run_append (s : σ) (es fs : List ε) :
    run step s (es ++ fs) = run step (run step s es) fs := by
  induction es generalizing s with
  | nil => rfl
  | cons e es ih => exact ih (step s e).2

theorem outputs_append (s : σ) (es fs : List ε) :
    outputs step s (es ++ fs) = outputs step s es ++ outputs step (run step s es) fs := by
  induction es generalizing s with
  | nil => rfl
  | cons e es ih => exact congrArg ((step s e).1 :: ·) (ih (step s e).2)

theorem run_concat (s : σ) (es : List ε) (e : ε) :
    run step s (es ++ [e]) = (step (run step s es) e).2 := run_append step s es [e]

theorem outputs_concat (s : σ) (es : List ε) (e : ε) :
    outputs step s (es ++ [e]) = outputs step s es ++ [(step (run step s es) e).1] :=
  outputs_append step s es [e]

theorem trace_concat (s : σ) (es : List ε) (e : ε) :
    trace step s (es ++ [e]) = trace step s es ++ [(e, (step (run step s es) e).1)] := by
  induction es generalizing s with
  | nil => rfl
  | cons f es ih => exact congrArg ((f, (step s f).1) :: ·) (ih (step s f).2)

theorem trace_outputs (s : σ) (es : List ε) :
    (trace step s es).map Prod.snd = outputs step s es := by
  induction es generalizing s with
  | nil => rfl
  | cons e es ih => exact congrArg ((step s e).1 :: ·) (ih (step s e).2)

theorem run_map {φ : Type} (f : φ → ε) (s : σ) (es : List φ) :
    run (fun s e => step s (f e)) s es = run step s (es.map f) := by
  induction es generalizing s with
  | nil => rfl
  | cons e es ih => exact ih (step s (f e)).2

section

variable {α : Type} [DecidableEq α] (look : σ → α)

theorem cause_mem {s : σ} {es : List ε} {c : Change ε α} (h : c ∈ changes step look s es) :
    c.cause ∈ es := by
  induction es generalizing s with
  | nil => cases h
  | cons e es ih =>
    rw [changes] at h
    split at h
    · exact .tail e (ih h)
    · cases h with
      | head => exact .head es
      | tail _ h => exact .tail e (ih h)

theorem changes_concat (s : σ) (es : List ε) (e : ε) :
    changes step look s (es ++ [e]) = changes step look s es ++
      if look (run step s es) = look (step (run step s es) e).2 then []
      else [⟨look (run step s es), e, look (step (run step s es) e).2⟩] := by
  induction es generalizing s with
  | nil => rfl
  | cons f es ih =>
    simp only [List.cons_append, changes, run, ih]
    split <;> rfl

theorem changes_length_le_one {A : ε → Prop} {I Done : σ → Prop}
    (hkeep : ∀ t e, A e → I t → I (step t e).2)
    (hdone : ∀ t e, A e → I t → look t ≠ look (step t e).2 → Done (step t e).2)
    (hstay : ∀ t e, A e → I t → Done t → look t = look (step t e).2 ∧ Done (step t e).2)
    (s : σ) (es : List ε) (hes : ∀ e ∈ es, A e) (hs : I s) :
    (changes step look s es).length ≤ 1 ∧ (Done s → changes step look s es = []) := by
  induction es generalizing s with
  | nil => exact ⟨Nat.zero_le 1, fun _ => rfl⟩
  | cons e es ih =>
    have he : A e := hes e (.head es)
    obtain ⟨hone, hnone⟩ := ih (step s e).2 (fun f hf => hes f (.tail e hf)) (hkeep s e he hs)
    rw [changes]
    constructor
    · split
      · exact hone
      · rename_i hne
        simp [hnone (hdone s e he hs hne)]
    · intro hd
      obtain ⟨hsame, hd'⟩ := hstay s e he hs hd
      rw [if_pos hsame]
      exact hnone hd'

end

variable {step} {s : σ} {es : List ε} {P Q : List ω → σ → ε → Prop}

theorem eachStep_front (fs : List ε) (h : EachStep step s (es ++ fs) P) :
    EachStep step s es P := by
  intro pre e post he
  exact h pre e (post ++ fs) (by simp [he])

theorem eachStep_last {e : ε} (h : EachStep step s (es ++ [e]) P) :
    P (outputs step s es) (run step s es) e := h es e [] rfl

theorem eachStep_concat {e : ε} :
    EachStep step s (es ++ [e]) P ↔
      EachStep step s es P ∧ P (outputs step s es) (run step s es) e := by
  refine ⟨fun h => ⟨eachStep_front [e] h, eachStep_last h⟩, ?_⟩
  rintro ⟨hes, hlast⟩ pre f post he
  rcases List.eq_nil_or_concat post with rfl | ⟨post', g, rfl⟩
  · obtain ⟨rfl, rfl⟩ := List.append_inj' he rfl |>.imp_right (List.cons.inj · |>.1)
    exact hlast
  · have hc : es ++ [e] = (pre ++ f :: post') ++ [g] := by simp [he]
    exact hes pre f post' (List.append_inj' hc rfl).1

/-- The invariant rule. What holds at the start and is kept by every step
that meets the condition holds of every run whose steps all meet it. -/
theorem run_invariant {J : List ω → σ → Prop} (hinit : J [] s)
    (hstep : ∀ os t e, P os t e → J os t → J (os ++ [(step t e).1]) (step t e).2)
    (h : EachStep step s es P) : J (outputs step s es) (run step s es) := by
  induction es using List.reverseRecOn with
  | nil => exact hinit
  | append_singleton es e ih =>
    rw [outputs_concat, run_concat]
    exact hstep _ _ e (eachStep_last h) (ih (eachStep_front [e] h))

theorem run_always {J : List ω → σ → Prop} (hinit : J [] s)
    (hstep : ∀ os t e, J os t → J (os ++ [(step t e).1]) (step t e).2) (es : List ε) :
    J (outputs step s es) (run step s es) := by
  apply run_invariant (P := fun _ _ _ => True) hinit
  · intro os t e _ ht
    exact hstep os t e ht
  · intro _ _ _ _
    trivial

/-- The invariant rule for what is known of the inputs as well. -/
theorem trace_invariant {C : List (ε × ω) → σ → ε → Prop} {J : List (ε × ω) → σ → Prop}
    (hinit : J [] s)
    (hstep : ∀ past t e, C past t e → J past t → J (past ++ [(e, (step t e).1)]) (step t e).2)
    (h : EachTraced step s es C) : J (trace step s es) (run step s es) := by
  induction es using List.reverseRecOn with
  | nil => exact hinit
  | append_singleton es e ih =>
    rw [trace_concat, run_concat]
    apply hstep _ _ e (h es e [] rfl)
    apply ih
    intro pre f post he
    exact h pre f (post ++ [e]) (by simp [he])

theorem trace_always {J : List (ε × ω) → σ → Prop} (hinit : J [] s)
    (hstep : ∀ past t e, J past t → J (past ++ [(e, (step t e).1)]) (step t e).2) (es : List ε) :
    J (trace step s es) (run step s es) := by
  apply trace_invariant (C := fun _ _ _ => True) hinit
  · intro past t e _ ht
    exact hstep past t e ht
  · intro _ _ _ _
    trivial

/-- The simulation rule. Two machines that start in related states, and whose
steps keep them related, give related answers to related inputs. -/
theorem outputs_related {τ φ ψ : Type} {step' : τ → φ → ψ × τ} {R : σ → τ → Prop}
    {E : ε → φ → Prop} {O : ω → ψ → Prop}
    (hstep : ∀ s t e f, R s t → E e f → O (step s e).1 (step' t f).1 ∧ R (step s e).2 (step' t f).2)
    {t : τ} (h : R s t) {fs : List φ} (hes : List.Forall₂ E es fs) :
    List.Forall₂ O (outputs step s es) (outputs step' t fs) := by
  induction hes generalizing s t with
  | nil => exact .nil
  | cons he _ ih =>
    obtain ⟨hanswer, hnext⟩ := hstep s t _ _ h he
    exact .cons hanswer (ih hnext)

theorem eachTraced_congr {J : List (ε × ω) → σ → Prop} {C D : List (ε × ω) → σ → ε → Prop}
    (hinit : J [] s)
    (hstep : ∀ past t e, J past t → J (past ++ [(e, (step t e).1)]) (step t e).2)
    (h : ∀ past t e, J past t → (C past t e ↔ D past t e)) :
    EachTraced step s es C ↔ EachTraced step s es D := by
  constructor
  · intro hc pre e post he
    exact (h _ _ e (trace_always hinit hstep pre)).mp (hc pre e post he)
  · intro hd pre e post he
    exact (h _ _ e (trace_always hinit hstep pre)).mpr (hd pre e post he)

theorem run_keeps {I : σ → Prop} (hinit : I s) (hstep : ∀ t e, I t → I (step t e).2)
    (es : List ε) : I (run step s es) :=
  run_always (J := fun _ t => I t) hinit (fun _ t e ht => hstep t e ht) es

theorem eachStep_of_invariant {J : List ω → σ → Prop} (hinit : J [] s)
    (hstep : ∀ os t e, P os t e → J os t → J (os ++ [(step t e).1]) (step t e).2)
    (hgoal : ∀ os t e, P os t e → J os t → Q os t e) (h : EachStep step s es P) :
    EachStep step s es Q := by
  intro pre e post he
  have hpre : EachStep step s (pre ++ [e]) P := eachStep_front post (by simpa [← he])
  exact hgoal _ _ e (eachStep_last hpre) (run_invariant hinit hstep (eachStep_front [e] hpre))

/-- Conditions agree on a run if they agree wherever an invariant holds which
the steps that meet them keep. -/
theorem eachStep_agree {I : σ → Prop} (hinit : I s)
    (hkeep : ∀ os t e, Q os t e → I t → I (step t e).2)
    (h : ∀ os t e, I t → (P os t e ↔ Q os t e)) :
    EachStep step s es P ↔ EachStep step s es Q := by
  constructor
  · refine eachStep_of_invariant (J := fun _ t => I t) hinit ?_ ?_
    · intro os t e hp ht
      exact hkeep os t e ((h os t e ht).mp hp) ht
    · intro os t e hp ht
      exact (h os t e ht).mp hp
  · refine eachStep_of_invariant (J := fun _ t => I t) hinit hkeep ?_
    intro os t e hq ht
    exact (h os t e ht).mpr hq

theorem eachStep_congr {I : σ → Prop} (hinit : I s) (hstep : ∀ t e, I t → I (step t e).2)
    (h : ∀ os t e, I t → (P os t e ↔ Q os t e)) :
    EachStep step s es P ↔ EachStep step s es Q :=
  eachStep_agree hinit (fun _ t e _ => hstep t e) h

theorem eachStep_cons {R : σ → ε → Prop} {e : ε} :
    EachStep step s (e :: es) (fun _ t f => R t f) ↔
      R s e ∧ EachStep step (step s e).2 es (fun _ t f => R t f) := by
  constructor
  · intro h
    refine ⟨h [] e es rfl, ?_⟩
    rintro pre f post rfl
    exact h (e :: pre) f post rfl
  · rintro ⟨hfirst, hrest⟩ pre f post he
    cases pre with
    | nil =>
      cases he
      exact hfirst
    | cons g pre =>
      cases he
      exact hrest pre f post rfl

instance decidableEachStep {R : σ → ε → Prop} [∀ t f, Decidable (R t f)] (s : σ) (es : List ε) :
    Decidable (EachStep step s es (fun _ t f => R t f)) :=
  match es with
  | [] => .isTrue (fun _ _ _ he => absurd he (by simp))
  | e :: es =>
    have : Decidable (EachStep step (step s e).2 es (fun _ t f => R t f)) :=
      decidableEachStep (step s e).2 es
    decidable_of_iff (R s e ∧ EachStep step (step s e).2 es (fun _ t f => R t f))
      eachStep_cons.symm

theorem eachStep_mem {C : ε → Prop} :
    EachStep step s es (fun _ _ e => C e) ↔ ∀ e ∈ es, C e := by
  constructor
  · intro h e he
    obtain ⟨pre, post, hsplit⟩ := List.append_of_mem he
    exact h pre e post hsplit
  · rintro h pre e post rfl
    exact h e (List.mem_append_right pre (.head post))

/-- What a step keeps exactly under a condition holds all along a run exactly
when every step meets the condition. -/
theorem always_traced_iff {I : List (ε × ω) → σ → Prop} {C : List (ε × ω) → σ → ε → Prop}
    (hinit : I [] s)
    (hstep : ∀ past t e, I past t → (I (past ++ [(e, (step t e).1)]) (step t e).2 ↔ C past t e)) :
    (∀ pre post, es = pre ++ post → I (trace step s pre) (run step s pre)) ↔
      EachTraced step s es C := by
  constructor
  · intro hall pre e post he
    apply (hstep _ _ e (hall pre (e :: post) he)).mp
    rw [← trace_concat, ← run_concat]
    exact hall (pre ++ [e]) post (by simp [he])
  · rintro h pre post rfl
    apply trace_invariant hinit (fun past t e hc ht => (hstep past t e ht).mpr hc)
    intro front e back he
    exact h front e (back ++ post) (by simp [he])

theorem always_iff {I : List ω → σ → Prop} (hinit : I [] s)
    (hstep : ∀ os t e, I os t → (I (os ++ [(step t e).1]) (step t e).2 ↔ P os t e)) :
    (∀ pre post, es = pre ++ post → I (outputs step s pre) (run step s pre)) ↔
      EachStep step s es P := by
  simp only [← trace_outputs, EachStep]
  apply always_traced_iff (I := fun past t => I (past.map Prod.snd) t)
    (C := fun past t e => P (past.map Prod.snd) t e) hinit
  intro past t e ht
  rw [List.map_append]
  exact hstep (past.map Prod.snd) t e ht

/-- A condition that held at some point of a run fails at its end exactly when
some step ended it and no later step brought it back. -/
theorem ended_iff {A : σ → Prop} {done rest : List ε} (h : A (run step s done)) :
    ¬ A (run step s (done ++ rest)) ↔
      ∃ pre e post, done ++ rest = pre ++ e :: post ∧ A (run step s pre) ∧
        ¬ A (step (run step s pre) e).2 ∧
        EachStep step (step (run step s pre) e).2 post (fun _ t f => A (step t f).2 → A t) := by
  constructor
  · induction rest using List.reverseRecOn with
    | nil => exact fun hn => absurd h (by simpa using hn)
    | append_singleton rest f ih =>
      rw [← List.append_assoc, run_concat]
      intro hn
      by_cases hmid : A (run step s (done ++ rest))
      · exact ⟨done ++ rest, f, [], rfl, hmid, hn, fun mid g fs hg => by simp at hg⟩
      · obtain ⟨pre, e, post, he, hpre, hend, hback⟩ := ih hmid
        refine ⟨pre, e, post ++ [f], by simp [he], hpre, hend, eachStep_concat.mpr ⟨hback, ?_⟩⟩
        have hrun : run step (step (run step s pre) e).2 post = run step s (done ++ rest) := by
          rw [he, run_append]
          rfl
        rw [hrun]
        exact fun hf => absurd hf hn
  · rintro ⟨pre, e, post, he, -, hend, hback⟩
    have hrun : run step s (done ++ rest) = run step (step (run step s pre) e).2 post := by
      rw [he, run_append]
      rfl
    rw [hrun]
    exact run_invariant (J := fun _ t => ¬ A t) hend (fun _ t f hf ht hA => ht (hf hA)) hback

section

variable {α : Type} (step) (put : σ → ε → Option α)

def writes (s : σ) : List ε → List α
  | [] => []
  | e :: es => (put s e).toList ++ writes (step s e).2 es

theorem writes_append (s : σ) (es fs : List ε) :
    writes step put s (es ++ fs) = writes step put s es ++ writes step put (run step s es) fs := by
  induction es generalizing s with
  | nil => rfl
  | cons e es ih => simp only [List.cons_append, writes, run, ih, List.append_assoc]

theorem register_run {g : σ → α} (h : ∀ t e, g (step t e).2 = (put t e).getD (g t)) (s : σ)
    (es : List ε) : g (run step s es) = ((writes step put s es).getLast?).getD (g s) := by
  induction es generalizing s with
  | nil => rfl
  | cons e es ih =>
    rw [run, ih, h, writes, List.getLast?_append]
    cases put s e with
    | none => simp
    | some a => cases (writes step put (step s e).2 es).getLast? <;> rfl

end

theorem getLast?_getD_eq_iff {α : Type} {l : List α} {d c : α} (hempty : l = [] → d = c) :
    l.getLast?.getD d = c ↔ ∀ front x back, l = front ++ x :: back → x ≠ c → c ∈ back := by
  rcases List.eq_nil_or_concat l with rfl | ⟨init, last, rfl⟩
  · simp [hempty]
  · rw [List.concat_eq_append, List.getLast?_concat, Option.getD_some]
    constructor
    · rintro rfl front x back he hx
      rcases List.eq_nil_or_concat back with rfl | ⟨back', last', rfl⟩
      · exact absurd (List.cons.inj (List.append_inj' he rfl).2).1.symm hx
      · have hc : init ++ [last] = (front ++ x :: back') ++ [last'] := by simp [he]
        obtain rfl := (List.cons.inj (List.append_inj' hc rfl).2).1
        simp
    · intro h
      by_contra hne
      cases h init last [] rfl hne

end Netfusion.Lib.Machine
