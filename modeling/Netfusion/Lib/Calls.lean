import Mathlib.Logic.Function.Basic
import Netfusion.Lib.Machine

namespace Netfusion.Lib.Calls

open Netfusion.Lib.Machine

inductive Reply (N : Type) where
  | answer (n : N)
  | silence
  | hangUp

structure Link (M N : Type) where
  requests : List M
  answers : List N
  waiting : Bool
  lost : Bool

variable {ι M N E X Y W σ : Type}

def Link.fresh : Link M N := ⟨[], [], false, false⟩

/-- A service that many clients share. It takes one request at a time, `X` is
what it draws on meanwhile, and `Y` what else changes its state. -/
structure Service (M N E X Y W σ : Type) where
  serve : σ → X → M → W × σ
  reply : W → Reply N
  disturb : σ → Y → W × σ
  refused : E
  gone : E

inductive Event (ι M E X Y : Type) where
  | call (i : ι) (m : Except E M)
  | take (i : ι) (x : X)
  | receive (i : ι)
  | lose (i : ι)
  | outside (y : Y)

inductive Outcome (ι M N E X Y W : Type) where
  | called (i : ι) (m : M)
  | took (i : ι) (x : X) (m : M) (w : W)
  | returned (i : ι) (r : Except E N)
  | changed (y : Y) (w : W)
  | nothing

def Link.taken (l : Link M N) (rest : List M) : Reply N → Link M N
  | .answer n => { l with requests := rest, answers := l.answers ++ [n] }
  | .silence => { l with requests := rest }
  | .hangUp => { l with requests := rest, lost := true }

def answerOf : Reply N → Option N
  | .answer n => some n
  | _ => none

@[simp] theorem taken_requests (l : Link M N) (rest : List M) (r : Reply N) :
    (l.taken rest r).requests = rest := by
  cases r <;> rfl

@[simp] theorem taken_answers (l : Link M N) (rest : List M) (r : Reply N) :
    (l.taken rest r).answers = l.answers ++ (answerOf r).toList := by
  cases r <;> simp [Link.taken, answerOf]

@[simp] theorem taken_waiting (l : Link M N) (rest : List M) (r : Reply N) :
    (l.taken rest r).waiting = l.waiting := by
  cases r <;> rfl

variable [DecidableEq ι] (v : Service M N E X Y W σ)

/-- A client that waits for its answer makes no call. -/
def step (s : σ × (ι → Link M N)) :
    Event ι M E X Y → Outcome ι M N E X Y W × (σ × (ι → Link M N))
  | .call i m =>
    if (s.2 i).waiting then (.nothing, s)
    else match m with
      | .error e => (.returned i (.error e), s)
      | .ok m =>
        if (s.2 i).lost then (.returned i (.error v.refused), s)
        else (.called i m, s.1, Function.update s.2 i
          { s.2 i with requests := (s.2 i).requests ++ [m], waiting := true })
  | .take i x =>
    if (s.2 i).lost then (.nothing, s)
    else match (s.2 i).requests with
      | [] => (.nothing, s)
      | m :: rest =>
        (.took i x m (v.serve s.1 x m).1, (v.serve s.1 x m).2, Function.update s.2 i
          ((s.2 i).taken rest (v.reply (v.serve s.1 x m).1)))
  | .receive i =>
    if (s.2 i).waiting then
      match (s.2 i).answers with
      | n :: rest =>
        (.returned i (.ok n), s.1, Function.update s.2 i
          { s.2 i with answers := rest, waiting := false })
      | [] =>
        if (s.2 i).lost then
          (.returned i (.error v.gone), s.1, Function.update s.2 i { s.2 i with waiting := false })
        else (.nothing, s)
    else (.nothing, s)
  | .lose i => (.nothing, s.1, Function.update s.2 i { s.2 i with lost := true })
  | .outside y => (.changed y (v.disturb s.1 y).1, (v.disturb s.1 y).2, s.2)

def start (s : σ) : σ × (ι → Link M N) := (s, fun _ => .fresh)

section

/-- What changes the state of the service, one thing after the other. -/
def perform (s : σ) : (X × M) ⊕ Y → W × σ
  | .inl (x, m) => v.serve s x m
  | .inr y => v.disturb s y

/-- The point at which a step takes effect, if it does, and what it did. -/
def effect : Outcome ι M N E X Y W → Option (((X × M) ⊕ Y) × W)
  | .took _ x m w => some (.inl (x, m), w)
  | .changed y w => some (.inr y, w)
  | _ => none

def sentBy (i : ι) : Outcome ι M N E X Y W → Option M
  | .called j m => if j = i then some m else none
  | _ => none

def takenFrom (i : ι) : Outcome ι M N E X Y W → Option (X × M × W)
  | .took j x m w => if j = i then some (x, m, w) else none
  | _ => none

def receivedBy (i : ι) : Outcome ι M N E X Y W → Option N
  | .returned j (.ok n) => if j = i then some n else none
  | _ => none

def endedFor (i : ι) : Outcome ι M N E X Y W → Option Unit
  | .returned j _ => if j = i then some () else none
  | _ => none

end

section

variable (i : ι) (os : List (Outcome ι M N E X Y W)) (o : Outcome ι M N E X Y W)

def sent : List M := os.filterMap (sentBy i)

def taken : List (X × M × W) := os.filterMap (takenFrom i)

def received : List N := os.filterMap (receivedBy i)

def ended : List Unit := os.filterMap (endedFor i)

theorem filterMap_concat {α β : Type} (f : α → Option β) (xs : List α) (x : α) :
    (xs ++ [x]).filterMap f = xs.filterMap f ++ (f x).toList := by
  rw [List.filterMap_append]
  cases h : f x <;> simp [h]

theorem sent_concat : sent i (os ++ [o]) = sent i os ++ (sentBy i o).toList :=
  filterMap_concat (sentBy i) os o

theorem taken_concat : taken i (os ++ [o]) = taken i os ++ (takenFrom i o).toList :=
  filterMap_concat (takenFrom i) os o

theorem received_concat : received i (os ++ [o]) = received i os ++ (receivedBy i o).toList :=
  filterMap_concat (receivedBy i) os o

theorem ended_concat : ended i (os ++ [o]) = ended i os ++ (endedFor i o).toList :=
  filterMap_concat (endedFor i) os o

end

/-- What the client has sent is what was taken and what is on the way, and so
it is for the answers. Nothing is on the way to a client that does not wait. -/
structure InOrder (i : ι) (os : List (Outcome ι M N E X Y W)) (l : Link M N) : Prop where
  sent_eq : sent i os = (taken i os).map (fun t => t.2.1) ++ l.requests
  answered : (taken i os).filterMap (fun t => answerOf (v.reply t.2.2)) =
    received i os ++ l.answers
  single : l.requests.length + l.answers.length ≤ 1
  idle : l.waiting = false → l.answers = []
  open_idle : l.waiting = false → l.lost = false → l.requests = []
  ended_le : (sent i os).length ≤ (ended i os).length + if l.waiting then 1 else 0

def Outcome.client : Outcome ι M N E X Y W → Option ι
  | .called i _ => some i
  | .took i _ _ _ => some i
  | .returned i _ => some i
  | .changed _ _ => none
  | .nothing => none

section

variable {v} {i : ι} {os : List (Outcome ι M N E X Y W)} {o : Outcome ι M N E X Y W} {l : Link M N}

theorem inOrder_other (ho : o.client ≠ some i) (h : InOrder v i os l) :
    InOrder v i (os ++ [o]) l := by
  have hsent : sentBy i o = none := by cases o <;> simp_all [sentBy, Outcome.client]
  have htaken : takenFrom i o = none := by cases o <;> simp_all [takenFrom, Outcome.client]
  have hended : endedFor i o = none := by cases o <;> simp_all [endedFor, Outcome.client]
  have hreceived : receivedBy i o = none := by
    cases o with
    | returned j r => cases r <;> simp_all [receivedBy, Outcome.client]
    | _ => rfl
  constructor
  · simpa [sent_concat, taken_concat, hsent, htaken] using h.sent_eq
  · simpa [taken_concat, received_concat, htaken, hreceived] using h.answered
  · exact h.single
  · exact h.idle
  · exact h.open_idle
  · simpa [sent_concat, ended_concat, hsent, hended] using h.ended_le

theorem inOrder_called (m : M) (h : InOrder v i os l) (hfree : l.waiting = false)
    (hopen : l.lost = false) :
    InOrder v i (os ++ [.called i m])
      { l with requests := l.requests ++ [m], waiting := true } := by
  have hended := h.ended_le
  simp only [hfree, Bool.false_eq_true, if_false] at hended
  constructor
  · simp [sent_concat, taken_concat, sentBy, takenFrom, h.sent_eq]
  · simp [taken_concat, received_concat, takenFrom, receivedBy, h.answered]
  · simp [h.open_idle hfree hopen, h.idle hfree]
  · simp
  · simp
  · simpa [sent_concat, ended_concat, sentBy, endedFor] using hended

theorem waiting_of_request {m : M} {rest : List M} (h : InOrder v i os l)
    (hopen : l.lost = false) (hfirst : l.requests = m :: rest) : l.waiting = true := by
  by_contra hfree
  have hnone := h.open_idle (by simpa using hfree) hopen
  rw [hfirst] at hnone
  cases hnone

theorem inOrder_took (x : X) (m : M) (w : W) (rest : List M) (h : InOrder v i os l)
    (hopen : l.lost = false) (hfirst : l.requests = m :: rest) :
    InOrder v i (os ++ [.took i x m w]) (l.taken rest (v.reply w)) := by
  have hsingle := h.single
  rw [hfirst, List.length_cons] at hsingle
  have hwait := waiting_of_request h hopen hfirst
  have hended := h.ended_le
  simp only [hwait, if_true] at hended
  have hanswer : (answerOf (v.reply w)).toList.length ≤ 1 := by
    cases answerOf (v.reply w) <;> simp
  constructor
  · simp [sent_concat, taken_concat, sentBy, takenFrom, h.sent_eq, hfirst]
  · rw [taken_concat, received_concat, List.filterMap_append, h.answered]
    cases hreply : answerOf (v.reply w) <;> simp [takenFrom, receivedBy, hreply]
  · simp only [taken_requests, taken_answers, List.length_append]
    omega
  · simp [hwait]
  · simp [hwait]
  · simpa [sent_concat, ended_concat, sentBy, endedFor, hwait] using hended

theorem inOrder_received (n : N) (rest : List N) (h : InOrder v i os l)
    (hwait : l.waiting = true) (hfirst : l.answers = n :: rest) :
    InOrder v i (os ++ [.returned i (.ok n)]) { l with answers := rest, waiting := false } := by
  have hsingle := h.single
  rw [hfirst, List.length_cons] at hsingle
  have hnone : rest = [] := List.length_eq_zero_iff.mp (by omega)
  have hnothing : l.requests = [] := List.length_eq_zero_iff.mp (by omega)
  have hended := h.ended_le
  simp only [hwait, if_true] at hended
  constructor
  · simp [sent_concat, taken_concat, sentBy, takenFrom, h.sent_eq]
  · simp [taken_concat, received_concat, takenFrom, receivedBy, h.answered, hfirst]
  · simp [hnone, hnothing]
  · exact fun _ => hnone
  · exact fun _ _ => hnothing
  · simpa [sent_concat, ended_concat, sentBy, endedFor] using hended

theorem inOrder_failed (e : E) (h : InOrder v i os l)
    (hdone : l.waiting = true → l.lost = true ∧ l.answers = []) :
    InOrder v i (os ++ [.returned i (.error e)]) { l with waiting := false } := by
  have hended := h.ended_le
  constructor
  · simp [sent_concat, taken_concat, sentBy, takenFrom, h.sent_eq]
  · simp [taken_concat, received_concat, takenFrom, receivedBy, h.answered]
  · exact h.single
  · intro _
    cases hwait : l.waiting with
    | false => exact h.idle hwait
    | true => exact (hdone hwait).2
  · intro _ hopen
    cases hwait : l.waiting with
    | false => exact h.open_idle hwait hopen
    | true =>
      rw [(hdone hwait).1] at hopen
      cases hopen
  · simp only [sent_concat, ended_concat, sentBy, endedFor, Option.toList_none, List.append_nil,
      if_true, Option.toList_some, List.length_append, List.length_singleton, Bool.false_eq_true,
      if_false]
    split at hended <;> omega

theorem inOrder_lost (h : InOrder v i os l) : InOrder v i os { l with lost := true } := by
  constructor
  · exact h.sent_eq
  · exact h.answered
  · exact h.single
  · exact h.idle
  · intro _ hopen
    cases hopen
  · exact h.ended_le

end

theorem free_eq {l : Link M N} (h : l.waiting = false) : { l with waiting := false } = l := by
  rw [← h]

theorem inOrder_update {i j : ι} {os : List (Outcome ι M N E X Y W)} {o : Outcome ι M N E X Y W}
    {links : ι → Link M N} {l : Link M N} (ho : ∀ k, o.client = some k → k = j)
    (h : InOrder v i os (links i)) (hown : j = i → InOrder v i (os ++ [o]) l) :
    InOrder v i (os ++ [o]) (Function.update links j l i) := by
  by_cases hj : j = i
  · subst hj
    rw [Function.update_self]
    exact hown rfl
  · rw [Function.update_of_ne (Ne.symm hj)]
    apply inOrder_other _ h
    intro hclient
    exact hj (ho i hclient).symm

/-- Whatever the others do, the messages of a client stay in order. -/
theorem inOrder_step (i : ι) (os : List (Outcome ι M N E X Y W)) (s : σ × (ι → Link M N))
    (e : Event ι M E X Y) (h : InOrder v i os (s.2 i)) :
    InOrder v i (os ++ [(step v s e).1]) ((step v s e).2.2 i) := by
  have hidle : InOrder v i (os ++ [.nothing]) (s.2 i) := inOrder_other (by simp [Outcome.client]) h
  cases e with
  | call j m =>
    simp only [step]
    split
    · exact hidle
    · rename_i hfree
      have hsame : Function.update s.2 j { s.2 j with waiting := false } = s.2 := by
        rw [Function.update_eq_self_iff, free_eq (by simpa using hfree)]
      cases m with
      | error e =>
        rw [← congrFun hsame i]
        refine inOrder_update v ?_ h ?_
        · simp [Outcome.client]
        · rintro rfl
          exact inOrder_failed e h (fun hwait => absurd hwait hfree)
      | ok m =>
        simp only
        split
        · rw [← congrFun hsame i]
          refine inOrder_update v ?_ h ?_
          · simp [Outcome.client]
          · rintro rfl
            exact inOrder_failed v.refused h (fun hwait => absurd hwait hfree)
        · rename_i hopen
          refine inOrder_update v ?_ h ?_
          · simp [Outcome.client]
          · rintro rfl
            exact inOrder_called m h (by simpa using hfree) (by simpa using hopen)
  | take j x =>
    simp only [step]
    split
    · exact hidle
    · rename_i hopen
      split
      · exact hidle
      · rename_i m rest hfirst
        refine inOrder_update v ?_ h ?_
        · simp [Outcome.client]
        · rintro rfl
          exact inOrder_took x m _ rest h (by simpa using hopen) hfirst
  | receive j =>
    simp only [step]
    split
    · rename_i hwait
      split
      · rename_i n rest hfirst
        refine inOrder_update v ?_ h ?_
        · simp [Outcome.client]
        · rintro rfl
          exact inOrder_received n rest h hwait hfirst
      · rename_i hnone
        split
        · rename_i hlost
          refine inOrder_update v ?_ h ?_
          · simp [Outcome.client]
          · rintro rfl
            exact inOrder_failed v.gone h (fun _ => ⟨hlost, hnone⟩)
        · exact hidle
    · exact hidle
  | lose j =>
    refine inOrder_update v ?_ h ?_
    · simp [Outcome.client, step]
    · rintro rfl
      exact inOrder_lost hidle
  | outside y => exact inOrder_other (by simp [Outcome.client, step]) h

theorem inOrder_run (s : σ) (es : List (Event ι M E X Y)) (i : ι) :
    InOrder v i (outputs (step v) (start s) es) ((run (step v) (start s) es).2 i) := by
  apply run_always (J := fun os (t : σ × (ι → Link M N)) => InOrder v i os (t.2 i))
  · constructor <;> simp [start, Link.fresh, sent, taken, received, ended]
  · intro os t e h
    exact inOrder_step v i os t e h

theorem step_no_effect (s : σ × (ι → Link M N)) (e : Event ι M E X Y)
    (h : effect (step v s e).1 = none) : (step v s e).2.1 = s.1 := by
  cases e with
  | call i m =>
    simp only [step]
    split
    · rfl
    · cases m with
      | error e => rfl
      | ok m => simp only; split <;> rfl
  | take i x =>
    simp only [step] at h ⊢
    split
    · rfl
    · split
      · rfl
      · rename_i hopen _ m rest hfirst
        simp [hopen, hfirst, effect] at h
  | receive i =>
    simp only [step]
    split
    · split
      · rfl
      · split <;> rfl
    · rfl
  | lose i => rfl
  | outside y => simp [step, effect] at h

theorem step_effect (s : σ × (ι → Link M N)) (e : Event ι M E X Y) {d : ((X × M) ⊕ Y) × W}
    (h : effect (step v s e).1 = some d) :
    (perform v s.1 d.1).1 = d.2 ∧ (step v s e).2.1 = (perform v s.1 d.1).2 := by
  cases e with
  | call i m =>
    simp only [step] at h
    split at h
    · cases h
    · cases m with
      | error e => cases h
      | ok m =>
        simp only at h
        split at h <;> cases h
  | take i x =>
    simp only [step] at h ⊢
    split at h
    · cases h
    · rename_i hopen
      split at h
      · cases h
      · rename_i m rest hfirst
        cases h
        simp [hopen, perform]
  | receive i =>
    simp only [step] at h
    split at h
    · split at h
      · cases h
      · split at h <;> cases h
    · cases h
  | lose i => cases h
  | outside y =>
    cases h
    exact ⟨rfl, rfl⟩

/-- What the service has done is what it does by itself when it gets the same
requests one after the other. -/
theorem sequential_run (s : σ) (es : List (Event ι M E X Y)) :
    ((outputs (step v) (start s) es).filterMap effect).map Prod.snd =
      outputs (perform v) s (((outputs (step v) (start s) es).filterMap effect).map Prod.fst) ∧
    (run (step v) (start s) es).1 =
      run (perform v) s (((outputs (step v) (start s) es).filterMap effect).map Prod.fst) := by
  apply run_always (J := fun os (t : σ × (ι → Link M N)) =>
    (os.filterMap effect).map Prod.snd =
      outputs (perform v) s ((os.filterMap effect).map Prod.fst) ∧
    t.1 = run (perform v) s ((os.filterMap effect).map Prod.fst))
  · exact ⟨rfl, rfl⟩
  · rintro os t e ⟨hanswers, hstate⟩
    rw [filterMap_concat]
    cases heffect : effect (step v t e).1 with
    | none =>
      have hkeep : (step v t e).2.1 = t.1 := step_no_effect v t e heffect
      simpa [hkeep] using ⟨hanswers, hstate⟩
    | some did =>
      obtain ⟨hdid, hkeep⟩ := step_effect v t e heffect
      simp only [Option.toList_some, List.map_append, List.map_cons, List.map_nil,
        outputs_concat, run_concat, ← hstate, ← hanswers, hdid, hkeep, and_self]

section

variable {σ' ε φ ω ψ : Type} {move : σ' → ε → ω × σ'} {move' : σ' → φ → ψ × σ'}
  {f : ε × ω → Option (φ × ψ)}

/-- A run in which some steps do nothing is a run of the others. -/
theorem trace_filterMap
    (hskip : ∀ s e, f (e, (move s e).1) = none → (move s e).2 = s)
    (hstep : ∀ s e p, f (e, (move s e).1) = some p → move' s p.1 = (p.2, (move s e).2))
    (s : σ') (es : List ε) :
    (trace move s es).filterMap f =
        trace move' s (((trace move s es).filterMap f).map Prod.fst) ∧
      run move s es = run move' s (((trace move s es).filterMap f).map Prod.fst) := by
  induction es generalizing s with
  | nil => exact ⟨rfl, rfl⟩
  | cons e es ih =>
    obtain ⟨htrace, hrun⟩ := ih (move s e).2
    cases hf : f (e, (move s e).1) with
    | none =>
      rw [trace, List.filterMap_cons_none hf, run]
      rw [hskip s e hf] at htrace hrun ⊢
      exact ⟨htrace, hrun⟩
    | some p =>
      have hmove := hstep s e p hf
      rw [trace, List.filterMap_cons_some hf, List.map_cons, trace, run, run, hmove, ← htrace]
      exact ⟨rfl, hrun⟩

theorem trace_eq {es : List ε} {os : List (ε × ω)} (s : σ') (hinputs : os.map Prod.fst = es)
    (houtputs : os.map Prod.snd = outputs move s es) : os = trace move s es := by
  subst hinputs
  induction os generalizing s with
  | nil => rfl
  | cons o os ih =>
    rw [List.map_cons, List.map_cons, outputs, List.cons.injEq] at houtputs
    rw [List.map_cons, trace, ← houtputs.1, ← ih (move s o.1).2 houtputs.2]

end

theorem filterMap_mem_step {α : Type} {f : Outcome ι M N E X Y W → Option α} {P : α → Prop}
    (h : ∀ s e a, f (step v s e).1 = some a → P a) (s : σ × (ι → Link M N))
    (es : List (Event ι M E X Y)) : ∀ a ∈ (outputs (step v) s es).filterMap f, P a := by
  induction es generalizing s with
  | nil =>
    intro a ha
    cases ha
  | cons e es ih =>
    intro a ha
    obtain ⟨o, ho, hfo⟩ := List.mem_filterMap.mp ha
    rcases List.mem_cons.mp ho with rfl | hrest
    · exact h s e a hfo
    · exact ih (step v s e).2 a (List.mem_filterMap.mpr ⟨o, hrest, hfo⟩)

theorem taken_served (i : ι) (s : σ × (ι → Link M N)) (es : List (Event ι M E X Y)) :
    ∀ t ∈ taken i (outputs (step v) s es), ∃ before, t.2.2 = (v.serve before t.1 t.2.1).1 := by
  apply filterMap_mem_step
  intro s e t ht
  cases e with
  | take j x =>
    simp only [step] at ht
    split at ht
    · cases ht
    · split at ht
      · cases ht
      · simp only [takenFrom] at ht
        split at ht
        · cases ht
          exact ⟨s.1, rfl⟩
        · cases ht
  | call j m =>
    simp only [step] at ht
    split at ht
    · cases ht
    · cases m with
      | error e => cases ht
      | ok m =>
        simp only at ht
        split at ht <;> cases ht
  | receive j =>
    simp only [step] at ht
    split at ht
    · split at ht
      · cases ht
      · split at ht <;> cases ht
    · cases ht
  | lose j => cases ht
  | outside y => cases ht

end Netfusion.Lib.Calls
