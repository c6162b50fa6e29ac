import Mathlib.Data.List.TakeWhile
import Netfusion.Relay.Server

namespace Netfusion.Relay.Echo

open Netfusion.Lib.Machine
open Netfusion.Relay.Server

def whole : Except ConnectionError BiStream → Bool
  | .ok stream => (readToEnd stream (1024 * 1024)).toOption.isSome
  | .error _ => false

/-- What a client gets back on a stream that is read whole. -/
def reply : Except ConnectionError BiStream → Option (List UInt8)
  | .ok stream => do
    let buf ← (readToEnd stream (1024 * 1024)).toOption
    stream.taken.toOption
    return buf
  | .error _ => none

def connects (k : Nat) : Event × Outcome → Bool
  | (.handshake j _, .connected) => j = k
  | _ => false

def opened (k : Nat) : Event × Outcome → Option (Except ConnectionError BiStream)
  | (.acceptBi j next, _) => if j = k then some next else none
  | _ => none

def echoed (k : Nat) : Event × Outcome → Option (List UInt8)
  | (.acceptBi j _, .echoed buf) => if j = k then some buf else none
  | _ => none

def offered (k : Nat) (past : List (Event × Outcome)) : List (Except ConnectionError BiStream) :=
  (past.dropWhile (fun p => !connects k p)).filterMap (opened k)

def echoes (k : Nat) (past : List (Event × Outcome)) : List (List UInt8) :=
  past.filterMap (echoed k)

def connectedIn (k : Nat) (past : List (Event × Outcome)) : Bool := past.any (connects k)

theorem connects_opened {k : Nat} {p : Event × Outcome} (h : connects k p = true) :
    opened k p = none := by
  obtain ⟨e, o⟩ := p
  cases e with
  | incoming => rfl
  | handshake j result => rfl
  | acceptBi j next => cases h

theorem offered_concat (k : Nat) (past : List (Event × Outcome)) (p : Event × Outcome) :
    offered k (past ++ [p]) =
      if connectedIn k past then offered k past ++ (opened k p).toList else [] := by
  have hempty : (past.dropWhile (fun p => !connects k p)).isEmpty = !connectedIn k past := by
    induction past with
    | nil => rfl
    | cons q past ih =>
      cases hq : connects k q with
      | true => simp [connectedIn, hq]
      | false =>
        rw [List.dropWhile_cons_of_pos (by simp [hq]), ih]
        simp [connectedIn, hq]
  rw [offered, List.dropWhile_append, hempty]
  cases hconnected : connectedIn k past with
  | true =>
    rw [if_neg (by decide), if_pos rfl, List.filterMap_append]
    cases hopened : opened k p <;> simp [offered, hopened]
  | false =>
    rw [if_pos (by decide), if_neg (by decide)]
    cases hp : connects k p with
    | true => simp [hp, connects_opened hp]
    | false => simp [hp]

theorem echoes_concat (k : Nat) (past : List (Event × Outcome)) (p : Event × Outcome) :
    echoes k (past ++ [p]) = echoes k past ++ (echoed k p).toList := by
  rw [echoes, List.filterMap_append]
  cases hechoed : echoed k p <;> simp [echoes, hechoed]

theorem connectedIn_concat (k : Nat) (past : List (Event × Outcome)) (p : Event × Outcome) :
    connectedIn k (past ++ [p]) = (connectedIn k past || connects k p) := by
  simp [connectedIn]

theorem offered_unconnected {k : Nat} {past : List (Event × Outcome)}
    (h : connectedIn k past = false) : offered k past = [] := by
  induction past using List.reverseRecOn with
  | nil => rfl
  | append_singleton past p ih =>
    rw [connectedIn_concat, Bool.or_eq_false_iff] at h
    rw [offered_concat, if_neg (by simp [h.1])]

/-- What is known of the streams from where the task of the connection is. -/
def Stage (k : Nat) (past : List (Event × Outcome)) : Option ConnectionTask → Prop
  | some .serving => connectedIn k past = true ∧ ∀ next ∈ offered k past, whole next = true
  | some .finished => connectedIn k past = false ∨ ∃ next ∈ offered k past, whole next = false
  | _ => connectedIn k past = false

structure Follows (k : Nat) (past : List (Event × Outcome)) (task : Option ConnectionTask) :
    Prop where
  echoes : echoes k past = ((offered k past).takeWhile whole).filterMap reply
  stage : Stage k past task

theorem handleConnection_serving (next : Except ConnectionError BiStream) (k : Nat) :
    echoed k (.acceptBi k next, (handleConnection next .serving).1) =
        (if whole next then reply next else none) ∧
      (handleConnection next .serving).2 = if whole next then .serving else .finished := by
  cases next with
  | error e => cases e <;> exact ⟨rfl, rfl⟩
  | ok stream =>
    have hread : (∃ buf, readToEnd stream (1024 * 1024) = .ok buf) ∨
        ∃ e, readToEnd stream (1024 * 1024) = .error e := by
      cases readToEnd stream (1024 * 1024) with
      | ok buf => exact .inl ⟨buf, rfl⟩
      | error e => exact .inr ⟨e, rfl⟩
    rcases hread with ⟨buf, hbuf⟩ | ⟨e, he⟩
    · simp only [handleConnection, whole, reply, hbuf]
      cases stream.taken <;> simp [echoed, Except.toOption]
    · simp only [handleConnection, whole, reply, he]
      cases e <;> simp [echoed, Except.toOption]

theorem connects_other {j k : Nat} (h : j ≠ k) (result : Except String Unit) (o : Outcome) :
    connects k (.handshake j result, o) = false := by
  cases o <;> simp [connects, h]

theorem echoed_other {j k : Nat} (h : j ≠ k) (next : Except ConnectionError BiStream)
    (o : Outcome) : echoed k (.acceptBi j next, o) = none := by
  cases o <;> simp [echoed, h]

theorem echoed_idle (k : Nat) (next : Except ConnectionError BiStream) :
    echoed k (.acceptBi k next, .idle) = none := rfl

theorem advance_other (r : AcceptLoop) {j k : Nat} (h : j ≠ k)
    (f : ConnectionTask → Outcome × ConnectionTask) :
    (advance r j f).2.tasks[k]? = r.tasks[k]? := by
  rw [advance]
  split
  · rfl
  · exact List.getElem?_set_ne h

theorem advance_own {r : AcceptLoop} {k : Nat} {task : ConnectionTask} (h : r.tasks[k]? = some task)
    (f : ConnectionTask → Outcome × ConnectionTask) :
    (advance r k f).1 = (f task).1 ∧ (advance r k f).2.tasks[k]? = some (f task).2 := by
  obtain ⟨hlength, rfl⟩ := List.getElem?_eq_some_iff.mp h
  simp [advance, hlength]

theorem advance_none {r : AcceptLoop} {k : Nat} (h : r.tasks[k]? = none)
    (f : ConnectionTask → Outcome × ConnectionTask) : advance r k f = (.idle, r) := by
  rw [advance, h]

section

variable {k : Nat} {past : List (Event × Outcome)} {task : Option ConnectionTask}
  (h : Follows k past task) {p : Event × Outcome}

include h

theorem follows_quiet (hconnects : connects k p = false) (hopened : opened k p = none)
    (hechoed : echoed k p = none) : Follows k (past ++ [p]) task := by
  have hconnected : connectedIn k (past ++ [p]) = connectedIn k past := by
    rw [connectedIn_concat, hconnects, Bool.or_false]
  have hoffered : offered k (past ++ [p]) = offered k past := by
    cases hyes : connectedIn k past with
    | true => simp [offered_concat, hyes, hopened]
    | false => rw [offered_unconnected hyes, offered_unconnected (hconnected.trans hyes)]
  have hechoes : echoes k (past ++ [p]) = echoes k past := by
    rw [echoes_concat, hechoed, Option.toList_none, List.append_nil]
  refine ⟨by rw [hechoes, hoffered, h.echoes], ?_⟩
  have hstage := h.stage
  unfold Stage at hstage ⊢
  rw [hconnected, hoffered]
  exact hstage

omit h in
/-- A stream that nobody serves comes too early, or after one that ended the loop. -/
theorem takeWhile_unserved {offers : List (Except ConnectionError BiStream)}
    (h : ∃ next ∈ offers, whole next = false) (more : List (Except ConnectionError BiStream)) :
    (offers ++ more).takeWhile whole = offers.takeWhile whole := by
  induction offers with
  | nil => obtain ⟨next, hnext, -⟩ := h; cases hnext
  | cons first offers ih =>
    cases hfirst : whole first with
    | false => simp [hfirst]
    | true =>
      obtain ⟨next, hnext, hbad⟩ := h
      rcases List.mem_cons.mp hnext with rfl | hnext
      · cases hfirst.symm.trans hbad
      · rw [List.cons_append, List.takeWhile_cons_of_pos hfirst, List.takeWhile_cons_of_pos hfirst,
          ih ⟨next, hnext, hbad⟩]

theorem follows_unserved {next : Except ConnectionError BiStream} (htask : task ≠ some .serving) :
    Follows k (past ++ [(.acceptBi k next, .idle)]) task := by
  have hconnected : connectedIn k (past ++ [(.acceptBi k next, .idle)]) = connectedIn k past := by
    simp [connectedIn_concat, connects]
  have hechoes : echoes k (past ++ [(.acceptBi k next, .idle)]) = echoes k past := by
    rw [echoes_concat, echoed_idle, Option.toList_none, List.append_nil]
  cases hyes : connectedIn k past with
  | false =>
    have hnone := offered_unconnected hyes
    have hnone' := offered_unconnected (hconnected.trans hyes)
    refine ⟨by rw [hechoes, h.echoes, hnone, hnone'], ?_⟩
    have hstage := h.stage
    unfold Stage at hstage ⊢
    rw [hconnected, hnone', ← hnone]
    exact hstage
  | true =>
    have hoffered : offered k (past ++ [(.acceptBi k next, .idle)]) = offered k past ++ [next] := by
      simp [offered_concat, hyes, opened]
    have hbad : task = some .finished ∧ ∃ bad ∈ offered k past, whole bad = false := by
      have hstage := h.stage
      unfold Stage at hstage
      split at hstage
      · exact absurd rfl htask
      · refine ⟨rfl, hstage.resolve_left ?_⟩
        simp [hyes]
      · cases hyes.symm.trans hstage
    obtain ⟨rfl, hbad⟩ := hbad
    refine ⟨by rw [hechoes, h.echoes, hoffered, takeWhile_unserved hbad], .inr ?_⟩
    obtain ⟨bad, hmem, hfalse⟩ := hbad
    exact ⟨bad, hoffered ▸ List.mem_append_left _ hmem, hfalse⟩

end

theorem follows_acceptBi {k : Nat} {past : List (Event × Outcome)} {r : AcceptLoop}
    (h : Follows k past r.tasks[k]?) (next : Except ConnectionError BiStream) :
    Follows k (past ++ [(.acceptBi k next, (advance r k (handleConnection next)).1)])
      (advance r k (handleConnection next)).2.tasks[k]? := by
  cases htask : r.tasks[k]? with
  | none =>
    rw [advance_none htask]
    exact follows_unserved h (by simp [htask])
  | some task =>
    obtain ⟨houtcome, hafter⟩ := advance_own htask (handleConnection next)
    rw [houtcome, hafter]
    rw [htask] at h
    cases task with
    | connecting => exact follows_unserved h (by simp)
    | finished => exact follows_unserved h (by simp)
    | serving =>
      obtain ⟨hconnected, hwhole⟩ := h.stage
      obtain ⟨hechoed, hgoes⟩ := handleConnection_serving next k
      have hall : (offered k past).takeWhile whole = offered k past :=
        List.takeWhile_eq_self_iff.mpr hwhole
      have hechoes := h.echoes
      rw [hall] at hechoes
      have hoffered : ∀ o,
          offered k (past ++ [(.acceptBi k next, o)]) = offered k past ++ [next] := by
        intro o
        simp [offered_concat, hconnected, opened]
      rw [hgoes]
      cases hnext : whole next with
      | true =>
        rw [hnext, if_pos rfl] at hechoed
        have hmore : ∀ other ∈ offered k past ++ [next], whole other = true := by
          intro other hother
          rcases List.mem_append.mp hother with hother | hother
          · exact hwhole other hother
          · exact (List.mem_singleton.mp hother) ▸ hnext
        refine ⟨?_, ?_, ?_⟩
        · rw [echoes_concat, hechoed, hechoes, hoffered, List.takeWhile_eq_self_iff.mpr hmore,
            List.filterMap_append]
          cases hreply : reply next <;> simp [hreply]
        · simp [connectedIn_concat, hconnected]
        · rw [hoffered]
          exact hmore
      | false =>
        rw [hnext, if_neg (by decide)] at hechoed
        refine ⟨?_, .inr ⟨next, ?_, hnext⟩⟩
        · rw [echoes_concat, hechoed, hechoes, hoffered, List.takeWhile_append_of_pos hwhole]
          simp [hnext]
        · rw [hoffered]
          exact List.mem_append_right _ (List.mem_singleton_self _)

theorem follows_handshake {k : Nat} {past : List (Event × Outcome)} {r : AcceptLoop}
    (h : Follows k past r.tasks[k]?) (result : Except String Unit) :
    Follows k (past ++ [(.handshake k result, (advance r k (ConnectionTask.handshake result)).1)])
      (advance r k (ConnectionTask.handshake result)).2.tasks[k]? := by
  cases htask : r.tasks[k]? with
  | none =>
    rw [advance_none htask]
    exact follows_quiet h rfl rfl rfl
  | some task =>
    obtain ⟨houtcome, hafter⟩ := advance_own htask (ConnectionTask.handshake result)
    rw [houtcome, hafter]
    rw [htask] at h
    cases task with
    | serving => exact follows_quiet h rfl rfl rfl
    | finished => exact follows_quiet h rfl rfl rfl
    | connecting =>
      have hunconnected : connectedIn k past = false := h.stage
      have hnone : echoes k past = [] := by rw [h.echoes, offered_unconnected hunconnected]; rfl
      cases result with
      | error e =>
        have hquiet : Follows k (past ++ [(.handshake k (.error e), .failed e)])
            (some .connecting) := follows_quiet h rfl rfl rfl
        exact ⟨hquiet.echoes, .inl hquiet.stage⟩
      | ok u =>
        have hoffered : offered k (past ++ [(.handshake k (.ok u), .connected)]) = [] := by
          simp [offered_concat, hunconnected]
        refine ⟨?_, ?_, ?_⟩
        · simp [echoes_concat, hnone, hoffered, ConnectionTask.handshake, echoed]
        · simp [connectedIn_concat, connects, ConnectionTask.handshake]
        · simp [hoffered, ConnectionTask.handshake]

theorem follows_step (k : Nat) (past : List (Event × Outcome)) (r : AcceptLoop) (e : Event)
    (h : Follows k past r.tasks[k]?) :
    Follows k (past ++ [(e, (step r e).1)]) (step r e).2.tasks[k]? := by
  cases e with
  | incoming =>
    have hquiet := follows_quiet h (p := (.incoming, (accept r).1)) rfl rfl rfl
    simp only [step, accept] at hquiet ⊢
    split
    · rename_i hfull
      rw [if_pos hfull] at hquiet
      exact hquiet
    · rename_i hfree
      rw [if_neg hfree] at hquiet
      dsimp only at hquiet ⊢
      by_cases hk : k < r.tasks.length
      · rwa [List.getElem?_append_left hk]
      · have hnone : r.tasks[k]? = none := List.getElem?_eq_none (Nat.le_of_not_lt hk)
        rw [hnone] at hquiet
        refine ⟨hquiet.echoes, ?_⟩
        rw [List.getElem?_append_right (Nat.le_of_not_lt hk)]
        cases k - r.tasks.length <;> exact hquiet.stage
  | handshake j result =>
    by_cases hj : j = k
    · subst hj
      exact follows_handshake h result
    · have hquiet := follows_quiet h
        (p := (.handshake j result, (advance r j (ConnectionTask.handshake result)).1))
        (connects_other hj result _) rfl rfl
      rwa [step, advance_other r hj]
  | acceptBi j next =>
    by_cases hj : j = k
    · subst hj
      exact follows_acceptBi h next
    · have hquiet := follows_quiet h
        (p := (.acceptBi j next, (advance r j (handleConnection next)).1))
        rfl (by simp [opened, hj]) (echoed_other hj next _)
      rwa [step, advance_other r hj]

/-- Whatever the other clients do meanwhile, a client gets back what it sent on
its streams, one after the other, until one of them is too long or breaks off. -/
theorem served_alone (config : RelayConfig) (es : List Event) (k : Nat) :
    let past := trace step (AcceptLoop.new config) es
    echoes k past = ((offered k past).takeWhile whole).filterMap reply := by
  have hrun : Follows k (trace step (AcceptLoop.new config) es)
      (run step (AcceptLoop.new config) es).tasks[k]? := by
    apply trace_always (J := fun past (r : AcceptLoop) => Follows k past r.tasks[k]?)
    · exact ⟨rfl, rfl⟩
    · exact follows_step k
  exact hrun.echoes

end Netfusion.Relay.Echo
