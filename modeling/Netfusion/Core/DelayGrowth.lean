import Netfusion.Lib.Saturation
import Netfusion.Core.ReconnectBackoff

namespace Netfusion.Core.DelayGrowth

open Netfusion.Lib.Machine Netfusion.Lib.Saturation
open Netfusion.Core.Tunnels
open Netfusion.Core.ReconnectBackoff (backoff)

inductive Call where
  | nextDelay
  | reset (now : Nat)

inductive Overflow where
  | attempts | delay
deriving DecidableEq

def maxDuration : Nat := (2 ^ 64 - 1) * 10 ^ 9 + 999999999

/-- A call with the checks that Rust makes on the way: the counter is a `u32`,
and a `Duration` is not doubled beyond the longest one. -/
def step (info : ReconnectInfo) : Call → Except Overflow (Option Nat) × ReconnectInfo
  | .nextDelay =>
    if info.attempts.toNat + 1 = 2 ^ 32 then (.error .attempts, info)
    else if maxDuration < info.currentDelay * 2 then
      (.error .delay, { info with attempts := info.attempts + 1 })
    else (.ok (some (nextDelay info).currentDelay), nextDelay info)
  | .reset now => (.ok none, resetInfo now)

def count (n : Nat) : Call → Nat
  | .nextDelay => n + 1
  | .reset _ => 0

def sinceReset (calls : List Call) : Nat := calls.foldl count 0

/-- No call panics. The next delay is the one that is returned; it is not
below the last, and above it as long as that is below 300 s. -/
def Advances (info : ReconnectInfo) : Call → Prop
  | .nextDelay =>
    (step info .nextDelay).1 = .ok (some (step info .nextDelay).2.currentDelay) ∧
    info.currentDelay ≤ (step info .nextDelay).2.currentDelay ∧
    (info.currentDelay < 300 * 10 ^ 9 →
      info.currentDelay < (step info .nextDelay).2.currentDelay)
  | .reset now => (step info (.reset now)).1 = .ok none

structure FollowsForm (calls : List Call) : Prop where
  form : (run step .new calls).currentDelay = min (2 ^ sinceReset calls) 300 * 10 ^ 9
  attempts : (run step .new calls).attempts.toNat = sinceReset calls
  least : 1 * 10 ^ 9 ≤ (run step .new calls).currentDelay
  most : (run step .new calls).currentDelay ≤ 300 * 10 ^ 9
  advances : EachStep step .new calls (fun _ info call => Advances info call)

structure Grown (n : Nat) (info : ReconnectInfo) : Prop where
  attempts : info.attempts.toNat = n
  delay : info.currentDelay = (capped (· * 2) maxReconnectDelay)^[n] (10 ^ 9)

theorem sinceReset_concat (calls : List Call) (call : Call) :
    sinceReset (calls ++ [call]) = count (sinceReset calls) call := by
  rw [sinceReset, List.foldl_append]
  rfl

theorem sinceReset_le_length (calls : List Call) : sinceReset calls ≤ calls.length := by
  induction calls using List.reverseRecOn with
  | nil => exact Nat.le_refl 0
  | append_singleton calls call ih =>
    rw [sinceReset_concat, List.length_append, List.length_singleton]
    cases call with
    | nextDelay => exact Nat.succ_le_succ ih
    | reset now => exact Nat.zero_le _

theorem capped_backoff (n : Nat) :
    (capped (· * 2) maxReconnectDelay)^[n] (10 ^ 9) = backoff n := by
  rw [capped_iterate, mul_right_iterate, backoff, maxReconnectDelay]
  · change min (10 ^ 9 * 2 ^ n) (300 * 10 ^ 9) = min (2 ^ n) 300 * 10 ^ 9
    rw [Nat.mul_comm (10 ^ 9), Nat.mul_min_mul_right]
  · intro a b hab
    exact Nat.mul_le_mul_right 2 hab
  · decide
  · decide

theorem backoff_least (n : Nat) : 1 * 10 ^ 9 ≤ backoff n := by
  have hpow : 1 ≤ 2 ^ n := Nat.one_le_two_pow
  have hmin : 1 ≤ min (2 ^ n) 300 := Nat.le_min.mpr ⟨hpow, by decide⟩
  exact Nat.mul_le_mul_right (10 ^ 9) hmin

theorem backoff_most (n : Nat) : backoff n ≤ 300 * 10 ^ 9 :=
  Nat.mul_le_mul_right (10 ^ 9) (Nat.min_le_right _ _)

section

variable {n : Nat} {info : ReconnectInfo}

theorem Grown.least (h : Grown n info) : 1 * 10 ^ 9 ≤ info.currentDelay := by
  rw [h.delay, capped_backoff]
  exact backoff_least n

theorem Grown.most (h : Grown n info) : info.currentDelay ≤ 300 * 10 ^ 9 := by
  rw [h.delay, capped_backoff]
  exact backoff_most n

theorem Grown.next (h : Grown n info) (hn : n + 1 < 2 ^ 32) :
    step info .nextDelay = (.ok (some (nextDelay info).currentDelay), nextDelay info) := by
  have hmost := h.most
  have hcount : ¬ info.attempts.toNat + 1 = 2 ^ 32 := by
    rw [h.attempts]
    omega
  have hdouble : ¬ maxDuration < info.currentDelay * 2 := by
    rw [maxDuration]
    omega
  rw [step, if_neg hcount, if_neg hdouble]

theorem grown_step (h : Grown n info) (call : Call) (hn : count n call < 2 ^ 32) :
    Grown (count n call) (step info call).2 := by
  cases call with
  | nextDelay =>
    rw [h.next hn]
    constructor
    · change (info.attempts + 1).toNat = n + 1
      rw [UInt32.toNat_add, h.attempts]
      exact Nat.mod_eq_of_lt hn
    · change capped (· * 2) maxReconnectDelay info.currentDelay = _
      rw [h.delay]
      exact (Function.iterate_succ_apply' _ n _).symm
  | reset now => exact ⟨rfl, rfl⟩

theorem advances_of_grown (h : Grown n info) (call : Call) (hn : count n call < 2 ^ 32) :
    Advances info call := by
  cases call with
  | nextDelay =>
    have hleast := h.least
    rw [Advances, h.next hn]
    refine ⟨rfl, ?_, ?_⟩
    · apply le_capped (f := (· * 2))
      · exact Nat.le_mul_of_pos_right _ (by decide)
      · exact h.most
    · intro hbelow
      apply lt_capped (f := (· * 2))
      · change info.currentDelay < info.currentDelay * 2
        omega
      · exact hbelow
  | reset now => rfl

end

/-- Fewer than 2^32 calls of `next_delay` come without a reset in between. -/
def Spaced (calls : List Call) : Prop :=
  ∀ pre post, calls = pre ++ post → sinceReset pre < 2 ^ 32

theorem grown_run (calls : List Call) (h : Spaced calls) :
    Grown (sinceReset calls) (run step .new calls) := by
  induction calls using List.reverseRecOn with
  | nil => exact ⟨rfl, rfl⟩
  | append_singleton calls call ih =>
    have hn := h (calls ++ [call]) [] (List.append_nil _).symm
    rw [sinceReset_concat] at hn ⊢
    rw [run_concat]
    apply grown_step _ call hn
    apply ih
    rintro pre post rfl
    exact h pre (post ++ [call]) (List.append_assoc _ _ _)

/-- In every sequence of calls the delay is the capped power of two. -/
theorem delay_follows_form (calls : List Call) (h : Spaced calls) : FollowsForm calls := by
  have hgrown := grown_run calls h
  constructor
  · rw [hgrown.delay, capped_backoff, backoff]
  · exact hgrown.attempts
  · exact hgrown.least
  · exact hgrown.most
  · intro pre call post he
    have hn := h (pre ++ [call]) post (by simp [he])
    rw [sinceReset_concat] at hn
    apply advances_of_grown _ call hn
    apply grown_run
    rintro front back rfl
    exact h front (back ++ call :: post) (by simp [he])

theorem delay_follows_form_reset : FollowsForm [.nextDelay, .nextDelay, .reset 5, .nextDelay] := by
  apply delay_follows_form
  rintro pre post he
  have hlength := congrArg List.length he
  have hle := sinceReset_le_length pre
  rw [List.length_append] at hlength
  simp only [List.length_cons, List.length_nil] at hlength
  omega

end Netfusion.Core.DelayGrowth
