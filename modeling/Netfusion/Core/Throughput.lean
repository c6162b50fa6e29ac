import Mathlib.Algebra.Order.Ring.Rat
import Mathlib.Tactic.Positivity
import Mathlib.Tactic.NormNum
import Netfusion.Lib.Machine
import Netfusion.Lib.Collections

namespace Netfusion.Core.Throughput

open Netfusion.Lib.Collections Netfusion.Lib.Machine

/-- Instants are counted in nanoseconds. -/
structure ThroughputTracker where
  lastRx : HashMap String UInt64
  lastTx : HashMap String UInt64
  lastTime : Option Nat

def ThroughputTracker.new : ThroughputTracker := ⟨∅, ∅, none⟩

def secondsSince (last now : Nat) : ℚ := (now - last : Nat) / 10 ^ 9

def saturatingSub (a b : UInt64) : Nat := a.toNat - b.toNat

def record (t : ThroughputTracker) (name : String) (rxBytes txBytes : UInt64) (now : Nat) :
    ThroughputTracker where
  lastRx := t.lastRx.insert name rxBytes
  lastTx := t.lastTx.insert name txBytes
  lastTime := some now

def estimate (t : ThroughputTracker) (name : String) (rxBytes txBytes : UInt64) (now : Nat) :
    ℚ × ThroughputTracker :=
  match t.lastTime, t.lastRx.lookup name, t.lastTx.lookup name with
  | some lastTime, some lastRx, some lastTx =>
    let elapsed := secondsSince lastTime now
    if elapsed > 0 then
      let rxDelta : ℚ := saturatingSub rxBytes lastRx
      let txDelta : ℚ := saturatingSub txBytes lastTx
      let totalBits := (rxDelta + txDelta) * 8
      let mbps := totalBits / elapsed / 1000000
      (mbps, record t name rxBytes txBytes now)
    else (0, record t name rxBytes txBytes now)
  | _, _, _ => (0, record t name rxBytes txBytes now)

structure Call where
  name : String
  rxBytes : UInt64
  txBytes : UInt64
  now : Nat

def estimateStep (t : ThroughputTracker) (c : Call) : ℚ × ThroughputTracker :=
  estimate t c.name c.rxBytes c.txBytes c.now

def lastCall (name : String) (cs : List Call) : Option Call :=
  (cs.filter (fun c => c.name = name)).getLast?

/-- Megabits per second from one call to a later one. -/
def rate (d c : Call) : ℚ :=
  8 * (max 0 ((c.rxBytes.toNat : ℚ) - d.rxBytes.toNat) +
    max 0 ((c.txBytes.toNat : ℚ) - d.txBytes.toNat)) /
    (((c.now : ℚ) - d.now) / 10 ^ 9) / 10 ^ 6

/-- A call on a name seen before answers with the rate since the last call on
that name. -/
def MeasuresSame (past : List Call) (t : ThroughputTracker) (c : Call) : Prop :=
  ∀ d, lastCall c.name past = some d → (estimateStep t c).1 = rate d c

/-- Either no other name was asked for in between, or there is nothing to measure. -/
def Undisturbed (past : List Call) (c : Call) : Prop :=
  ∀ d, lastCall c.name past = some d →
    (∀ l, past.getLast? = some l → l.name = c.name) ∨
    c.rxBytes ≤ d.rxBytes ∧ c.txBytes ≤ d.txBytes

structure Tracks (cs : List Call) (t : ThroughputTracker) : Prop where
  time : t.lastTime = cs.getLast?.map (·.now)
  rx : ∀ name, t.lastRx.lookup name = (lastCall name cs).map (·.rxBytes)
  tx : ∀ name, t.lastTx.lookup name = (lastCall name cs).map (·.txBytes)

theorem lastCall_concat (name : String) (cs : List Call) (c : Call) :
    lastCall name (cs ++ [c]) = if c.name = name then some c else lastCall name cs := by
  by_cases h : c.name = name <;> simp [lastCall, List.filter_append, h]

theorem lastCall_mem {name : String} {cs : List Call} {d : Call} (h : lastCall name cs = some d) :
    d ∈ cs ∧ d.name = name := by
  have hmem := List.mem_of_getLast? h
  exact ⟨List.mem_of_mem_filter hmem, of_decide_eq_true (List.mem_filter.mp hmem).2⟩

theorem lastCall_eq_none {name : String} {cs : List Call} (h : ∀ c ∈ cs, c.name ≠ name) :
    lastCall name cs = none := by
  rw [lastCall, List.getLast?_eq_none_iff, List.filter_eq_nil_iff]
  intro c hc
  simpa using h c hc

/-- Whatever a call answers, it leaves its counters and its time behind. -/
theorem estimate_snd (t : ThroughputTracker) (c : Call) :
    (estimateStep t c).2 = record t c.name c.rxBytes c.txBytes c.now := by
  rw [estimateStep, estimate]
  split
  · simp only
    split <;> rfl
  · rfl

theorem tracks_step {cs : List Call} {t : ThroughputTracker} (h : Tracks cs t) (c : Call) :
    Tracks (cs ++ [c]) (estimateStep t c).2 := by
  rw [estimate_snd]
  constructor
  · simp [record]
  · intro name
    simp only [record, lookup_insert_eq, lastCall_concat, eq_comm (a := name)]
    split
    · rfl
    · exact h.rx name
  · intro name
    simp only [record, lookup_insert_eq, lastCall_concat, eq_comm (a := name)]
    split
    · rfl
    · exact h.tx name

theorem tracks_run (cs : List Call) : Tracks cs (run estimateStep ThroughputTracker.new cs) := by
  induction cs using List.reverseRecOn with
  | nil => exact ⟨rfl, fun _ => rfl, fun _ => rfl⟩
  | append_singleton cs c ih =>
    rw [run_concat]
    exact tracks_step ih c

theorem estimate_unseen {cs : List Call} {t : ThroughputTracker} (h : Tracks cs t) {c : Call}
    (hnone : lastCall c.name cs = none) : (estimateStep t c).1 = 0 := by
  have hrx : t.lastRx.lookup c.name = none := by rw [h.rx, hnone, Option.map_none]
  rw [estimateStep, estimate, hrx]
  cases t.lastTime <;> rfl

def bytes (d c : Call) : Nat :=
  saturatingSub c.rxBytes d.rxBytes + saturatingSub c.txBytes d.txBytes

theorem bytes_eq_zero (d c : Call) :
    bytes d c = 0 ↔ c.rxBytes ≤ d.rxBytes ∧ c.txBytes ≤ d.txBytes := by
  rw [UInt64.le_iff_toNat_le, UInt64.le_iff_toNat_le]
  simp only [bytes, saturatingSub]
  omega

theorem cast_saturatingSub (a b : UInt64) :
    (saturatingSub a b : ℚ) = max 0 ((a.toNat : ℚ) - b.toNat) := by
  rw [saturatingSub]
  rcases le_total a.toNat b.toNat with h | h
  · rw [Nat.sub_eq_zero_of_le h, max_eq_left (sub_nonpos.mpr (Nat.cast_le.mpr h)), Nat.cast_zero]
  · rw [Nat.cast_sub h, max_eq_right (sub_nonneg.mpr (Nat.cast_le.mpr h))]

theorem secondsSince_pos {last now : Nat} (h : last < now) : 0 < secondsSince last now :=
  div_pos (Nat.cast_pos.mpr (Nat.sub_pos_of_lt h)) (by norm_num)

def rateSince (last : Nat) (d c : Call) : ℚ := bytes d c * 8 / secondsSince last c.now / 1000000

theorem rate_eq {d c : Call} (h : d.now < c.now) : rate d c = rateSince d.now d c := by
  rw [rate, rateSince, secondsSince, bytes, Nat.cast_add, cast_saturatingSub, cast_saturatingSub,
    Nat.cast_sub h.le]
  norm_num
  rw [mul_comm]

theorem estimate_fst {cs : List Call} {t : ThroughputTracker} (h : Tracks cs t) {c d l : Call}
    (hd : lastCall c.name cs = some d) (hl : cs.getLast? = some l) (hlt : l.now < c.now) :
    (estimateStep t c).1 = rateSince l.now d c := by
  have helapsed := secondsSince_pos hlt
  rw [estimateStep, estimate, h.time, h.rx, h.tx, hd, hl]
  simp only [Option.map_some, gt_iff_lt, helapsed, if_true, rateSince, bytes, Nat.cast_add]

theorem rateSince_eq_iff {d c : Call} {last last' : Nat} (h : last < last') (h' : last' < c.now) :
    rateSince last' d c = rateSince last d c ↔ bytes d c = 0 := by
  constructor
  · intro heq
    by_contra hne
    have hbytes : (0 : ℚ) < bytes d c * 8 := by
      have hpos : (0 : ℚ) < bytes d c := Nat.cast_pos.mpr (Nat.pos_of_ne_zero hne)
      positivity
    have hlt : secondsSince last' c.now < secondsSince last c.now := by
      rw [secondsSince, secondsSince]
      apply div_lt_div_of_pos_right _ (by norm_num)
      exact Nat.cast_lt.mpr (by omega)
    have hless : rateSince last d c < rateSince last' d c := by
      rw [rateSince, rateSince]
      apply div_lt_div_of_pos_right _ (by norm_num)
      exact div_lt_div_of_pos_left hbytes (secondsSince_pos h') hlt
    exact absurd heq hless.ne'
  · intro hzero
    simp [rateSince, hzero]

theorem lastCall_or_later {cs : List Call} (hcs : cs.Pairwise (fun c d => c.now < d.now))
    {name : String} {d l : Call} (hd : lastCall name cs = some d) (hl : cs.getLast? = some l) :
    l.name = name ∧ d = l ∨ l.name ≠ name ∧ d.now < l.now := by
  obtain ⟨init, rfl⟩ := List.getLast?_eq_some_iff.mp hl
  rw [lastCall_concat] at hd
  by_cases hname : l.name = name
  · rw [if_pos hname] at hd
    exact .inl ⟨hname, (Option.some.inj hd).symm⟩
  · rw [if_neg hname] at hd
    have hmem := (lastCall_mem hd).1
    exact .inr ⟨hname, (List.pairwise_append.mp hcs).2.2 d hmem l (List.mem_singleton_self l)⟩

theorem measuresSame_iff {cs : List Call} {c : Call}
    (hclock : (cs ++ [c]).Pairwise (fun c d => c.now < d.now)) :
    MeasuresSame cs (run estimateStep ThroughputTracker.new cs) c ↔ Undisturbed cs c := by
  obtain ⟨hcs, -, hlater⟩ := List.pairwise_append.mp hclock
  rw [MeasuresSame, Undisturbed]
  apply forall_congr'
  intro d
  apply forall_congr'
  intro hd
  obtain ⟨l, hl⟩ : ∃ l, cs.getLast? = some l := by
    cases h : cs.getLast? with
    | none =>
      rw [List.getLast?_eq_none_iff.mp h] at hd
      cases hd
    | some l => exact ⟨l, rfl⟩
  have hlc : l.now < c.now := hlater l (List.mem_of_getLast? hl) c (List.mem_singleton_self c)
  have hdc : d.now < c.now := hlater d (lastCall_mem hd).1 c (List.mem_singleton_self c)
  simp only [estimate_fst (tracks_run cs) hd hl hlc, rate_eq hdc, hl, Option.some.injEq, forall_eq']
  rcases lastCall_or_later hcs hd hl with ⟨hname, rfl⟩ | ⟨hname, hlt⟩
  · exact iff_of_true rfl (.inl hname)
  · rw [rateSince_eq_iff hlt hlc, bytes_eq_zero, or_iff_right hname]

/-- With a clock that moves on, all calls measure their own interface exactly
when no call for another one comes between two calls with traffic. -/
theorem throughput_per_interface_iff (cs : List Call)
    (hclock : cs.Pairwise (fun c d => c.now < d.now)) :
    (∀ pre c post, cs = pre ++ c :: post →
      MeasuresSame pre (run estimateStep ThroughputTracker.new pre) c) ↔
    ∀ pre c post, cs = pre ++ c :: post → Undisturbed pre c := by
  have hfront : ∀ pre c post, cs = pre ++ c :: post →
      (MeasuresSame pre (run estimateStep ThroughputTracker.new pre) c ↔ Undisturbed pre c) := by
    rintro pre c post rfl
    have hsub : (pre ++ [c]).Sublist (pre ++ c :: post) := by simp
    exact measuresSame_iff (List.Pairwise.sublist hsub hclock)
  constructor
  · intro h pre c post he
    exact (hfront pre c post he).mp (h pre c post he)
  · intro h pre c post he
    exact (hfront pre c post he).mpr (h pre c post he)

/-- Two interfaces in turn, each with ten megabits in ten seconds. -/
def inTurn : List Call :=
  [⟨"eth0", 0, 0, 0⟩, ⟨"eth1", 0, 0, 9 * 10 ^ 9⟩, ⟨"eth0", 1250000, 0, 10 * 10 ^ 9⟩]

theorem throughput_per_interface_iff_inTurn :
    (∀ pre c post, inTurn = pre ++ c :: post →
      MeasuresSame pre (run estimateStep ThroughputTracker.new pre) c) ↔
    ∀ pre c post, inTurn = pre ++ c :: post → Undisturbed pre c :=
  throughput_per_interface_iff inTurn (by decide)

/-- `eth0` has moved ten megabits in ten seconds, but only one second has passed
since `eth1` was asked for. -/
theorem one_second_for_ten :
    ¬ ∀ pre c post, inTurn = pre ++ c :: post →
      MeasuresSame pre (run estimateStep ThroughputTracker.new pre) c := by
  intro h
  have hsame := h [⟨"eth0", 0, 0, 0⟩, ⟨"eth1", 0, 0, 9 * 10 ^ 9⟩]
    ⟨"eth0", 1250000, 0, 10 * 10 ^ 9⟩ [] rfl ⟨"eth0", 0, 0, 0⟩ rfl
  have hten : (estimateStep (run estimateStep ThroughputTracker.new
      [⟨"eth0", 0, 0, 0⟩, ⟨"eth1", 0, 0, 9 * 10 ^ 9⟩]) ⟨"eth0", 1250000, 0, 10 * 10 ^ 9⟩).1 =
        10 := by decide +kernel
  have hone : rate ⟨"eth0", 0, 0, 0⟩ ⟨"eth0", 1250000, 0, 10 * 10 ^ 9⟩ = 1 := by decide +kernel
  rw [hten, hone] at hsame
  norm_num at hsame

end Netfusion.Core.Throughput
