import Mathlib.Data.Int.Order.Basic
import Mathlib.Data.Nat.Find
import Mathlib.Data.Nat.Digits.Defs
import Mathlib.Data.String.Basic
import Mathlib.Order.Monotone.Basic

namespace Netfusion.Lib.Calendar

def pad : ℕ → ℕ → List Char
  | 0, _ => []
  | w + 1, n => Nat.digitChar (n / 10 ^ w % 10) :: pad w n

theorem pad_length (w n : ℕ) : (pad w n).length = w := by
  induction w with
  | zero => rfl
  | succ w ih => rw [pad, List.length_cons, ih]

theorem digitChar_lt_iff {d d' : ℕ} (h : d < 10) (h' : d' < 10) :
    (d.digitChar < d'.digitChar ↔ d < d') ∧ (d.digitChar = d'.digitChar ↔ d = d') :=
  (by decide : ∀ d d' : Fin 10, ((d : ℕ).digitChar < (d' : ℕ).digitChar ↔ (d : ℕ) < d') ∧
    ((d : ℕ).digitChar = (d' : ℕ).digitChar ↔ (d : ℕ) = d')) ⟨d, h⟩ ⟨d', h'⟩

/-- Two numbers written at one width compare as their texts do. -/
theorem pad_append_lt_iff (w n n' : ℕ) (s s' : List Char) : pad w n ++ s < pad w n' ++ s' ↔
    n % 10 ^ w < n' % 10 ^ w ∨ n % 10 ^ w = n' % 10 ^ w ∧ s < s' := by
  induction w with
  | zero => simp [pad, Nat.mod_one]
  | succ w ih =>
    have hd : n / 10 ^ w % 10 < 10 := Nat.mod_lt _ (by decide)
    have hd' : n' / 10 ^ w % 10 < 10 := Nat.mod_lt _ (by decide)
    have hlow : n % 10 ^ w < 10 ^ w := Nat.mod_lt _ (Nat.pow_pos (by decide))
    have hlow' : n' % 10 ^ w < 10 ^ w := Nat.mod_lt _ (Nat.pow_pos (by decide))
    obtain ⟨hlt, heq⟩ := digitChar_lt_iff hd hd'
    rw [pad, pad, List.cons_append, List.cons_append, List.cons_lt_cons_iff, hlt, heq, ih,
      Nat.mod_pow_succ, Nat.mod_pow_succ]
    generalize n / 10 ^ w % 10 = d at *
    generalize n' / 10 ^ w % 10 = d' at *
    generalize n % 10 ^ w = r at *
    generalize n' % 10 ^ w = r' at *
    rcases lt_trichotomy d d' with h | h | h
    · have hscaled : 10 ^ w * d + 10 ^ w ≤ 10 ^ w * d' := Nat.mul_le_mul_left (10 ^ w) h
      omega
    · subst h
      simp only [lt_irrefl, false_or, true_and, Nat.add_lt_add_iff_right,
        Nat.add_right_cancel_iff]
    · have hscaled : 10 ^ w * d' + 10 ^ w ≤ 10 ^ w * d := Nat.mul_le_mul_left (10 ^ w) h
      omega

theorem pad_add (k m n : ℕ) : pad (k + m) n = pad k (n / 10 ^ m) ++ pad m n := by
  induction k with
  | zero => rw [Nat.zero_add, pad, List.nil_append]
  | succ k ih =>
    rw [Nat.add_right_comm, pad, pad, ih, Nat.div_div_eq_div_mul, ← Nat.pow_add, Nat.add_comm m k,
      List.cons_append]

theorem pad_of_dvd {m n : ℕ} (h : n % 10 ^ m = 0) : pad m n = List.replicate m '0' := by
  induction m with
  | zero => rfl
  | succ m ih =>
    rw [Nat.mod_pow_succ] at h
    have hpos : 0 < 10 ^ m := Nat.pow_pos (by decide)
    obtain ⟨hlow, hhigh⟩ := Nat.add_eq_zero_iff.mp h
    have hdigit : n / 10 ^ m % 10 = 0 := (Nat.mul_eq_zero.mp hhigh).resolve_left hpos.ne'
    rw [pad, hdigit, ih hlow, List.replicate_succ]
    rfl

theorem isDigit_pad (w n : ℕ) : ∀ c ∈ pad w n, c.isDigit := by
  induction w with
  | zero => exact fun c hc => by cases hc
  | succ w ih =>
    intro c hc
    rcases List.mem_cons.mp hc with rfl | hc
    · have hdigit := (by decide : ∀ d : Fin 10, (Nat.digitChar d).isDigit)
      exact hdigit ⟨n / 10 ^ w % 10, Nat.mod_lt _ (by decide)⟩
    · exact ih c hc

theorem not_lt_zeros {digits : List Char} (h : ∀ c ∈ digits, c.isDigit) :
    ¬ digits < List.replicate digits.length '0' := by
  induction digits with
  | nil => exact List.not_lt_nil []
  | cons c digits ih =>
    rw [List.length_cons, List.replicate_succ, List.cons_lt_cons_iff]
    rintro (hlt | ⟨-, hlt⟩)
    · have hdigit := (Char.isDigit_iff_toNat.mp (h c List.mem_cons_self)).1
      exact absurd hlt (not_lt.mpr hdigit)
    · exact ih (fun c hc => h c (List.mem_cons_of_mem _ hc)) hlt

theorem not_lt_as_many_zeros {digits : List Char} {m m' : ℕ} (h : ∀ d ∈ digits, d.isDigit)
    (hlen : digits.length + m = m') :
    ¬ digits ++ List.replicate m '0' < List.replicate m' '0' := by
  have hall : ∀ x ∈ digits ++ List.replicate m '0', x.isDigit := by
    intro x hx
    rcases List.mem_append.mp hx with hx | hx
    · exact h x hx
    · rw [(List.mem_replicate.mp hx).2]
      rfl
  have hzeros : m' = (digits ++ List.replicate m '0').length := by
    rw [List.length_append, List.length_replicate, hlen]
  rw [hzeros]
  exact not_lt_zeros hall

theorem trimmed_lt {digits digits' s s' : List Char} {c : Char} {m m' : ℕ}
    (h : ∀ d ∈ digits, d.isDigit) (h' : ∀ d ∈ digits', d.isDigit) (hc : c < '0')
    (hlen : digits.length + m = digits'.length + m')
    (hlt : digits ++ List.replicate m '0' < digits' ++ List.replicate m' '0') :
    digits ++ c :: s < digits' ++ c :: s' := by
  induction digits generalizing digits' with
  | nil =>
    cases digits' with
    | nil =>
      have hzeros : m = m' := by simpa using hlen
      subst hzeros
      exact absurd hlt (lt_irrefl _)
    | cons d digits' =>
      have hd := (Char.isDigit_iff_toNat.mp (h' d List.mem_cons_self)).1
      exact List.cons_lt_cons_iff.mpr (.inl (lt_of_lt_of_le hc hd))
  | cons d digits ih =>
    cases digits' with
    | nil =>
      have hlen' : (d :: digits).length + m = m' := hlen.trans (Nat.zero_add m')
      exact absurd hlt (not_lt_as_many_zeros h hlen')
    | cons d' digits' =>
      rw [List.cons_append, List.cons_append, List.cons_lt_cons_iff] at hlt ⊢
      rcases hlt with hlt | ⟨heq, hlt⟩
      · exact .inl hlt
      · refine .inr ⟨heq, ih (fun x hx => h x (List.mem_cons_of_mem _ hx))
          (fun x hx => h' x (List.mem_cons_of_mem _ hx)) ?_ hlt⟩
        simp only [List.length_cons] at hlen
        omega

/-- No, three, six or nine digits, as many as are needed. -/
def fraction (nanos : ℕ) : List Char :=
  if nanos = 0 then []
  else if nanos % 10 ^ 6 = 0 then '.' :: pad 3 (nanos / 10 ^ 6)
  else if nanos % 10 ^ 3 = 0 then '.' :: pad 6 (nanos / 10 ^ 3)
  else '.' :: pad 9 nanos

theorem fraction_digits {nanos : ℕ} (h : nanos ≠ 0) : ∃ digits zeros,
    fraction nanos = '.' :: digits ∧ digits ++ List.replicate zeros '0' = pad 9 nanos ∧
    (∀ c ∈ digits, c.isDigit) ∧ digits.length + zeros = 9 := by
  rw [fraction, if_neg h]
  by_cases hmilli : nanos % 10 ^ 6 = 0
  · rw [if_pos hmilli]
    refine ⟨pad 3 (nanos / 10 ^ 6), 6, rfl, ?_, isDigit_pad _ _, by rw [pad_length]⟩
    rw [← pad_of_dvd hmilli, ← pad_add]
  · rw [if_neg hmilli]
    by_cases hmicro : nanos % 10 ^ 3 = 0
    · rw [if_pos hmicro]
      refine ⟨pad 6 (nanos / 10 ^ 3), 3, rfl, ?_, isDigit_pad _ _, by rw [pad_length]⟩
      rw [← pad_of_dvd hmicro, ← pad_add]
    · rw [if_neg hmicro]
      exact ⟨pad 9 nanos, 0, rfl, List.append_nil _, isDigit_pad _ _, by rw [pad_length]⟩

/-- Later fractions have greater texts, whatever their lengths. -/
theorem fraction_strictMono {n n' : ℕ} (hn' : n' < 10 ^ 9) (h : n < n') (s : List Char) :
    fraction n ++ '+' :: s < fraction n' ++ '+' :: s := by
  obtain ⟨digits', zeros', htext', hpad', hdigits', hlen'⟩ := fraction_digits (Nat.ne_zero_of_lt h)
  rw [htext']
  by_cases hzero : n = 0
  · rw [hzero, fraction, if_pos rfl]
    exact List.cons_lt_cons_iff.mpr (.inl (by decide))
  · obtain ⟨digits, zeros, htext, hpad, hdigits, hlen⟩ := fraction_digits hzero
    rw [htext]
    apply List.cons_lt_cons_iff.mpr
    refine .inr ⟨rfl, trimmed_lt hdigits hdigits' (by decide) (hlen.trans hlen'.symm) ?_⟩
    have hlt := (pad_append_lt_iff 9 n n' [] []).mpr (.inl (by
      rw [Nat.mod_eq_of_lt (h.trans hn'), Nat.mod_eq_of_lt hn']
      exact h))
    rwa [List.append_nil, List.append_nil, ← hpad, ← hpad'] at hlt

theorem fraction_lt_iff {n n' : ℕ} (hn : n < 10 ^ 9) (hn' : n' < 10 ^ 9) (s : List Char) :
    fraction n ++ '+' :: s < fraction n' ++ '+' :: s ↔ n < n' := by
  rcases lt_trichotomy n n' with h | h | h
  · exact iff_of_true (fraction_strictMono hn' h s) h
  · rw [h]
    exact iff_of_false (lt_irrefl _) (lt_irrefl _)
  · exact iff_of_false (lt_asymm (fraction_strictMono hn h s)) (lt_asymm h)

def lastBefore (f : ℕ → ℕ) (n day : ℕ) : ℕ := Nat.findGreatest (fun k => f k ≤ day) n

theorem lastBefore_le (f : ℕ → ℕ) (n day : ℕ) : lastBefore f n day ≤ n :=
  Nat.findGreatest_le n

theorem lt_next {f : ℕ → ℕ} {n day : ℕ} (h : lastBefore f n day < n) :
    day < f (lastBefore f n day + 1) :=
  not_le.mp (Nat.findGreatest_is_greatest (P := fun k => f k ≤ day) (Nat.lt_succ_self _) h)

/-- Days compare by the periods they lie in, and within one by its days. -/
theorem lt_iff_lastBefore {f : ℕ → ℕ} (h : f 0 = 0) (n day day' : ℕ) : day < day' ↔
    lastBefore f n day < lastBefore f n day' ∨ lastBefore f n day = lastBefore f n day' ∧
      day - f (lastBefore f n day) < day' - f (lastBefore f n day') := by
  have hbegun : ∀ d, f (lastBefore f n d) ≤ d := fun d =>
    Nat.findGreatest_spec (P := fun k => f k ≤ d) (Nat.zero_le n) (h.trans_le (Nat.zero_le d))
  have hmono : ∀ d d', d ≤ d' → lastBefore f n d ≤ lastBefore f n d' := fun d d' hle =>
    Nat.findGreatest_mono_left (fun k hk => hk.trans hle) n
  have hday := hbegun day
  have hday' := hbegun day'
  constructor
  · intro hlt
    rcases (hmono day day' hlt.le).lt_or_eq with hless | heq
    · exact .inl hless
    · rw [heq] at hday ⊢
      exact .inr ⟨rfl, by omega⟩
  · rintro (hless | ⟨heq, hless⟩)
    · by_contra hle
      exact absurd (hmono day' day (not_lt.mp hle)) (not_le.mpr hless)
    · rw [heq] at hday hless
      omega

def isLeap (y : ℕ) : Bool := y % 4 = 0 && (y % 100 ≠ 0 || y % 400 = 0)

def daysBeforeYear (y : ℕ) : ℕ := 365 * y + ((y + 3) / 4 + (y + 399) / 400) - (y + 99) / 100

def monthLengths (leap : Bool) : List ℕ :=
  [31, if leap then 29 else 28, 31, 30, 31, 30, 31, 31, 30, 31, 30, 31]

def daysBeforeMonth (leap : Bool) (m : ℕ) : ℕ := ((monthLengths leap).take m).sum

def nanosPerDay : ℤ := 86400 * 10 ^ 9

def epochDay : ℤ := 719528

def daysPerCycle : ℤ := 146097

def dayOf (t : ℤ) : ℤ := t / nanosPerDay + epochDay

def nanoOfDay (t : ℤ) : ℕ := (t % nanosPerDay).toNat

def dayOfCycle (t : ℤ) : ℕ := (dayOf t % daysPerCycle).toNat

def yearOfCycle (t : ℤ) : ℕ := lastBefore daysBeforeYear 399 (dayOfCycle t)

def yearOf (t : ℤ) : ℤ := 400 * (dayOf t / daysPerCycle) + yearOfCycle t

def dayOfYear (t : ℤ) : ℕ := dayOfCycle t - daysBeforeYear (yearOfCycle t)

def monthOf (t : ℤ) : ℕ :=
  lastBefore (daysBeforeMonth (isLeap (yearOfCycle t))) 11 (dayOfYear t)

def dayOfMonth (t : ℤ) : ℕ := dayOfYear t - daysBeforeMonth (isLeap (yearOfCycle t)) (monthOf t)

def yearText (year : ℤ) : List Char :=
  if 0 ≤ year ∧ year ≤ 9999 then pad 4 year.toNat
  else (if year < 0 then '-' else '+') :: (Nat.toDigits 10 year.natAbs).leftpad 4 '0'

def timeText (nano : ℕ) : List Char :=
  pad 2 (nano / (3600 * 10 ^ 9)) ++ ':' :: (pad 2 (nano % (3600 * 10 ^ 9) / (60 * 10 ^ 9)) ++
    ':' :: (pad 2 (nano % (60 * 10 ^ 9) / 10 ^ 9) ++
      (fraction (nano % 10 ^ 9) ++ '+' :: "00:00".toList)))

/-- The text of an instant in UTC, counted in nanoseconds since 1970. -/
def toRfc3339 (t : ℤ) : String :=
  String.ofList (yearText (yearOf t) ++ '-' :: (pad 2 (monthOf t + 1) ++
    '-' :: (pad 2 (dayOfMonth t + 1) ++ 'T' :: timeText (nanoOfDay t))))

example : toRfc3339 951782400500000000 = "2000-02-29T00:00:00.500+00:00" := by decide +kernel

example : toRfc3339 253402300799000000000 = "9999-12-31T23:59:59+00:00" := by decide +kernel

example : toRfc3339 (-62167219200000000000) = "0000-01-01T00:00:00+00:00" := by decide +kernel

theorem lt_iff_div_mod {k : ℕ} (hk : 0 < k) (n n' : ℕ) :
    n < n' ↔ n / k < n' / k ∨ n / k = n' / k ∧ n % k < n' % k := by
  have hn := Nat.div_add_mod n k
  have hn' := Nat.div_add_mod n' k
  have hlow := Nat.mod_lt n hk
  have hlow' := Nat.mod_lt n' hk
  generalize n / k = q at *
  generalize n' / k = q' at *
  rcases lt_trichotomy q q' with h | h | h
  · have hscaled : k * q + k ≤ k * q' := Nat.mul_le_mul_left k h
    omega
  · subst h
    omega
  · have hscaled : k * q' + k ≤ k * q := Nat.mul_le_mul_left k h
    omega

theorem timeText_lt_iff {n n' : ℕ} (h : n < 86400 * 10 ^ 9) (h' : n' < 86400 * 10 ^ 9) :
    timeText n < timeText n' ↔ n < n' := by
  have hdigits : ∀ m : ℕ, m < 86400 * 10 ^ 9 → m / (3600 * 10 ^ 9) < 10 ^ 2 ∧
      m % (3600 * 10 ^ 9) / (60 * 10 ^ 9) < 10 ^ 2 ∧ m % (60 * 10 ^ 9) / 10 ^ 9 < 10 ^ 2 ∧
      m % 10 ^ 9 < 10 ^ 9 := by
    intro m hm
    omega
  obtain ⟨hhour, hminute, hsecond, hnano⟩ := hdigits n h
  obtain ⟨hhour', hminute', hsecond', hnano'⟩ := hdigits n' h'
  have hminutes : ∀ m : ℕ, m % (3600 * 10 ^ 9) % (60 * 10 ^ 9) = m % (60 * 10 ^ 9) :=
    fun m => Nat.mod_mod_of_dvd m (by decide)
  have hseconds : ∀ m : ℕ, m % (60 * 10 ^ 9) % 10 ^ 9 = m % 10 ^ 9 :=
    fun m => Nat.mod_mod_of_dvd m (by decide)
  rw [lt_iff_div_mod (k := 3600 * 10 ^ 9) (by decide) n n',
    lt_iff_div_mod (k := 60 * 10 ^ 9) (by decide) (n % (3600 * 10 ^ 9)), hminutes, hminutes,
    lt_iff_div_mod (k := 10 ^ 9) (by decide) (n % (60 * 10 ^ 9)), hseconds, hseconds]
  simp only [timeText, pad_append_lt_iff, List.cons_lt_cons_iff, lt_irrefl, false_or, true_and,
    fraction_lt_iff hnano hnano', Nat.mod_eq_of_lt hhour, Nat.mod_eq_of_lt hminute,
    Nat.mod_eq_of_lt hsecond, Nat.mod_eq_of_lt hhour', Nat.mod_eq_of_lt hminute',
    Nat.mod_eq_of_lt hsecond']

theorem nanoOfDay_lt (t : ℤ) : nanoOfDay t < 86400 * 10 ^ 9 := by
  have hpos : (0 : ℤ) < nanosPerDay := by decide
  have hlt := Int.emod_lt_of_pos t hpos
  rw [nanoOfDay]
  rw [nanosPerDay] at hlt ⊢
  omega

theorem lt_iff_day (t t' : ℤ) : t < t' ↔ dayOf t < dayOf t' ∨
    dayOf t = dayOf t' ∧ nanoOfDay t < nanoOfDay t' := by
  simp only [dayOf, nanoOfDay, nanosPerDay]
  omega

theorem dayOf_lt_iff (t t' : ℤ) : dayOf t < dayOf t' ↔ yearOf t < yearOf t' ∨
    yearOf t = yearOf t' ∧ dayOfYear t < dayOfYear t' := by
  have hyear : yearOfCycle t ≤ 399 := lastBefore_le _ _ _
  have hyear' : yearOfCycle t' ≤ 399 := lastBefore_le _ _ _
  have hcycle : dayOf t < dayOf t' ↔ dayOf t / daysPerCycle < dayOf t' / daysPerCycle ∨
      dayOf t / daysPerCycle = dayOf t' / daysPerCycle ∧ dayOfCycle t < dayOfCycle t' := by
    simp only [dayOfCycle, daysPerCycle]
    omega
  have hsplit := lt_iff_lastBefore (f := daysBeforeYear) (by decide) 399 (dayOfCycle t)
    (dayOfCycle t')
  rw [hcycle, hsplit]
  simp only [yearOf, dayOfYear, yearOfCycle] at *
  omega

theorem dayOfYear_lt_iff {t t' : ℤ} (h : yearOf t = yearOf t') :
    dayOfYear t < dayOfYear t' ↔ monthOf t < monthOf t' ∨
      monthOf t = monthOf t' ∧ dayOfMonth t < dayOfMonth t' := by
  have hyear : yearOfCycle t ≤ 399 := lastBefore_le _ _ _
  have hyear' : yearOfCycle t' ≤ 399 := lastBefore_le _ _ _
  have hsame : yearOfCycle t = yearOfCycle t' := by
    simp only [yearOf] at h
    omega
  rw [dayOfMonth, dayOfMonth, monthOf, monthOf, hsame]
  exact lt_iff_lastBefore rfl 11 _ _

theorem lt_iff_civil (t t' : ℤ) : t < t' ↔ yearOf t < yearOf t' ∨ yearOf t = yearOf t' ∧
    (monthOf t < monthOf t' ∨ monthOf t = monthOf t' ∧
      (dayOfMonth t < dayOfMonth t' ∨ dayOfMonth t = dayOfMonth t' ∧
        nanoOfDay t < nanoOfDay t')) := by
  have hday := dayOf_lt_iff t t'
  have hday' := dayOf_lt_iff t' t
  rw [lt_iff_day]
  by_cases hyear : yearOf t = yearOf t'
  · have hmonth := dayOfYear_lt_iff hyear
    have hmonth' := dayOfYear_lt_iff hyear.symm
    omega
  · omega

/-- The years that are written with four digits and no sign. -/
def FourDigits (t : ℤ) : Prop := 0 ≤ yearOf t ∧ yearOf t ≤ 9999

instance (t : ℤ) : Decidable (FourDigits t) := inferInstanceAs (Decidable (_ ∧ _))

theorem monthOf_lt (t : ℤ) : monthOf t + 1 < 10 ^ 2 := by
  have hmonth : monthOf t ≤ 11 := lastBefore_le _ _ _
  omega

theorem dayOfYear_lt (t : ℤ) : dayOfYear t < 366 := by
  have hcycle : dayOfCycle t < daysBeforeYear 400 := by
    simp only [dayOfCycle, daysPerCycle, daysBeforeYear]
    omega
  have hlength : ∀ y, daysBeforeYear (y + 1) ≤ daysBeforeYear y + 366 := by
    intro y
    simp only [daysBeforeYear]
    omega
  rw [dayOfYear, yearOfCycle]
  rcases (lastBefore_le daysBeforeYear 399 (dayOfCycle t)).lt_or_eq with hlt | heq
  · have hnext := lt_next hlt
    have hyear := hlength (lastBefore daysBeforeYear 399 (dayOfCycle t))
    omega
  · have hyear : daysBeforeYear 400 ≤ daysBeforeYear 399 + 366 := hlength 399
    rw [heq]
    omega

theorem dayOfMonth_lt (t : ℤ) : dayOfMonth t + 1 < 10 ^ 2 := by
  have hyear := dayOfYear_lt t
  have hmonth : ∀ leap, ∀ m ≤ 11, daysBeforeMonth leap (m + 1) ≤ daysBeforeMonth leap m + 31 := by
    decide
  have hend : 366 ≤ daysBeforeMonth (isLeap (yearOfCycle t)) 12 + 1 :=
    (by decide : ∀ leap, 366 ≤ daysBeforeMonth leap 12 + 1) _
  rw [dayOfMonth, monthOf]
  rcases (lastBefore_le (daysBeforeMonth (isLeap (yearOfCycle t))) 11 (dayOfYear t)).lt_or_eq
    with hlt | heq
  · have hnext := lt_next hlt
    have hlength := hmonth (isLeap (yearOfCycle t)) _ hlt.le
    omega
  · have hlength : daysBeforeMonth (isLeap (yearOfCycle t)) 12 ≤ _ + 31 :=
      hmonth (isLeap (yearOfCycle t)) 11 le_rfl
    rw [heq]
    omega

/-- In the years of four digits texts compare as instants do. -/
theorem toRfc3339_lt_iff {t t' : ℤ} (h : FourDigits t) (h' : FourDigits t') :
    toRfc3339 t < toRfc3339 t' ↔ t < t' := by
  obtain ⟨hlow, hhigh⟩ := h
  obtain ⟨hlow', hhigh'⟩ := h'
  have hyear : (yearOf t).toNat < 10 ^ 4 := by omega
  have hyear' : (yearOf t').toNat < 10 ^ 4 := by omega
  have htime := timeText_lt_iff (nanoOfDay_lt t) (nanoOfDay_lt t')
  rw [lt_iff_civil, String.lt_iff_toList_lt, toRfc3339, toRfc3339, String.toList_ofList,
    String.toList_ofList, yearText, yearText, if_pos ⟨hlow, hhigh⟩, if_pos ⟨hlow', hhigh'⟩]
  simp only [pad_append_lt_iff, List.cons_lt_cons_iff, lt_irrefl, false_or, true_and, htime,
    Nat.mod_eq_of_lt hyear, Nat.mod_eq_of_lt hyear', Nat.mod_eq_of_lt (monthOf_lt t),
    Nat.mod_eq_of_lt (monthOf_lt t'), Nat.mod_eq_of_lt (dayOfMonth_lt t),
    Nat.mod_eq_of_lt (dayOfMonth_lt t')]
  omega

theorem toRfc3339_inj {t t' : ℤ} (h : FourDigits t) (h' : FourDigits t') :
    toRfc3339 t = toRfc3339 t' ↔ t = t' := by
  have hlt := toRfc3339_lt_iff h h'
  have hgt := toRfc3339_lt_iff h' h
  constructor
  · intro heq
    rw [heq] at hlt hgt
    have hle := mt hlt.mpr (lt_irrefl _)
    have hge := mt hgt.mpr (lt_irrefl _)
    omega
  · exact fun heq => heq ▸ rfl

end Netfusion.Lib.Calendar
