import Mathlib.Order.Monotone.Basic
import Mathlib.Tactic.Common
import TestData.Proofs.Calendar.Shift
import TestData.Calendar.Duration

/-!
Days as months and days of a month.

Months are counted through all years. A month starts where the one before it ends, so that every
day is in one month and has one place in it (`Date.day_le`, `Date.ordinal_eq`), and days are in
order as their months and their places are (`Date.ordinal_le_iff`).
-/

namespace TestData.Calendar

/-! ### Years -/

lemma isLeap_iff {y : Int} : isLeap y = true ↔ y % 4 = 0 ∧ (y % 100 ≠ 0 ∨ y % 400 = 0) := by
  simp [isLeap]

/-- The days of a year are those of its months. -/
lemma daysBefore_succ (y : Int) : daysBefore (y + 1) = daysBefore y + daysBeforeMonth y 12 := by
  have hyear : daysBeforeMonth y 12 = if isLeap y then 366 else 365 := by
    by_cases h : isLeap y <;> simp [daysBeforeMonth, monthLength, h]
  rw [hyear]
  by_cases h : isLeap y
  · rw [if_pos h]
    rw [isLeap_iff] at h
    simp only [daysBefore]
    omega
  · rw [if_neg h]
    rw [isLeap_iff] at h
    simp only [daysBefore]
    omega

/-- The year of a day is the one that the day is in. -/
lemma yearOf_bounds (o : Int) : daysBefore (yearOf o) ≤ o ∧ o < daysBefore (yearOf o + 1) := by
  -- The leap days before a year are off its share of 97 in 400 years by less than two.
  have hmean (y : Int) : 146097 * (y - 1) - 600 ≤ 400 * daysBefore y ∧
      400 * daysBefore y ≤ 146097 * (y - 1) + 297 := by
    simp only [daysBefore]
    omega
  have hq : 146097 * (o * 400 / 146097) ≤ o * 400 ∧ o * 400 < 146097 * (o * 400 / 146097 + 1) := by
    omega
  rw [yearOf]
  generalize o * 400 / 146097 = q at hq ⊢
  have hhere := hmean (q + 1)
  split_ifs with hearly hlate
  · rw [Int.sub_add_cancel]
    have := hmean (q + 1 - 1)
    omega
  · have := hmean (q + 1 + 1 + 1)
    omega
  · omega

/-! ### Months of a year -/

lemma daysBeforeMonth_succ (y : Int) (i : Nat) :
    daysBeforeMonth y (i + 1) = daysBeforeMonth y i + monthLength y (i + 1) := rfl

lemma monthLength_pos (y : Int) (m : Nat) : 0 < monthLength y m := by
  unfold monthLength
  split <;> first | decide | (split <;> decide)

/-- The search for a month ends at the month that the day of the year is in. -/
lemma monthIndex_bounds {y : Int} {day n : Nat} (h : day < daysBeforeMonth y (n + 1)) :
    monthIndex y day n ≤ n ∧ daysBeforeMonth y (monthIndex y day n) ≤ day ∧
      day < daysBeforeMonth y (monthIndex y day n + 1) := by
  induction n with
  | zero => exact ⟨Nat.le_refl 0, Nat.zero_le day, h⟩
  | succ n ih =>
    unfold monthIndex
    split_ifs with hstart
    · exact ⟨Nat.le_refl _, hstart, h⟩
    · obtain ⟨hle, hbounds⟩ := ih (Nat.lt_of_not_le hstart)
      exact ⟨Nat.le_succ_of_le hle, hbounds⟩

/-! ### Months through all years -/

/-- The length of a month, counted from the first month of the year zero. -/
def lengthOf (k : Int) : Nat := monthLength (k / 12) ((k % 12).toNat + 1)

/-- The first day of a month. -/
def startOf (k : Int) : Int := daysBefore (k / 12) + daysBeforeMonth (k / 12) (k % 12).toNat

/-- A month starts where the one before it ends. -/
lemma startOf_succ (k : Int) : startOf (k + 1) = startOf k + lengthOf k := by
  unfold startOf lengthOf
  by_cases hlast : k % 12 = 11
  · have hyear : (k + 1) / 12 = k / 12 + 1 := by omega
    have hmonth : ((k + 1) % 12).toNat = 0 := by omega
    have hbefore : (k % 12).toNat = 11 := by omega
    rw [hyear, hmonth, hbefore, daysBefore_succ, daysBeforeMonth_succ _ 11, daysBeforeMonth]
    push_cast
    omega
  · have hyear : (k + 1) / 12 = k / 12 := by omega
    have hmonth : ((k + 1) % 12).toNat = (k % 12).toNat + 1 := by omega
    rw [hyear, hmonth, daysBeforeMonth_succ]
    push_cast
    omega

lemma lengthOf_pos (k : Int) : 0 < lengthOf k := monthLength_pos _ _

lemma startOf_mono {k l : Int} (h : k ≤ l) : startOf k ≤ startOf l := by
  refine monotone_int_of_le_succ (fun k => ?_) h
  have := lengthOf_pos k
  rw [startOf_succ]
  omega

/-- A month that starts before another one ends before it. -/
lemma startOf_add_lengthOf_le {k l : Int} (h : k < l) : startOf k + lengthOf k ≤ startOf l := by
  rw [← startOf_succ]
  exact startOf_mono h

namespace Date

variable {d e : Date}

/-- The month of a day, counted through all years. -/
def monthNumber (d : Date) : Int := d.year * 12 + (d.month - 1 : Nat)

/-- The day of the year counts from the first day of the year. -/
lemma ordinal_eq_dayOfYear (d : Date) : d.ordinal = daysBefore d.year + d.dayOfYear := by
  have := (yearOf_bounds d.ordinal).1
  unfold dayOfYear year
  omega

lemma dayOfYear_lt (d : Date) : d.dayOfYear < daysBeforeMonth d.year 12 := by
  have h := (yearOf_bounds d.ordinal).2
  have heq := d.ordinal_eq_dayOfYear
  rw [daysBefore_succ] at h
  unfold year at *
  omega

/-- The day of the month counts from the first day of the month. -/
lemma day_bounds (d : Date) : daysBeforeMonth d.year (d.month - 1) + d.day = d.dayOfYear + 1 ∧
    d.day ≤ monthLength d.year d.month := by
  obtain ⟨-, hlo, hhi⟩ := monthIndex_bounds d.dayOfYear_lt
  rw [daysBeforeMonth_succ] at hhi
  have hindex : d.month - 1 = monthIndex d.year d.dayOfYear 11 := rfl
  unfold day
  rw [hindex]
  change _ ∧ _ ≤ monthLength d.year (monthIndex d.year d.dayOfYear 11 + 1)
  omega

lemma month_le (d : Date) : d.month ≤ 12 :=
  Nat.succ_le_succ (monthIndex_bounds d.dayOfYear_lt).1

lemma monthNumber_div (d : Date) : d.monthNumber / 12 = d.year := by
  have := d.month_le
  unfold monthNumber
  omega

lemma monthNumber_mod (d : Date) : (d.monthNumber % 12).toNat = d.month - 1 := by
  have := d.month_le
  unfold monthNumber
  omega

lemma lengthOf_monthNumber (d : Date) : lengthOf d.monthNumber = monthLength d.year d.month := by
  rw [lengthOf, monthNumber_div, monthNumber_mod]
  rfl

/-- **A day is in its month**, in the place of its day of the month. -/
theorem ordinal_eq (d : Date) : d.ordinal = startOf d.monthNumber + d.day - 1 := by
  have hyear := d.ordinal_eq_dayOfYear
  have hmonth := d.day_bounds.1
  rw [startOf, monthNumber_div, monthNumber_mod]
  omega

lemma day_pos (d : Date) : 0 < d.day := Nat.succ_pos _

lemma day_le (d : Date) : d.day ≤ lengthOf d.monthNumber := by
  rw [lengthOf_monthNumber]
  exact d.day_bounds.2

/-- **Days are in order** as their months are, and in one month as their days of the month are. -/
theorem ordinal_le_iff : d.ordinal ≤ e.ordinal ↔
    d.monthNumber < e.monthNumber ∨ d.monthNumber = e.monthNumber ∧ d.day ≤ e.day := by
  have hd := d.ordinal_eq
  have he := e.ordinal_eq
  have hdl := d.day_le
  have hel := e.day_le
  have hdp := d.day_pos
  have hep := e.day_pos
  rcases Int.lt_trichotomy d.monthNumber e.monthNumber with h | h | h
  · have := startOf_add_lengthOf_le h
    omega
  · rw [h] at hd
    omega
  · have := startOf_add_lengthOf_le h
    omega

/-- A place in a month is that of one day. -/
lemma monthNumber_day_of_ordinal {k : Int} {j : Nat} (hj : 0 < j) (hle : j ≤ lengthOf k)
    (h : d.ordinal = startOf k + j - 1) : d.monthNumber = k ∧ d.day = j := by
  have hd := d.ordinal_eq
  have hdl := d.day_le
  have hdp := d.day_pos
  rcases Int.lt_trichotomy d.monthNumber k with hk | hk | hk
  · have := startOf_add_lengthOf_le hk
    omega
  · rw [hk] at hd
    exact ⟨hk, by omega⟩
  · have := startOf_add_lengthOf_le hk
    omega

/-- The months of the days that can be represented. -/
lemma monthNumber_bounds (h : d.inRange) :
    -3145716 ≤ d.monthNumber ∧ d.monthNumber ≤ 3145715 := by
  rw [inRange_iff] at h
  have hfirst : startOf (-3145716) = -95746130 := by decide
  have hlast : startOf 3145716 = 95745399 := by decide
  have hd := d.ordinal_eq
  have hdl := d.day_le
  have hdp := d.day_pos
  constructor
  · by_contra hlt
    have := startOf_add_lengthOf_le (Int.not_le.mp hlt)
    omega
  · by_contra hlt
    have := startOf_mono (show 3145716 ≤ d.monthNumber by omega)
    omega

end Date

end TestData.Calendar
