import Mathlib.Algebra.Ring.Int.Defs
import Mathlib.Tactic.Common
import TestData.Calendar.Timestamp

/-!
Shifts of points in time that stay between two others.

A point in time is before another one as its day, second and nanosecond are, in this order. A shift
by at most the whole seconds from one point to another does not pass the other one, unless that one
is in a leap second: such a distance counts the leap second and the shift does not end in one
(`addSeconds_valid`, `addSeconds_between`).
-/

namespace TestData.Calendar

lemma Date.inRange_iff {d : Date} : d.inRange ↔ -95746130 ≤ d.ordinal ∧ d.ordinal ≤ 95745398 := by
  have hfirst : Date.first.ordinal = -95746130 := by decide
  have hlast : Date.last.ordinal = 95745398 := by decide
  rw [Date.inRange, Bool.and_eq_true, decide_eq_true_iff, decide_eq_true_iff, hfirst, hlast]

namespace Timestamp

/-- A point in time that can be represented. -/
structure Valid (t : Timestamp) : Prop where
  date : t.date.inRange
  seconds : t.seconds < daySeconds
  nanos : t.nanos < 2 * second

/-- Day, second and nanosecond as one number. -/
def rank (t : Timestamp) : Int :=
  (t.date.ordinal * daySeconds + t.seconds) * (2 * second) + t.nanos

variable {a b : Timestamp} {n : Int}

/-- Points in time are ordered as their ranks. -/
lemma after_iff (ha : a.Valid) (hb : b.Valid) : a.after b ↔ b.rank < a.rank := by
  obtain ⟨⟨da⟩, sa, na⟩ := a
  obtain ⟨⟨db⟩, sb, nb⟩ := b
  obtain ⟨-, hsa, hna⟩ := ha
  obtain ⟨-, hsb, hnb⟩ := hb
  simp only [after, rank, daySeconds, second, ne_eq, Date.mk.injEq] at *
  split_ifs <;> simp only [decide_eq_true_iff] <;> omega

/-- The nanoseconds that are left of a point in time in a second after it. -/
def plainNanos (t : Timestamp) : Nat := if second ≤ t.nanos then t.nanos - second else t.nanos

/-- A shift by a positive number of seconds. -/
lemma addSeconds_of_pos (hn : 0 < n) :
    (a.addSeconds n).date.ordinal * daySeconds + (a.addSeconds n).seconds =
        a.date.ordinal * daySeconds + a.seconds + n ∧
      (a.addSeconds n).seconds < daySeconds ∧ (a.addSeconds n).nanos = a.plainNanos := by
  have hzero : n ≠ 0 := by omega
  have hneg : ¬n < 0 := by omega
  simp only [addSeconds, inLeapSecond, plainNanos, Date.addDays, hzero, hneg, decide_false,
    Bool.and_false, Bool.false_eq_true, if_false, Int.add_zero, decide_eq_true_iff, daySeconds,
    Int.ofNat_eq_natCast]
  exact ⟨by omega, by omega, trivial⟩

lemma plainNanos_lt (ha : a.Valid) : a.plainNanos < second := by
  have := ha.nanos
  unfold plainNanos
  split <;> omega

/-- A shift by at most the seconds to another point in time leaves the nanoseconds to it. -/
lemma le_of_le_secondsUntil (hn : 0 < n) (hle : n ≤ a.secondsUntil b) :
    (a.date.ordinal * daySeconds + a.seconds + n) * second + a.plainNanos ≤
      (b.date.ordinal * daySeconds + b.seconds) * second + b.nanos := by
  have hnonneg : 0 ≤ a.nanosUntil b := by
    by_contra hneg
    have hdiv := Int.tdiv_nonneg (show 0 ≤ -a.nanosUntil b by omega)
      (show (0 : Int) ≤ second by decide)
    rw [Int.neg_tdiv] at hdiv
    unfold secondsUntil at hle
    omega
  rw [secondsUntil, Int.tdiv_eq_ediv_of_nonneg hnonneg, Int.le_ediv_iff_mul_le (by decide)] at hle
  by_cases hl : second ≤ a.nanos <;>
    simp only [nanosUntil, plainNanos, inLeapSecond, hl, decide_true, decide_false, Bool.and_true,
      Bool.and_false, Bool.false_eq_true, if_false, if_true, decide_eq_true_iff, Bool.and_eq_true,
      Int.ofNat_eq_natCast] at hle ⊢ <;>
    simp only [daySeconds, second] at * <;>
    split_ifs at hle <;> omega

/-- Distances in seconds fit into 64 bits. -/
lemma secondsUntil_lt (ha : a.Valid) (hb : b.Valid) : a.secondsUntil b < 2 ^ 63 := by
  by_contra hc
  have hend := le_of_le_secondsUntil (a := a) (show 0 < a.secondsUntil b by omega) (Int.le_refl _)
  have hda := Date.inRange_iff.mp ha.date
  have hdb := Date.inRange_iff.mp hb.date
  have hsb := hb.seconds
  have hnb := hb.nanos
  simp only [daySeconds, second] at *
  omega

/-- A point in time that is not in a leap second at the end of the calendar. -/
def HasNext (t : Timestamp) : Prop :=
  t.inLeapSecond → ¬(t.date = Date.last ∧ t.seconds + 1 = daySeconds)

/-- **A shift by at most the seconds to another point in time stays in the calendar.** -/
theorem addSeconds_valid (ha : a.Valid) (hb : b.Valid) (hnext : b.HasNext) (hn : 0 ≤ n)
    (hle : n ≤ max 0 (a.secondsUntil b)) : (a.addSeconds n).Valid := by
  rcases Int.lt_or_eq_of_le hn with hn | rfl
  · obtain ⟨htotal, hsec, hnano⟩ := addSeconds_of_pos (a := a) hn
    have hend := le_of_le_secondsUntil hn (show n ≤ a.secondsUntil b by omega)
    have hlt := plainNanos_lt ha
    have hda := Date.inRange_iff.mp ha.date
    have hdb := Date.inRange_iff.mp hb.date
    have hsa := ha.seconds
    have hsb := hb.seconds
    have hnb := hb.nanos
    have hlast : second ≤ b.nanos → b.date.ordinal = 95745398 → b.seconds + 1 ≠ daySeconds := by
      intro hl hd hs
      have hdate : b.date = Date.last := by
        rw [show Date.last = ⟨95745398⟩ by decide, ← hd]
      exact hnext (decide_eq_true hl) ⟨hdate, hs⟩
    generalize a.addSeconds n = r at *
    simp only [daySeconds, second] at *
    refine ⟨Date.inRange_iff.mpr ⟨by omega, ?_⟩, hsec, show r.nanos < 2 * 1000000000 by omega⟩
    by_contra hc
    exact hlast (by omega) (by omega) (by omega)
  · exact ha

/-- **A shift by at most the seconds to another point in time does not pass it**, unless that is in
a leap second. -/
theorem addSeconds_between (ha : a.Valid) (hb : b.Valid) (hleap : ¬b.inLeapSecond)
    (h : ¬a.after b) (hn : 0 ≤ n) (hle : n ≤ max 0 (a.secondsUntil b)) :
    ¬a.after (a.addSeconds n) ∧ ¬(a.addSeconds n).after b := by
  have hr := addSeconds_valid ha hb (fun hc => absurd hc hleap) hn hle
  rw [after_iff ha hr, after_iff hr hb]
  rw [after_iff ha hb] at h
  rcases Int.lt_or_eq_of_le hn with hn | rfl
  · obtain ⟨htotal, hsec, hnano⟩ := addSeconds_of_pos (a := a) hn
    have hend := le_of_le_secondsUntil hn (show n ≤ a.secondsUntil b by omega)
    have hplain : ¬second ≤ b.nanos := by simpa [inLeapSecond] using hleap
    have hlt := plainNanos_lt ha
    have hna := ha.nanos
    generalize a.addSeconds n = r at *
    simp only [rank, daySeconds, second] at *
    exact ⟨by omega, by omega⟩
  · exact ⟨Int.lt_irrefl _, h⟩

end Timestamp

end TestData.Calendar
