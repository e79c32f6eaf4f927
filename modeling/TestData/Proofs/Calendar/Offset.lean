import TestData.Proofs.Calendar.Month

/-!
Shifts by calendar units.

A shift by months ends in the month that is so many months away, on the same day of the month or on
the last one. Days and months that are in order stay so, and what the shift ends on is fixed by
where it started, so shifts of every kind keep the order of days (`Offset.shift?_mono`). The time of
day is never touched.
-/

namespace TestData.Calendar

variable {a b a' b' d r : Date} {n : Nat} {forward : Bool}

/-- A number with the sign of a direction. -/
def signed (forward : Bool) (n : Nat) : Int := if forward then n else -(n : Int)

namespace Date

/-! ### Days -/

lemma addDays?_eq_some_iff {i : Int} :
    d.addDays? i = some r ↔ r.inRange ∧ r.ordinal = d.ordinal + i := by
  change (if (d.addDays i).inRange then some (d.addDays i) else none) = some r ↔ _
  rw [Option.ite_none_right_eq_some, Option.some.injEq]
  constructor
  · rintro ⟨hrange, rfl⟩
    exact ⟨hrange, rfl⟩
  · rintro ⟨hrange, hr⟩
    obtain rfl : d.addDays i = r := congrArg Date.mk hr.symm
    exact ⟨hrange, rfl⟩

/-! ### Months -/

/-- The day of the month that is so many months away. -/
def inMonth (d : Date) (i : Int) : Date :=
  ⟨startOf (d.monthNumber + i) + min d.day (lengthOf (d.monthNumber + i)) - 1⟩

lemma monthNumber_inMonth (d : Date) (i : Int) : (d.inMonth i).monthNumber = d.monthNumber + i ∧
    (d.inMonth i).day = min d.day (lengthOf (d.monthNumber + i)) := by
  have hday := d.day_pos
  have hlen := lengthOf_pos (d.monthNumber + i)
  exact monthNumber_day_of_ordinal (by omega) (Nat.min_le_right _ _) rfl

lemma eq_of_monthNumber (hmonth : a.monthNumber = b.monthNumber) (hday : a.day = b.day) :
    a = b := by
  have ha := a.ordinal_eq
  rw [hmonth, hday, ← b.ordinal_eq] at ha
  exact congrArg Date.mk ha

lemma addMonths?_eq (d : Date) (i : Int) :
    d.addMonths? i = if (d.inMonth i).inRange then some (d.inMonth i) else none := by
  have hday := d.day_pos
  have hlen := lengthOf_pos (d.monthNumber + i)
  have hparts : ofParts ((d.monthNumber + i) / 12) (((d.monthNumber + i) % 12).toNat + 1)
      (min d.day (lengthOf (d.monthNumber + i))) = d.inMonth i := by
    rw [ofParts, inMonth, startOf]
    push_cast
    rfl
  change ofParts? ((d.monthNumber + i) / 12) (((d.monthNumber + i) % 12).toNat + 1)
    (min d.day (lengthOf (d.monthNumber + i))) = _
  rw [ofParts?, hparts, if_pos]
  simp only [Bool.and_eq_true, decide_eq_true_iff]
  refine ⟨⟨⟨by omega, by omega⟩, by omega⟩, Nat.min_le_right _ _⟩

/-- **A shift by months** ends in the month so many months away, on the day of the month or on the
last one if that is earlier. -/
theorem addMonths?_eq_some_iff {i : Int} : d.addMonths? i = some r ↔ r.inRange ∧
    r.monthNumber = d.monthNumber + i ∧ r.day = min d.day (monthLength r.year r.month) := by
  obtain ⟨hmonth, hday⟩ := d.monthNumber_inMonth i
  rw [addMonths?_eq, Option.ite_none_right_eq_some, Option.some.injEq, ← lengthOf_monthNumber]
  constructor
  · rintro ⟨hrange, rfl⟩
    exact ⟨hrange, hmonth, by rw [hday, hmonth]⟩
  · rintro ⟨hrange, hr, hrd⟩
    obtain rfl : d.inMonth i = r :=
      eq_of_monthNumber (hmonth.trans hr.symm) (by rw [hday, hrd, hr])
    exact ⟨hrange, rfl⟩

/-- Days that are in order have days in order so many months away. -/
lemma addMonths?_mono {i : Int} (h : a.ordinal ≤ b.ordinal) (ha : a.addMonths? i = some a')
    (hb : b.addMonths? i = some b') : a'.ordinal ≤ b'.ordinal := by
  obtain ⟨-, hma, hda⟩ := addMonths?_eq_some_iff.mp ha
  obtain ⟨-, hmb, hdb⟩ := addMonths?_eq_some_iff.mp hb
  rw [← lengthOf_monthNumber, hma] at hda
  rw [← lengthOf_monthNumber, hmb] at hdb
  rw [ordinal_le_iff, hma, hmb, hda, hdb]
  rcases ordinal_le_iff.mp h with hlt | ⟨heq, hle⟩
  · exact .inl (by omega)
  · rw [heq]
    exact .inr ⟨rfl, by omega⟩

/-! ### Shifts -/

lemma shift?_days_eq (d : Date) (n : Nat) (forward : Bool) : d.shift? ⟨n, .days⟩ forward =
    if n ≤ greatestShift then d.addDays? (signed forward n) else none := rfl

lemma shift?_months_eq (d : Date) (n : Nat) (forward : Bool) : d.shift? ⟨n, .months⟩ forward =
    if n = 0 then some d
    else if n ≤ greatestShift then d.addMonths? (signed forward n) else none := rfl

/-- Far shifts leave the calendar, so that the greatest number of days bounds no others. -/
lemma shift?_days (hd : d.inRange) : d.shift? ⟨n, .days⟩ forward = some r ↔
    r.inRange ∧ r.ordinal = d.ordinal + signed forward n := by
  rw [shift?_days_eq, Option.ite_none_right_eq_some, addDays?_eq_some_iff, and_iff_right_of_imp]
  rintro ⟨hr, hi⟩
  rw [inRange_iff] at hd hr
  unfold signed at hi
  unfold greatestShift
  split_ifs at hi <;> omega

lemma shift?_months (hd : d.inRange) : d.shift? ⟨n, .months⟩ forward = some r ↔
    r.inRange ∧ r.monthNumber = d.monthNumber + signed forward n ∧
      r.day = min d.day (monthLength r.year r.month) := by
  rw [← addMonths?_eq_some_iff, shift?_months_eq]
  split_ifs with hzero hfar
  · obtain rfl := hzero
    have hsame : d.addMonths? 0 = some d :=
      addMonths?_eq_some_iff.mpr ⟨hd, (Int.add_zero _).symm, by
        rw [← lengthOf_monthNumber]
        exact (Nat.min_eq_left d.day_le).symm⟩
    have hsign : signed forward 0 = 0 := by cases forward <;> rfl
    rw [hsign, hsame]
  · rfl
  · refine iff_of_false nofun fun h => hfar ?_
    obtain ⟨hr, hm, -⟩ := addMonths?_eq_some_iff.mp h
    have hrb := monthNumber_bounds hr
    have hdb := monthNumber_bounds hd
    unfold signed at hm
    unfold greatestShift
    split_ifs at hm <;> omega

lemma shift?_weeks (d : Date) (n : Nat) (forward : Bool) :
    d.shift? ⟨n, .weeks⟩ forward = d.shift? ⟨7 * n, .days⟩ forward := by
  rw [Nat.mul_comm]
  rfl

lemma shift?_years (d : Date) (n : Nat) (forward : Bool) : d.shift? ⟨n, .years⟩ forward =
    if 12 * n ≤ greatestAmount then d.shift? ⟨12 * n, .months⟩ forward else none := by
  rw [Nat.mul_comm]
  rfl

lemma shift?_days_mono (h : a.ordinal ≤ b.ordinal) (ha : a.shift? ⟨n, .days⟩ forward = some a')
    (hb : b.shift? ⟨n, .days⟩ forward = some b') : a'.ordinal ≤ b'.ordinal := by
  rw [shift?_days_eq, Option.ite_none_right_eq_some, addDays?_eq_some_iff] at ha hb
  omega

lemma shift?_months_mono (h : a.ordinal ≤ b.ordinal)
    (ha : a.shift? ⟨n, .months⟩ forward = some a')
    (hb : b.shift? ⟨n, .months⟩ forward = some b') : a'.ordinal ≤ b'.ordinal := by
  rw [shift?_months_eq] at ha hb
  split_ifs at ha hb
  · rwa [← Option.some.inj ha, ← Option.some.inj hb]
  · exact addMonths?_mono h ha hb

/-- **Shifts keep the order of days.** -/
theorem shift?_mono {u : Duration} (h : a.ordinal ≤ b.ordinal)
    (ha : a.shift? u forward = some a') (hb : b.shift? u forward = some b') :
    a'.ordinal ≤ b'.ordinal := by
  obtain ⟨n, unit⟩ := u
  cases unit with
  | days => exact shift?_days_mono h ha hb
  | weeks =>
    rw [shift?_weeks] at ha hb
    exact shift?_days_mono h ha hb
  | months => exact shift?_months_mono h ha hb
  | years =>
    rw [shift?_years, Option.ite_none_right_eq_some] at ha hb
    exact shift?_months_mono h ha.2 hb.2

/-- The day a duration away, if there is a duration. -/
def shiftBy? (d : Date) (u : Option Duration) (forward : Bool) : Option Date :=
  u.elim (some d) (d.shift? · forward)

lemma shiftBy?_mono {u : Option Duration} (h : a.ordinal ≤ b.ordinal)
    (ha : a.shiftBy? u forward = some a') (hb : b.shiftBy? u forward = some b') :
    a'.ordinal ≤ b'.ordinal := by
  cases u with
  | none => rwa [← Option.some.inj ha, ← Option.some.inj hb]
  | some u => exact shift?_mono h ha hb

end Date

namespace Offset

variable {o : Offset} {u : Duration} {t t' s s' : Timestamp}

/-- A shift in one direction. -/
def one (u : Duration) (forward : Bool) : Offset :=
  if forward then ⟨some u, .none⟩ else ⟨.none, some u⟩

lemma shift?_eq_some_iff : o.shift? t = some s ↔
    (∃ up, t.date.shiftBy? o.plus true = some up ∧ up.shiftBy? o.minus false = some s.date) ∧
      s.seconds = t.seconds ∧ s.nanos = t.nanos := by
  have heq : o.shift? t = (t.date.shiftBy? o.plus true).bind fun up =>
      (up.shiftBy? o.minus false).bind fun date => some { t with date } := by
    obtain ⟨_ | plus, _ | minus⟩ := o <;> rfl
  obtain ⟨date, seconds, nanos⟩ := s
  rw [heq, Option.bind_eq_some_iff]
  constructor
  · rintro ⟨up, hup, h⟩
    obtain ⟨date', hdate, h⟩ := Option.bind_eq_some_iff.mp h
    obtain ⟨rfl, rfl, rfl⟩ := Timestamp.mk.inj (Option.some.inj h)
    exact ⟨⟨up, hup, hdate⟩, rfl, rfl⟩
  · rintro ⟨⟨up, hup, hdate⟩, rfl, rfl⟩
    exact ⟨up, hup, Option.bind_eq_some_iff.mpr ⟨date, hdate, rfl⟩⟩

lemma shift?_one : (one u forward).shift? t = some s ↔
    t.date.shift? u forward = some s.date ∧ s.seconds = t.seconds ∧ s.nanos = t.nanos := by
  rw [shift?_eq_some_iff, and_congr_left_iff]
  intro _
  cases forward with
  | true =>
    change (∃ up, t.date.shift? u true = some up ∧ some up = some s.date) ↔ _
    simp
  | false =>
    change (∃ up, some t.date = some up ∧ up.shift? u false = some s.date) ↔ _
    simp

/-- Shifts that move dates alike move points in time alike. -/
lemma shift?_one_congr {u u' : Duration} (h : t.date.shift? u forward = t.date.shift? u' forward) :
    (one u forward).shift? t = (one u' forward).shift? t := by
  ext s
  rw [shift?_one, shift?_one, h]

lemma shift?_one_eq_none (h : t.date.shift? u forward = .none) :
    (one u forward).shift? t = .none := by
  rw [Option.eq_none_iff_forall_ne_some]
  intro s hs
  rw [shift?_one, h] at hs
  exact nomatch hs.1

/-- **Shifts keep the order of days.** -/
theorem shift?_mono (h : t.date.ordinal ≤ t'.date.ordinal) (hs : o.shift? t = some s)
    (hs' : o.shift? t' = some s') : s.date.ordinal ≤ s'.date.ordinal := by
  obtain ⟨⟨up, hup, hdown⟩, -⟩ := shift?_eq_some_iff.mp hs
  obtain ⟨⟨up', hup', hdown'⟩, -⟩ := shift?_eq_some_iff.mp hs'
  exact Date.shiftBy?_mono (Date.shiftBy?_mono h hup hup') hdown hdown'

/-- Days that are added and taken away again lead back. -/
lemma shift?_days_back (ht : t.date.inRange) {n : Nat}
    (h : ((one ⟨n, .days⟩ true).shift? t).isSome) :
    shift? ⟨some ⟨n, .days⟩, some ⟨n, .days⟩⟩ t = some t := by
  obtain ⟨s, hs⟩ := Option.isSome_iff_exists.mp h
  obtain ⟨hup, -⟩ := shift?_one.mp hs
  obtain ⟨hrange, hdays⟩ := (Date.shift?_days ht).mp hup
  refine shift?_eq_some_iff.mpr ⟨⟨s.date, hup, ?_⟩, rfl, rfl⟩
  refine (Date.shift?_days hrange).mpr ⟨ht, ?_⟩
  rw [hdays]
  simp [signed]

/-- **Shifts keep to the calendar.** A week is seven days and a year is twelve months, as long as
there are not too many. Days are counted; months lead to the month so many months away, on the same
day of the month or on the last one; and there is a result as soon as that day can be represented.
The time of day stays, days stay in order, and days that are added and taken away lead back. -/
theorem shift_keeps_to_calendar (n : Nat) (forward : Bool) {t : Timestamp} (ht : t.date.inRange) :
    (7 * n ≤ greatestAmount →
      (one ⟨n, .weeks⟩ forward).shift? t = (one ⟨7 * n, .days⟩ forward).shift? t) ∧
    (one ⟨n, .years⟩ forward).shift? t =
      (if 12 * n ≤ greatestAmount then (one ⟨12 * n, .months⟩ forward).shift? t else .none) ∧
    (∀ o : Offset, ∀ s ∈ o.shift? t, s.seconds = t.seconds ∧ s.nanos = t.nanos) ∧
    (∀ s, (one ⟨n, .days⟩ forward).shift? t = some s ↔
      (s.date.inRange ∧ s.date.ordinal = t.date.ordinal + signed forward n) ∧
        s.seconds = t.seconds ∧ s.nanos = t.nanos) ∧
    (∀ s, (one ⟨n, .months⟩ forward).shift? t = some s ↔
      (s.date.inRange ∧ s.date.monthNumber = t.date.monthNumber + signed forward n ∧
        s.date.day = min t.date.day (monthLength s.date.year s.date.month)) ∧
        s.seconds = t.seconds ∧ s.nanos = t.nanos) ∧
    (∀ (o : Offset) (t' s s' : Timestamp), t.date.ordinal ≤ t'.date.ordinal →
      o.shift? t = some s → o.shift? t' = some s' → s.date.ordinal ≤ s'.date.ordinal) ∧
    (((one ⟨n, .days⟩ true).shift? t).isSome →
      shift? ⟨some ⟨n, .days⟩, some ⟨n, .days⟩⟩ t = some t) := by
  refine ⟨fun _ => shift?_one_congr (Date.shift?_weeks _ _ _), ?_, fun o s hs => ?_, fun s => ?_,
    fun s => ?_, fun o t' s s' => shift?_mono, shift?_days_back ht⟩
  · split_ifs with hfits
    · exact shift?_one_congr (by rw [Date.shift?_years, if_pos hfits])
    · exact shift?_one_eq_none (by rw [Date.shift?_years, if_neg hfits])
  · exact (shift?_eq_some_iff.mp hs).2
  · rw [shift?_one, Date.shift?_days ht]
  · rw [shift?_one, Date.shift?_months ht]

/-- A month after the last day of January is the last day of a longer February, and a month of days
leads to March and back. -/
theorem shift_keeps_to_february :
    (Date.ofParts 2024 1 31).inRange ∧
      (one ⟨1, .months⟩ true).shift? ⟨Date.ofParts 2024 1 31, 37800, 0⟩ =
        some ⟨Date.ofParts 2024 2 29, 37800, 0⟩ ∧
      shift? ⟨some ⟨31, .days⟩, some ⟨31, .days⟩⟩ ⟨Date.ofParts 2024 1 31, 37800, 0⟩ =
        some ⟨Date.ofParts 2024 1 31, 37800, 0⟩ := by
  have ht : (Date.ofParts 2024 1 31).inRange := by decide
  obtain ⟨-, -, -, -, hmonths, -, -⟩ :=
    shift_keeps_to_calendar 1 true (t := ⟨Date.ofParts 2024 1 31, 37800, 0⟩) ht
  obtain ⟨-, -, -, hdays, -, -, hback⟩ :=
    shift_keeps_to_calendar 31 true (t := ⟨Date.ofParts 2024 1 31, 37800, 0⟩) ht
  refine ⟨ht, (hmonths _).mpr ⟨by decide, rfl, rfl⟩, hback (Option.isSome_iff_exists.mpr ?_)⟩
  exact ⟨⟨Date.ofParts 2024 3 2, 37800, 0⟩, (hdays _).mpr ⟨by decide, rfl, rfl⟩⟩

end Offset

end TestData.Calendar
