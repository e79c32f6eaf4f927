/-!
Dates of the Gregorian calendar, extended to all years.

A date is a count of days, so that distance and order are those of integers; year, month and day
of the month are read off the count. The count is zero on the first of January of the year 1.
-/

namespace TestData.Calendar

/-- A day, as the number of days since the first of January of the year 1. -/
structure Date where
  ordinal : Int
  deriving DecidableEq, Inhabited

/-- Whether a year has a 29th of February. -/
def isLeap (year : Int) : Bool :=
  year % 4 == 0 && (year % 100 != 0 || year % 400 == 0)

/-- The days before the first day of a year. -/
def daysBefore (year : Int) : Int :=
  let y := year - 1
  365 * y + y / 4 - y / 100 + y / 400

/-- The length of a month, counted from 1. -/
def monthLength (year : Int) (month : Nat) : Nat :=
  match month with
  | 2 => if isLeap year then 29 else 28
  | 4 | 6 | 9 | 11 => 30
  | _ => 31

/-- The days of a year before the month `n + 1`. -/
def daysBeforeMonth (year : Int) : Nat → Nat
  | 0 => 0
  | n + 1 => daysBeforeMonth year n + monthLength year (n + 1)

/-- The year of a day. The mean length of a year gives it to within one. -/
def yearOf (ordinal : Int) : Int :=
  let y := ordinal * 400 / 146097 + 1
  if ordinal < daysBefore y then y - 1
  else if daysBefore (y + 1) ≤ ordinal then y + 1
  else y

/-- The month of a day of a year, counted from 0, searching from `n` downwards. -/
def monthIndex (year : Int) (day : Nat) : Nat → Nat
  | 0 => 0
  | n + 1 => if daysBeforeMonth year (n + 1) ≤ day then n + 1 else monthIndex year day n

namespace Date

/-- The year. -/
def year (d : Date) : Int := yearOf d.ordinal

/-- The day of the year, counted from 0. -/
def dayOfYear (d : Date) : Nat := (d.ordinal - daysBefore d.year).toNat

/-- The month, counted from 1. -/
def month (d : Date) : Nat := monthIndex d.year d.dayOfYear 11 + 1

/-- The day of the month, counted from 1. -/
def day (d : Date) : Nat := d.dayOfYear - daysBeforeMonth d.year (d.month - 1) + 1

/-- The day with a given year, month and day of the month. -/
def ofParts (year : Int) (month day : Nat) : Date :=
  ⟨daysBefore year + daysBeforeMonth year (month - 1) + day - 1⟩

/-- The first and the last day that can be represented. -/
def first : Date := ofParts (-262143) 1 1
/-- The last day that can be represented. -/
def last : Date := ofParts 262142 12 31

/-- Whether a day can be represented. -/
def inRange (d : Date) : Bool :=
  first.ordinal ≤ d.ordinal && d.ordinal ≤ last.ordinal

/-- A day that can be represented, if there is one with this year, month and day. -/
def ofParts? (year : Int) (month day : Nat) : Option Date :=
  if 1 ≤ month && month ≤ 12 && 1 ≤ day && day ≤ monthLength year month then
    let d := ofParts year month day
    if d.inRange then some d else none
  else none

/-- The day `n` days later. -/
def addDays (d : Date) (n : Int) : Date := ⟨d.ordinal + n⟩

/-- The day `n` days later, if it can be represented. -/
def addDays? (d : Date) (n : Int) : Option Date :=
  let r := d.addDays n
  if r.inRange then some r else none

/-- The day `n` months later, on the last day of the month where that month is shorter. -/
def addMonths? (d : Date) (n : Int) : Option Date :=
  let months := d.year * 12 + (d.month - 1 : Nat) + n
  let year := months / 12
  let month := (months % 12).toNat + 1
  ofParts? year month (min d.day (monthLength year month))

end Date

end TestData.Calendar
