import TestData.Calendar.Date

/-!
Points in time: a date and a time of day in Coordinated Universal Time, to the nanosecond.

A leap second is written as a nanosecond of 10^9 or more in the second before it. Distances and
shifts treat it as chronologically inside that second.
-/

namespace TestData.Calendar

/-- Seconds in a day. -/
def daySeconds : Nat := 86400

/-- Nanoseconds in a second. -/
def second : Nat := 1000000000

/-- A point in time. -/
structure Timestamp where
  date : Date
  /-- Seconds since midnight. -/
  seconds : Nat
  /-- Nanoseconds in the second; from `second` on in a leap second. -/
  nanos : Nat
  deriving DecidableEq, Inhabited

namespace Timestamp

/-- Whether one point in time is after another. -/
def after (a b : Timestamp) : Bool :=
  if a.date ≠ b.date then b.date.ordinal < a.date.ordinal
  else if a.seconds ≠ b.seconds then b.seconds < a.seconds
  else b.nanos < a.nanos

/-- Whether a point in time is in a leap second. -/
def inLeapSecond (t : Timestamp) : Bool := second ≤ t.nanos

/-- The distance from `a` to `b` in nanoseconds. A leap second that lies between is counted. -/
def nanosUntil (a b : Timestamp) : Int :=
  let seconds := Int.ofNat b.seconds - Int.ofNat a.seconds
  let leap : Int :=
    if a.seconds < b.seconds && a.inLeapSecond then 1
    else if b.seconds < a.seconds && b.inLeapSecond then -1
    else 0
  ((b.date.ordinal - a.date.ordinal) * daySeconds + seconds + leap) * second +
    (Int.ofNat b.nanos - Int.ofNat a.nanos)

/-- The whole seconds from `a` to `b`, toward zero. -/
def secondsUntil (a b : Timestamp) : Int :=
  (a.nanosUntil b).tdiv second

/-- The point in time `n` seconds later. A shift that is not zero leaves a leap second. -/
def addSeconds (t : Timestamp) (n : Int) : Timestamp :=
  if n = 0 then t
  else
    let leap := t.inLeapSecond
    let start := Int.ofNat t.seconds + (if leap && n < 0 then 1 else 0)
    let total := start + n
    { date := t.date.addDays (total / daySeconds)
      seconds := (total % daySeconds).toNat
      nanos := if leap then t.nanos - second else t.nanos }

/-- The point in time `n` seconds later, if its day can be represented. -/
def addSeconds? (t : Timestamp) (n : Int) : Option Timestamp :=
  let r := t.addSeconds n
  if r.date.inRange then some r else none

end Timestamp

end TestData.Calendar
