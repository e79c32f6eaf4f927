import TestData.Calendar.Timestamp

/-!
Texts of dates and timestamps.

A year from 0 to 9999 has four digits; any other has a sign and at least four digits. The
forms of a timestamp differ in the mark between date and time, in the digits of the second and
in the mark of the zone.
-/

namespace TestData.Calendar

/-- A number with zeros in front of it up to a width. -/
def padded (width n : Nat) : String :=
  let s := toString n
  String.ofList (List.replicate (width - s.length) '0') ++ s

/-- The text of a year. -/
def yearText (y : Int) : String :=
  if 0 ≤ y && y ≤ 9999 then padded 4 y.toNat
  else (if y < 0 then "-" else "+") ++ padded 4 y.natAbs

/-- Year, month and day with hyphens between. -/
def Date.text (d : Date) : String :=
  yearText d.year ++ "-" ++ padded 2 d.month ++ "-" ++ padded 2 d.day

/-- Hour, minute and second with colons between; a leap second is the second 60. -/
def Timestamp.clockText (t : Timestamp) : String :=
  let sec := t.seconds % 60 + (if t.inLeapSecond then 1 else 0)
  padded 2 (t.seconds / 3600) ++ ":" ++ padded 2 (t.seconds / 60 % 60) ++ ":" ++ padded 2 sec

/-- The nanoseconds of the second. -/
def Timestamp.fraction (t : Timestamp) : Nat := t.nanos % second

/-- The fraction of the second in as few groups of three digits as it needs. -/
def Timestamp.fractionText (t : Timestamp) : String :=
  let n := t.fraction
  if n = 0 then ""
  else if n % 1000000 = 0 then "." ++ padded 3 (n / 1000000)
  else if n % 1000 = 0 then "." ++ padded 6 (n / 1000)
  else "." ++ padded 9 n

/-- The form in records: milliseconds, cut, and the mark of the zone. -/
def Timestamp.text (t : Timestamp) : String :=
  t.date.text ++ "T" ++ t.clockText ++ "." ++ padded 3 (t.fraction / 1000000) ++ "Z"

/-- The form in settings: no more digits than the fraction needs. -/
def Timestamp.shortText (t : Timestamp) : String :=
  t.date.text ++ "T" ++ t.clockText ++ t.fractionText ++ "Z"

/-- The form in messages. -/
def Timestamp.longText (t : Timestamp) : String :=
  t.date.text ++ " " ++ t.clockText ++ t.fractionText ++ " UTC"

end TestData.Calendar
