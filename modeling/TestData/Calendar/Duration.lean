import TestData.Calendar.Timestamp
import TestData.Decimal.Reader
import TestData.Text.Blank

/-!
Durations in calendar units, such as `3 days`, and shifting by them.

A duration is an amount and a unit; in text white space may stand around either. Days and weeks
are fixed numbers of days. Months and years keep the day of the month, or take the last day of
a month that is too short.
-/

namespace TestData.Calendar

/-- A unit of the calendar. -/
inductive DurationUnit
  | days
  | weeks
  | months
  | years
  deriving DecidableEq

/-- An amount of a calendar unit. -/
structure Duration where
  amount : Nat
  unit : DurationUnit
  deriving DecidableEq

/-- Why a text is no duration. -/
inductive DurationError
  /-- Nothing follows the digits. -/
  | noUnit (text : String)
  /-- No digits, or more than 32 bits. -/
  | badAmount (text : String)
  | unknownUnit (unit : String)
  deriving DecidableEq

/-- The words for a text that is no duration. -/
def DurationError.message : DurationError → String
  | .noUnit text => "duration '" ++ text ++ "' has no unit"
  | .badAmount text => "invalid duration amount in '" ++ text ++ "'"
  | .unknownUnit unit => "unknown duration unit '" ++ unit ++ "'"

namespace DurationUnit

/-- The unit with a given name, in small letters. -/
def ofName? : String → Option DurationUnit
  | "d" | "day" | "days" => some .days
  | "w" | "week" | "weeks" => some .weeks
  | "m" | "month" | "months" => some .months
  | "y" | "year" | "years" => some .years
  | _ => none

/-- Reads a unit in any case, with white space around it. -/
def read (s : String) : Except DurationError DurationUnit :=
  let name := Text.loweredAscii (Text.trimmed s)
  match ofName? name with
  | some u => .ok u
  | none => .error (.unknownUnit name)

/-- The name of a unit. -/
def name : DurationUnit → String
  | .days => "Days"
  | .weeks => "Weeks"
  | .months => "Months"
  | .years => "Years"

end DurationUnit

/-- The greatest amount of a duration. -/
def greatestAmount : Nat := 4294967295

namespace Duration

/-- Reads a duration. -/
def read (s : String) : Except DurationError Duration :=
  let cs := Text.trim s.toList
  let text := String.ofList cs
  let ds := cs.takeWhile Decimal.isDigit
  let rest := cs.dropWhile Decimal.isDigit
  if rest = [] then .error (.noUnit text)
  else if ds = [] || greatestAmount < Decimal.ofDigits ds then .error (.badAmount text)
  else (DurationUnit.read (String.ofList rest)).map (⟨Decimal.ofDigits ds, ·⟩)

/-- The amount and the name of the unit. -/
def text (d : Duration) : String :=
  toString d.amount ++ " " ++ d.unit.name

end Duration

/-- The greatest number of days or months that a shift may have. -/
def greatestShift : Nat := 2147483647

/-- The date `d` later, or earlier when not `forward`. A number of days or months over
`greatestShift`, or of months over 32 bits, is out of range. -/
def Date.shift? (base : Date) (d : Duration) (forward : Bool) : Option Date :=
  let signed (n : Nat) : Int := if forward then n else -Int.ofNat n
  let byDays (n : Nat) := if n ≤ greatestShift then base.addDays? (signed n) else none
  let byMonths (n : Nat) :=
    if n = 0 then some base
    else if n ≤ greatestShift then base.addMonths? (signed n) else none
  match d.unit with
  | .days => byDays d.amount
  | .weeks => byDays (d.amount * 7)
  | .months => byMonths d.amount
  | .years => if d.amount * 12 ≤ greatestAmount then byMonths (d.amount * 12) else none

/-- Two optional shifts: one forward and then one back. -/
structure Offset where
  plus : Option Duration
  minus : Option Duration
  deriving DecidableEq, Inhabited

/-- No shift at all. -/
def Offset.none : Offset := ⟨.none, .none⟩

/-- Applies the forward shift and then the backward one; the time of day is kept. -/
def Offset.shift? (o : Offset) (t : Timestamp) : Option Timestamp := do
  let up ← match o.plus with
    | some d => t.date.shift? d true
    | .none => some t.date
  let down ← match o.minus with
    | some d => up.shift? d false
    | .none => some up
  return { t with date := down }

end TestData.Calendar
