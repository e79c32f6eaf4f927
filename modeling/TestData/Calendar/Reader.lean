import TestData.Calendar.Timestamp
import TestData.Decimal.Reader
import TestData.Text.Blank

/-!
Reading dates and timestamps.

Three readers: by a list of `Item`s, which allow blanks before a number and fewer digits than
usual; by the profile of the Internet, with fixed widths and a zone; and the relaxed form of that
profile, where the parts are read as items.
-/

namespace TestData.Calendar

/-- The numbers of a date and a time of day, as far as they have been read. -/
structure Parts where
  year : Int := 0
  month : Nat := 0
  day : Nat := 0
  hour : Nat := 0
  minute : Nat := 0
  second : Nat := 0
  nanos : Nat := 0

/-- The date, if there is such a day. -/
def Parts.date? (p : Parts) : Option Date :=
  Date.ofParts? p.year p.month p.day

/-- The point in time, at a zone that is `offset` seconds ahead. The second 60 is a leap
second. -/
def Parts.timestamp? (p : Parts) (offset : Int) : Option Timestamp := do
  let date ← p.date?
  let leap := p.second = 60
  let start := p.hour * 3600 + p.minute * 60 + (if leap then 59 else p.second)
  let total := Int.ofNat start - offset
  let day := date.addDays (total / daySeconds)
  if day.inRange then
    return ⟨day, (total % daySeconds).toNat, p.nanos + if leap then Calendar.second else 0⟩
  else none

/-- A number of at most `most` digits and at least one. -/
def readNumber? (most : Nat) (cs : List Char) : Option (Nat × List Char) :=
  let ds := (cs.take most).takeWhile Decimal.isDigit
  if ds = [] then none else some (Decimal.ofDigits ds, cs.drop ds.length)

/-- A number of exactly `n` digits. -/
def readExactly? (n : Nat) (cs : List Char) : Option (Nat × List Char) :=
  let ds := cs.take n
  if ds.length = n && ds.all Decimal.isDigit then some (Decimal.ofDigits ds, cs.drop n) else none

/-- One given character. -/
def readMark? (c : Char) : List Char → Option (List Char)
  | d :: rest => if d = c then some rest else none
  | [] => none

/-- The digits after a point as nanoseconds; digits past the ninth are ignored. -/
def readNanos? (cs : List Char) : Option (Nat × List Char) :=
  let ds := cs.takeWhile Decimal.isDigit
  if ds = [] then none
  else
    let kept := ds.take 9
    some (Decimal.ofDigits kept * Nat.pow 10 (9 - kept.length), cs.drop ds.length)

/-- A part of a date or time. -/
inductive Item
  | year
  | month
  | day
  | hour
  | minute
  | second
  /-- An optional point and the digits after it. -/
  | fraction
  | mark (c : Char)
  /-- Any number of blanks. -/
  | blanks

/-- A number from `least` to `greatest`, of at most two digits, after any number of blanks. -/
def readField? (least greatest : Nat) (cs : List Char) : Option (Nat × List Char) := do
  let (n, rest) ← readNumber? 2 (Text.trimLeft cs)
  if least ≤ n && n ≤ greatest then some (n, rest) else none

/-- A year: four digits, or a sign and any number of digits. -/
def readYear? (cs : List Char) : Option (Int × List Char) := do
  let (y, rest) ← match Text.trimLeft cs with
    | '-' :: r => (readNumber? r.length r).map fun (n, t) => (-Int.ofNat n, t)
    | '+' :: r => (readNumber? r.length r).map fun (n, t) => (Int.ofNat n, t)
    | r => (readNumber? 4 r).map fun (n, t) => (Int.ofNat n, t)
  if -2147483648 ≤ y && y ≤ 2147483647 then some (y, rest) else none

/-- Reads one item. -/
def Item.read? (p : Parts) (cs : List Char) : Item → Option (Parts × List Char)
  | .year => (readYear? cs).map fun (n, r) => ({ p with year := n }, r)
  | .month => (readField? 1 12 cs).map fun (n, r) => ({ p with month := n }, r)
  | .day => (readField? 1 31 cs).map fun (n, r) => ({ p with day := n }, r)
  | .hour => (readField? 0 23 cs).map fun (n, r) => ({ p with hour := n }, r)
  | .minute => (readField? 0 59 cs).map fun (n, r) => ({ p with minute := n }, r)
  | .second => (readField? 0 60 cs).map fun (n, r) => ({ p with second := n }, r)
  | .fraction =>
    match cs with
    | '.' :: r => (readNanos? r).map fun (n, t) => ({ p with nanos := n }, t)
    | r => some (p, r)
  | .mark c => (readMark? c cs).map (p, ·)
  | .blanks => some (p, Text.trimLeft cs)

/-- Reads items one after the other. -/
def readItems? : List Item → Parts → List Char → Option (Parts × List Char)
  | [], p, cs => some (p, cs)
  | i :: is, p, cs => do
    let (p, cs) ← i.read? p cs
    readItems? is p cs

/-- Reads items that take up the whole text. -/
def readAll? (items : List Item) (s : List Char) : Option Parts :=
  match readItems? items {} s with
  | some (p, []) => some p
  | _ => none

/-- The items of a date. -/
def dateItems : List Item := [.year, .mark '-', .month, .mark '-', .day]

/-- The items of a time of day. -/
def timeItems : List Item := [.hour, .mark ':', .minute, .mark ':', .second]

/-- Reads a date, with white space around it. -/
def Date.read? (s : String) : Option Date := do
  (← readAll? dateItems (Text.trim s.toList)).date?

/-- The two digits of the hours of a zone. -/
def readZoneHours? (cs : List Char) : Option (Nat × List Char) := readExactly? 2 cs

/-- The two digits of the minutes of a zone. -/
def readZoneMinutes? (cs : List Char) : Option (Nat × List Char) := do
  let (n, rest) ← readExactly? 2 cs
  if n < 60 then some (n, rest) else none

/-- A zone as seconds ahead: `Z`, or a sign, hours and minutes, with `between` taking what
stands between the two. -/
def readZone? (between : List Char → Option (List Char)) (cs : List Char) :
    Option (Int × List Char) := do
  match cs with
  | [] => none
  | c :: rest =>
    if c = 'Z' || c = 'z' then some (0, rest)
    else
      let negative := c = '-' || c = '\u2212'
      if !negative && c != '+' then none
      else
        let (h, rest) ← readZoneHours? rest
        let (m, rest) ← readZoneMinutes? (← between rest)
        let n := Int.ofNat (h * 3600 + m * 60)
        some (if negative then -n else n, rest)

/-- Whether a character may stand between date and time. -/
def isDateEnd (c : Char) : Bool := c = 't' || c = 'T' || c = ' '

/-- Reads a timestamp by the profile of the Internet: four digits for the year, two for each
other number and a zone of less than a day. -/
def Timestamp.readExact? (s : String) : Option Timestamp := do
  let (y, cs) ← readExactly? 4 s.toList
  let (mo, cs) ← readExactly? 2 (← readMark? '-' cs)
  let (d, cs) ← readExactly? 2 (← readMark? '-' cs)
  let (c, cs) ← match cs with
    | c :: r => some (c, r)
    | [] => none
  if !isDateEnd c then none
  else
    let (h, cs) ← readExactly? 2 cs
    let (mi, cs) ← readExactly? 2 (← readMark? ':' cs)
    let (sec, cs) ← readExactly? 2 (← readMark? ':' cs)
    let (n, cs) ← match cs with
      | '.' :: r => readNanos? r
      | r => some (0, r)
    let (offset, cs) ← readZone? (readMark? ':') cs
    if cs ≠ [] || 23 < h || 59 < mi || 60 < sec || 86400 ≤ offset.natAbs then none
    else Parts.timestamp? ⟨y, mo, d, h, mi, sec, n⟩ offset

/-- Takes colons and blanks off the start. -/
def skipColons (cs : List Char) : List Char :=
  cs.dropWhile fun c => c = ':' || Text.isBlank c

/-- The zone of the relaxed form, which may also be the letters `UTC` in any case. -/
def readLooseZone? (cs : List Char) : Option (Int × List Char) :=
  if Text.loweredAscii (String.ofList (cs.take 3)) = "utc" then some (0, cs.drop 3)
  else readZone? (fun r => some (skipColons r)) cs

/-- Reads a timestamp in the relaxed form of the profile: blanks before numbers, after the
parts of the date and around the colons, and fewer digits. -/
def Timestamp.readLoose? (s : String) : Option Timestamp := do
  let dates := [Item.year, .blanks, .mark '-', .month, .blanks, .mark '-', .day]
  let times :=
    [Item.hour, .blanks, .mark ':', .minute, .blanks, .mark ':', .second, .fraction, .blanks]
  let (p, cs) ← readItems? dates {} s.toList
  let (c, cs) ← match cs with
    | c :: r => some (c, r)
    | [] => none
  if !isDateEnd c then none
  else
    let (p, cs) ← readItems? times p cs
    let (offset, cs) ← readLooseZone? (Text.trimLeft cs)
    if Text.trimLeft cs ≠ [] || 86400 ≤ offset.natAbs then none
    else p.timestamp? offset

/-- Reads a timestamp as schemas write it: by the profile of the Internet, or without a zone
and fraction, with `T` or blanks between date and time. -/
def Timestamp.read? (s : String) : Option Timestamp :=
  let cs := Text.trim s.toList
  match readExact? (String.ofList cs) with
  | some t => some t
  | none =>
    match readAll? (dateItems ++ .mark 'T' :: timeItems) cs with
    | some p => p.timestamp? 0
    | none => (readAll? (dateItems ++ .blanks :: timeItems) cs).bind (·.timestamp? 0)

end TestData.Calendar
