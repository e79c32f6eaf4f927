import TestData.Decimal.Binary
import TestData.Text.Blank

/-!
Reading floating-point numbers from text.

A number is an optional sign and then one of the words `inf`, `infinity` and `nan` in any case,
or digits with at most one point among them, at least one digit, and an optional exponent. The
result is the nearest floating-point number.
-/

namespace TestData.Decimal

/-- Why a text is no number. -/
inductive ReadError
  | empty
  | malformed
  deriving DecidableEq

/-- The words for a text that is no number. -/
def ReadError.message : ReadError → String
  | .empty => "cannot parse float from empty string"
  | .malformed => "invalid float literal"

/-- The value of a digit of base ten. -/
def digitValue (c : Char) : Nat := c.toNat - '0'.toNat

/-- Whether a character is one of the ten digits of ASCII. -/
def isDigit (c : Char) : Bool := '0' ≤ c && c ≤ '9'

/-- The number that digits of base ten denote. -/
def ofDigits (ds : List Char) : Nat :=
  ds.foldl (fun n c => 10 * n + digitValue c) 0

/-- The number nearest to `m * 10 ^ e`. Far outside the range of floating-point numbers the
power of ten is not computed. -/
def nearest (m : Nat) (e : Int) : Float :=
  let first := (toString m).length + e
  if m = 0 || first < -330 then 0
  else if 310 < first then 1 / 0
  else Float.ofScientific m (e < 0) e.natAbs

/-- The exponent part of a number: `e` or `E`, an optional sign and digits. -/
def readExponent? : List Char → Option Int
  | [] => some 0
  | c :: rest =>
    if c = 'e' || c = 'E' then
      let (negative, ds) :=
        match rest with
        | '-' :: ds => (true, ds)
        | '+' :: ds => (false, ds)
        | ds => (false, ds)
      if ds ≠ [] && ds.all isDigit then
        some (if negative then -Int.ofNat (ofDigits ds) else Int.ofNat (ofDigits ds))
      else none
    else none

/-- A magnitude in digits. -/
def readDigits? (cs : List Char) : Option Float :=
  let whole := cs.takeWhile isDigit
  let rest := cs.dropWhile isDigit
  let (fraction, tail) :=
    match rest with
    | '.' :: r => (r.takeWhile isDigit, r.dropWhile isDigit)
    | r => ([], r)
  if whole = [] && fraction = [] then none
  else
    (readExponent? tail).map fun e =>
      nearest (ofDigits (whole ++ fraction)) (e - Int.ofNat fraction.length)

/-- A magnitude: a word or digits. -/
def readMagnitude? (cs : List Char) : Option Float :=
  let word := String.ofList (cs.map Text.lowerAscii)
  if word = "inf" || word = "infinity" then some (1 / 0)
  else if word = "nan" then some (0 / 0)
  else readDigits? cs

/-- Reads a floating-point number. -/
def readFloat (s : String) : Except ReadError Float :=
  let cs := s.toList
  let (negative, rest) :=
    match cs with
    | '-' :: r => (true, r)
    | '+' :: r => (false, r)
    | r => (false, r)
  if cs = [] then .error .empty
  else
    match readMagnitude? rest with
    | some x => .ok (if negative then -x else x)
    | none => .error .malformed

end TestData.Decimal
