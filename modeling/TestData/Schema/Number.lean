import TestData.Decimal.Reader
import TestData.Value.Basic

/-!
Numbers as schemas write them.

A number keeps the text it was written as. The text tells whether the number is an integer or
a real one and how many decimal places are kept when numbers are drawn between two bounds.
-/

namespace TestData.Schema

/-- A number together with its text. -/
structure Number where
  value : Float
  raw : String
  deriving Inhabited

namespace Number

/-- Whether the text has a decimal point. -/
def hasPoint (n : Number) : Bool := n.raw.toList.contains '.'

/-- What stands before the exponent. -/
def mantissa (cs : List Char) : List Char :=
  cs.takeWhile fun c => c != 'e' && c != 'E'

/-- The number of digits after the first point and before the exponent. -/
def places (n : Number) : Nat :=
  let fraction := (mantissa n.raw.toList).dropWhile (· != '.')
  (fraction.filter Decimal.isDigit).length

/-- Reads a number with white space around it. -/
def read (s : String) : Except Decimal.ReadError Number :=
  let text := Text.trimmed s
  (Decimal.readFloat text).map (⟨·, text⟩)

/-- The value of a number: real if it was written with a point or is not whole. -/
def toValue (n : Number) : Value :=
  if n.hasPoint || !Decimal.isWhole n.value then .float n.value
  else .int (Decimal.toInteger n.value)

end Number

end TestData.Schema
