import TestData.Decimal.Shortest

/-!
Texts of floating-point numbers.

All layouts write the shortest digits that read back. They differ in which exponents are written
out in full, in the marks of a whole number and of an exponent, and in the words for what is not
a finite number.
-/

namespace TestData.Decimal

/-- How a floating-point number is written. -/
structure Layout where
  /-- The decimal exponents, from the first to before the second, that are written out without
  an exponent part; all of them when absent. -/
  plain : Option (Int × Int)
  /-- What follows the digits of a whole number that is written out. -/
  whole : String
  /-- The sign of an exponent that is not negative. -/
  plus : String
  infinity : String
  notNumber : String

/-- The layout of numbers in records. -/
def Layout.record : Layout :=
  { plain := some (-5, 16), whole := ".0", plus := "+", infinity := "inf", notNumber := "NaN" }

/-- The layout of numbers inside running text: never an exponent and no empty fraction. -/
def Layout.running : Layout :=
  { plain := none, whole := "", plus := "", infinity := "inf", notNumber := "NaN" }

/-- The layout that shows a number as a source literal. -/
def Layout.literal : Layout :=
  { plain := some (-4, 16), whole := ".0", plus := "", infinity := "inf", notNumber := "NaN" }

/-- The layout of numbers in markup. -/
def Layout.markup : Layout :=
  { plain := some (-5, 16), whole := ".0", plus := "", infinity := ".inf", notNumber := ".nan" }

/-- Digits with the point after the digit of exponent zero. -/
def positional (whole : String) (ds : List Char) (last : Int) : List Char :=
  if 0 ≤ last then ds ++ List.replicate last.toNat '0' ++ whole.toList
  else
    let places := (-last).toNat
    if places < ds.length then
      ds.take (ds.length - places) ++ '.' :: ds.drop (ds.length - places)
    else '0' :: '.' :: (List.replicate (places - ds.length) '0' ++ ds)

/-- Digits with the point after the first, and the exponent of the first. -/
def scientific (plus : String) (ds : List Char) (first : Int) : List Char :=
  let mantissa :=
    match ds with
    | [] => []
    | [d] => [d]
    | d :: rest => d :: '.' :: rest
  mantissa ++ 'e' :: ((if first < 0 then "" else plus) ++ toString first).toList

/-- The text of a magnitude whose shortest digits are given. -/
def Layout.magnitude (l : Layout) (d : Digits) : List Char :=
  let ds := (toString d.digits).toList
  let first := d.exponent + ds.length - 1
  let plain :=
    match l.plain with
    | none => true
    | some (least, bound) => least ≤ first && first < bound
  if plain then positional l.whole ds d.exponent else scientific l.plus ds first

/-- The text of a number. -/
def Layout.text (l : Layout) (x : Float) : String :=
  if x.isNaN then l.notNumber
  else if x.isInf then (if x < 0 then "-" else "") ++ l.infinity
  else
    let b := Binary.ofFloat x
    let body := if b.significand = 0 then '0' :: l.whole.toList else l.magnitude (shortest b)
    (if b.negative then "-" else "") ++ String.ofList body

end TestData.Decimal
