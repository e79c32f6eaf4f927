/-!
The exact value of a floating-point number, and the conversions that need it: to integers, to
whole floating-point numbers, and to a number of decimal places.

A finite number is a sign, a natural significand and a power of two. Everything here is exact
arithmetic on that form.
-/

namespace TestData.Decimal

/-- The number `(-1)^negative * significand * 2^exponent`. -/
structure Binary where
  negative : Bool
  significand : Nat
  exponent : Int
  deriving DecidableEq

/-- The value of a finite number. -/
def Binary.ofFloat (x : Float) : Binary :=
  let bits := x.toBits.toNat
  let field := bits / Nat.pow 2 52 % 2048
  let fraction := bits % Nat.pow 2 52
  { negative := Nat.pow 2 63 ≤ bits
    significand := if field = 0 then fraction else fraction + Nat.pow 2 52
    exponent := Int.ofNat (if field = 0 then 1 else field) - 1075 }

/-- The integer part of the magnitude. -/
def Binary.whole (b : Binary) : Nat :=
  if 0 ≤ b.exponent then b.significand * Nat.pow 2 b.exponent.toNat
  else b.significand / Nat.pow 2 (-b.exponent).toNat

/-- Whether the number has digits after the point. -/
def Binary.hasFraction (b : Binary) : Bool :=
  b.exponent < 0 && b.significand % Nat.pow 2 (-b.exponent).toNat != 0

/-- The least and the greatest integer of 64 bits. -/
def leastInteger : Int := -9223372036854775808
/-- The greatest integer of 64 bits. -/
def greatestInteger : Int := 9223372036854775807

/-- The nearest integer that has 64 bits. -/
def clampInteger (n : Int) : Int :=
  max leastInteger (min n greatestInteger)

/-- The integer part, cut to 64 bits; what is not a number counts as zero. -/
def toInteger (x : Float) : Int :=
  if x.isNaN then 0
  else if x.isInf then (if x < 0 then leastInteger else greatestInteger)
  else
    let b := Binary.ofFloat x
    clampInteger (if b.negative then -b.whole else b.whole)

/-- Whether a number is a whole one. Infinities and what is not a number are not. -/
def isWhole (x : Float) : Bool :=
  x.isFinite && !(Binary.ofFloat x).hasFraction

/-- The nearest whole number; a half goes away from zero and the sign of zero is kept. -/
def roundHalfAway (x : Float) : Float :=
  let b := Binary.ofFloat x
  if !x.isFinite || 0 ≤ b.exponent then x
  else
    let unit := Nat.pow 2 (-b.exponent).toNat
    let n := Float.ofNat ((b.significand + unit / 2) / unit)
    if b.negative then -n else n

/-- `product * base ^ n`, by squaring: the factors of the low bits of `n` come first. -/
def powerInto (product base : Float) (n : Nat) : Float :=
  if n = 0 then product
  else powerInto (if n % 2 = 1 then product * base else product) (base * base) (n / 2)
termination_by n
decreasing_by omega

/-- A number with `places` digits after the point. -/
def roundTo (x : Float) (places : Nat) : Float :=
  let factor := powerInto 1 10 places
  roundHalfAway (x * factor) / factor

end TestData.Decimal
