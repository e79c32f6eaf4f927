import TestData.Decimal.Binary

/-!
The shortest decimal that reads back as a given floating-point number.

A number `m * 2 ^ q` is what every real in an interval around it rounds to; the ends belong to
the interval when `m` is even. On the grid of multiples of `10 ^ k` only the two neighbours of
the number can lie in the interval unless a coarser grid already met it. So the grids are tried
from coarse to fine and the first that meets the interval gives the digits, the nearer neighbour
first.
-/

namespace TestData.Decimal

/-- The number `digits * 10 ^ exponent`. -/
structure Digits where
  digits : Nat
  exponent : Int
  deriving DecidableEq

/-- Numerators over a common denominator: a number and the ends of its rounding interval. -/
structure Interval where
  value : Nat
  low : Nat
  high : Nat
  denominator : Nat
  closed : Bool

/-- The interval of the reals that round to a positive number. Below a power of two the spacing
is halved, except where the exponent is already the least. -/
def Interval.ofBinary (b : Binary) : Interval :=
  let narrow := b.significand = Nat.pow 2 52 ∧ -1074 < b.exponent
  let q := b.exponent - 2
  let scale := if 0 ≤ q then Nat.pow 2 q.toNat else 1
  { value := 4 * b.significand * scale
    low := (4 * b.significand - if narrow then 1 else 2) * scale
    high := (4 * b.significand + 2) * scale
    denominator := if 0 ≤ q then 1 else Nat.pow 2 (-q).toNat
    closed := b.significand % 2 = 0 }

/-- The interval with everything divided by `10 ^ k`. -/
def Interval.onGrid (i : Interval) (k : Int) : Interval :=
  if 0 ≤ k then { i with denominator := i.denominator * Nat.pow 10 k.toNat }
  else
    let s := Nat.pow 10 (-k).toNat
    { i with value := i.value * s, low := i.low * s, high := i.high * s }

/-- Whether the integer `n` lies in the interval. -/
def Interval.holds (i : Interval) (n : Nat) : Bool :=
  let x := n * i.denominator
  if i.closed then i.low ≤ x && x ≤ i.high else i.low < x && x < i.high

/-- The neighbour of the value on the grid of the integers that lies in the interval; of two
the nearer, and of two equally near the even one. -/
def Interval.neighbour? (i : Interval) : Option Nat :=
  let below := i.value / i.denominator
  let rest := i.value % i.denominator
  let nearBelow := 2 * rest < i.denominator ∨ (2 * rest = i.denominator ∧ below % 2 = 0)
  match decide (0 < below) && i.holds below, i.holds (below + 1) with
  | true, true => some (if nearBelow then below else below + 1)
  | true, false => some below
  | false, true => some (below + 1)
  | false, false => none

/-- Tries `fuel` grids from `10 ^ k` downwards. -/
def Interval.search (i : Interval) : Nat → Int → Digits
  | 0, k => ⟨i.value / i.denominator, k⟩
  | fuel + 1, k =>
    match (i.onGrid k).neighbour? with
    | some n => ⟨n, k⟩
    | none => i.search fuel (k - 1)

/-- A power of ten not below the number: a little more than `0.30103` digits for a bit. -/
def coarsest (b : Binary) : Int :=
  ((Nat.log2 b.significand : Int) + 1 + b.exponent) * 30103 / 100000 + 1

/-- The shortest digits of a positive number; of the shortest the nearest. From the coarsest
grid 17 digits are within reach in 20 steps. -/
def shortest (b : Binary) : Digits :=
  (Interval.ofBinary b).search 20 (coarsest b)

end TestData.Decimal
