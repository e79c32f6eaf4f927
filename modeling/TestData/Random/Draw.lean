import TestData.Decimal.Binary
import TestData.Random.Cipher

/-!
Drawing numbers from a random source.

A uniform integer is drawn by multiplying a random word with the size of the range: the high
half of the product is the result and the low half tells whether the word must be thrown away,
so that every result is equally likely. The two ways to bound the low half differ in the words
that are thrown away and so in the numbers that follow.
-/

namespace TestData.Random

/-- A draw, or nothing where the bounds do not allow one. -/
abbrev Draw (α : Type) := Option (α × Source)

/-- Retries of a draw. A word is thrown away with a probability below one half, so this many
in a row do not occur. -/
def retries : Nat := 4096

namespace Source

/-- A number below `range`, from words of 64 bits whose low half is at most `zone`. -/
def below64 (s : Source) (range zone : Nat) : Nat → Nat × Source
  | 0 => (0, s)
  | n + 1 =>
    let (w, s) := s.longWord
    let p := w.toNat * range
    if p % UInt64.size ≤ zone then (p / UInt64.size, s) else s.below64 range zone n

/-- A number below `range`, from words of 32 bits whose low half is at most `zone`. -/
def below32 (s : Source) (range zone : Nat) : Nat → Nat × Source
  | 0 => (0, s)
  | n + 1 =>
    let (w, s) := s.word
    let p := w.toNat * range
    if p % UInt32.size ≤ zone then (p / UInt32.size, s) else s.below32 range zone n

/-- The bound that comes from shifting a range to the top of 64 bits. -/
def shiftedZone (range : Nat) : Nat :=
  range * Nat.pow 2 (63 - Nat.log2 range) - 1

/-- The bound that accepts as many words as can be accepted. -/
def exactZone (width range : Nat) : Nat :=
  let words := Nat.pow 2 width
  words - 1 - (words - range) % range

/-- A number below `range`, which is from 1 to `2^64 - 1`. -/
def below (s : Source) (range : Nat) : Nat × Source :=
  s.below64 range (shiftedZone range) retries

/-- An integer from `min` to `max`; `min`, with nothing drawn, where that is empty or single. Any
word is an integer of 64 bits, so one is taken as it is where all of these are wanted. -/
def intBetween (s : Source) (min max : Int) : Int × Source :=
  if max ≤ min then (min, s)
  else
    let range := (max - min + 1).toNat
    if UInt64.size ≤ range then
      let (w, s) := s.longWord
      (w.toInt64.toInt, s)
    else
      let (n, s) := s.below range
      (min + n, s)

/-- A position in a list of `n` members. A single member draws as well. -/
def index (s : Source) (n : Nat) : Nat × Source := s.below (Nat.max n 1)

/-- A real number from 0 to before 1. -/
def unit (s : Source) : Float × Source :=
  let (w, s) := s.longWord
  ((w >>> 11).toFloat / 9007199254740992, s)

/-- The greatest number below 1 that has 52 bits after the point. -/
def greatestFraction : Float := 1 - 1 / 4503599627370496

/-- The greatest scale, from that of the bits `n` downwards, whose largest product stays within
`max`. -/
def fitScale (min max : Float) : Nat → Float
  | 0 => 0
  | n + 1 =>
    let scale := Float.ofBits (n + 1).toUInt64
    if max < scale * greatestFraction + min then fitScale min max n else scale

/-- A real number from `min` to `max`; `min`, with nothing drawn, unless `min < max`. There is
none where a bound or the distance of the bounds is not finite. -/
def realBetween (s : Source) (min max : Float) : Draw Float :=
  if !(min < max) then some (min, s)
  else
    let scale := (max - min) / greatestFraction
    if !min.isFinite || !max.isFinite || !scale.isFinite then none
    else
      let scale := fitScale min max scale.toBits.toNat
      let (w, s) := s.longWord
      some ((w >>> 12).toFloat / 4503599627370496 * scale + min, s)

/-- The text of sixteen bytes in the form of an identifier. -/
def identifierText (bs : List UInt8) : String :=
  let hex := bs.flatMap fun b => [b.toNat / 16, b.toNat % 16]
  let digit (n : Nat) : Char :=
    if n < 10 then Char.ofNat (48 + n) else Char.ofNat (87 + n)
  let cs := hex.map digit
  String.ofList (cs.take 8 ++ '-' :: (cs.drop 8).take 4 ++ '-' :: (cs.drop 12).take 4 ++
    '-' :: (cs.drop 16).take 4 ++ '-' :: cs.drop 20)

/-- Sets the bits of an identifier that tell its version, 4, and its variant. -/
def markVersion (bs : List UInt8) : List UInt8 :=
  bs.mapIdx fun i b =>
    if i = 6 then (b &&& 0x0f) ||| 0x40 else if i = 8 then (b &&& 0x3f) ||| 0x80 else b

/-- A random identifier. -/
def identifier (s : Source) : String × Source :=
  let (bs, s) := s.bytes 16
  (identifierText (markVersion bs), s)

end Source

end TestData.Random
