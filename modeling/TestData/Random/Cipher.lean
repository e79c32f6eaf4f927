/-!
The stream cipher behind the random source: ChaCha with twelve rounds.

A block is sixteen words, computed from a key of eight words and the number of the block. A
source is a key, the number of the next block and the words of the current block that have not
been taken yet; taking words one after the other goes through the blocks without a gap.
-/

namespace TestData.Random

/-- Rotates a word to the left. -/
def rotate (w : UInt32) (n : UInt32) : UInt32 := (w <<< n) ||| (w >>> (32 - n))

/-- The sixteen words that are mixed. -/
structure Block where
  (x0 x1 x2 x3 x4 x5 x6 x7 x8 x9 x10 x11 x12 x13 x14 x15 : UInt32)
  deriving DecidableEq

/-- Mixes four words. -/
def quarter (a b c d : UInt32) : UInt32 × UInt32 × UInt32 × UInt32 :=
  let a := a + b
  let d := rotate (d ^^^ a) 16
  let c := c + d
  let b := rotate (b ^^^ c) 12
  let a := a + b
  let d := rotate (d ^^^ a) 8
  let c := c + d
  let b := rotate (b ^^^ c) 7
  (a, b, c, d)

/-- Two rounds: over the columns and over the diagonals. -/
def Block.doubleRound (s : Block) : Block :=
  let (x0, x4, x8, x12) := quarter s.x0 s.x4 s.x8 s.x12
  let (x1, x5, x9, x13) := quarter s.x1 s.x5 s.x9 s.x13
  let (x2, x6, x10, x14) := quarter s.x2 s.x6 s.x10 s.x14
  let (x3, x7, x11, x15) := quarter s.x3 s.x7 s.x11 s.x15
  let (x0, x5, x10, x15) := quarter x0 x5 x10 x15
  let (x1, x6, x11, x12) := quarter x1 x6 x11 x12
  let (x2, x7, x8, x13) := quarter x2 x7 x8 x13
  let (x3, x4, x9, x14) := quarter x3 x4 x9 x14
  ⟨x0, x1, x2, x3, x4, x5, x6, x7, x8, x9, x10, x11, x12, x13, x14, x15⟩

/-- Applies a number of double rounds. -/
def Block.mix (s : Block) : Nat → Block
  | 0 => s
  | n + 1 => s.doubleRound.mix n

/-- The words of a block added to those of another. -/
def Block.sum (s t : Block) : List UInt32 :=
  [s.x0 + t.x0, s.x1 + t.x1, s.x2 + t.x2, s.x3 + t.x3, s.x4 + t.x4, s.x5 + t.x5, s.x6 + t.x6,
    s.x7 + t.x7, s.x8 + t.x8, s.x9 + t.x9, s.x10 + t.x10, s.x11 + t.x11, s.x12 + t.x12,
    s.x13 + t.x13, s.x14 + t.x14, s.x15 + t.x15]

/-- A key of eight words. -/
structure Key where
  (k0 k1 k2 k3 k4 k5 k6 k7 : UInt32)
  deriving DecidableEq

/-- The words of the block with a given number. -/
def Key.block (k : Key) (n : UInt64) : List UInt32 :=
  let s : Block :=
    ⟨0x61707865, 0x3320646e, 0x79622d32, 0x6b206574, k.k0, k.k1, k.k2, k.k3, k.k4, k.k5, k.k6,
      k.k7, n.toUInt32, (n >>> 32).toUInt32, 0, 0⟩
  (s.mix 6).sum s

/-- One step of the generator that spreads a seed over a key. -/
def spread (state : UInt64) : UInt64 × UInt32 :=
  let state := state * 6364136223846793005 + 11634580027462260723
  let x := (((state >>> 18) ^^^ state) >>> 27).toUInt32
  let r := (state >>> 59).toUInt32
  (state, (x >>> r) ||| (x <<< ((32 - r) &&& 31)))

/-- The key that belongs to a seed. -/
def Key.ofSeed (seed : UInt64) : Key :=
  let (s, k0) := spread seed
  let (s, k1) := spread s
  let (s, k2) := spread s
  let (s, k3) := spread s
  let (s, k4) := spread s
  let (s, k5) := spread s
  let (s, k6) := spread s
  let (_, k7) := spread s
  ⟨k0, k1, k2, k3, k4, k5, k6, k7⟩

/-- A source of random words. -/
structure Source where
  key : Key
  /-- The number of the block after the current one. -/
  next : UInt64
  /-- The words of the current block that are left. -/
  rest : List UInt32
  deriving DecidableEq

namespace Source

/-- The source that belongs to a seed. -/
def ofSeed (seed : UInt64) : Source := ⟨Key.ofSeed seed, 0, []⟩

/-- Takes a word of 32 bits. -/
def word (s : Source) : UInt32 × Source :=
  match s.rest with
  | w :: rest => (w, { s with rest })
  | [] =>
    match s.key.block s.next with
    | w :: rest => (w, { s with next := s.next + 1, rest })
    | [] => (0, s)

/-- Takes a word of 64 bits: two words, the low one first. -/
def longWord (s : Source) : UInt64 × Source :=
  let (low, s) := s.word
  let (high, s) := s.word
  (low.toUInt64 ||| (high.toUInt64 <<< 32), s)

/-- The bytes of a word, the low one first. -/
def bytesOf (w : UInt32) : List UInt8 :=
  [w.toUInt8, (w >>> 8).toUInt8, (w >>> 16).toUInt8, (w >>> 24).toUInt8]

/-- Takes a number of words and gives their bytes. -/
def words (s : Source) : Nat → List UInt8 × Source
  | 0 => ([], s)
  | n + 1 =>
    let (w, s) := s.word
    let (bytes, s) := s.words n
    (bytesOf w ++ bytes, s)

/-- Takes `n` bytes; what is left of the last word is lost. -/
def bytes (s : Source) (n : Nat) : List UInt8 × Source :=
  let (bs, s) := s.words ((n + 3) / 4)
  (bs.take n, s)

end Source

end TestData.Random
