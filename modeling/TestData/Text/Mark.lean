import TestData.Text.Mark.Table
import TestData.Text.Blank

/-!
Taking the marks off letters.

A character is replaced by its canonical decomposition and the marks are dropped. As every
character that canonical order could move is a mark, the order need not be established first.
-/

namespace TestData.Text

/-- The general category `Mark`. -/
def marks : CodeSet := CodeSet.ofText markText

/-- Reads one entry of the table of decompositions. -/
def readEntry (cs : List Char) : Option (Nat × List Char) :=
  match (words cs).map ofHex with
  | n :: ns => some (n, ns.map Char.ofNat)
  | [] => none

/-- The decompositions of the table. -/
def decompositions : List (Nat × List Char) :=
  (decompositionText.toList.splitOn ';').filterMap readEntry

/-- The first syllable of Hangul and the number of syllables. -/
def hangulBase : Nat := 0xAC00
/-- The number of syllables of Hangul. -/
def hangulCount : Nat := 11172

/-- The letters of a syllable of Hangul: lead, vowel and, if there is one, tail. -/
def hangulLetters (n : Nat) : List Char :=
  let i := n - hangulBase
  let tail := i % 28
  [Char.ofNat (0x1100 + i / 588), Char.ofNat (0x1161 + i % 588 / 28)] ++
    if tail = 0 then [] else [Char.ofNat (0x11A7 + tail)]

/-- The full canonical decomposition of a character. -/
def decompose (c : Char) : List Char :=
  let n := c.toNat
  if n < 0xC0 then [c]
  else if hangulBase ≤ n && n < hangulBase + hangulCount then hangulLetters n
  else (decompositions.lookup n).getD [c]

/-- A text without marks. -/
def withoutMarks (cs : List Char) : List Char :=
  (cs.flatMap decompose).filter fun c => !marks.has c.toNat

end TestData.Text
