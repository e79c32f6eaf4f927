/-!
The characters of a markup text, each with the place where it stands.

The line breaks of all systems become one character, so that a break is a line feed or one of
the two Unicode separators.
-/

namespace TestData.Yaml

/-- A character and its place: its index in the text, its line and its column. -/
structure Glyph where
  char : Char
  index : Nat
  line : Nat
  column : Nat

/-- Whether a character may stand in a markup text. -/
def isPrintable (c : Char) : Bool :=
  let n := c.toNat
  n == 0x09 || n == 0x0A || n == 0x0D || (0x20 ≤ n && n ≤ 0x7E) || n == 0x85 ||
    (0xA0 ≤ n && n ≤ 0xFFFD) || 0x10000 ≤ n

/-- Gives every character its place, starting from the place given. -/
def place (index line column : Nat) : List Char → List Glyph
  | [] => []
  | '\r' :: '\n' :: rest => ⟨'\n', index, line, column⟩ :: place (index + 2) (line + 1) 0 rest
  | c :: rest =>
    if c = '\n' || c = '\r' || c = '\u0085' then
      ⟨'\n', index, line, column⟩ :: place (index + 1) (line + 1) 0 rest
    else if c = '\u2028' || c = '\u2029' then
      ⟨c, index, line, column⟩ :: place (index + 1) (line + 1) 0 rest
    else ⟨c, index, line, column⟩ :: place (index + 1) line (column + 1) rest

/-- The glyphs of a text of printable characters. -/
def glyphs? (text : List Char) : Option (List Glyph) :=
  if text.all isPrintable then some (place 0 0 0 text) else none

/-- A line break. -/
def isBreak (c : Char) : Bool := c = '\n' || c = '\u2028' || c = '\u2029'

/-- A blank inside a line. -/
def isBlank (c : Char) : Bool := c = ' ' || c = '\t'

/-- A blank or a break. -/
def isSpace (c : Char) : Bool := isBlank c || isBreak c

/-- The characters of names. -/
def isNameChar (c : Char) : Bool := c.isAlphanum || c = '_' || c = '-'

/-- The character at the front. -/
def front? (gs : List Glyph) : Option Char := gs.head?.map (·.char)

/-- Whether the text ends or has a blank or break at the front. -/
def endsWord (gs : List Glyph) : Bool := (front? gs).all isSpace

/-- Whether the text ends or has a break at the front. -/
def endsLine (gs : List Glyph) : Bool := (front? gs).all isBreak

/-- Whether a line starts here with a character three times and nothing more in the word. -/
def isMarker (c : Char) (gs : List Glyph) : Bool :=
  match gs with
  | a :: b :: d :: rest =>
    a.column == 0 && a.char = c && b.char = c && d.char = c && endsWord rest
  | _ => false

/-- Whether a line starts here that opens or closes a document. -/
def isDocumentMarker (gs : List Glyph) : Bool := isMarker '-' gs || isMarker '.' gs

/-- The front of the text as far as characters satisfy a test, and the rest. -/
def span (p : Char → Bool) (gs : List Glyph) : List Char × List Glyph :=
  ((gs.takeWhile fun g => p g.char).map (·.char), gs.dropWhile fun g => p g.char)

/-- The text after blanks. -/
def skipBlanks (gs : List Glyph) : List Glyph := (span isBlank gs).2

/-- The text after a comment, if there is one. -/
def skipComment (gs : List Glyph) : List Glyph :=
  if front? gs = some '#' then (span (fun c => !isBreak c) gs).2 else gs

end TestData.Yaml
