import TestData.Yaml.Scalar

/-!
The tokens of a markup text.

Indentation becomes tokens that open and close blocks. A simple key is known as a key only when
its colon is met, so the token for it is put in front of what has been read since.
-/

namespace TestData.Yaml

/-- A token. -/
inductive Token
  | version (major minor : Nat)
  | tagPrefix (handle start : String)
  | documentStart
  | documentEnd
  | sequenceStart
  | mappingStart
  | blockEnd
  | openBracket
  | closeBracket
  | openBrace
  | closeBrace
  | comma
  | entry
  | key
  | value
  | alias (name : String)
  | anchor (name : String)
  | tag (handle suffix : String)
  | scalar (plain : Bool) (text : String)
  deriving DecidableEq

/-- A place where a simple key may have started. -/
structure Candidate where
  /-- Whether something must be a key here for the indentation to be right. -/
  required : Bool
  /-- How many tokens came before it. -/
  number : Nat
  index : Nat
  line : Nat
  column : Nat

/-- What is known after the front of a text. -/
structure Scan where
  tokens : Array Token
  /-- The column of the innermost open block, or `-1`. -/
  indent : Int
  /-- The columns of the blocks around it. -/
  outer : List Int
  /-- The possible key of what is open in brackets, the innermost first, and of the block. -/
  keys : List (Option Candidate)
  /-- Whether a simple key may start here. -/
  keyAllowed : Bool

namespace Scan

/-- Nothing has been read. -/
def start : Scan := { tokens := #[], indent := -1, outer := [], keys := [none], keyAllowed := true }

/-- Whether brackets are open. -/
def inFlow (s : Scan) : Bool := 1 < s.keys.length

/-- Adds a token. -/
def push (s : Scan) (t : Token) : Scan := { s with tokens := s.tokens.push t }

/-- Opens a block at a column that is deeper, with its token at a position. -/
def indentTo (s : Scan) (column : Nat) (number : Nat) (t : Token) : Scan :=
  if s.inFlow || (column : Int) ≤ s.indent then s
  else
    { s with
      tokens := s.tokens.insertIdxIfInBounds number t
      indent := column
      outer := s.indent :: s.outer }

/-- Closes blocks that are deeper than a column. -/
def closeTo (tokens : Array Token) (column indent : Int) : List Int → Array Token × Int × List Int
  | [] => (tokens, indent, [])
  | o :: outer =>
    if column < indent then closeTo (tokens.push .blockEnd) column o outer
    else (tokens, indent, o :: outer)

/-- Closes the blocks that are deeper than a column. -/
def dedentTo (s : Scan) (column : Int) : Scan :=
  if s.inFlow then s
  else
    let (tokens, indent, outer) := closeTo s.tokens column s.indent s.outer
    { s with tokens, indent, outer }

/-- Gives up the possible key of the innermost level, unless it is required. -/
def dropKey? (s : Scan) : Option Scan :=
  match s.keys with
  | some k :: keys => if k.required then none else some { s with keys := none :: keys }
  | _ => some s

/-- Gives up the possible keys that ended with their line or are too long. -/
def expireKeys? (s : Scan) (here : Glyph) : Option Scan := do
  let keys ← s.keys.mapM fun key =>
    match key with
    | some k =>
      if k.line < here.line || k.index + 1024 < here.index then
        if k.required then none else some none
      else some (some k)
    | none => some none
  return { s with keys }

/-- Remembers that a simple key may start here. -/
def saveKey? (s : Scan) (here : Glyph) : Option Scan :=
  if s.keyAllowed then do
    let s ← s.dropKey?
    let k : Candidate :=
      { required := !s.inFlow && s.indent == (here.column : Int)
        number := s.tokens.size, index := here.index, line := here.line, column := here.column }
    return { s with keys := some k :: s.keys.drop 1 }
  else some s

/-- Adds a token that may start a simple key. -/
def node? (s : Scan) (here : Glyph) (t : Token) : Option Scan := do
  let s ← s.saveKey? here
  return { s.push t with keyAllowed := false }

/-- Opens brackets. -/
def open? (s : Scan) (here : Glyph) (t : Token) : Option Scan := do
  let s ← s.saveKey? here
  return { s.push t with keys := none :: s.keys, keyAllowed := true }

/-- Closes brackets. -/
def close? (s : Scan) (t : Token) : Option Scan := do
  let s ← s.dropKey?
  let keys := if s.inFlow then s.keys.drop 1 else s.keys
  return { s.push t with keys, keyAllowed := false }

/-- A comma between brackets. -/
def comma? (s : Scan) : Option Scan := do
  let s ← s.dropKey?
  return { s.push .comma with keyAllowed := true }

/-- A line that opens or closes a document, or a directive. -/
def boundary? (s : Scan) (t : Token) : Option Scan := do
  let s ← (s.dedentTo (-1)).dropKey?
  return { s.push t with keyAllowed := false }

/-- The dash of an item in a block. -/
def entry? (s : Scan) (here : Glyph) : Option Scan :=
  if !s.inFlow && !s.keyAllowed then none
  else do
    let s ← (s.indentTo here.column s.tokens.size .sequenceStart).dropKey?
    return { s.push .entry with keyAllowed := true }

/-- The question mark before a key. -/
def key? (s : Scan) (here : Glyph) : Option Scan :=
  if !s.inFlow && !s.keyAllowed then none
  else do
    let s ← (s.indentTo here.column s.tokens.size .mappingStart).dropKey?
    return { s.push .key with keyAllowed := !s.inFlow }

/-- The colon before a value. What the innermost level kept as a possible key is one now. -/
def value? (s : Scan) (here : Glyph) : Option Scan :=
  match s.keys with
  | some k :: keys =>
    let s := { s with
      tokens := s.tokens.insertIdxIfInBounds k.number .key
      keys := none :: keys }
    let s := s.indentTo k.column k.number .mappingStart
    some { s.push .value with keyAllowed := false }
  | _ =>
    if !s.inFlow && !s.keyAllowed then none
    else
      let s := s.indentTo here.column s.tokens.size .mappingStart
      some { s.push .value with keyAllowed := !s.inFlow }

end Scan

/-! ### Names, tags and directives -/

/-- Goes past blanks, comments and line breaks. The state is whether a comment is open and
whether a simple key may start, which a line break outside brackets allows. -/
def skipToToken (flow : Bool) : Bool → Bool → List Glyph → Bool × List Glyph
  | _, allowed, [] => (allowed, [])
  | comment, allowed, g :: rest =>
    if isBreak g.char then skipToToken flow false (allowed || !flow) rest
    else if comment then skipToToken flow true allowed rest
    else if g.char = '#' then skipToToken flow true allowed rest
    else if g.char = ' ' || (g.char = '\t' && (flow || !allowed)) ||
        (g.index == 0 && g.char = '\ufeff') then
      skipToToken flow false allowed rest
    else (allowed, g :: rest)

/-- Reads the name of an anchor or an alias. -/
def readName? (gs : List Glyph) : Option (String × List Glyph) :=
  let (name, rest) := span isNameChar gs
  let ends := endsWord rest ||
    (front? rest).any fun c => ['?', ':', ',', ']', '}', '%', '@', '`'].contains c
  if name ≠ [] && ends then some (String.ofList name, rest) else none

/-- The characters of addresses besides those of names. -/
def isAddressMark (c : Char) : Bool :=
  [';', '/', '?', ':', '@', '&', '=', '+', '$', '.', '!', '~', '*', '\'', '(', ')'].contains c

/-- How many bytes the character has whose first byte is given. -/
def byteCount (b : Nat) : Nat :=
  if b < 0x80 then 1
  else if b / 0x20 = 6 then 2
  else if b / 0x10 = 0xE then 3
  else if b / 8 = 0x1E then 4
  else 0

/-- Reads bytes that are each written as a percent sign and two digits of base 16. -/
def readBytes? : Nat → List Glyph → Option (List UInt8 × List Glyph)
  | 0, gs => some ([], gs)
  | n + 1, p :: a :: b :: rest =>
    if p.char = '%' && Text.isHex a.char && Text.isHex b.char then
      (readBytes? n rest).map fun (bytes, rest) =>
        (UInt8.ofNat (Text.ofHex [a.char, b.char]) :: bytes, rest)
    else none
  | _ + 1, _ => none

/-- Reads a character whose bytes are written with percent signs. -/
def readPercent? (gs : List Glyph) : Option (Char × List Glyph) := do
  let (first, _) ← readBytes? 1 gs
  let count := byteCount ((first.map (·.toNat)).headD 0)
  let (bytes, rest) ← readBytes? count gs
  let text ← String.fromUTF8? ⟨bytes.toArray⟩
  let c ← text.toList.head?
  return (c, rest)

/-- Reads an address. The fuel bounds the number of characters. -/
def address? (verbatim : Bool) : Nat → List Glyph → Option (List Char × List Glyph)
  | 0, _ => none
  | _ + 1, [] => some ([], [])
  | fuel + 1, g :: rest =>
    if g.char = '%' then
      match readPercent? (g :: rest) with
      | some (c, rest) => (address? verbatim fuel rest).map fun (cs, end_) => (c :: cs, end_)
      | none => none
    else if isNameChar g.char || isAddressMark g.char ||
        (verbatim && (g.char = ',' || g.char = '[' || g.char = ']')) then
      (address? verbatim fuel rest).map fun (cs, end_) => (g.char :: cs, end_)
    else some ([], g :: rest)

/-- Reads an address that is not empty. -/
def someAddress? (verbatim : Bool) (gs : List Glyph) : Option (List Char × List Glyph) :=
  match address? verbatim (gs.length + 1) gs with
  | some ([], _) => none
  | r => r

/-- Reads an exclamation mark, name characters and, if it is there, a second mark. -/
def readHandle (gs : List Glyph) : List Char × List Glyph :=
  let (name, rest) := span isNameChar (gs.drop 1)
  if front? rest = some '!' then ('!' :: name ++ ['!'], rest.drop 1) else ('!' :: name, rest)

/-- Reads a tag, which starts with an exclamation mark. -/
def readTag? (flow : Bool) (gs : List Glyph) : Option (Token × List Glyph) := do
  let (handle, suffix, rest) ←
    if front? (gs.drop 1) = some '<' then do
      let (address, rest) ← someAddress? true (gs.drop 2)
      if front? rest = some '>' then some ([], address, rest.drop 1) else none
    else
      let (handle, rest) := readHandle gs
      if 1 < handle.length && handle.getLast? = some '!' then do
        let (address, rest) ← someAddress? false rest
        some (handle, address, rest)
      else do
        let (address, rest) ← address? false (rest.length + 1) rest
        let suffix := handle.drop 1 ++ address
        if suffix = [] then some ([], ['!'], rest) else some (['!'], suffix, rest)
  if endsWord rest || (flow && front? rest = some ',') then
    some (.tag (String.ofList handle) (String.ofList suffix), rest)
  else none

/-- Reads a number of at most nine digits. -/
def readNumber? (gs : List Glyph) : Option (Nat × List Glyph) :=
  let (ds, rest) := span Char.isDigit gs
  if ds ≠ [] && ds.length ≤ 9 then
    some (ds.foldl (fun n c => 10 * n + (c.toNat - '0'.toNat)) 0, rest)
  else none

/-- Reads a directive, which starts with a percent sign, up to the end of its line. -/
def readDirective? (gs : List Glyph) : Option (Token × List Glyph) := do
  let (name, rest) := span isNameChar (gs.drop 1)
  let (t, rest) ←
    if !endsWord rest then none
    else if name = "YAML".toList then do
      let (major, rest) ← readNumber? (skipBlanks rest)
      if front? rest ≠ some '.' then none
      else do
        let (minor, rest) ← readNumber? (rest.drop 1)
        some (Token.version major minor, rest)
    else if name = "TAG".toList then do
      let rest := skipBlanks rest
      if front? rest ≠ some '!' then none
      let (handle, rest) := readHandle rest
      if handle.getLast? ≠ some '!' || !(front? rest).any isBlank then none
      else do
        let (address, rest) ← someAddress? true (skipBlanks rest)
        if endsWord rest then
          some (.tagPrefix (String.ofList handle) (String.ofList address), rest)
        else none
    else none
  let rest := skipComment (skipBlanks rest)
  if endsLine rest then some (t, rest.drop 1) else none

/-! ### Reading tokens -/

/-- The characters that may not start a plain scalar. -/
def isIndicator (c : Char) : Bool :=
  ['-', '?', ':', ',', '[', ']', '{', '}', '#', '&', '*', '!', '|', '>', '\'', '"', '%', '@',
    '`'].contains c

/-- Whether a plain scalar starts with a character that is followed by `rest`. -/
def startsPlain (flow : Bool) (c : Char) (rest : List Glyph) : Bool :=
  !isIndicator c || (c = '-' && !(front? rest).any isBlank) ||
    (!flow && (c = '?' || c = ':') && !endsWord rest)

/-- Reads the token that starts with a glyph. -/
def Scan.step? (s : Scan) (g : Glyph) (rest : List Glyph) : Option (Scan × List Glyph) :=
  let gs := g :: rest
  let ends := endsWord rest
  let single (s : Option Scan) := s.map fun s => (s, rest)
  if g.column == 0 && g.char = '%' then do
    let (t, rest) ← readDirective? gs
    let s ← s.boundary? t
    some (s, rest)
  else if isMarker '-' gs then (s.boundary? .documentStart).map fun s => (s, gs.drop 3)
  else if isMarker '.' gs then (s.boundary? .documentEnd).map fun s => (s, gs.drop 3)
  else
    match g.char with
    | '[' => single (s.open? g .openBracket)
    | '{' => single (s.open? g .openBrace)
    | ']' => single (s.close? .closeBracket)
    | '}' => single (s.close? .closeBrace)
    | ',' => single s.comma?
    | c =>
      if c = '-' && ends then single (s.entry? g)
      else if c = '?' && (s.inFlow || ends) then single (s.key? g)
      else if c = ':' && (s.inFlow || ends) then single (s.value? g)
      else if c = '*' || c = '&' then do
        let (name, rest) ← readName? rest
        let s ← s.node? g (if c = '*' then .alias name else .anchor name)
        some (s, rest)
      else if c = '!' then do
        let (t, rest) ← readTag? s.inFlow gs
        let s ← s.node? g t
        some (s, rest)
      else if (c = '|' || c = '>') && !s.inFlow then do
        let s ← s.dropKey?
        let (text, rest) ← block (c = '|') s.indent rest
        some ({ s.push (.scalar false (String.ofList text)) with keyAllowed := true }, rest)
      else if c = '\'' || c = '"' then do
        let (text, rest) ← quoted c (rest.length + 1) rest
        let s ← s.node? g (.scalar false (String.ofList text))
        some (s, rest)
      else if startsPlain s.inFlow c rest then do
        let (text, crossed, rest) ← plain s.inFlow (s.indent + 1) (gs.length + 1) gs
        let s ← s.node? g (.scalar true (String.ofList text))
        some ({ s with keyAllowed := crossed }, rest)
      else none

/-- Reads the tokens of a text. The fuel bounds their number. -/
def Scan.run? : Nat → Scan → List Glyph → Option (List Token)
  | 0, _, _ => none
  | fuel + 1, s, gs => do
    let (keyAllowed, gs) := skipToToken s.inFlow false s.keyAllowed gs
    let s := { s with keyAllowed }
    match gs with
    | [] =>
      let s ← (s.dedentTo (-1)).dropKey?
      return s.tokens.toList
    | g :: rest =>
      let s ← s.expireKeys? g
      let (s, rest) ← (s.dedentTo g.column).step? g rest
      s.run? fuel rest

/-- The tokens of a text; nothing if it has none. -/
def tokens? (text : List Char) : Option (List Token) := do
  let gs ← glyphs? text
  Scan.start.run? (gs.length + 1) gs

end TestData.Yaml
