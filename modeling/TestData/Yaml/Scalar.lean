import TestData.Text.CodeSet
import TestData.Yaml.Glyph

/-!
The texts of scalars: quoted, plain and in blocks.

A scalar may run over several lines. Where its lines are joined, a single line feed becomes a
blank and further line breaks are kept. Reading a scalar gives its text and what follows it.
-/

namespace TestData.Yaml

/-- A run of blanks and breaks: the blanks before the first break, and the breaks. -/
structure Gap where
  blanks : List Char
  breaks : List Char

/-- Reads blanks and breaks. -/
def Gap.read (gs : List Glyph) : Gap × List Glyph :=
  let run := (gs.takeWhile fun g => isSpace g.char).map (·.char)
  (⟨run.takeWhile isBlank, run.filter isBreak⟩, gs.dropWhile fun g => isSpace g.char)

/-- What stands for a gap between two parts of a scalar. -/
def Gap.folded (g : Gap) : List Char :=
  match g.breaks with
  | [] => g.blanks
  | ['\n'] => [' ']
  | '\n' :: more => more
  | breaks => breaks

/-- Whether a line after the first of a gap is indented with a tab before a column. -/
def Gap.tabbed (least : Int) (gs : List Glyph) : Bool :=
  (((gs.takeWhile fun g => isSpace g.char).dropWhile fun g => isBlank g.char).any fun g =>
    g.char = '\t' && (g.column : Int) < least)

/-! ### Quoted scalars -/

/-- The character that a letter stands for after a backslash. -/
def escaped? : Char → Option Char
  | '0' => some '\x00'
  | 'a' => some '\x07'
  | 'b' => some '\x08'
  | 't' | '\t' => some '\t'
  | 'n' => some '\n'
  | 'v' => some '\x0b'
  | 'f' => some '\x0c'
  | 'r' => some '\r'
  | 'e' => some '\x1b'
  | ' ' => some ' '
  | '"' => some '"'
  | '/' => some '/'
  | '\\' => some '\\'
  | 'N' => some '\u0085'
  | '_' => some '\u00a0'
  | 'L' => some '\u2028'
  | 'P' => some '\u2029'
  | _ => none

/-- How many digits of base 16 follow a letter after a backslash. -/
def escapeLength? : Char → Option Nat
  | 'x' => some 2
  | 'u' => some 4
  | 'U' => some 8
  | _ => none

/-- The character with a code. -/
def charOf? (n : Nat) : Option Char :=
  if h : n.isValidChar then some (Char.ofNatAux n h) else none

/-- Reads what follows a backslash, which is no line break. -/
def readEscape? : List Glyph → Option (Char × List Glyph)
  | [] => none
  | g :: rest =>
    match escapeLength? g.char with
    | none => (escaped? g.char).map fun c => (c, rest)
    | some n =>
      let ds := (rest.take n).map (·.char)
      if ds.length = n && ds.all Text.isHex then
        (charOf? (Text.ofHex ds)).map fun c => (c, rest.drop n)
      else none

/-- Reads a quoted scalar after its opening quote. The fuel bounds the number of steps. -/
def quoted (quote : Char) : Nat → List Glyph → Option (List Char × List Glyph)
  | 0, _ => none
  | _ + 1, [] => none
  | fuel + 1, g :: rest =>
    let more (text : List Char) (gs : List Glyph) :=
      (quoted quote fuel gs).map fun (cs, after) => (text ++ cs, after)
    if isDocumentMarker (g :: rest) then none
    else if isSpace g.char then
      let (gap, after) := Gap.read (g :: rest)
      more gap.folded after
    else if g.char = quote then
      if quote = '\'' && front? rest = some '\'' then more ['\''] (rest.drop 1) else some ([], rest)
    else if quote = '"' && g.char = '\\' then
      if (front? rest).any isBreak then
        let (gap, after) := Gap.read (rest.drop 1)
        more gap.breaks after
      else
        match readEscape? rest with
        | some (c, after) => more [c] after
        | none => none
    else more [g.char] rest

/-! ### Plain scalars -/

/-- The characters that end a plain scalar inside brackets. -/
def isFlowMark (c : Char) : Bool :=
  c = ',' || c = '[' || c = ']' || c = '{' || c = '}'

/-- Reads a part of a plain scalar without blanks. A colon before a mark is refused inside
brackets. -/
def plainPart (flow : Bool) : List Glyph → Option (List Char × List Glyph)
  | [] => some ([], [])
  | g :: rest =>
    if isSpace g.char then some ([], g :: rest)
    else if flow && g.char = ':' && (front? rest).any (fun c => isFlowMark c || c = '?') then none
    else if (g.char = ':' && endsWord rest) || (flow && isFlowMark g.char) then
      some ([], g :: rest)
    else (plainPart flow rest).map fun (cs, after) => (g.char :: cs, after)

/-- Reads a plain scalar with the gap after it. The truth value says whether that gap has a
line break. Outside brackets a line that starts before the column `least` ends the scalar. -/
def plain (flow : Bool) (least : Int) : Nat → List Glyph → Option (List Char × Bool × List Glyph)
  | 0, _ => none
  | fuel + 1, gs =>
    if isDocumentMarker gs || front? gs = some '#' then some ([], false, gs)
    else
      match plainPart flow gs with
      | none => none
      | some ([], rest) => some ([], false, rest)
      | some (part, rest) =>
        if !(front? rest).any isSpace then some (part, false, rest)
        else if Gap.tabbed least rest then none
        else
          let (gap, after) := Gap.read rest
          let crossed := gap.breaks ≠ []
          if !flow && after.head?.any (fun g => (g.column : Int) < least) then
            some (part, crossed, after)
          else
            match plain flow least fuel after with
            | none => none
            | some ([], _, rest) => some (part, crossed, rest)
            | some (more, crossed, rest) => some (part ++ gap.folded ++ more, crossed, rest)

/-! ### Block scalars -/

/-- What becomes of the line breaks at the end of a block. -/
inductive Chomp
  | strip
  | clip
  | keep
  deriving DecidableEq

/-- Reads the sign that says what becomes of the last breaks. -/
def readChomp (gs : List Glyph) : Option Chomp × List Glyph :=
  match front? gs with
  | some '+' => (some .keep, gs.drop 1)
  | some '-' => (some .strip, gs.drop 1)
  | _ => (none, gs)

/-- Reads the digit that says how far a block is indented. -/
def readIndent? (gs : List Glyph) : Option (Option Nat × List Glyph) :=
  match front? gs with
  | some c =>
    if c = '0' then none
    else if c.isDigit then some (some (c.toNat - '0'.toNat), gs.drop 1)
    else some (none, gs)
  | none => some (none, gs)

/-- Reads the sign and the digit of a block, in either order. -/
def readHeader? (gs : List Glyph) : Option (Chomp × Option Nat × List Glyph) := do
  let (first, gs) := readChomp gs
  let (digit, gs) ← readIndent? gs
  let (second, gs) := if first.isNone && digit.isSome then readChomp gs else (none, gs)
  return ((first.or second).getD .clip, digit, gs)

/-- Reads the line breaks and the indentation before a line of a block. The result has the
breaks and the largest column met. A tab may not stand in the indentation. -/
def indentation (limit : Option Nat) (deepest : Nat) :
    List Glyph → Option (List Char × Nat × List Glyph)
  | [] => some ([], deepest, [])
  | g :: rest =>
    let inside := limit.all (g.column < ·)
    if g.char = ' ' && inside then indentation limit deepest rest
    else if g.char = '\t' && inside then none
    else
      let deepest := max deepest g.column
      if isBreak g.char then
        (indentation limit deepest rest).map fun (breaks, more) => (g.char :: breaks, more)
      else some ([], deepest, g :: rest)

/-- The end of a block: its last break and the empty lines after it. -/
def tail (chomp : Chomp) (last trailing : List Char) : List Char :=
  match chomp with
  | .strip => []
  | .clip => last
  | .keep => last ++ trailing

/-- Reads the lines of a block that is indented to a column. The line before ended with the
break `last` and empty lines `trailing`, and `blank` says whether it started with a blank. -/
def blockLines (literal : Bool) (chomp : Chomp) (column : Nat) (last : List Char) (blank : Bool)
    (trailing : List Char) : Nat → List Glyph → Option (List Char × List Glyph)
  | 0, _ => none
  | _ + 1, [] => some (tail chomp last trailing, [])
  | fuel + 1, g :: rest =>
    if g.column ≠ column then some (tail chomp last trailing, g :: rest)
    else
      let starts := isBlank g.char
      let joint :=
        if !literal && last = ['\n'] && !blank && !starts then
          if trailing = [] then [' '] else []
        else last
      let (content, after) := span (fun c => !isBreak c) (g :: rest)
      let last := ((after.take 1).map (·.char))
      match indentation (some column) 0 (after.drop 1) with
      | none => none
      | some (breaks, _, next) =>
        (blockLines literal chomp column last starts breaks fuel next).map fun (cs, end_) =>
          (joint ++ trailing ++ content ++ cs, end_)

/-- Reads a block scalar after its indicator. The block is indented further than `outer`. -/
def block (literal : Bool) (outer : Int) (gs : List Glyph) : Option (List Char × List Glyph) := do
  let (chomp, digit, gs) ← readHeader? gs
  let gs := skipComment (skipBlanks gs)
  if !endsLine gs then none
  else
    let limit := digit.map fun n => (max outer 0).toNat + n
    let (breaks, deepest, gs) ← indentation limit 0 (gs.drop 1)
    let column := limit.getD (max (max deepest (outer + 1).toNat) 1)
    blockLines literal chomp column [] false breaks (gs.length + 1) gs

end TestData.Yaml
