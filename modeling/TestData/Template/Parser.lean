import TestData.Template.Tag
import TestData.Text.Blank

/-!
Parsing templates.

A tag that opens, closes or divides a block and stands alone on its line takes the white space of
the line and its line break with it. A tilde takes all white space on its side away. The state of
the parser says what is to be taken from the text that follows.
-/

namespace TestData

/-- A template. -/
structure Template where
  parts : List Template.Part

namespace Template

/-- What opened a level of nesting. -/
inductive Opener
  | root
  | helper
  | raw
  | include (e : Expression)
  | definition (e : Expression)

/-- A level of nesting: what opened it, the cases that are finished, the case that is open, and
the parts of that case, last part first. No case is open after the tag of the last other case. -/
structure Level where
  opener : Opener
  cases : List (Expression × List String × List Part) := []
  current : Option (Expression × List String) := none
  parts : List Part := []

/-- A blank inside a line. -/
def isLineBlank (c : Char) : Bool := c = ' ' || c = '\t'

/-- A character that ends a line. -/
def isLineEnd (c : Char) : Bool := c = '\n' || c = '\r'

/-- Whether only blanks stand before the end of the line. -/
def startsEmpty (rest : List Char) : Bool :=
  (rest.dropWhile isLineBlank).head?.any isLineEnd

/-- Whether only blanks stand after the start of the line; the text before is given reversed. -/
def endsEmpty (before : List Char) : Bool :=
  (before.dropWhile isLineBlank).head?.all isLineEnd

/-- A text without the blanks and the line break at its start. -/
def withoutLine (cs : List Char) : List Char :=
  match cs.dropWhile isLineBlank with
  | '\r' :: '\n' :: rest => rest
  | '\n' :: rest => rest
  | rest => rest

namespace Level

/-- Adds a part. -/
def push (l : Level) (p : Part) : Level := { l with parts := p :: l.parts }

/-- Changes the last part if it is text. -/
def trimLast (l : Level) (f : List Char → List Char) : Level :=
  match l.parts with
  | .text s :: rest => { l with parts := .text (String.ofList (f s.toList)) :: rest }
  | _ => l

/-- Ends the case that is open. -/
def endCase (l : Level) : Option Level :=
  l.current.map fun (e, vars) =>
    { l with cases := l.cases ++ [(e, vars, l.parts.reverse)], current := none, parts := [] }

/-- Nests cases: each is what is rendered otherwise in the one before. -/
def nest (last : Option (List Part)) : List (Expression × List String × List Part) →
    Option (List Part)
  | [] => last
  | (e, vars, body) :: rest => some [.block e vars body (nest last rest)]

/-- The parts that a finished level is. -/
def finish (l : Level) : List Part :=
  match l.endCase with
  | some l => (nest none l.cases).getD []
  | none => (nest (some l.parts.reverse) l.cases).getD []

/-- The expression that opened the level. -/
def expression? (l : Level) : Option Expression :=
  match l.opener with
  | .root => none
  | .include e | .definition e => some e
  | .helper | .raw => (l.cases.head?.map (·.1)).or (l.current.map (·.1))

/-- The name that closes the level. -/
def name? (l : Level) : Option String :=
  match l.expression? with
  | some (.mk (.word s) _ _) => some s
  | _ => none

/-- The part that a finished level is. -/
def close (l : Level) : List Part :=
  match l.opener with
  | .include e => [.include e "" (some l.parts.reverse)]
  | .definition e => [.definition e (some l.parts.reverse)]
  | _ => l.finish

end Level

/-- What is known after the front of a template. -/
structure State where
  /-- The level that is open and those around it. -/
  level : Level
  outer : List Level
  /-- Whether white space at the front of the text that follows is taken away. -/
  clear : Bool
  /-- Whether the rest of the line that follows is taken away. -/
  trim : Bool

namespace State

/-- Adds text, which is given as written and without its escapes. White space alone is no text
after a tag that takes it away. -/
def addText (s : State) (written text : List Char) : State :=
  let blank := written.all Reader.isGap
  if written = [] || (blank && s.clear) then s
  else
    let text :=
      if s.clear then Text.trimLeft text else if s.trim then withoutLine text else text
    { s with level := s.level.push (.text (String.ofList text)), trim := false }

/-- Takes white space away before a tag and after it, as the tag says. -/
def tildes (s : State) (before after : Bool) : State :=
  { s with
    level := if before then s.level.trimLast Text.trimRight else s.level
    clear := after }

/-- Takes the line away in which a tag stands alone. The text before the tag is given reversed. -/
def alone (s : State) (before rest : List Char) : State :=
  if startsEmpty rest then
    if endsEmpty before then
      { s with
        level := s.level.trimLast fun cs => (cs.reverse.dropWhile isLineBlank).reverse
        trim := true }
    else { s with trim := false }
  else { s with trim := false }

/-- Includes what is defined under a name. Where the tag stands alone on its line, the line break
is taken away and the blanks before the tag are the indentation of all lines. -/
def includes (s : State) (e : Expression) (tilde : Bool) (before rest : List Char) : State :=
  let blanks := (before.takeWhile isLineBlank).reverse
  { s with
    trim := (rest = [] || startsEmpty rest) && endsEmpty before
    level := s.level.push (.include e (if tilde then "" else String.ofList blanks) none) }

/-- Opens a level. -/
def opens (s : State) (l : Level) : State := { s with level := l, outer := s.level :: s.outer }

/-- Closes the level of a name. -/
def closes? (s : State) (name : String) : Option State :=
  match s.outer with
  | l :: outer =>
    if s.level.name? = some name then
      some { s with level := { l with parts := s.level.close.reverse ++ l.parts }, outer }
    else none
  | [] => none

/-- Goes on with another case. -/
def another? (s : State) (current : Option (Expression × List String)) : Option State :=
  match s.level.opener with
  | .helper => s.level.endCase.map fun l => { s with level := { l with current } }
  | _ => none

/-- Follows a tag. -/
def follow? (s : State) (m : Mark) (before rest : List Char) : Option State :=
  let s :=
    match m.tag with
    | .comment => s
    | _ => s.tildes m.before m.after
  match m.tag with
  | .value e => some { s with level := s.level.push (.value e) }
  | .include e => some (s.includes e m.before before rest)
  | t =>
    let s := s.alone before rest
    match t with
    | .value _ | .include _ | .comment => some s
    | .opens e vars => some (s.opens { opener := .helper, current := some (e, vars) })
    | .opensInclude e => some (s.opens { opener := .include e })
    | .opensDefinition e => some (s.opens { opener := .definition e })
    | .otherwise => s.another? none
    | .otherwiseOpens e vars => s.another? (some (e, vars))
    | .closes name => s.closes? name
    | .define e => some { s with level := s.level.push (.definition e none) }

/-- Follows a block whose text is taken as it stands, after its opening braces. -/
def followRaw? (s : State) (source : List Char) (before : List Char) :
    Option (State × List Char) := do
  let fuel := source.length + 1
  let ((e, vars, first, last), rest) ← (rawOpening fuel).run source
  let s := ((s.tildes first last).alone before rest).opens
    { opener := .raw, current := some (e, vars) }
  let inner := rest.dropWhile Reader.isGap
  let (text, rest) := plainText ['{', '{', '{', '{'] false inner
  let text :=
    if s.clear then Text.trimLeft text else if s.trim then withoutLine text else text
  let s := { s with level := s.level.push (.text (String.ofList text)) }
  let back := (source.take (source.length - rest.length)).reverse ++ before
  let ((name, first, last), rest) ← rawClosing.run rest
  let s ← ((s.tildes first last).alone back rest).closes? name
  return (s, rest)

end State

/-- Parses what is left of a template. The fuel bounds the number of tags. -/
def parseFrom : Nat → State → List Char → List Char → Option (List Part)
  | 0, _, _, _ => none
  | fuel + 1, s, before, source =>
    let (text, rest) := plainText ['{', '{'] false source
    let written := source.take (source.length - rest.length)
    let s := s.addText written text
    let before := written.reverse ++ before
    if rest = [] then
      match s.outer with
      | [] => some s.level.parts.reverse
      | _ => none
    else
      let next :=
        match s.followRaw? rest before with
        | some r => some r
        | none => do
          let (m, after) ← (mark (rest.length + 1)).run rest
          return (← s.follow? m before after, after)
      match next with
      | some (s, after) =>
        parseFrom fuel s ((rest.take (rest.length - after.length)).reverse ++ before) after
      | none => none

/-- Parses a template. -/
def parse? (source : String) : Option Template :=
  let cs := source.toList
  let s : State := { level := { opener := .root }, outer := [], clear := false, trim := false }
  (parseFrom (cs.length + 1) s [] cs).map (⟨·⟩)

end Template

end TestData
