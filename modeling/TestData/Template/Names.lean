import TestData.Text.Blank

/-!
The names that a template asks its surroundings for.

The names are found without parsing the template: they are the roots of the dotted identifiers
that stand between double braces. What the body of an `each` or `with` block names belongs to the
block's own context and is not asked for.
-/

namespace TestData.Template

/-- The helpers that transform text. -/
def helpers : List String := ["upper", "lower", "ascii", "capitalize"]

/-- The words that are no names. -/
def keywords : List String := ["this", "else", "true", "false"]

/-- A letter of ASCII or an underscore. -/
def startsName (c : Char) : Bool := c.isAlpha || c = '_'

/-- A letter or digit of ASCII or an underscore. -/
def isNameChar (c : Char) : Bool := c.isAlphanum || c = '_'

/-- Whether a word is names joined by dots. Only the first may not start with a digit. -/
def isDotted (word : List Char) : Bool :=
  word.head?.any startsName && (word.splitOn '.').all fun s => s ≠ [] && s.all isNameChar

/-- The texts between double braces, in order. The state is the text read so far, reversed, of an
expression that is open; one that is never closed is none. -/
def expressions : Option (List Char) → List Char → List (List Char)
  | none, '{' :: '{' :: rest => expressions (some []) rest
  | some body, '}' :: '}' :: rest => body.reverse :: expressions none rest
  | none, _ :: rest => expressions none rest
  | some body, c :: rest => expressions (some (c :: body)) rest
  | _, [] => []

/-- The characters beside double braces that are no part of an expression. -/
def isMargin (c : Char) : Bool := c = '{' || c = '}' || c = '~'

/-- An expression without braces, tildes and blanks around it. -/
def core (body : List Char) : List Char :=
  Text.trim ((body.dropWhile isMargin).reverse.dropWhile isMargin).reverse

/-- What has been found in the part of a template that has been read. -/
structure Scan where
  /-- The names, in order of first use. -/
  found : List String
  /-- For each open block, the innermost first, whether it has a context of its own. -/
  blocks : List Bool

namespace Scan

/-- The name that a word asks for. -/
def root? (word : List Char) : Option String :=
  let root := String.ofList (word.takeWhile (· ≠ '.'))
  if isDotted word && !helpers.contains root && !keywords.contains root then some root else none

/-- Adds a name that is not there yet. -/
def add (found : List String) (name : String) : List String :=
  if found.contains name then found else found ++ [name]

/-- Adds the names of words, unless the words stand in a context of their own. -/
def use (s : Scan) (inner : Bool) (words : List (List Char)) : Scan :=
  if inner then s else { s with found := (words.filterMap root?).foldl add s.found }

/-- Reads an expression. The arguments of a block belong to what is around the block. -/
def step (s : Scan) (body : List Char) : Scan :=
  let inner := s.blocks.any id
  match core body with
  | '/' :: _ => { s with blocks := s.blocks.drop 1 }
  | '!' :: _ | '>' :: _ => s
  | cs =>
    match Text.words cs with
    | ('#' :: helper) :: args =>
      let own := helper = "each".toList || helper = "with".toList
      { s with blocks := own :: s.blocks }.use inner args
    | words => s.use inner words

end Scan

/-- The names that a template asks for, in order of first use. -/
def names (template : String) : List String :=
  ((expressions none template.toList).foldl Scan.step ⟨[], []⟩).found

end TestData.Template
