/-!
Patterns as trees.

The tree is what was written: flags are still parts of their sequence, classes are still made of
items and operations, and repeats of repeats are not merged.
-/

namespace TestData.Pattern

/-- Switches that a pattern turns on or off; nothing where it leaves one as it is. -/
structure Flags where
  ignoreCase : Option Bool := none
  dotAll : Option Bool := none
  unicode : Option Bool := none
  verbose : Option Bool := none
  deriving DecidableEq, Inhabited

/-- The classes with a backslash and one letter. -/
inductive Perl
  | digit
  | blank
  | word
  deriving DecidableEq

/-- A property of Unicode, as it is named. -/
inductive PropertyName
  | single (name : String)
  | ofKind (kind name : String)
  deriving DecidableEq

/-- Operations on classes. -/
inductive ClassOp
  | intersection
  | difference
  | symmetricDifference
  deriving DecidableEq

/-- What a class holds. -/
inductive ClassSet
  | literal (c : Char)
  | range (a b : Char)
  | ascii (name : String) (negated : Bool)
  | perl (kind : Perl) (negated : Bool)
  | property (name : PropertyName) (negated : Bool)
  | nested (negated : Bool) (body : ClassSet)
  | union (items : List ClassSet)
  | operation (op : ClassOp) (left right : ClassSet)
  deriving Inhabited

/-- A pattern. -/
inductive Tree
  | empty
  | flags (f : Flags)
  /-- A character. One that was written by two hexadecimal digits can stand for a byte. -/
  | literal (c : Char) (asByte : Bool)
  | dot
  /-- An anchor or a word boundary. -/
  | assertion
  | charClass (s : ClassSet)
  /-- From `least` to `most` times, without bound where `most` is absent. -/
  | repetition (least : Nat) (most : Option Nat) (body : Tree)
  | group (f : Option Flags) (body : Tree)
  | sequence (parts : List Tree)
  | alternation (branches : List Tree)
  deriving Inhabited

end TestData.Pattern
