import TestData.Json.Basic

/-!
Templates: text with tags in double braces.

A tag shows a value, calls a helper, or opens a block that a helper renders. A path leads from
the innermost context, or from an outer one, to a value.
-/

namespace TestData.Template

/-- A step of a path. -/
inductive Step
  /-- The outermost context. -/
  | root
  /-- The context around. -/
  | up
  /-- What the block says about the turn. -/
  | turn
  | named (name : String)
  deriving DecidableEq

/-- A path as it is written and its steps. -/
structure Path where
  raw : String
  steps : List Step

mutual
/-- What a tag calls or shows. -/
inductive Name
  | word (s : String)
  | path (p : Path)
  | sub (e : Expression)
/-- An argument of a helper. -/
inductive Argument
  | path (p : Path)
  | literal (j : Json)
  | sub (e : Expression)
/-- What stands in a tag: a name, arguments and named arguments. -/
inductive Expression
  | mk (name : Name) (params : List Argument) (named : List (String × Argument))
end

/-- A part of a template. -/
inductive Part
  | text (s : String)
  | value (e : Expression)
  /-- A block with the names that it gives to its value and its key, and what is rendered in the
  other case. -/
  | block (e : Expression) (vars : List String) (body : List Part) (otherwise : Option (List Part))
  /-- What is defined under a name, or what stands between the tags in its place. Its lines after
  the first are indented. -/
  | include (e : Expression) (indent : String) (between : Option (List Part))
  /-- A call that may define a name as what stands between the tags. It shows nothing. -/
  | definition (e : Expression) (body : Option (List Part))

end TestData.Template
