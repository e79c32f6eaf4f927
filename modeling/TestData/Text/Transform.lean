import TestData.Text.Case
import TestData.Text.Mark

/-!
The transforms of text that a pipe may name.
-/

namespace TestData.Text

/-- A transform of text. -/
inductive Transform
  | ascii
  | upper
  | lower
  | capitalize
  deriving DecidableEq

namespace Transform

/-- The transform with a given name. -/
def ofName? : String → Option Transform
  | "ascii" => some .ascii
  | "upper" | "uppercase" => some .upper
  | "lower" | "lowercase" => some .lower
  | "capitalize" => some .capitalize
  | _ => none

/-- The words for a name that is no transform. -/
def unknown (name : String) : String := "unknown transformer '" ++ name ++ "'"

/-- Reads the name of a transform with white space around it; the error is the name. -/
def read (s : String) : Except String Transform :=
  let name := trimmed s
  match ofName? name with
  | some k => .ok k
  | none => .error name

/-- The name of a transform. -/
def name : Transform → String
  | .ascii => "Ascii"
  | .upper => "Upper"
  | .lower => "Lower"
  | .capitalize => "Capitalize"

/-- Applies a transform. -/
def apply (k : Transform) (s : String) : String :=
  String.ofList <|
    match k with
    | .ascii => withoutMarks s.toList
    | .upper => Text.upper s.toList
    | .lower => Text.lower s.toList
    | .capitalize => Text.capitalize s.toList

end Transform

end TestData.Text
