import TestData.Yaml.Tree

/-!
Reading settings from a markup document: mappings with known names and scalars of known kinds.

The text of a scalar is read as the kind that is expected, so a string may look like a number.
Names that are not known are ignored.
-/

namespace TestData.Yaml

/-- The pairs of a mapping whose keys are texts. -/
abbrev Record := List (String × Node)

/-- The value under a name, if there is one; nothing at all if the name is there twice. -/
def Record.field? (r : Record) (name : String) : Option (Option Node) :=
  match r.filter (·.1 = name) with
  | [] => some none
  | [(_, n)] => some (some n)
  | _ => none

/-- Reads the value under a name; the default if the name is not there. -/
def Record.fieldOr? {α : Type} (r : Record) (name : String) (default : α)
    (read? : Node → Option α) : Option α := do
  match ← r.field? name with
  | some n => read? n
  | none => some default

namespace Document

/-- The node that a node stands for. -/
def follow? (d : Document) : Node → Option Node
  | .alias m => d.marks.lookup m
  | n => some n

/-- The text of a scalar. -/
def string? (d : Document) (n : Node) : Option String := do
  match ← d.follow? n with
  | .scalar _ _ s => some s
  | _ => none

/-- The text of a plain scalar. -/
def plain? (d : Document) (n : Node) : Option String := do
  match ← d.follow? n with
  | .scalar _ true s => some s
  | _ => none

/-- A mapping as a record. Where nothing is written the record is empty. -/
def record? (d : Document) (n : Node) : Option Record := do
  match ← d.follow? n with
  | .mapping _ pairs => pairs.mapM fun (k, v) => return (← d.string? k, v)
  | .scalar _ true "" => some []
  | _ => none

/-- The document as a record. -/
def rootRecord? (d : Document) : Option Record :=
  match d.root with
  | none => some []
  | some n => d.record? n

/-- A natural number below a bound. -/
def natural? (d : Document) (bound : Nat) (n : Node) : Option Nat := do
  readNatural? bound (← d.plain? n).toList

/-- A truth value. -/
def bool? (d : Document) (n : Node) : Option Bool := do
  readBool? (← d.plain? n)

/-- Reads a value unless null is written. -/
def optional? {α : Type} (d : Document) (read? : Node → Option α) (n : Node) :
    Option (Option α) := do
  match ← d.follow? n with
  | .scalar tag true s =>
    if tag = some "tag:yaml.org,2002:null" then if isNull s then some none else none
    else if tag.isNone && (s = "" || isNull s) then some none
    else (read? n).map some
  | _ => (read? n).map some

end Document

end TestData.Yaml
