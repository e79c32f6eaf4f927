import TestData.Engine.Error

/-!
Resolution: which value a node stands for.

Properties and entities stand for what they hold and references for what they name. The first
name of a reference is looked up in the objects around it, then among the entities of the
document, then among those that it imports. Further names lead down into objects. Where a name
leads into the result of a function, the names from there on are left to be read from the value.
Resolution evaluates nothing. Every step from a node to what it stands for is counted, and a
chain of more steps than allowed counts as circular.
-/

namespace TestData.Engine

open Schema

/-- What a node stands for: a node that has a value of its own, or what names lead to in the
value of such a node. -/
inductive Resolution
  | value (node : NodeRef)
  | extract (base : NodeRef) (keys : List String)
  deriving DecidableEq

/-- What a reference names: a node, or what names lead to in the value of a node. -/
inductive Target
  | node (node : NodeRef)
  | extract (base : NodeRef) (keys : List String)

/-- Where names are looked up. -/
structure Scope where
  workspace : Workspace
  disk : Files.Disk
  /-- How many steps a chain of references may take. -/
  maxDepth : Nat

namespace Scope

variable (s : Scope)

/-- Where a node is. -/
def location (n : NodeRef) : Location := .of s.workspace n

/-- The first property of a name in an object. -/
def property? (n : NodeRef) (name : String) : Option NodeRef :=
  match s.workspace.kind n with
  | .object properties =>
    ((s.workspace.document n.document).findProperty? properties name).map n.at
  | _ => none

/-- What a name means at a node. -/
def lookup? (origin : NodeRef) (name : String) : Option NodeRef :=
  let d := s.workspace.document origin.document
  ((d.ancestors origin.node).findSome? fun id => s.property? (origin.at id) name).or
    ((s.workspace.entity? origin.document name).or
      (s.workspace.importedEntity? s.disk origin.document name))

/-- The error for a name that means nothing at a node. -/
def unresolved (origin : NodeRef) (seg : Segment) : EvalError :=
  .unresolved (s.location origin) seg.name seg.span

/-- Goes down along the segments of a reference, given how nodes are resolved. The number counts
the steps that have been taken. -/
def descend (resolve : NodeRef → Nat → Except EvalError (Resolution × Nat)) (origin : NodeRef) :
    NodeRef → List Segment → Nat → Except EvalError (Target × Nat)
  | target, [], steps => return (.node target, steps)
  | target, seg :: rest, steps => do
    match ← resolve target steps with
    | (.extract base keys, steps) =>
      return (.extract base (keys ++ (seg :: rest).map (·.name)), steps)
    | (.value v, steps) =>
      match s.workspace.kind v with
      | .object _ =>
        match s.property? v seg.name with
        | some next => descend resolve origin next rest steps
        | none => throw (s.unresolved origin seg)
      | .call _ => return (.extract v ((seg :: rest).map (·.name)), steps)
      | _ => throw (s.unresolved origin seg)

/-- What the segments of a reference name at a node. -/
def follow (resolve : NodeRef → Nat → Except EvalError (Resolution × Nat)) (origin : NodeRef)
    (segments : List Segment) (steps : Nat) : Except EvalError (Target × Nat) :=
  match segments with
  | [] => throw (s.unresolved origin { name := "" })
  | first :: rest =>
    match s.lookup? origin first.name with
    | some target => s.descend resolve origin target rest steps
    | none => throw (s.unresolved origin first)

/-- The error for a chain of references that is too long. -/
def tooLong (origin : NodeRef) : Except EvalError (Resolution × Nat) :=
  throw (.circular (s.location origin))

/-- Goes on from a node to what it stands for, until that has a value of its own. The fuel bounds
the nesting of steps, and `beyond` says what is deeper; `origin` is where the chain of references
began. -/
def dereference (beyond : NodeRef → Except EvalError (Resolution × Nat)) :
    Nat → NodeRef → NodeRef → Nat → Except EvalError (Resolution × Nat)
  | 0, origin, _, _ => beyond origin
  | fuel + 1, origin, current, steps => do
    let (next, steps) ← match s.workspace.kind current with
      | .property _ value => pure (.node (current.at value), steps)
      | .entity _ body => pure (.node (current.at body), steps)
      | .reference segments => s.follow (dereference beyond fuel current) current segments steps
      | _ => return (.value current, steps)
    match next with
    | .extract base keys => return (.extract base keys, steps)
    | .node next =>
      if s.maxDepth < steps + 1 then s.tooLong origin
      else dereference beyond fuel origin next (steps + 1)

/-- Fuel for every chain that is not too long: at most every other nesting takes no step. -/
def fuel : Nat := 2 * s.maxDepth + 3

/-- What a node stands for. -/
def resolve (n : NodeRef) : Except EvalError Resolution :=
  (s.dereference s.tooLong s.fuel n n 0).map (·.1)

/-- What a dotted path stands for at a node. -/
def resolvePath (origin : NodeRef) (path : List String) : Except EvalError Resolution := do
  let segments := path.map fun name => { name : Segment }
  match ← s.follow (s.dereference s.tooLong s.fuel origin) origin segments 0 with
  | (.extract base keys, _) => return .extract base keys
  | (.node target, steps) => return (← s.dereference s.tooLong s.fuel origin target steps).1

end Scope

end TestData.Engine
