import TestData.Engine.Creation

/-!
Evaluation: the value of a node.

A node is evaluated at most once in a row. A node that is needed again while it is evaluated
depends on itself, which is an error. A value may be absent: an absent property is left out of
its object, and an absent item is null in its list.
-/

namespace TestData.Engine

open Schema

/-- The value of a literal. -/
def literalValue : Literal → Value
  | .string s | .file s | .pattern s => .string s
  | .number n => n.toValue
  | .bool b => .bool b
  | .date d => .date d
  | .timestamp t => .timestamp t
  | .null => .null

/-- The values of the items of a list. -/
def itemValues (owner : NodeRef) : List NodeId → Script (List Value)
  | [] => return []
  | id :: rest => do
    let v ← .value (owner.at id)
    return v.getD .null :: (← itemValues owner rest)

/-- The fields of an object, put after those that are there. -/
def fieldValues (owner : NodeRef) (f : Fields Value) : List NodeId → Script (Fields Value)
  | [] => return f
  | id :: rest => do
    match ← .kind (owner.at id) with
    | .property name _ =>
      match ← .value (owner.at id) with
      | some v => fieldValues owner (f.insert name v) rest
      | none => fieldValues owner f rest
    | _ => fieldValues owner f rest

/-- Puts values under names. What is absent is left out. -/
def bindAll : List (String × NodeRef) → List (String × Json) → Script (List (String × Json))
  | [], data => return data
  | (name, n) :: rest, data => do
    match ← .value n with
    | some v => bindAll rest (Json.putSorted name v.toData data)
    | none => bindAll rest data

/-- Puts the values of what names mean at a location under the names. -/
def bindNames (l : Location) : List String → List (String × Json) → Script (List (String × Json))
  | [], data => return data
  | name :: rest, data => do
    let c ← .setting
    match c.scope.lookup? l.node name with
    | some n => bindNames l rest (← bindAll [(name, n)] data)
    | none => .fail (.unresolved l name (c.workspace.node l.node).span)

/-- What makes the value of a plan. -/
def Plan.script : Plan → Script (Option Value)
  | .value v => return v
  | .fault e => .fail e
  | .node n => .value n
  | .look source entries => do
    match ← .value source with
    | none => return none
    | some key =>
      match entries.find? fun (candidate, _) => candidate.matchesKey key with
      | some (_, n) => .value n
      | none => return none
  | .replay source selector targets => do
    let _ ← .value source
    .selected selector fun index =>
      match index.bind fun i => targets[i]? with
      | some n => .value n
      | none => return none
  | .render l t params names => do
    let data ← bindNames l names (← bindAll params [])
    match t.render? (.object data) with
    | some s => return some (.string s)
    | none => .fail (.templateRender l)
  | .transform previous t => do
    match ← .value previous with
    | none => return none
    | some .null => return some .null
    | some v => return some (.string (t.apply v.text))

/-- What makes the value of a node that is no call. -/
def plainValue (n : NodeRef) : Kind → Script (Option Value)
  | .literal l => return some (literalValue l)
  | .list items => return some (.array (← itemValues n items))
  | .object properties => return some (.object (← fieldValues n .empty properties))
  | k => do .fail (.badArgument (← .location n) (.noValue k.describe))

section

variable (value : NodeRef → Eval (Option Value))

/-- The generator of a node: the one that it has, or a new one. -/
def generatorOf (n : NodeRef) (c : Call) : Eval Generator := do
  let s ← get
  match s.generators.lookup n with
  | some g => return g
  | none =>
    if s.functions.contains c.kind then Generator.create value c.kind n c
    else Eval.fail (.badArgument (s.location n) (.noFunction c.kind))

/-- The next value of a call. A generator that has stepped is kept even if no value comes of it. -/
def callValue (n : NodeRef) (c : Call) : Eval (Option Value) := do
  let g ← generatorOf value n c
  match g.step (← get).source with
  | none => throw .stuck
  | some ((plan, g), source) =>
    modify fun s => { s with source }
    Eval.whileOut n g (plan.script.run value)

/-- The value of a node that has one of its own. -/
def ownValue (n : NodeRef) : Eval (Option Value) := do
  match ← Eval.kind n with
  | .call c => callValue value n c
  | k => (plainValue n k).run value

end

/-- What keys lead to in a value, or the first key that is not there. -/
def keysIn : Value → List String → Except String Value
  | v, [] => .ok v
  | .object f, key :: rest =>
    match f.get? key with
    | some v => keysIn v rest
    | none => .error key
  | _, key :: _ => .error key

/-- What keys lead to in a value that a node reads from. -/
def extract (n : NodeRef) (v : Value) (keys : List String) : Eval Value := do
  match keysIn v keys with
  | .ok v => return v
  | .error key =>
    let s ← get
    Eval.fail (.unresolved (s.location n) key (s.workspace.node n).span)

/-- The value of a node, given how a node is evaluated that it needs. -/
def valueVia (value : NodeRef → Eval (Option Value)) (n : NodeRef) : Eval (Option Value) := do
  match ← Eval.resolve n with
  | .extract base keys =>
    match ← value base with
    | some v => return some (← extract n v keys)
    | none => return none
  | .value target =>
    let s ← get
    match s.values.lookup target with
    | some v => return v
    | none =>
      if s.active.contains target then Eval.fail (.circular (s.location target))
      else
        let v ← Eval.whileActive target (ownValue value target)
        Eval.keepValue target v
        return v

/-- The value of a node. The fuel bounds how deep evaluations are nested, and `beyond` says what
is deeper. -/
def valueWithin (beyond : NodeRef → Eval (Option Value)) : Nat → NodeRef → Eval (Option Value)
  | 0 => beyond
  | fuel + 1 => valueVia (valueWithin beyond fuel)

/-- Fuel for every evaluation: no node is evaluated while it is evaluated, and at most every
other nesting evaluates none. -/
def Session.fuel (s : Session) : Nat := 2 * s.workspace.size + 3

namespace Eval

/-- Fails because a node depends on itself. -/
def circular (n : NodeRef) : Eval (Option Value) := do
  fail (.circular (← location n))

/-- The value of a node. -/
def value (n : NodeRef) : Eval (Option Value) := do
  valueWithin circular (← get).fuel n

/-- The value of the entity of a name in the root document. -/
def entity (name : String) : Eval Value := do
  let w := (← get).workspace
  if !w.hasRoot then throw .stuck
  match w.entity? Workspace.root name with
  | some n => return (← value n).getD (.object .empty)
  | none => fail (.noEntity name)

/-- The next record of an entity, in a row of its own. -/
def record (name : String) : Eval Value := do
  modify Session.reset
  entity name

/-- The next records of an entity. An error ends its own record only. -/
def records (name : String) : Nat → Eval (List (Except EvalError Value))
  | 0 => return []
  | n + 1 => do
    let r ← (record name).attempt
    return r :: (← records name n)

/-- A number of records of an entity that the root document must have. -/
def rows (name : String) (count : Nat) : Eval (List (Except EvalError Value)) := do
  let w := (← get).workspace
  if !w.hasRoot then throw .stuck
  match w.entity? Workspace.root name with
  | some _ => records name count
  | none => fail (.noEntity name)

end Eval

end TestData.Engine
