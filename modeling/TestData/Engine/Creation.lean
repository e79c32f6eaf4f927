import TestData.Engine.Script

/-!
Creation: the generator of a call.

Bounds, the keys of a dictionary and the file of a table are read once, when the generator is
created; all else is evaluated when the generator steps.
-/

namespace TestData.Engine

open Schema

/-- A bound of a range or a distribution. -/
inductive Operand
  | number (n : Number)
  | date (d : Calendar.Date)
  | time (t : Calendar.Timestamp)

/-- The bound that a value is. -/
def Operand.ofValue : Option Value → Except RangeFault Operand
  | some (.int i) => .ok (.number ⟨Float.ofInt i, toString i⟩)
  | some (.float x) => .ok (.number ⟨x, Decimal.Layout.literal.text x⟩)
  | some (.date d) => .ok (.date d)
  | some (.timestamp t) => .ok (.time t)
  | some (.string s) =>
    match Number.read s with
    | .ok n => .ok (.number n)
    | .error _ => .error (.notNumber s)
  | some v => .error (.notBound v.text)
  | none => .error (.notBound "nothing")

/-- The range between two bounds. It draws real numbers if either bound was written with a point,
with as many places as the bound that has more. -/
def RangeSpec.between : Operand → Operand → Except RangeFault RangeSpec
  | .number a, .number b =>
    if b.value < a.value then .error (.reversed a.raw b.raw)
    else if a.hasPoint || b.hasPoint then
      .ok (.real a.value b.value (max a.places b.places))
    else .ok (.whole (Decimal.toInteger a.value) (Decimal.toInteger b.value))
  | .date a, .date b =>
    if b.ordinal < a.ordinal then .error (.backwards a.text b.text)
    else .ok (.date a (b.ordinal - a.ordinal))
  | .time a, .time b =>
    if a.after b then .error (.backwards a.longText b.longText)
    else .ok (.time a (a.secondsUntil b))
  | _, _ => .error .mixed

/-- The distribution of four numbers at a location. -/
def Bell.of (l : Location) (min max mean deviation : Number) : Except EvalError Bell :=
  let all := [min, max, mean, deviation]
  let text := Decimal.Layout.running.text
  if max.value < min.value then
    .error (.badRange l (.reversed (text min.value) (text max.value)))
  else if mean.value < min.value || max.value < mean.value then
    .error (.meanOutside l mean.value min.value max.value)
  else if !deviation.value.isFinite || deviation.value < 0 then
    .error (.badArgument l (.deviation deviation.value))
  else
    let places :=
      if all.any Number.hasPoint then some ((all.map Number.places).foldl Nat.max 0) else none
    .ok { min := min.value, max := max.value, mean := mean.value, deviation := deviation.value
          places }

/-- The sums of the front parts of a list of weights. -/
def runningSums (total : Float) : List Float → List Float
  | [] => []
  | w :: rest => (total + w) :: runningSums (total + w) rest

/-- The buckets of weights for a number of choices. -/
def bucketsOf (choices : Nat) (weights : List Float) : Except WeightFault (List Float) :=
  if choices ≠ weights.length then .error (.count choices weights.length)
  else
    match weights.find? fun w => !w.isFinite || w < 0 with
    | some w => .error (.negative w)
    | none =>
      let sums := runningSums 0 weights
      if sums.getLastD 0 ≤ 0 then .error .noTotal else .ok sums

/-- The bound that a node is. A number that is written in full keeps its text. -/
def operandOf (owner n : NodeRef) : Script Operand := do
  let read : Script Operand := do
    match Operand.ofValue (← .value n) with
    | .ok a => return a
    | .error why => .fail (.badRange (← .location owner) why)
  match ← .resolve n with
  | .value target =>
    match ← .kind target with
    | .literal (.number m) => return .number m
    | _ => read
  | .extract _ _ => read

/-- The number that a node is. -/
def numberOf (owner n : NodeRef) : Script Number := do
  match ← operandOf owner n with
  | .number m => return m
  | _ => .fail (.badRange (← .location owner) .notNumeric)

/-- The keys of a dictionary with the nodes that they lead to. -/
def keysOf (owner : NodeRef) : List (NodeId × NodeId) → Script (List (Value × NodeRef))
  | [] => return []
  | (k, v) :: rest => do
    let key ← .value (owner.at k)
    return (key.getD .null, owner.at v) :: (← keysOf owner rest)

/-- The choice behind the source of a map, and how many values it has. -/
def selectorOf (owner source : NodeRef) : Script (NodeRef × Nat) := do
  let l ← .location owner
  match ← .resolve source with
  | .value target =>
    match ← .kind target with
    | .call (.choice values) => return (target, values.length)
    | _ => .fail (.mapSource l)
  | .extract _ _ => .fail (.mapSource l)

/-- The generator of a call. -/
def Generator.ofCall (n : NodeRef) (c : Call) : Script Generator := do
  let l ← .location n
  match c with
  | .range a b =>
    let a ← operandOf n (n.at a)
    let b ← operandOf n (n.at b)
    match RangeSpec.between a b with
    | .ok spec => return .range spec
    | .error why => .fail (.badRange l why)
  | .normal a b m d =>
    let a ← numberOf n (n.at a)
    let b ← numberOf n (n.at b)
    let m ← numberOf n (n.at m)
    let d ← numberOf n (n.at d)
    return .normal (← .lift (Bell.of l a b m d))
  | .choice values =>
    if values.isEmpty then .fail (.emptyList l) else return .choice (values.map n.at) none
  | .weighted values weights =>
    if values.isEmpty then .fail (.emptyList l)
    else
      match bucketsOf values.length weights with
      | .ok buckets => return .weighted (values.map n.at) buckets
      | .error why => .fail (.badWeights l why)
  | .table source => .table n source fun t => return .table t
  | .dict source pairs => return .dict (n.at source) (← keysOf n pairs)
  | .map source targets =>
    let (selector, _) ← selectorOf n (n.at source)
    return .map (n.at source) selector (targets.map n.at)
  | .sequence first => return .sequence first
  | .uuid => return .uuid
  | .now offset => return .clock l (← .setting).now offset false
  | .today offset => return .clock l (← .setting).now offset true
  | .regex pattern =>
    match Pattern.compile? pattern (← .setting).options.maxRepeat with
    | some recipe => return .regex recipe
    | none => .fail (.badPattern l)
  | .template text params =>
    match Template.parse? text with
    | some t =>
      let names := (Template.names text).filter fun name => !params.any (·.1 = name)
      return .template l t (params.map fun (name, id) => (name, n.at id)) names
    | none => .fail (.templateSyntax l)
  | .pipe previous t => return .pipe (n.at previous) t

/-- The generator of a call that should be of a certain kind. -/
def Generator.ofCallAs (expected : CallKind) (n : NodeRef) (c : Call) : Script Generator := do
  if c.kind = expected then Generator.ofCall n c
  else .fail (.badArgument (← .location n) (.otherCall expected c.kind))

/-- Creates the generator of a call, given how a node is evaluated. -/
def Generator.create (value : NodeRef → Eval (Option Value)) (expected : CallKind) (n : NodeRef)
    (c : Call) : Eval Generator :=
  (Generator.ofCallAs expected n c).run value

end TestData.Engine
