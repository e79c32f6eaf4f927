import TestData.Calendar.Printer
import TestData.Engine.Error
import TestData.Pattern.Recipe
import TestData.Template.Render

/-!
Generators: the states of function nodes.

A generator lives as long as its session and steps once for every value. A step draws from the
random source and says what makes the value: the value itself, or what has to be evaluated for
it. Steps evaluate nothing.
-/

namespace TestData.Engine

open Schema

/-- What a range draws. -/
inductive RangeSpec
  | whole (min max : Int)
  | real (min max : Float) (places : Nat)
  | date (min : Calendar.Date) (days : Int)
  | time (min : Calendar.Timestamp) (seconds : Int)

/-- A normal distribution cut at both ends. Its numbers are whole without a number of places. -/
structure Bell where
  min : Float
  max : Float
  mean : Float
  deviation : Float
  places : Option Nat

/-- The state of a function node. -/
inductive Generator
  | range (spec : RangeSpec)
  | normal (bell : Bell)
  /-- The last index is kept for maps over the choice. -/
  | choice (values : List NodeRef) (selected : Option Nat)
  /-- The buckets are the sums of the weights up to each value. -/
  | weighted (values : List NodeRef) (buckets : List Float)
  | table (t : Table)
  | dict (source : NodeRef) (entries : List (Value × NodeRef))
  | map (source selector : NodeRef) (targets : List NodeRef)
  | sequence (next : Int)
  | uuid
  | clock (l : Location) (base : Calendar.Timestamp) (offset : Calendar.Offset) (dateOnly : Bool)
  | regex (recipe : Pattern.Recipe)
  | template (l : Location) (t : Template) (params : List (String × NodeRef)) (names : List String)
  | pipe (previous : NodeRef) (transform : Text.Transform)

/-- What makes the value of one step. -/
inductive Plan
  | value (v : Option Value)
  | fault (e : EvalError)
  /-- The value of another node. -/
  | node (n : NodeRef)
  /-- The node whose key matches the value of the source. -/
  | look (source : NodeRef) (entries : List (Value × NodeRef))
  /-- The target at the index that the selector has drawn for this row. -/
  | replay (source selector : NodeRef) (targets : List NodeRef)
  | render (l : Location) (t : Template) (params : List (String × NodeRef)) (names : List String)
  | transform (previous : NodeRef) (t : Text.Transform)

/-- How often a normal distribution draws before it settles for its minimum. -/
def attempts : Nat := 1000

/-- The ratio of a circle's circumference to its diameter. -/
def pi : Float := 3.14159265358979323846

namespace Bell

/-- A number with the places of the distribution. -/
def round (b : Bell) (x : Float) : Float :=
  match b.places with
  | some places => Decimal.roundTo x places
  | none => Decimal.roundHalfAway x

/-- The value that a number gives. -/
def output (b : Bell) (x : Float) : Value :=
  match b.places with
  | some _ => .float x
  | none => .int (Decimal.toInteger x)

/-- A number of the uncut distribution, from two uniform ones. -/
def candidate (b : Bell) (u v : Float) : Float :=
  let z := (-2 * (1 - u).log).sqrt * (2 * pi * v).cos
  b.round (b.mean + b.deviation * z)

/-- Draws until a number lies between the ends. -/
def draw (b : Bell) : Nat → Random.Source → Value × Random.Source
  | 0, src => (b.output b.min, src)
  | n + 1, src =>
    let (u, src) := src.unit
    let (v, src) := src.unit
    let x := b.candidate u v
    if b.min ≤ x && x ≤ b.max then (b.output x, src) else b.draw n src

end Bell

namespace RangeSpec

/-- A number moved between two others. The ends must be in order. -/
def clamp? (x min max : Float) : Option Float :=
  if min ≤ max then some (if x < min then min else if max < x then max else x) else none

/-- Draws from a range. Nothing where the ends allow no draw, or where a draw leaves the calendar. -/
def draw? (r : RangeSpec) (src : Random.Source) : Random.Draw Value :=
  match r with
  | whole min max =>
    let (n, src) := src.intBetween min max
    some (.int n, src)
  | real min max places =>
    (src.realBetween min max).bind fun (x, src) =>
      (clamp? (Decimal.roundTo x places) min max).map fun y => (.float y, src)
  | date min days =>
    let (n, src) := src.intBetween 0 days
    (min.addDays? n).map fun d => (.date d, src)
  | time min seconds =>
    let (n, src) := src.intBetween 0 seconds
    (min.addSeconds? n).map fun t => (.timestamp t, src)

end RangeSpec

/-- The first index whose bucket is above a number, or the last index. -/
def bucketIndex (buckets : List Float) (x : Float) : Nat :=
  (buckets.findIdx? (x < ·)).getD (buckets.length - 1)

/-- The value of a node of a list. -/
def Plan.at (values : List NodeRef) (i : Nat) : Plan :=
  match values[i]? with
  | some n => .node n
  | none => .value none

namespace Generator

/-- Steps once. Nothing where a draw is not possible. -/
def step (g : Generator) (src : Random.Source) : Random.Draw (Plan × Generator) :=
  match g with
  | range spec => (spec.draw? src).map fun (v, src) => ((.value (some v), g), src)
  | normal bell =>
    let (v, src) := bell.draw attempts src
    some ((.value (some v), g), src)
  | choice values _ =>
    let (i, src) := src.index values.length
    some ((.at values i, .choice values (some i)), src)
  | weighted values buckets =>
    let (u, src) := src.unit
    let i := bucketIndex buckets (u * buckets.getLastD 0)
    some ((.at values i, g), src)
  | table t =>
    let (i, src) := src.index t.size
    some ((.value (t.rowValue? i), g), src)
  | dict source entries => some ((.look source entries, g), src)
  | map source selector targets => some ((.replay source selector targets, g), src)
  | sequence n =>
    some ((.value (some (.int n)), .sequence (Decimal.clampInteger (n + 1))), src)
  | uuid =>
    let (s, src) := src.identifier
    some ((.value (some (.string s)), g), src)
  | clock l base offset dateOnly =>
    match offset.shift? base with
    | some t => some ((.value (some (if dateOnly then .date t.date else .timestamp t)), g), src)
    | none => some ((.fault (.badArgument l .offset), g), src)
  | regex recipe =>
    let (s, src) := recipe.sample src
    some ((.value (some (.string s)), g), src)
  | template l t params names => some ((.render l t params names, g), src)
  | pipe previous t => some ((.transform previous t, g), src)

/-- The index that a choice has drawn last. -/
def selected? : Generator → Option Nat
  | choice _ selected => selected
  | _ => none

/-- The delimiter of a table. -/
def delimiter? : Generator → Option Table.Delimiter
  | table t => some t.delimiter
  | _ => none

end Generator

end TestData.Engine
