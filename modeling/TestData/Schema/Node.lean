import TestData.Schema.Number
import TestData.Calendar.Duration
import TestData.Table.Basic
import TestData.Text.Transform

/-!
The nodes of a schema: entities, objects, properties, references, literals, lists and calls of
functions. The nodes of a document stand in one array and name each other by their positions.
-/

namespace TestData.Schema

/-- The position of a node in its document. -/
abbrev NodeId := Nat

/-- A range of bytes in a source text. -/
structure Span where
  start : Nat := 0
  stop : Nat := 0
  deriving DecidableEq, Inhabited

/-- A value that is written in full. -/
inductive Literal
  | string (s : String)
  | number (n : Number)
  | bool (b : Bool)
  | date (d : Calendar.Date)
  | timestamp (t : Calendar.Timestamp)
  | file (path : String)
  | null
  | pattern (text : String)
  deriving Inhabited

/-- One name of a dotted reference. -/
structure Segment where
  name : String
  span : Span := {}
  deriving DecidableEq, Inhabited

/-- A file of rows. -/
structure TableSource where
  /-- The path as written, seen from the document. -/
  path : String
  /-- The delimiter; the file decides when absent. -/
  delimiter : Option Table.Delimiter := none
  noHeader : Bool := false

/-- A call of a function, with its operands. -/
inductive Call
  | range (min max : NodeId)
  | choice (values : List NodeId)
  | normal (min max mean deviation : NodeId)
  | weighted (values : List NodeId) (weights : List Float)
  | table (source : TableSource)
  | dict (source : NodeId) (pairs : List (NodeId × NodeId))
  | map (source : NodeId) (targets : List NodeId)
  | sequence (start : Int)
  | uuid
  | now (offset : Calendar.Offset)
  | today (offset : Calendar.Offset)
  | regex (pattern : String)
  | template (text : String) (params : List (String × NodeId))
  | pipe (previous : NodeId) (transform : Text.Transform)

/-- Which function a call is of. -/
inductive CallKind
  | range
  | choice
  | normal
  | weighted
  | table
  | dict
  | map
  | sequence
  | uuid
  | now
  | today
  | regex
  | template
  | pipe
  deriving DecidableEq

namespace CallKind

/-- All functions. -/
def all : List CallKind :=
  [range, choice, normal, weighted, table, dict, map, sequence, uuid, now, today, regex, template,
    pipe]

/-- The name of a function in schemas. -/
def name : CallKind → String
  | range => "range"
  | choice => "random"
  | normal => "normal"
  | weighted => "weighted"
  | table => "csv"
  | dict => "dict"
  | map => "map"
  | sequence => "sequence"
  | uuid => "uuid"
  | now => "now"
  | today => "today"
  | regex => "regex"
  | template => "template"
  | pipe => "pipe"

/-- The function with a given name. -/
def ofName? (s : String) : Option CallKind := all.find? (·.name = s)

end CallKind

namespace Call

/-- Which function is called. -/
def kind : Call → CallKind
  | range _ _ => .range
  | choice _ => .choice
  | normal _ _ _ _ => .normal
  | weighted _ _ => .weighted
  | table _ => .table
  | dict _ _ => .dict
  | map _ _ => .map
  | sequence _ => .sequence
  | uuid => .uuid
  | now _ => .now
  | today _ => .today
  | regex _ => .regex
  | template _ _ => .template
  | pipe _ _ => .pipe

/-- The nodes that a call owns. -/
def operands : Call → List NodeId
  | range min max => [min, max]
  | choice values | weighted values _ => values
  | normal min max mean deviation => [min, max, mean, deviation]
  | dict source pairs => source :: pairs.flatMap fun (k, v) => [k, v]
  | map source targets => source :: targets
  | template _ params => params.map (·.2)
  | pipe previous _ => [previous]
  | table _ | sequence _ | uuid | now _ | today _ | regex _ => []

end Call

/-- What a node is. -/
inductive Kind
  | entity (name : String) (body : NodeId)
  | object (properties : List NodeId)
  | property (name : String) (value : NodeId)
  | reference (segments : List Segment)
  | literal (l : Literal)
  | list (items : List NodeId)
  | call (c : Call)

instance : Inhabited Kind := ⟨.literal .null⟩

namespace Kind

/-- The nodes that a node owns, in order. -/
def children : Kind → List NodeId
  | entity _ body => [body]
  | object properties => properties
  | property _ value => [value]
  | reference _ | literal _ => []
  | list items => items
  | call c => c.operands

/-- A word for what a node is. -/
def describe : Kind → String
  | entity _ _ => "entity"
  | object _ => "object"
  | property _ _ => "property"
  | reference _ => "reference"
  | literal _ => "literal"
  | list _ => "list"
  | call c => c.kind.name

/-- The name of a property or an entity. -/
def name? : Kind → Option String
  | entity name _ | property name _ => some name
  | _ => none

end Kind

/-- A node with its parent and its place in the source. -/
structure Node where
  kind : Kind
  parent : Option NodeId := none
  span : Span := {}
  deriving Inhabited

/-- The segments of a dotted path. -/
def segmentsOf (path : String) : List Segment :=
  (path.toList.splitOn '.').map fun cs => { name := String.ofList cs }

/-- The dotted path of segments. -/
def pathOf (segments : List Segment) : String :=
  ".".intercalate (segments.map (·.name))

end TestData.Schema
