import TestData.Engine.Generator
import TestData.Engine.Options
import TestData.Engine.Resolution
import TestData.Table.Cache

/-!
Sessions: what an engine knows between two evaluations.

A session keeps the values of the current row, so that all that refers to a node in one row sees
one value, and the generators of function nodes, so that counters go on from row to row. Files,
the time and entropy are not part of it; every evaluation is given the world as it is.
-/

namespace TestData.Engine

open Schema

/-- What is around an engine. -/
structure World where
  disk : Files.Disk
  /-- What the system's clock shows. -/
  time : Calendar.Timestamp
  /-- A random number that no seed decides. -/
  entropy : UInt64

/-- What stays the same while nodes are evaluated. -/
structure Setting where
  workspace : Workspace
  functions : List CallKind
  options : Options
  world : World

namespace Setting

/-- Where names are looked up. -/
def scope (c : Setting) : Scope :=
  { workspace := c.workspace, disk := c.world.disk, maxDepth := c.options.maxDepth }

/-- Where a node is. -/
def location (c : Setting) (n : NodeRef) : Location := .of c.workspace n

/-- What the clock shows. -/
def now (c : Setting) : Calendar.Timestamp := c.options.now.getD c.world.time

end Setting

/-- The state of an engine. -/
structure Session where
  workspace : Workspace
  /-- The functions that can be evaluated. -/
  functions : List CallKind
  options : Options
  source : Random.Source
  /-- The values of this row. A node without an entry has not been evaluated. -/
  values : List (NodeRef × Option Value)
  generators : List (NodeRef × Generator)
  /-- The nodes that are being evaluated. -/
  active : List NodeRef
  tables : Table.Cache
  /-- The number of requests for tables so far. -/
  requests : Nat

namespace Session

/-- A session over a workspace. -/
def start (w : Workspace) (functions : List CallKind) (o : Options) (world : World) : Session :=
  { workspace := w, functions, options := o
    source := .ofSeed (o.seed.getD world.entropy)
    values := [], generators := [], active := []
    tables := .new o.cacheCapacity o.cacheSeconds, requests := 0 }

/-- A session over the same workspace with nothing evaluated. -/
def fresh (s : Session) (world : World) : Session := start s.workspace s.functions s.options world

/-- What stays the same while nodes are evaluated in a world. -/
def setting (s : Session) (world : World) : Setting :=
  { workspace := s.workspace, functions := s.functions, options := s.options, world }

/-- Where names are looked up. -/
def scope (s : Session) (world : World) : Scope := (s.setting world).scope

/-- Where a node is. -/
def location (s : Session) (n : NodeRef) : Location := .of s.workspace n

/-- What the clock shows. -/
def now (s : Session) (world : World) : Calendar.Timestamp := (s.setting world).now

/-- Starts a new row: forgets the values and keeps the generators. -/
def reset (s : Session) : Session := { s with values := [], active := [] }

/-- Starts over: forgets the values, the generators and the tables. -/
def clear (s : Session) : Session := { s.reset with generators := [], tables := s.tables.clear }

/-- Starts over with another workspace. -/
def replace (s : Session) (w : Workspace) : Session := { s with workspace := w }.clear

/-- Begins to evaluate a node. -/
def enter (s : Session) (n : NodeRef) : Session := { s with active := n :: s.active }

/-- Ends evaluating a node. -/
def leave (s : Session) (n : NodeRef) : Session := { s with active := s.active.erase n }

/-- Keeps the value of a node for this row. -/
def keep (s : Session) (n : NodeRef) (v : Option Value) : Session :=
  { s with values := (n, v) :: s.values }

/-- Takes the generator of a node out. -/
def withoutGenerator (s : Session) (n : NodeRef) : Session :=
  { s with generators := s.generators.filter (·.1 ≠ n) }

/-- Puts a generator of a node in, in the place of what was there. -/
def withGenerator (s : Session) (n : NodeRef) (g : Generator) : Session :=
  { s with generators := (n, g) :: s.generators.filter (·.1 ≠ n) }

/-- The index that the generator of a node has drawn last. -/
def selected? (s : Session) (n : NodeRef) : Option Nat :=
  (s.generators.lookup n).bind Generator.selected?

/-- The delimiter of the table that the generator of a node draws from. -/
def delimiter? (s : Session) (n : NodeRef) : Option Table.Delimiter :=
  (s.generators.lookup n).bind Generator.delimiter?

/-- The table of a file, through the cache. -/
def loadTable (s : Session) (disk : Files.Disk) (p : Files.Path)
    (delimiter : Option Table.Delimiter) (noHeader : Bool) :
    Except Table.LoadError Table × Session :=
  let s := { s with requests := s.requests + 1 }
  match s.tables.get disk s.requests p delimiter noHeader with
  | .ok (e, tables) => (.ok e.table, { s with tables })
  | .error e => (.error e, s)

end Session

/-- Why an evaluation ends without a value. -/
inductive Failure
  | error (e : EvalError)
  /-- A draw that is not possible, or a root document that is not there. -/
  | stuck

/-- An evaluation: what it changes in a session stays changed where it fails. -/
abbrev Eval := ReaderT World (ExceptT Failure (StateM Session))

namespace Eval

/-- Runs an evaluation. -/
def exec {α : Type} (x : Eval α) (world : World) (s : Session) : Except Failure α × Session :=
  x world s

/-- What an evaluation ends with, value or error. -/
def attempt {α : Type} (x : Eval α) : Eval (Except EvalError α) := fun world s =>
  match x world s with
  | (.ok a, s) => (.ok (.ok a), s)
  | (.error (.error e), s) => (.ok (.error e), s)
  | (.error .stuck, s) => (.error .stuck, s)

/-- Fails with an error. -/
def fail {α : Type} (e : EvalError) : Eval α := throw (.error e)

/-- Lifts a result that may be an error. -/
def lift {α : Type} : Except EvalError α → Eval α
  | .ok a => return a
  | .error e => fail e

/-- Where a node is. -/
def location (n : NodeRef) : Eval Location := return (← get).location n

/-- What a node is. -/
def kind (n : NodeRef) : Eval Kind := return (← get).workspace.kind n

/-- What a node stands for. -/
def resolve (n : NodeRef) : Eval Resolution := do
  lift (((← get).scope (← read)).resolve n)

/-- The table of a file that a node draws from. -/
def table (n : NodeRef) (source : TableSource) : Eval Table := do
  let s ← get
  let p := (s.workspace.document n.document).resolvePath source.path
  let (r, s) := s.loadTable (← read).disk p source.delimiter source.noHeader
  set s
  match r with
  | .ok t => return t
  | .error (.notFound p) => fail (.noFile n p)
  | .error (.unreadable p) => fail (.unreadable n p)
  | .error (.malformed p text) => fail (.badTable n p text)
  | .error (.empty p) => fail (.badTable n p "no data rows")

/-- Evaluates while a node counts as being evaluated. -/
def whileActive {α : Type} (n : NodeRef) (x : Eval α) : Eval α := fun world s =>
  let (r, s) := x world (s.enter n)
  (r, s.leave n)

/-- Keeps the value of a node for this row. -/
def keepValue (n : NodeRef) (v : Option Value) : Eval Unit :=
  modify fun s => s.keep n v

/-- Evaluates while the generator of a node is taken out, and puts back what has become of it. -/
def whileOut {α : Type} (n : NodeRef) (g : Generator) (x : Eval α) : Eval α := fun world s =>
  let (r, s) := x world (s.withoutGenerator n)
  (r, s.withGenerator n g)

end Eval

end TestData.Engine
