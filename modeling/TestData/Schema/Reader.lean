import TestData.Calendar.Reader
import TestData.Files.Disk
import TestData.Schema.Document
import TestData.Yaml.Tree

/-!
Reading schema documents from trees.

Plain values become literals, lists and objects. A tag makes a value a reference, a special
literal or the call of a function; what is tagged holds the arguments.
-/

namespace TestData.Schema

/-- What is wrong with a value. -/
inductive Fault
  | entityNotMapping
  | keyNotScalar
  | notNumber (e : Decimal.ReadError)
  | badNumber (text : String) (e : Decimal.ReadError)
  | badReference (path : String)
  | badDate (text : String)
  | badTimestamp (text : String)
  | badDuration (e : Calendar.DurationError)
  | unknownTransform (name : String)
  | boundsNotTwo
  | noPairs
  | pairsNotMapping
  | noTargets
  | startNotInteger
  | paramsNotMapping
  | noTransforms
  | entryNotPair
  | entriesNotList
  | weightNotNumber
  | missing (key : String)
  | notTruthValue (key : String)
  | badDelimiter
  | notOffsets
  | expected (what : String)

/-- The words for what is wrong with a value. -/
def Fault.message : Fault → String
  | .entityNotMapping => "an entity must be a mapping of properties"
  | .keyNotScalar => "mapping keys must be scalars"
  | .notNumber e => e.message
  | .badNumber text e => "invalid number '" ++ text ++ "': " ++ e.message
  | .badReference path => "malformed reference '" ++ path ++ "'"
  | .badDate text => "invalid date '" ++ text ++ "'"
  | .badTimestamp text => "invalid timestamp '" ++ text ++ "'"
  | .badDuration e => e.message
  | .unknownTransform name => Text.Transform.unknown name
  | .boundsNotTwo => "range expects exactly two bounds"
  | .noPairs => "dict requires 'pairs'"
  | .pairsNotMapping => "dict 'pairs' must be a mapping"
  | .noTargets => "map requires a list under 'to'"
  | .startNotInteger => "sequence start must be an integer"
  | .paramsNotMapping => "template 'params' must be a mapping"
  | .noTransforms => "pipe requires a list under 'transforms'"
  | .entryNotPair => "weighted entries must be [value, weight] pairs"
  | .entriesNotList => "weighted expects a list of [value, weight] pairs"
  | .weightNotNumber => "weight must be a number"
  | .missing key => "missing '" ++ key ++ "'"
  | .notTruthValue key => "'" ++ key ++ "' must be a boolean"
  | .badDelimiter => "delimiter must be a single ASCII character"
  | .notOffsets => "expected \x7bplus, minus\x7d durations"
  | .expected what => "expected " ++ what

/-- Why there is no document. -/
inductive ReadError
  /-- The file cannot be read as text. -/
  | unreadable (path : Files.Path)
  /-- The text is no markup, or not of the outer form of a schema. -/
  | malformed
  | invalid (location : String) (fault : Fault)
  | unknownTag (location tag : String)

/-- The words for why there is no document, as far as this library words them. -/
def ReadError.message : ReadError → String
  | .unreadable path => "Failed to read document '" ++ path ++ "'"
  | .malformed => "Failed to parse YAML"
  | .invalid location fault => "Invalid value at '" ++ location ++ "': " ++ fault.message
  | .unknownTag location tag => "Unknown tag '!" ++ tag ++ "' at '" ++ location ++ "'"

/-- The names and numbers that lead to a value, the innermost first. -/
abbrev Trail := List String

/-- Where a value stands. -/
def Trail.location (t : Trail) : String :=
  if t = [] then "<root>" else ".".intercalate t.reverse

/-- A step of reading, which may add nodes to a draft. -/
abbrev Build := StateT Draft (Except ReadError)

namespace Build

/-- Adds to the draft. -/
def draw {α : Type} (f : Draft → α × Draft) : Build α := modifyGet f

/-- Adds a node. -/
def add (k : Kind) : Build NodeId := draw (·.add k)

/-- Adds a literal. -/
def literal (l : Literal) : Build NodeId := add (.literal l)

/-- Adds a call. -/
def call (c : Call) : Build NodeId := add (.call c)

/-- Stops at a value that is wrong. -/
def refuse {α : Type} (t : Trail) (f : Fault) : Build α := throw (.invalid t.location f)

/-- Goes on with the result of a reader of text. -/
def ofExcept {ε α : Type} (t : Trail) (f : ε → Fault) : Except ε α → Build α
  | .ok a => return a
  | .error e => refuse t (f e)

/-- Goes on with what is there. -/
def ofOption {α : Type} (t : Trail) (f : Fault) : Option α → Build α
  | some a => return a
  | none => refuse t f

end Build

open Build
open Yaml (Tree)

/-- The pairs of a mapping. -/
abbrev Pairs := List (Tree × Tree)

/-- A reader of a value at a place. -/
abbrev ValueReader := Trail → Tree → Build NodeId

/-! ### Scalars -/

/-- The name that a key is. -/
def readKey (t : Trail) : Tree → Build String
  | .string s => return s
  | .number n _ => return n.text
  | .bool b => return if b then "true" else "false"
  | _ => refuse t .keyNotScalar

/-- The text that a value is, where a kind of text is expected. -/
def readText (t : Trail) (what : String) : Tree → Build String
  | .string s => return s
  | .number n _ => return n.text
  | .bool b => return if b then "true" else "false"
  | v => ofOption t (.expected what) v.decimalText?

/-- A number from its text. -/
def readNumber (t : Trail) (text : String) : Build Number :=
  ofExcept t (.badNumber text) (Number.read text)

/-- The items of a list that is expected. -/
def readItems (t : Trail) (what : String) : Tree → Build (List Tree)
  | .sequence items => return items
  | _ => refuse t (.expected what)

/-- The pairs of a mapping that is expected. -/
def readPairs (t : Trail) (what : String) : Tree → Build Pairs
  | .mapping pairs => return pairs
  | _ => refuse t (.expected what)

/-- The argument of a name. -/
def argument (t : Trail) (pairs : Pairs) (key : String) : Build Tree :=
  ofOption t (.missing key) (Tree.lookup pairs key)

/-- A truth value that need not be given. -/
def readFlag (t : Trail) (pairs : Pairs) (key : String) : Build Bool :=
  match Tree.lookup pairs key with
  | none | some .null => return false
  | some (.bool b) => return b
  | some _ => refuse t (.notTruthValue key)

/-- A delimiter that need not be given. -/
def readDelimiter (t : Trail) (pairs : Pairs) : Build (Option Table.Delimiter) :=
  match Tree.lookup pairs "delimiter" with
  | none | some .null => return none
  | some (.string s) =>
    match s.toList with
    | [c] => if c.toNat < 128 then return some c.toNat.toUInt8 else refuse t .badDelimiter
    | _ => refuse t .badDelimiter
  | some _ => refuse t .badDelimiter

/-- A duration that need not be given. -/
def readDuration (t : Trail) (pairs : Pairs) (key : String) :
    Build (Option Calendar.Duration) :=
  match Tree.lookup pairs key with
  | none | some .null => return none
  | some v => do
    let text ← readText t "a duration such as '3 days'" v
    return some (← ofExcept t .badDuration (Calendar.Duration.read text))

/-- The durations of a clock. -/
def readOffset (t : Trail) : Tree → Build Calendar.Offset
  | .null | .string "" => return .none
  | .mapping pairs => do
    let plus ← readDuration t pairs "plus"
    let minus ← readDuration t pairs "minus"
    return ⟨plus, minus⟩
  | _ => refuse t .notOffsets

/-- The first number of a sequence. -/
def readStart (t : Trail) : Tree → Build Int
  | .null | .string "" => return 1
  | .number n _ => ofOption t .startNotInteger n.toInt?
  | _ => refuse t .startNotInteger

/-- A weight. -/
def readWeight (t : Trail) : Tree → Build Float
  | .number n _ => return n.toFloat
  | v => do
    match v.decimalText? with
    | some text => return (← readNumber t text).value
    | none => refuse t .weightNotNumber

/-- A table and how it is read. -/
def readSource (t : Trail) : Tree → Build TableSource
  | .mapping pairs => do
    let path ← readText t "file" (← argument t pairs "file")
    let delimiter ← readDelimiter t pairs
    let noHeader ← readFlag t pairs "no_header"
    return { path, delimiter, noHeader }
  | v => return { path := ← readText t "a CSV file path" v }

/-- A dotted path of names that are not empty. -/
def readReference (t : Trail) (v : Tree) : Build NodeId := do
  let path ← readText t "a dotted property path" v
  let segments := segmentsOf path
  if segments.any (·.name = "") then refuse t (.badReference path)
  else add (.reference segments)

/-! ### Values with parts -/

section Parts

variable (read : ValueReader)

/-- Reads the items of a list, each at its number. -/
def readList (t : Trail) (items : List Tree) : Build (List NodeId) :=
  items.zipIdx.mapM fun (v, i) => read (toString i :: t) v

/-- Reads pairs of names and values, each at its name. -/
def readNamed (t : Trail) (pairs : Pairs) : Build (List (String × NodeId)) :=
  pairs.mapM fun (k, v) => do
    let name ← readKey t k
    return (name, ← read (name :: t) v)

/-- Reads an object. -/
def readObject (t : Trail) (pairs : Pairs) : Build NodeId := do
  let properties ← readNamed read t pairs
  draw (·.addObject properties)

/-- Reads an operand that is compared. A text that looks like a number, a date or a timestamp is
one. -/
def readOperand (t : Trail) : Tree → Build NodeId
  | .string s =>
    match Number.read s with
    | .ok n => literal (.number n)
    | .error _ =>
      match Calendar.Date.read? s with
      | some d => literal (.date d)
      | none =>
        match Calendar.Timestamp.read? s with
        | some ts => literal (.timestamp ts)
        | none => read t (.string s)
  | v => read t v

/-- Reads choices and their weights, in pairs. -/
def readWeighted (t : Trail) (entries : Pairs) : Build NodeId := do
  let l ← entries.mapM fun (v, w) => do
    let id ← read t v
    return (id, ← readWeight t w)
  call (.weighted (l.map (·.1)) (l.map (·.2)))

/-- Reads a choice with its weight. -/
def readEntry (t : Trail) (entry : Tree) : Build (NodeId × Float) := do
  match ← readItems t "[value, weight]" entry with
  | [v, w] =>
    let id ← read t v
    return (id, ← readWeight t w)
  | _ => refuse t .entryNotPair

/-- Reads a weighted choice. -/
def readWeightedCall (t : Trail) : Tree → Build NodeId
  | .sequence entries => do
    let l ← entries.mapM (readEntry read t)
    call (.weighted (l.map (·.1)) (l.map (·.2)))
  | .mapping entries => readWeighted read t entries
  | _ => refuse t .entriesNotList

/-- Reads a range. -/
def readRange (t : Trail) (v : Tree) : Build NodeId := do
  match ← readItems t "[min, max]" v with
  | [min, max] =>
    let min ← readOperand read t min
    let max ← readOperand read t max
    call (.range min max)
  | _ => refuse t .boundsNotTwo

/-- Reads a normal distribution. -/
def readNormal (t : Trail) (v : Tree) : Build NodeId := do
  let pairs ← readPairs t "\x7bmin, max, mean, std\x7d" v
  let operand (key : String) := do readOperand read t (← argument t pairs key)
  let min ← operand "min"
  let max ← operand "max"
  let mean ← operand "mean"
  let deviation ← operand "std"
  call (.normal min max mean deviation)

/-- Reads a choice by key. -/
def readDict (t : Trail) (v : Tree) : Build NodeId := do
  let pairs ← readPairs t "\x7bsource, pairs\x7d" v
  let source ← read t (← argument t pairs "source")
  match Tree.lookup pairs "pairs" with
  | none => refuse t .noPairs
  | some (.mapping entries) =>
    let l ← entries.mapM fun (k, v) => do
      let key ← read t k
      let name ← readKey t k
      return (key, ← read (name :: t) v)
    call (.dict source l)
  | some _ => refuse t .pairsNotMapping

/-- Reads a choice by position. -/
def readMap (t : Trail) (v : Tree) : Build NodeId := do
  let pairs ← readPairs t "\x7bsource, to\x7d" v
  let source ← read t (← argument t pairs "source")
  match Tree.lookup pairs "to" with
  | some (.sequence items) => call (.map source (← readList read t items))
  | _ => refuse t .noTargets

/-- Reads the parameters of a template. -/
def readParams (t : Trail) : Option Tree → Build (List (String × NodeId))
  | none => return []
  | some (.mapping params) => readNamed read t params
  | some _ => refuse t .paramsNotMapping

/-- Reads a template. -/
def readTemplate (t : Trail) : Tree → Build NodeId
  | .mapping pairs => do
    let text ← readText t "text" (← argument t pairs "text")
    let params ← readParams read t (Tree.lookup pairs "params")
    call (.template text params)
  | v => do call (.template (← readText t "template text" v) [])

/-- Adds a transform to what came before. -/
def readTransform (t : Trail) (previous : NodeId) (v : Tree) : Build NodeId := do
  let name ← readText t "a transformer name" v
  let k ← ofExcept t .unknownTransform (Text.Transform.read name)
  call (.pipe previous k)

/-- Reads a value and the transforms that it goes through. -/
def readPipe (t : Trail) (v : Tree) : Build NodeId := do
  let pairs ← readPairs t "\x7bvalue, transforms\x7d" v
  let start ← read t (← argument t pairs "value")
  match Tree.lookup pairs "transforms" with
  | some (.sequence items) => items.foldlM (readTransform t) start
  | some (.string s) => readTransform t start (.string s)
  | _ => refuse t .noTransforms

/-- Reads a tagged value. -/
def readTagged (t : Trail) (tag : String) (v : Tree) : Build NodeId := do
  match tag with
  | "decimal" => literal (.number (← readNumber t (← readText t "a decimal number" v)))
  | "ref" => readReference t v
  | "date" =>
    let text ← readText t "a date" v
    literal (.date (← ofOption t (.badDate text) (Calendar.Date.read? text)))
  | "timestamp" =>
    let text ← readText t "a timestamp" v
    literal (.timestamp (← ofOption t (.badTimestamp text) (Calendar.Timestamp.read? text)))
  | "file" => literal (.file (← readText t "a file path" v))
  | "pattern" => literal (.pattern (← readText t "a regular expression" v))
  | "range" => readRange read t v
  | "random" => call (.choice (← readList read t (← readItems t "a list of choices" v)))
  | "normal" => readNormal read t v
  | "weighted" => readWeightedCall read t v
  | "csv" => call (.table (← readSource t v))
  | "dict" => readDict read t v
  | "map" => readMap read t v
  | "sequence" => call (.sequence (← readStart t v))
  | "uuid" => call .uuid
  | "now" => call (.now (← readOffset t v))
  | "today" => call (.today (← readOffset t v))
  | "regex" => call (.regex (← readText t "a regular expression" v))
  | "template" => readTemplate read t v
  | "pipe" => readPipe read t v
  | tag => throw (.unknownTag t.location tag)

end Parts

/-- A tag without the exclamation marks in front. -/
def tagName (tag : String) : String := String.ofList (tag.toList.dropWhile (· = '!'))

/-- Reads a value that is nested at most as deep as the first number. -/
def readValue : Nat → ValueReader
  | 0, _, _ => throw .malformed
  | depth + 1, t, v =>
    match v with
    | .null => literal .null
    | .bool b => literal (.bool b)
    | .number n _ => do literal (.number (← ofExcept t .notNumber (Number.read n.text)))
    | .string s => literal (.string s)
    | .sequence items => do add (.list (← readList (readValue depth) t items))
    | .mapping pairs => readObject (readValue depth) t pairs
    | .tagged tag v => readTagged (readValue depth) t (tagName tag) v

/-! ### Documents -/

/-- The fields of a record with text keys, without tags on the keys. -/
def fields? (v : Tree) : Option (List (String × Tree)) :=
  match v.untagged with
  | .null => some []
  | .mapping pairs => pairs.mapM fun (k, v) =>
    match k.untagged with
    | .string s => some (s, v)
    | _ => none
  | _ => none

/-- The field of a name, if there is one; nothing at all if it is there twice. -/
def field? (fs : List (String × Tree)) (name : String) : Option (Option Tree) :=
  match fs.filter (·.1 = name) with
  | [] => some none
  | [(_, v)] => some (some v)
  | _ => none

/-- The items of a list that may be left out. -/
def list? : Option Tree → Option (List Tree)
  | none => some []
  | some v =>
    match v.untagged with
    | .null => some []
    | .sequence items => some items
    | _ => none

/-- The pairs of a mapping that may be left out. -/
def mapping? : Option Tree → Option Pairs
  | none => some []
  | some v =>
    match v.untagged with
    | .null => some []
    | .mapping pairs => some pairs
    | _ => none

/-- A string. -/
def string? (v : Tree) : Option String :=
  match v.untagged with
  | .string s => some s
  | _ => none

/-- Reads an import. -/
def import? (v : Tree) : Option Import := do
  let fs ← fields? v
  let path ← string? (← (← field? fs "path"))
  let entities ← (← list? (← field? fs "entities")).mapM string?
  return { path, entities }

/-- The imports and the entities of a document. -/
def outline? (v : Tree) : Option (List Import × Pairs) := do
  let fs ← fields? v
  let imports ← (← list? (← field? fs "imports")).mapM import?
  let entities ← mapping? (← field? fs "entities")
  return (imports, entities)

/-- Reads an entity. -/
def readEntity (read : ValueReader) (key body : Tree) : Build NodeId := do
  let name ← readKey [] key
  let id ← match body with
    | .mapping pairs => readObject read [name] pairs
    | .null => draw (·.addObject [])
    | _ => refuse [name] .entityNotMapping
  draw (·.addEntity name id)

namespace Document

/-- The document that a tree describes. -/
def ofTree (path : Files.Path) (v : Tree) : Except ReadError Document := do
  match outline? v with
  | none => throw .malformed
  | some (imports, entities) =>
    let build := entities.forM fun (k, v) => do
      let _ ← readEntity (readValue v.height) k v
    let (_, draft) ← build.run { path, imports }
    return draft.finish

/-- Reads a document from a text. The path is only kept. -/
def ofText (path : Files.Path) (text : String) : Except ReadError Document :=
  match Yaml.Document.read? text >>= Yaml.Document.tree? with
  | none => .error .malformed
  | some v => ofTree path v.withDecimals

/-- Reads a document from a text that is in no file. -/
def ofInline (text : String) : Except ReadError Document := ofText "document.yaml" text

/-- Reads a document from a file. -/
def ofFile (disk : Files.Disk) (path : Files.Path) : Except ReadError Document :=
  match disk.text path with
  | .ok text => ofText path text
  | .error _ => .error (.unreadable path)

end Document

end TestData.Schema
