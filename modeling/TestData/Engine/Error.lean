import TestData.Schema.Workspace

/-!
What can go wrong when a schema is evaluated.

An error says where it happened and why. Its code is a stable word for the kind of trouble, which
reports use; its message is for people. Where the reason is in words of another system, the
message leaves them out.
-/

namespace TestData.Engine

open Schema

/-- The kinds of trouble that reports tell apart. -/
inductive Code
  | circularReference
  | unresolvedReference
  | invalidCsv
  | fileNotFound
  | templateSyntax
  | meanOutOfRange
  | mapSourceMismatch
  | mapLengthMismatch
  | invalidRange
  | invalidWeights
  | invalidRegex
  | emptyList
  | invalidArgument
  | duplicateProperty
  | duplicateEntity
  | duplicateImport
  | importNotFound
  | importedNameNotFound
  | entityNameCase
  deriving DecidableEq

/-- The word for a kind of trouble. -/
def Code.text : Code → String
  | circularReference => "circular-reference"
  | unresolvedReference => "unresolved-reference"
  | invalidCsv => "invalid-csv"
  | fileNotFound => "file-not-found"
  | templateSyntax => "template-syntax"
  | meanOutOfRange => "mean-out-of-range"
  | mapSourceMismatch => "map-source-mismatch"
  | mapLengthMismatch => "map-length-mismatch"
  | invalidRange => "invalid-range"
  | invalidWeights => "invalid-weights"
  | invalidRegex => "invalid-regex"
  | emptyList => "empty-list"
  | invalidArgument => "invalid-argument"
  | duplicateProperty => "duplicate-property"
  | duplicateEntity => "duplicate-entity"
  | duplicateImport => "duplicate-import"
  | importNotFound => "import-not-found"
  | importedNameNotFound => "imported-name-not-found"
  | entityNameCase => "entity-name-case"

/-- A node and the names around it. -/
structure Location where
  node : NodeRef
  path : String
  deriving DecidableEq, Inhabited

/-- Where a node of a workspace is. -/
def Location.of (w : Workspace) (n : NodeRef) : Location := ⟨n, w.displayPath n⟩

/-- The words that follow a message about a location. -/
def Location.message (l : Location) (what : String) : String := what ++ " at '" ++ l.path ++ "'"

/-- Why bounds are no range. -/
inductive RangeFault
  | reversed (min max : String)
  | backwards (first last : String)
  | mixed
  | notNumber (text : String)
  | notBound (found : String)
  | notNumeric

/-- The words for bounds that are no range. -/
def RangeFault.message : RangeFault → String
  | reversed min max => "min " ++ min ++ " is greater than max " ++ max
  | backwards first last => first ++ " is after " ++ last
  | mixed => "min and max must both be numbers, dates or timestamps"
  | notNumber text => "'" ++ text ++ "' is not a number"
  | notBound found => "bounds must be numbers, dates or timestamps, found " ++ found
  | notNumeric => "expected a numeric bound"

/-- Why weights are not usable. -/
inductive WeightFault
  | count (choices weights : Nat)
  | negative (weight : Float)
  | noTotal

/-- The words for weights that are not usable. -/
def WeightFault.message : WeightFault → String
  | count choices weights => toString choices ++ " choices but " ++ toString weights ++ " weights"
  | negative weight =>
    "weight " ++ Decimal.Layout.running.text weight ++ " is not a non-negative number"
  | noTotal => "weights must add up to more than zero"

/-- Why an argument is not usable. -/
inductive ArgumentFault
  | deviation (x : Float)
  | otherCall (expected found : CallKind)
  | noFunction (kind : CallKind)
  | noValue (what : String)
  | offset

/-- The words for an argument that is not usable. -/
def ArgumentFault.message : ArgumentFault → String
  | deviation x =>
    "standard deviation must be non-negative, found " ++ Decimal.Layout.running.text x
  | otherCall expected found =>
    "expected a " ++ expected.name ++ " function, found " ++ found.name
  | noFunction kind => "no evaluator registered for " ++ kind.name
  | noValue what => what ++ " is not a value"
  | offset => "date offset is out of range"

/-- Why a node has no value. -/
inductive EvalError
  | circular (l : Location)
  | unresolved (l : Location) (name : String) (span : Span)
  | noEntity (name : String)
  | badTable (node : NodeRef) (path reason : String)
  | noFile (node : NodeRef) (path : String)
  | unreadable (node : NodeRef) (path : String)
  | templateSyntax (l : Location)
  | templateRender (l : Location)
  | meanOutside (l : Location) (mean min max : Float)
  | mapSource (l : Location)
  | badPattern (l : Location)
  | badRange (l : Location) (why : RangeFault)
  | badWeights (l : Location) (why : WeightFault)
  | emptyList (l : Location)
  | badArgument (l : Location) (why : ArgumentFault)

namespace EvalError

/-- The node that an error is about. -/
def node? : EvalError → Option NodeRef
  | circular l | unresolved l _ _ | templateSyntax l | templateRender l | meanOutside l _ _ _
  | mapSource l | badPattern l | badRange l _ | badWeights l _ | emptyList l
  | badArgument l _ => some l.node
  | badTable n _ _ | noFile n _ | unreadable n _ => some n
  | noEntity _ => none

/-- The kind of trouble. -/
def code : EvalError → Code
  | circular _ => .circularReference
  | unresolved _ _ _ | noEntity _ => .unresolvedReference
  | badTable _ _ _ => .invalidCsv
  | noFile _ _ | unreadable _ _ => .fileNotFound
  | templateSyntax _ | templateRender _ => .templateSyntax
  | meanOutside _ _ _ _ => .meanOutOfRange
  | mapSource _ => .mapSourceMismatch
  | badPattern _ => .invalidRegex
  | badRange _ _ => .invalidRange
  | badWeights _ _ => .invalidWeights
  | emptyList _ => .emptyList
  | badArgument _ _ => .invalidArgument

/-- The part of the source that an error is about, where that is not the whole node. -/
def span? : EvalError → Option Span
  | unresolved _ _ span => some span
  | _ => none

/-- The words for an error. -/
def message : EvalError → String
  | circular l => l.message "Circular reference"
  | unresolved l name _ => "Cannot resolve '" ++ name ++ "' referenced from '" ++ l.path ++ "'"
  | noEntity name => "Entity not found: " ++ name
  | badTable _ path reason => "Invalid CSV file '" ++ path ++ "': " ++ reason
  | noFile _ path => "File not found: " ++ path
  | unreadable _ path => "Failed to read '" ++ path ++ "'"
  | templateSyntax l => l.message "Template syntax error"
  | templateRender l => l.message "Template rendering failed"
  | meanOutside l mean min max =>
    let text := Decimal.Layout.running.text
    l.message ("Mean " ++ text mean ++ " is outside [" ++ text min ++ ", " ++ text max ++ "]")
  | mapSource l => l.message "Source of map" ++ " must be a random choice over a list"
  | badPattern l => l.message "Invalid regular expression"
  | badRange l why => l.message "Invalid range" ++ ": " ++ why.message
  | badWeights l why => l.message "Invalid weights" ++ ": " ++ why.message
  | emptyList l => l.message "Cannot choose from an empty list"
  | badArgument l why => l.message "Invalid argument" ++ ": " ++ why.message

end EvalError

end TestData.Engine
