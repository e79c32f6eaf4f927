import TestData.Engine.Evaluation
import TestData.Text.Case

/-!
Checking documents.

A check looks for names that are declared twice, imports that lead nowhere, references that
cannot be resolved and calls that cannot be created, and at last evaluates every entity once. It
never fails on an error; what it finds becomes a list of issues, of which no two have the same
code and the same node.
-/

namespace TestData.Engine

open Schema

/-- How bad an issue is. -/
inductive Severity
  | error
  | warning
  deriving DecidableEq

/-- The word for how bad an issue is. -/
def Severity.text : Severity → String
  | error => "error"
  | warning => "warning"

/-- What a check finds. An issue with an import has no node. -/
structure Issue where
  severity : Severity := .error
  code : Code
  message : String
  node : Option NodeRef
  span : Option Span

namespace Issue

/-- The issue for an error. -/
def ofError (w : Workspace) (e : EvalError) : Issue :=
  { code := e.code, message := e.message, node := e.node?
    span := e.span?.or (e.node?.map fun n => (w.node n).span) }

/-- An issue with a node. -/
def atNode (w : Workspace) (n : NodeRef) (code : Code) (message : String) : Issue :=
  { code, message, node := some n, span := some (w.node n).span }

/-- How bad an issue is, and its code. -/
def label (i : Issue) : String := i.severity.text ++ "[" ++ i.code.text ++ "]"

/-- An issue on one line. -/
def text (i : Issue) : String := i.label ++ ": " ++ i.message

/-- Whether an issue has a node and says of it what another one says. -/
def repeats (i j : Issue) : Bool := i.node.isSome && i.code = j.code && i.node = j.node

/-- Adds an issue, unless one repeats it. -/
def add (l : List Issue) (i : Issue) : List Issue := if l.any i.repeats then l else l ++ [i]

end Issue

namespace Check

/-! ### Names -/

/-- Pairs items with whether the same name was there before. -/
def markRepeats {α : Type} (name : α → String) (seen : List String) : List α → List (α × Bool)
  | [] => []
  | a :: rest => (a, seen.contains (name a)) :: markRepeats name (name a :: seen) rest

/-- Issues with the names of entities. -/
def entityIssues (w : Workspace) (d : DocumentId) : List Issue :=
  (markRepeats (·.1) [] (w.document d).namedEntities).flatMap fun ((name, id), again) =>
    let issue := Issue.atNode w ⟨d, id⟩
    let twice := issue .duplicateEntity ("Entity '" ++ name ++ "' is declared more than once")
    let small := issue .entityNameCase
      ("Entity name '" ++ name ++ "' should start with a capital letter")
    (if again then [twice] else []) ++
      if (name.toList.head?).any Text.isUpper then [] else [{ small with severity := .warning }]

/-- An issue with an import. -/
def importIssue (code : Code) (message : String) : Issue :=
  { code, message, node := none, span := some {} }

/-- The issue with a name that is imported from a document, if there is one, and the names that
are known to be imported. -/
def nameIssue (w : Workspace) (d target : DocumentId) (path : String) (known : List String)
    (name : String) : Option Issue × List String :=
  if (w.entity? target name).isNone then
    (some (importIssue .importedNameNotFound
      ("Entity '" ++ name ++ "' not found in '" ++ path ++ "'")), known)
  else if known.contains name then
    (some (importIssue .duplicateImport
      ("Entity '" ++ name ++ "' is imported more than once")), known)
  else if (w.entity? d name).isSome then
    (some (importIssue .duplicateEntity
      ("Imported entity '" ++ name ++ "' collides with a local entity")), name :: known)
  else (none, name :: known)

/-- Issues with the names of an import. -/
def nameIssues (w : Workspace) (d target : DocumentId) (path : String) :
    List String → List String → List Issue × List String
  | known, [] => ([], known)
  | known, name :: rest =>
    let (issue, known) := nameIssue w d target path known name
    let (issues, known) := nameIssues w d target path known rest
    (issue.toList ++ issues, known)

/-- Issues with imports. -/
def importIssues (w : Workspace) (disk : Files.Disk) (d : DocumentId) :
    List String → List Import → List Issue
  | _, [] => []
  | known, i :: rest =>
    match w.imported? disk d i with
    | none =>
      importIssue .importNotFound ("Imported document '" ++ i.path ++ "' not found") ::
        importIssues w disk d known rest
    | some target =>
      let (issues, known) := nameIssues w d target i.path known i.entities
      issues ++ importIssues w disk d known rest

/-! ### Nodes -/

/-- Issues with the names of the properties of an object. -/
def propertyIssues (w : Workspace) (owner : NodeRef) (properties : List NodeId) : List Issue :=
  let named := properties.filterMap fun id =>
    match w.kind (owner.at id) with
    | .property name _ => some (name, id)
    | _ => none
  (markRepeats (·.1) [] named).filterMap fun ((name, id), again) =>
    if again then
      some (.atNode w (owner.at id) .duplicateProperty
        ("Property '" ++ name ++ "' is declared more than once"))
    else none

/-- The issue that an attempt ends with, if any. -/
def issuesOf {α : Type} (x : Eval α) : Eval (List Issue) := do
  match ← x.attempt with
  | .ok _ => return []
  | .error e => return [.ofError (← get).workspace e]

/-- Issues with a call, as a function of a kind sees it. -/
def callIssues (k : CallKind) (n : NodeRef) (c : Call) : Eval (List Issue) := do
  match k, c with
  | .map, .map source targets =>
    match ← ((selectorOf n (n.at source)).run Eval.value).attempt with
    | .ok (_, choices) =>
      if choices = targets.length then return []
      else
        let w := (← get).workspace
        let issue := Issue.atNode w n .mapLengthMismatch
          ("map at '" ++ w.displayPath n ++ "' has " ++ toString targets.length ++
            " values but its source chooses from " ++ toString choices)
        return [{ issue with severity := .warning }]
    | .error e => return [.ofError (← get).workspace e]
  | .map, _ => return []
  | _, _ => issuesOf (Generator.create Eval.value k n c)

/-- Issues with a node. -/
def nodeIssues (n : NodeRef) : Eval (List Issue) := do
  let s ← get
  let w := s.workspace
  match w.kind n with
  | .object properties => return propertyIssues w n properties
  | .literal (.file path) =>
    let resolved := (w.document n.document).resolvePath path
    if (← read).disk.isFile resolved then return []
    else return [.atNode w n .fileNotFound ("File not found: " ++ resolved)]
  | .literal (.pattern text) =>
    if (Pattern.compile? text s.options.maxRepeat).isSome then return []
    else return [.atNode w n .invalidRegex ("Invalid regular expression '" ++ text ++ "'")]
  | .reference _ => issuesOf (Eval.resolve n)
  | .call c =>
    if s.functions.contains c.kind then callIssues c.kind n c
    else
      return [.atNode w n .invalidArgument ("No evaluator registered for " ++ c.kind.name)]
  | _ => return []

/-- Gathers the issues of items, one after the other. -/
def gather {α : Type} (issues : α → Eval (List Issue)) : List α → Eval (List Issue)
  | [] => return []
  | a :: rest => do
    let first ← issues a
    return first ++ (← gather issues rest)

/-- Issues with the value of an entity, evaluated in a row of its own. -/
def valueIssues (n : NodeRef) : Eval (List Issue) := do
  modify Session.reset
  issuesOf (Eval.value n)

/-- All issues with a document, in the order in which they are found. -/
def documentIssues (d : DocumentId) : Eval (List Issue) := do
  let w := (← get).workspace
  let doc := w.document d
  let names := entityIssues w d
  let imports := importIssues w (← read).disk d [] doc.imports
  let nodes ← gather nodeIssues ((List.range doc.nodes.size).map fun id => ⟨d, id⟩)
  let values ← gather valueIssues (doc.namedEntities.map fun (_, id) => ⟨d, id⟩)
  return (names ++ imports ++ nodes ++ values).foldl Issue.add []

end Check

/-- Checks a document in a session of its own, so that nothing is changed. -/
def Session.check (s : Session) (world : World) (d : DocumentId) : Except Failure (List Issue) :=
  ((Check.documentIssues d).exec world (s.fresh world)).1

end TestData.Engine
