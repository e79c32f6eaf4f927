import TestData.Schema.Reader

/-!
Workspaces: schema documents that import each other.

The first document is the root. Two paths name the same document when they name the same file;
paths that name no file are told apart by their parts.
-/

namespace TestData.Schema

/-- The position of a document in a workspace. -/
abbrev DocumentId := Nat

/-- A node of a workspace. -/
structure NodeRef where
  document : DocumentId
  node : NodeId
  deriving DecidableEq, Inhabited

/-- Another node of the same document. -/
def NodeRef.at (r : NodeRef) (id : NodeId) : NodeRef := { r with node := id }

/-- What tells the documents of paths apart. -/
abbrev PathKey := List String

/-- The key of a path. -/
def PathKey.of (disk : Files.Disk) (p : Files.Path) : PathKey :=
  match disk.place p with
  | .ok q => "/" :: q
  | .error _ => Files.Path.parts p

/-- Documents and their keys. -/
structure Workspace where
  documents : Array Document
  /-- For every document its key, later documents first. -/
  keys : List (PathKey × DocumentId)
  deriving Inhabited

namespace Workspace

/-- The workspace of documents, the first of which is the root. -/
def ofDocuments (disk : Files.Disk) (l : List Document) : Workspace :=
  { documents := l.toArray
    keys := (l.zipIdx.map fun (d, i) => (PathKey.of disk d.path, i)).reverse }

/-- The workspace of one document in no file. -/
def ofInline (disk : Files.Disk) (text : String) : Except ReadError Workspace :=
  (Document.ofInline text).map fun d => ofDocuments disk [d]

/-- The files that a document imports, as far as they are there. -/
def importedFiles (disk : Files.Disk) (d : Document) : List Files.Path :=
  (d.imports.map fun i => d.resolvePath i.path).filter disk.isFile

/-- Reads the files of a queue and all that they import, each file once. The result has the
documents in the order in which they were met. The fuel bounds the number of documents. -/
def gather (disk : Files.Disk) :
    Nat → List PathKey → List Files.Path → Except ReadError (List Document)
  | 0, _, _ => return []
  | fuel + 1, seen, queue =>
    match queue.dropWhile fun p => seen.contains (PathKey.of disk p) with
    | [] => return []
    | next :: rest => do
      let d ← Document.ofFile disk next
      let more ← gather disk fuel (PathKey.of disk next :: seen) (rest ++ importedFiles disk d)
      return d :: more

/-- Reads a document and all that it imports. Imports that name no file are left out. -/
def load (disk : Files.Disk) (root : Files.Path) : Except ReadError Workspace := do
  return ofDocuments disk (← gather disk (disk.entries.length + 1) [] [root])

/-- The root document. -/
def root : DocumentId := 0

/-- Whether there is a root document. -/
def hasRoot (w : Workspace) : Bool := !w.documents.isEmpty

/-- A document. -/
def document (w : Workspace) (d : DocumentId) : Document := w.documents[d]?.getD default

/-- A node. -/
def node (w : Workspace) (r : NodeRef) : Node := (w.document r.document).node r.node

/-- What a node is. -/
def kind (w : Workspace) (r : NodeRef) : Kind := (w.node r).kind

/-- Where a node stands in its document. -/
def displayPath (w : Workspace) (r : NodeRef) : String :=
  (w.document r.document).displayPath r.node

/-- The number of nodes of all documents. -/
def size (w : Workspace) : Nat := w.documents.foldl (fun n d => n + d.nodes.size) 0

/-- The document of a path. -/
def documentAt? (w : Workspace) (disk : Files.Disk) (p : Files.Path) : Option DocumentId :=
  w.keys.lookup (PathKey.of disk p)

/-- The first entity of a name in a document. -/
def entity? (w : Workspace) (d : DocumentId) (name : String) : Option NodeRef :=
  ((w.document d).entity? name).map fun id => ⟨d, id⟩

/-- The document that an import of a document names. -/
def imported? (w : Workspace) (disk : Files.Disk) (d : DocumentId) (i : Import) :
    Option DocumentId :=
  w.documentAt? disk ((w.document d).resolvePath i.path)

/-- The entity of a name that the imports of a document make known. -/
def importedEntity? (w : Workspace) (disk : Files.Disk) (d : DocumentId) (name : String) :
    Option NodeRef :=
  ((w.document d).imports.filter (·.entities.contains name)).findSome? fun i => do
    w.entity? (← w.imported? disk d i) name

end Workspace

end TestData.Schema
