import TestData.Files.Path
import TestData.Schema.Node

/-!
Schema documents, and drafts that grow into them.

In a draft a node is added after the nodes that it owns, so that what a node owns stands before
it. Parents are filled in when the draft is finished.
-/

namespace TestData.Schema

/-- A declaration that makes entities of another document known. -/
structure Import where
  /-- The path as written, seen from the document. -/
  path : String
  entities : List String

/-- A schema document. -/
structure Document where
  path : Files.Path
  imports : List Import
  /-- The nodes that are entities, in order. -/
  entities : List NodeId
  nodes : Array Node

instance : Inhabited Document := ⟨⟨"", [], [], #[]⟩⟩

namespace Document

/-- The directory that paths in the document start from. -/
def directory (d : Document) : Files.Path := Files.Path.directory d.path

/-- A path written in the document, seen from where the document's own path is seen from. -/
def resolvePath (d : Document) (p : Files.Path) : Files.Path :=
  if Files.Path.isAbsolute p then p else Files.Path.join d.directory p

/-- A node. -/
def node (d : Document) (id : NodeId) : Node := d.nodes[id]?.getD default

/-- What a node is. -/
def kind (d : Document) (id : NodeId) : Kind := (d.node id).kind

/-- The node that owns a node. -/
def parent (d : Document) (id : NodeId) : Option NodeId := (d.node id).parent

/-- A node, its parent, the parent of that and so on, at most as many as the first number. -/
def chain (d : Document) : Nat → NodeId → List NodeId
  | 0, _ => []
  | n + 1, id =>
    match d.parent id with
    | some p => id :: d.chain n p
    | none => [id]

/-- A node and all that it stands in, from the inside out. -/
def ancestors (d : Document) (id : NodeId) : List NodeId := d.chain (d.nodes.size + 1) id

/-- The first property of a name among the properties of an object. -/
def findProperty? (d : Document) (properties : List NodeId) (name : String) : Option NodeId :=
  properties.find? fun id =>
    match d.kind id with
    | .property n _ => n = name
    | _ => false

/-- The names of the entities with their nodes. -/
def namedEntities (d : Document) : List (String × NodeId) :=
  d.entities.filterMap fun id =>
    match d.kind id with
    | .entity name _ => some (name, id)
    | _ => none

/-- The first entity of a name. -/
def entity? (d : Document) (name : String) : Option NodeId := d.namedEntities.lookup name

/-- Where a node stands: the names around it from the outside in, joined by dots. -/
def displayPath (d : Document) (id : NodeId) : String :=
  match (d.ancestors id).reverse.filterMap fun a => (d.kind a).name? with
  | [] => "<" ++ (d.kind id).describe ++ ">"
  | names => ".".intercalate names

end Document

/-- A document that is not finished. -/
structure Draft where
  path : Files.Path
  imports : List Import := []
  entities : List NodeId := []
  nodes : Array Node := #[]

namespace Draft

/-- Adds a node. -/
def add (d : Draft) (k : Kind) : NodeId × Draft :=
  (d.nodes.size, { d with nodes := d.nodes.push { kind := k } })

/-- Adds properties. -/
def addProperties (d : Draft) : List (String × NodeId) → List NodeId × Draft
  | [] => ([], d)
  | (name, value) :: rest =>
    let (id, d) := d.add (.property name value)
    let (ids, d) := d.addProperties rest
    (id :: ids, d)

/-- Adds an object with its properties. -/
def addObject (d : Draft) (properties : List (String × NodeId)) : NodeId × Draft :=
  let (ids, d) := d.addProperties properties
  d.add (.object ids)

/-- Adds an entity with a body. -/
def addEntity (d : Draft) (name : String) (body : NodeId) : NodeId × Draft :=
  let (id, d) := d.add (.entity name body)
  (id, { d with entities := d.entities ++ [id] })

/-- Sets the place of a node. -/
def setSpan (d : Draft) (id : NodeId) (span : Span) : Draft :=
  { d with nodes := d.nodes.modify id fun n => { n with span } }

/-- Makes a node the parent of the nodes that it owns. -/
def adopt (nodes : Array Node) (p : NodeId) : Array Node :=
  ((nodes[p]?.getD default).kind.children).foldl
    (fun ns c => ns.modify c fun n => { n with parent := some p }) nodes

/-- The finished document. -/
def finish (d : Draft) : Document :=
  { path := d.path, imports := d.imports, entities := d.entities
    nodes := (List.range d.nodes.size).foldl adopt d.nodes }

end Draft

end TestData.Schema
