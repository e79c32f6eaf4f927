import TestData.Yaml.Token

/-!
The nodes of a markup document, as its tokens show them: scalars, sequences, mappings and
aliases, with their tags.

A text has at most one document. An alias keeps the mark of the anchor that had its name when it
was read. A mark is the number of distinct names before, so an anchor whose name was used before
may leave its mark to a later one.
-/

namespace TestData.Yaml

/-- A node. -/
inductive Node
  | scalar (tag : Option String) (plain : Bool) (text : String)
  | sequence (tag : Option String) (items : List Node)
  | mapping (tag : Option String) (pairs : List (Node × Node))
  | alias (mark : Nat)
  deriving Inhabited

/-- The node that stands where nothing is written. -/
def Node.empty : Node := .scalar none true ""

/-- A document: its node, if it has one, and what the marks of anchors stand for. -/
structure Document where
  root : Option Node
  marks : List (Nat × Node)

namespace Node

/-- The tokens that are left, and the anchors and tag handles that are known. -/
structure State where
  tokens : List Token
  handles : List (String × String)
  names : List (String × Nat)
  marks : List (Nat × Node)

/-- A reader of tokens. -/
abbrev Reader := StateT State Option

/-- The token at the front. -/
def peek : Reader (Option Token) := return (← get).tokens.head?

/-- Takes the token at the front away. -/
def skip : Reader Unit := modify fun s => { s with tokens := s.tokens.drop 1 }

/-- Whether the token at the front is one of those given. -/
def sees (l : List Token) : Reader Bool := return (← peek).any l.contains

/-- Takes the token at the front away if it is the one given. -/
def accept (t : Token) : Reader Bool := do
  if ← sees [t] then
    skip
    return true
  else return false

/-- Takes the token at the front away, which has to be the one given. -/
def expect (t : Token) : Reader Unit := do
  if ← accept t then return () else failure

/-- Gives a name to the node that starts here. The result is the mark of the node. -/
def mark (name : String) : Reader Nat := do
  let s ← get
  let m := s.names.length
  set { s with names := (name, m) :: s.names.filter (·.1 ≠ name) }
  return m

/-- The tag that a handle and what follows it stand for. -/
def tagOf (handle suffix : String) : Reader String := do
  if handle = "" then return suffix
  else
    match (← get).handles.lookup handle with
    | some start => return start ++ suffix
    | none => failure

/-- Reads an anchor, if there is one. -/
def anchor : Reader (Option Nat) := do
  match ← peek with
  | some (.anchor name) =>
    skip
    return some (← mark name)
  | _ => return none

/-- Reads a tag, if there is one. -/
def tag : Reader (Option String) := do
  match ← peek with
  | some (.tag handle suffix) =>
    skip
    return some (← tagOf handle suffix)
  | _ => return none

/-- Reads an anchor and a tag in either order. -/
def properties : Reader (Option Nat × Option String) := do
  match ← anchor with
  | some m => return (some m, ← tag)
  | none =>
    match ← tag with
    | some t => return (← anchor, some t)
    | none => return (none, none)

mutual
/-- Reads a node. Outside brackets it may be a block, and the items of a sequence may stand as
far out as the key they belong to if `loose`. The fuel bounds the depth of calls. -/
def read (block loose : Bool) : Nat → Reader Node
  | 0 => failure
  | fuel + 1 => do
    match ← peek with
    | some (.alias name) =>
      skip
      match (← get).names.lookup name with
      | some m => return .alias m
      | none => failure
    | _ =>
      let (m, tag) ← properties
      let n ← content block loose (m.isSome || tag.isSome) tag fuel
      match m with
      | some m => modify fun s => { s with marks := (m, n) :: s.marks }
      | none => pure ()
      return n
/-- Reads a node after its anchor and tag. -/
def content (block loose named : Bool) (tag : Option String) : Nat → Reader Node
  | 0 => failure
  | fuel + 1 => do
    match ← peek with
    | some (.scalar plain text) =>
      skip
      return .scalar tag plain text
    | some .openBracket =>
      skip
      return .sequence tag (← flowItems true fuel)
    | some .openBrace =>
      skip
      return .mapping tag (← flowPairs true fuel)
    | t =>
      if loose && t == some .entry then return .sequence tag (← looseItems fuel)
      else if block && t == some .sequenceStart then
        skip
        return .sequence tag (← blockItems fuel)
      else if block && t == some .mappingStart then
        skip
        return .mapping tag (← blockPairs fuel)
      else if named then return .scalar tag true ""
      else failure
/-- Reads a node of a block unless one of the tokens given stands in its place. -/
def optional (block loose : Bool) (ends : List Token) : Nat → Reader Node
  | 0 => failure
  | fuel + 1 => do
    if ← sees ends then return .empty else read block loose fuel
/-- Reads the items of a block up to its end. -/
def blockItems : Nat → Reader (List Node)
  | 0 => failure
  | fuel + 1 => do
    if ← accept .entry then
      let n ← optional true false [.entry, .blockEnd] fuel
      return n :: (← blockItems fuel)
    else
      expect .blockEnd
      return []
/-- Reads items that no token closes. -/
def looseItems : Nat → Reader (List Node)
  | 0 => failure
  | fuel + 1 => do
    if ← accept .entry then
      let n ← optional true false [.entry, .key, .value, .blockEnd] fuel
      return n :: (← looseItems fuel)
    else return []
/-- Reads the pairs of a block up to its end. -/
def blockPairs : Nat → Reader (List (Node × Node))
  | 0 => failure
  | fuel + 1 => do
    if ← accept .key then
      let ends := [.key, .value, .blockEnd]
      let k ← optional true true ends fuel
      let v ← if ← accept .value then optional true true ends fuel else pure .empty
      return (k, v) :: (← blockPairs fuel)
    else
      expect .blockEnd
      return []
/-- Reads the value of a pair between brackets, if there is one. -/
def flowValue (close : Token) : Nat → Reader Node
  | 0 => failure
  | fuel + 1 => do
    if ← accept .value then optional false false [.comma, close] fuel else return .empty
/-- Reads items up to the closing bracket. An item may be a single pair. -/
def flowItems (first : Bool) : Nat → Reader (List Node)
  | 0 => failure
  | fuel + 1 => do
    if ← accept .closeBracket then return []
    else
      if !first then expect .comma
      if ← accept .key then
        let absent ← sees [.value, .comma, .closeBracket]
        let k ← if absent then skip; pure .empty else read false false fuel
        let v ← flowValue .closeBracket fuel
        return .mapping none [(k, v)] :: (← flowItems false fuel)
      else if ← accept .closeBracket then return []
      else
        let n ← read false false fuel
        return n :: (← flowItems false fuel)
/-- Reads pairs up to the closing brace. A key may stand alone. -/
def flowPairs (first : Bool) : Nat → Reader (List (Node × Node))
  | 0 => failure
  | fuel + 1 => do
    if ← accept .closeBrace then return []
    else
      if !first then expect .comma
      if ← accept .key then
        let k ← optional false false [.value, .comma, .closeBrace] fuel
        let v ← flowValue .closeBrace fuel
        return (k, v) :: (← flowPairs false fuel)
      else if ← accept .closeBrace then return []
      else
        let k ← read false false fuel
        return (k, .empty) :: (← flowPairs false fuel)
end

/-- Reads the directives before a document. The state is whether a version was read. -/
def directives : Bool → List Token → Reader Unit
  | versioned, .version major minor :: rest => do
    if versioned || major ≠ 1 || (minor ≠ 1 && minor ≠ 2) then failure
    else
      skip
      directives true rest
  | versioned, .tagPrefix handle start :: rest => do
    let s ← get
    if s.handles.any (·.1 = handle) then failure
    else
      set { s with handles := s.handles ++ [(handle, start)] }
      skip
      directives versioned rest
  | _, _ => pure ()

/-- Whether a token is a directive or starts a document. -/
def isPreamble : Token → Bool
  | .version _ _ | .tagPrefix _ _ | .documentStart => true
  | _ => false

/-- Reads a document and all the text that belongs to it. -/
def document : Reader (Option Node) := do
  let tokens := (← get).tokens
  let fuel := 4 * tokens.length + 8
  match tokens with
  | [] => return none
  | t :: _ =>
    let explicit := isPreamble t
    if explicit then
      directives false tokens
      expect .documentStart
    modify fun s => { s with handles := s.handles ++ [("!", "!"), ("!!", "tag:yaml.org,2002:")] }
    let bare := (← peek).all fun t => isPreamble t || t == .documentEnd
    let root ← if explicit && bare then pure .empty else read true false fuel
    modify fun s => { s with tokens := s.tokens.dropWhile (· == .documentEnd) }
    if (← peek).isSome then failure
    return some root

end Node

/-- Reads a text of at most one document. -/
def Document.read? (text : String) : Option Document := do
  let tokens ← tokens? text.toList
  let (root, s) ← Node.document.run ⟨tokens, [], [], []⟩
  return ⟨root, s.marks⟩

end TestData.Yaml
