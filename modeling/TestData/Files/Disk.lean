import TestData.Files.Path

/-!
A file system as a value: directories and files under a root, and a current directory.

Looking up a path goes from name to name. It fails with `missing` when a name is not there and
with `barred` when a file stands where a directory is needed.
-/

namespace TestData.Files

/-- The names from the root to a place. -/
abbrev Place := List String

/-- What is at a place. -/
inductive Entry
  | directory
  | file (content : ByteArray)
  deriving Inhabited

/-- Why a file cannot be had. -/
inductive Trouble
  | missing
  | barred
  deriving DecidableEq

/-- A file system. -/
structure Disk where
  /-- The current directory. -/
  current : Place
  /-- What is at each place but the root. -/
  entries : List (Place × Entry)

namespace Disk

/-- A file system whose current directory is empty. -/
def ofDirectory (d : Place) : Disk :=
  { current := d, entries := (List.range d.length).map fun i => (d.take (i + 1), .directory) }

/-- What is at a place. -/
def at? (d : Disk) (p : Place) : Option Entry :=
  if p = [] then some .directory else d.entries.lookup p

/-- Whether there is a directory at a place. -/
def isDirectoryAt (d : Disk) (p : Place) : Bool :=
  match d.at? p with
  | some .directory => true
  | _ => false

/-- Goes from a place along names, of which the last need not be there. The result is the place
and whether something is there. -/
def walk (d : Disk) (here : Place) : List String → Except Trouble (Place × Bool)
  | [] => .ok (here, true)
  | name :: rest =>
    if !d.isDirectoryAt here then .error .barred
    else if name = "." then d.walk here rest
    else if name = ".." then d.walk here.dropLast rest
    else
      let next := here ++ [name]
      match d.at? next with
      | some _ => d.walk next rest
      | none => if rest = [] then .ok (next, false) else .error .missing

/-- The names that lead to what a path names. A slash at the end asks for a directory. -/
def route (p : Path) : List String :=
  let pieces := Path.pieces p
  let named := pieces.filter (· ≠ "")
  if pieces.getLast? = some "" then named ++ ["."] else named

/-- The place that a path names and whether something is there. -/
def find (d : Disk) (p : Path) : Except Trouble (Place × Bool) :=
  if p = "" then .error .missing
  else d.walk (if Path.isAbsolute p then [] else d.current) (route p)

/-- The place of what a path names. -/
def place (d : Disk) (p : Path) : Except Trouble Place :=
  match d.find p with
  | .ok (q, true) => .ok q
  | .ok (_, false) => .error .missing
  | .error e => .error e

/-- The absolute path of a place. -/
def pathOf (p : Place) : Path :=
  if p = [] then "/" else String.join (p.map ("/" ++ ·))

/-- Whether a path names a file. -/
def isFile (d : Disk) (p : Path) : Bool :=
  match d.place p with
  | .ok q =>
    match d.at? q with
    | some (.file _) => true
    | _ => false
  | .error _ => false

/-- The content of a file. -/
def bytes (d : Disk) (p : Path) : Except Trouble ByteArray := do
  match d.at? (← d.place p) with
  | some (.file content) => return content
  | _ => .error .barred

/-- The content of a file as text. -/
def text (d : Disk) (p : Path) : Except Trouble String := do
  match String.fromUTF8? (← d.bytes p) with
  | some s => return s
  | none => .error .barred

/-- Puts an entry at a place, in the place of what was there. -/
def set (d : Disk) (p : Place) (e : Entry) : Disk :=
  { d with entries := (p, e) :: d.entries.filter (·.1 ≠ p) }

/-- Opens a file for writing, at its end or emptied. The file is made if it is not there. -/
def openFile (d : Disk) (p : Path) (append : Bool) : Except Trouble (Place × Disk) := do
  let (q, _) ← d.find p
  match d.at? q with
  | some .directory => .error .barred
  | some (.file content) => return (q, d.set q (.file (if append then content else .empty)))
  | none => return (q, d.set q (.file .empty))

/-- Adds bytes to the end of a file. -/
def append (d : Disk) (p : Place) (more : ByteArray) : Disk :=
  match d.at? p with
  | some (.file content) => d.set p (.file (content ++ more))
  | _ => d.set p (.file more)

/-- The length of a file. -/
def sizeAt (d : Disk) (p : Place) : Nat :=
  match d.at? p with
  | some (.file content) => content.size
  | _ => 0

/-- Makes directories along names, as far as they are not there. -/
def makeDirectories (d : Disk) (here : Place) : List String → Disk
  | [] => d
  | name :: rest =>
    if name = "." then d.makeDirectories here rest
    else if name = ".." then d.makeDirectories here.dropLast rest
    else
      let next := here ++ [name]
      let d := if (d.at? next).isSome then d else d.set next .directory
      d.makeDirectories next rest

/-- Puts an entry at a path, making the directories that are missing. -/
def store (d : Disk) (p : Path) (e : Entry) : Disk :=
  let start := if Path.isAbsolute p then [] else d.current
  let names := route p
  let d := d.makeDirectories start names.dropLast
  match d.find p with
  | .ok (q, _) => if d.isDirectoryAt q then d else d.set q e
  | .error _ => d

/-- Takes a file away, if it is there. -/
def remove (d : Disk) (p : Path) : Disk :=
  match d.place p with
  | .ok q => if d.isDirectoryAt q then d else { d with entries := d.entries.filter (·.1 ≠ q) }
  | .error _ => d

end Disk

end TestData.Files
