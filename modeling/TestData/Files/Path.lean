/-!
Paths of files, as text.

A path is absolute when it starts with a slash and relative to some directory otherwise. The
text of a path is kept as it was written or joined; what it names is decided by its parts.
-/

namespace TestData.Files

/-- A path as text. -/
abbrev Path := String

namespace Path

/-- Whether a path starts at the root. -/
def isAbsolute (p : Path) : Bool := p.toList.head? = some '/'

/-- The path of `p` as seen from the directory `base`. -/
def join (base p : Path) : Path :=
  if isAbsolute p then p
  else if base = "" || base.toList.getLast? = some '/' then base ++ p
  else base ++ "/" ++ p

/-- A reversed path without slashes and single dots at its end. -/
def stripTail : List Char → List Char
  | '/' :: c :: rest => stripTail (c :: rest)
  | '.' :: '/' :: rest => stripTail ('/' :: rest)
  | cs => cs

/-- The path of what holds `p`; nothing for the root and for the empty path. -/
def parent? (p : Path) : Option Path :=
  let cs := stripTail p.toList.reverse
  if cs = [] || cs = ['/'] then none
  else some (String.ofList (stripTail (cs.dropWhile (· ≠ '/'))).reverse)

/-- The directory of a file: its parent, or the current directory. -/
def directory (p : Path) : Path :=
  match parent? p with
  | some d => if d = "" then "." else d
  | none => "."

/-- The parts between the slashes. -/
def pieces (p : Path) : List String :=
  (p.toList.splitOn '/').map String.ofList

/-- The parts that matter for what a path names: a mark for the root, a dot only at the start,
and the names and double dots. -/
def parts (p : Path) : List String :=
  let named := (pieces p).filter fun s => s ≠ "" && s ≠ "."
  if isAbsolute p then "/" :: named
  else if (pieces p).head? = some "." then "." :: named
  else named

/-- What follows the last dot of the last name; nothing where the only dot starts the name. -/
def extension? (p : Path) : Option String :=
  match (parts p).getLast? with
  | none => none
  | some name =>
    if name = ".." || name = "." || name = "/" then none
    else
      let back := name.toList.reverse
      let ending := back.takeWhile (· ≠ '.')
      match back.dropWhile (· ≠ '.') with
      | '.' :: _ :: _ => some (String.ofList ending.reverse)
      | _ => none

end Path

end TestData.Files
