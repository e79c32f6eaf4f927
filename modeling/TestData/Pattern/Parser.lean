import TestData.Decimal.Reader
import TestData.Pattern.Syntax
import TestData.Text.Blank
import TestData.Text.CodeSet

/-!
Reading patterns.

A reader of a part takes the characters from where the part starts and gives the part and what
follows it, or nothing where the pattern is malformed. In verbose mode blanks and comments may
stand between parts. The readers of sequences and of classes call themselves for what is nested;
their first argument bounds the depth and the length together and the length of the text is
enough for it.
-/

namespace TestData.Pattern

/-- Leaves out blanks and comments in verbose mode; a comment goes to the end of its line. -/
def skip (verbose : Bool) (cs : List Char) : List Char :=
  if verbose then go false cs else cs
where
  /-- `inside` tells whether a comment has started. -/
  go (inside : Bool) : List Char → List Char
    | [] => []
    | c :: rest =>
      if inside then go (c ≠ '\n') rest
      else if Text.isBlank c then go false rest
      else if c = '#' then go true rest
      else c :: rest

/-- The characters that a backslash makes plain. -/
def isMeta (c : Char) : Bool :=
  "\\.+*?()|[]^$#&-~".toList.contains c || c = '\x7b' || c = '\x7d'

/-- The character with a code point, if there is one. -/
def charOf? (n : Nat) : Option Char :=
  if n < 0xD800 || (0xDFFF < n && n ≤ 0x10FFFF) then some (Char.ofNat n) else none

/-- What an escape stands for. -/
inductive Escape
  | literal (c : Char) (asByte : Bool)
  | assertion
  | perl (kind : Perl) (negated : Bool)
  | property (name : PropertyName) (negated : Bool)

/-- Reads `n` hexadecimal digits. -/
def readHexDigits (verbose : Bool) : Nat → List Char → List Char → Option (List Char × List Char)
  | 0, cs, ds => some (ds.reverse, cs)
  | n + 1, c :: rest, ds =>
    if Text.isHex c then readHexDigits verbose n (skip verbose rest) (c :: ds) else none
  | _ + 1, [], _ => none

/-- Reads hexadecimal digits up to a closing brace. -/
def readHexBraced (verbose : Bool) (cs : List Char) : Option (List Char × List Char) :=
  let inner := cs.takeWhile (· ≠ '\x7d')
  let ds := if verbose then inner.filter (!Text.isBlank ·) else inner
  match cs.dropWhile (· ≠ '\x7d') with
  | _ :: rest => if ds ≠ [] && ds.all Text.isHex then some (ds, skip verbose rest) else none
  | [] => none

/-- Reads a character by its code point; `width` is the number of digits without braces. -/
def readHex (verbose : Bool) (width : Nat) (cs : List Char) : Option (Escape × List Char) := do
  match cs with
  | '\x7b' :: rest =>
    let (ds, rest) ← readHexBraced verbose rest
    return (.literal (← charOf? (Text.ofHex ds)) false, rest)
  | cs =>
    let (ds, rest) ← readHexDigits verbose width cs []
    return (.literal (← charOf? (Text.ofHex ds)) (width = 2), rest)

/-- The characters before and after the first occurrence of a character. -/
def cutAt? (mark : Char) (cs : List Char) : Option (List Char × List Char) :=
  match cs.dropWhile (· ≠ mark) with
  | _ :: rest => some (cs.takeWhile (· ≠ mark), rest)
  | [] => none

/-- The property that a name in braces stands for, and whether the name negates it. -/
def propertyName (cs : List Char) : PropertyName × Bool :=
  let pair (l r : List Char) := PropertyName.ofKind (String.ofList l) (String.ofList r)
  match cutAt? ':' cs, cutAt? '=' cs with
  | some (l, r), none => (pair l r, false)
  | none, some (l, r) =>
    if l.getLast? = some '!' then (pair l.dropLast r, true) else (pair l r, false)
  | some (l, r), some (l', r') =>
    if l'.getLast? = some '!' then (pair l'.dropLast r', true) else (pair l r, false)
  | none, none => (.single (String.ofList cs), false)

/-- Reads the name of a property after `p`, or after `P` where it is negated. -/
def readProperty (verbose negated : Bool) (cs : List Char) : Option (Escape × List Char) :=
  match skip verbose cs with
  | [] => none
  | '\x7b' :: rest => do
    let (inner, rest) ← cutAt? '\x7d' rest
    let name := if verbose then inner.filter (!Text.isBlank ·) else inner
    let (p, turned) := propertyName name
    return (.property p (negated != turned), rest)
  | '\\' :: _ => none
  | c :: rest => some (.property (.single (String.ofList [c])) negated, skip verbose rest)

/-- Reads an escape after its backslash. -/
def readEscape (verbose : Bool) (cs : List Char) : Option (Escape × List Char) :=
  match cs with
  | [] => none
  | c :: rest =>
    let plain (d : Char) : Option (Escape × List Char) := some (.literal d false, rest)
    if isMeta c then plain c
    else
      match c with
      | 'x' => readHex verbose 2 (skip verbose rest)
      | 'u' => readHex verbose 4 (skip verbose rest)
      | 'U' => readHex verbose 8 (skip verbose rest)
      | 'p' => readProperty verbose false rest
      | 'P' => readProperty verbose true rest
      | 'd' => some (.perl .digit false, rest)
      | 'D' => some (.perl .digit true, rest)
      | 's' => some (.perl .blank false, rest)
      | 'S' => some (.perl .blank true, rest)
      | 'w' => some (.perl .word false, rest)
      | 'W' => some (.perl .word true, rest)
      | 'a' => plain '\x07'
      | 'f' => plain '\x0c'
      | 't' => plain '\t'
      | 'n' => plain '\n'
      | 'r' => plain '\r'
      | 'v' => plain '\x0b'
      | ' ' => if verbose then plain ' ' else none
      | 'A' | 'z' | 'b' | 'B' => some (.assertion, rest)
      | _ => none

/-- Reads one member of a class that is not a class itself. -/
def readClassItem (verbose : Bool) (cs : List Char) : Option (Escape × List Char) :=
  match cs with
  | '\\' :: rest => readEscape verbose rest
  | c :: rest => some (.literal c false, rest)
  | [] => none

/-- The class that a member stands for. -/
def Escape.toClass? : Escape → Option ClassSet
  | .literal c _ => some (.literal c)
  | .perl k n => some (.perl k n)
  | .property p n => some (.property p n)
  | .assertion => none

/-- Reads a member of a class or a range of members. A hyphen before the end of the class or
before another hyphen starts no range. -/
def readClassRange (verbose : Bool) (cs : List Char) : Option (ClassSet × List Char) := do
  let (first, rest) ← readClassItem verbose cs
  match skip verbose rest with
  | [] => none
  | '-' :: after =>
    let next := (skip verbose after).head?
    if next = some ']' || next = some '-' then return (← first.toClass?, '-' :: after)
    else
      let (second, rest) ← readClassItem verbose (skip verbose after)
      match first, second with
      | .literal a _, .literal b _ => if a ≤ b then return (.range a b, rest) else none
      | _, _ => none
  | rest => return (← first.toClass?, rest)

/-- The names of the classes between colons. -/
def asciiNames : List String :=
  ["alnum", "alpha", "ascii", "blank", "cntrl", "digit", "graph", "lower", "print", "punct",
    "space", "upper", "word", "xdigit"]

/-- Reads a class between colons, after its bracket. -/
def readAsciiClass (cs : List Char) : Option (ClassSet × List Char) :=
  match cs with
  | ':' :: rest =>
    let (negated, rest) := match rest with
      | '^' :: r => (true, r)
      | r => (false, r)
    match cutAt? ':' rest with
    | some (name, ']' :: rest) =>
      let name := String.ofList name
      if asciiNames.contains name then some (.ascii name negated, rest) else none
    | _ => none
  | _ => none

/-- Takes hyphens at the start of a class as members. -/
def readLeadingHyphens (verbose : Bool) : Nat → List Char → List ClassSet →
    List Char × List ClassSet
  | n + 1, '-' :: rest, items =>
    readLeadingHyphens verbose n (skip verbose rest) (.literal '-' :: items)
  | _, cs, items => (cs, items)

/-- Reads the start of a class after its bracket: whether it is negated and the members that
could not stand further on, last first. -/
def readClassStart (verbose : Bool) (cs : List Char) : Bool × List ClassSet × List Char :=
  let (negated, cs) := match skip verbose cs with
    | '^' :: rest => (true, skip verbose rest)
    | cs => (false, cs)
  let (cs, items) := readLeadingHyphens verbose cs.length cs []
  match items, cs with
  | [], ']' :: rest => (negated, [.literal ']'], skip verbose rest)
  | _, _ => (negated, items, cs)

/-- Ends an operand: the operation that waits for it is applied. -/
def applyOp (waiting : Option (ClassOp × ClassSet)) (items : List ClassSet) : ClassSet :=
  let operand := ClassSet.union items.reverse
  match waiting with
  | some (op, left) => .operation op left operand
  | none => operand

/-- Reads a class from behind its start up to its closing bracket. -/
def readClassBody (verbose : Bool) : Nat → List Char → List ClassSet →
    Option (ClassOp × ClassSet) → Option (ClassSet × List Char)
  | 0, _, _, _ => none
  | n + 1, cs, items, waiting =>
    let operation (op : ClassOp) (rest : List Char) :=
      readClassBody verbose n rest [] (some (op, applyOp waiting items))
    match skip verbose cs with
    | [] => none
    | '[' :: rest =>
      match readAsciiClass rest with
      | some (s, rest) => readClassBody verbose n rest (s :: items) waiting
      | none => do
        let (negated, start, inner) := readClassStart verbose rest
        let (s, rest) ← readClassBody verbose n inner start none
        readClassBody verbose n rest (.nested negated s :: items) waiting
    | ']' :: rest => some (applyOp waiting items, rest)
    | '&' :: '&' :: rest => operation .intersection rest
    | '-' :: '-' :: rest => operation .difference rest
    | '~' :: '~' :: rest => operation .symmetricDifference rest
    | cs => do
      let (s, rest) ← readClassRange verbose cs
      readClassBody verbose n rest (s :: items) waiting

/-- Reads a class after its bracket. -/
def readClass (verbose : Bool) (cs : List Char) : Option (ClassSet × List Char) := do
  let (negated, items, inner) := readClassStart verbose cs
  let (s, rest) ← readClassBody verbose (cs.length + 1) inner items none
  return (.nested negated s, rest)

/-- Reads a number of at most 32 bits with blanks around it. -/
def readCount (cs : List Char) : Option (Nat × List Char) :=
  let cs := Text.trimLeft cs
  let ds := cs.takeWhile Decimal.isDigit
  let n := Decimal.ofDigits ds
  if ds = [] || UInt32.size ≤ n then none
  else some (n, Text.trimLeft (cs.dropWhile Decimal.isDigit))

/-- Reads the bounds of a repeat after the opening brace. -/
def readBounds (verbose : Bool) (cs : List Char) : Option ((Nat × Option Nat) × List Char) := do
  let (least, rest) ← readCount (skip verbose cs)
  match rest with
  | '\x7d' :: rest => return ((least, some least), skip verbose rest)
  | ',' :: rest =>
    match skip verbose rest with
    | '\x7d' :: rest => return ((least, none), skip verbose rest)
    | rest =>
      let (most, rest) ← readCount rest
      match rest with
      | '\x7d' :: rest =>
        if least ≤ most then return ((least, some most), skip verbose rest) else none
      | _ => none
  | _ => none

/-- Leaves out the mark of a repeat that prefers few. -/
def skipLazy (cs : List Char) : List Char :=
  match cs with
  | '?' :: rest => rest
  | _ => cs

/-- Repeats the last part of a sequence, which must be one that can be repeated. -/
def repeatLast (least : Nat) (most : Option Nat) : List Tree → Option (List Tree)
  | [] => none
  | .empty :: _ => none
  | .flags _ :: _ => none
  | t :: rest => some (.repetition least most t :: rest)

/-- Reads switches up to a colon or a closing parenthesis. `seen` holds the letters so far, of
which none may come twice. The last character read and whether there was any letter come with
the result. -/
def readFlags (seen : List Char) (on : Bool) (f : Flags) :
    List Char → Option (Flags × Bool × Char × List Char)
  | [] => none
  | c :: rest =>
    if c = ':' || c = ')' then
      if !on && seen.head? = some '-' then none else some (f, seen ≠ [], c, rest)
    else if seen.contains c then none
    else
      match c with
      | '-' => readFlags (c :: seen) false f rest
      | 'i' => readFlags (c :: seen) on { f with ignoreCase := some on } rest
      | 's' => readFlags (c :: seen) on { f with dotAll := some on } rest
      | 'u' => readFlags (c :: seen) on { f with unicode := some on } rest
      | 'x' => readFlags (c :: seen) on { f with verbose := some on } rest
      | 'm' | 'U' => readFlags (c :: seen) on f rest
      | _ => none

/-- Whether a character may stand in the name of a group. -/
def isNameChar (first : Bool) (c : Char) : Bool :=
  c = '_' || ('a' ≤ c && c ≤ 'z') || ('A' ≤ c && c ≤ 'Z') ||
    (!first && (Decimal.isDigit c || c = '.' || c = '[' || c = ']'))

/-- Reads the name of a group up to its closing mark. -/
def readGroupName (cs : List Char) : Option (List Char × List Char) :=
  match cutAt? '>' cs with
  | some (c :: name, rest) =>
    if isNameChar true c && name.all (isNameChar false) then some (c :: name, rest) else none
  | _ => none

/-- What an opening parenthesis starts. -/
inductive Opening
  /-- Switches for the rest of the group that holds them. -/
  | flags (f : Flags)
  | group (f : Option Flags) (name : Option (List Char))

/-- Reads what follows an opening parenthesis, up to the body of the group. -/
def readOpening (verbose : Bool) (cs : List Char) : Option (Opening × List Char) :=
  match skip verbose cs with
  | '?' :: '=' :: _ => none
  | '?' :: '!' :: _ => none
  | '?' :: '<' :: _ => none
  | '?' :: 'P' :: '<' :: rest => do
    let (name, rest) ← readGroupName rest
    return (.group none (some name), rest)
  | '?' :: rest => do
    let (f, any, c, rest) ← readFlags [] true {} rest
    if c = ')' then
      if any then return (.flags f, rest) else none
    else return (.group (some f) none, rest)
  | rest => some (.group none none, rest)

/-- The tree of a sequence, given last part first. -/
def sequenceOf : List Tree → Tree
  | [] => .empty
  | [t] => t
  | ts => .sequence ts.reverse

/-- The tree of branches, given last branch first, and of the sequence after them. -/
def alternationOf (branches : List Tree) (parts : List Tree) : Tree :=
  if branches = [] then sequenceOf parts
  else .alternation (sequenceOf parts :: branches).reverse

/-- Where a reader of a sequence stands. -/
structure Cursor where
  rest : List Char
  verbose : Bool
  /-- The names of the groups so far. -/
  names : List (List Char)

/-- The part that an escape stands for. -/
def Escape.toTree : Escape → Tree
  | .literal c b => .literal c b
  | .assertion => .assertion
  | .perl k n => .charClass (.perl k n)
  | .property p n => .charClass (.property p n)

/-- Reads branches of sequences up to a closing parenthesis or the end. `parts` and `branches`
hold what has been read, last first. -/
def readBody : Nat → Cursor → List Tree → List Tree → Option (Tree × Cursor)
  | 0, _, _, _ => none
  | n + 1, k, parts, branches =>
    let repeated (least : Nat) (most : Option Nat) (rest : List Char) := do
      let parts ← repeatLast least most parts
      readBody n { k with rest := skipLazy rest } parts branches
    match skip k.verbose k.rest with
    | [] => some (alternationOf branches parts, { k with rest := [] })
    | c :: rest =>
      match c with
      | ')' => some (alternationOf branches parts, { k with rest := c :: rest })
      | '|' => readBody n { k with rest } [] (sequenceOf parts :: branches)
      | '?' => repeated 0 (some 1) rest
      | '*' => repeated 0 none rest
      | '+' => repeated 1 none rest
      | '\x7b' => do
        let ((least, most), rest) ← readBounds k.verbose rest
        repeated least most rest
      | '[' => do
        let (s, rest) ← readClass k.verbose rest
        readBody n { k with rest } (.charClass s :: parts) branches
      | '\\' => do
        let (e, rest) ← readEscape k.verbose rest
        readBody n { k with rest } (e.toTree :: parts) branches
      | '.' => readBody n { k with rest } (.dot :: parts) branches
      | '^' | '$' => readBody n { k with rest } (.assertion :: parts) branches
      | '(' => do
        match ← readOpening k.verbose rest with
        | (.flags f, rest) =>
          let k' := { k with rest, verbose := f.verbose.getD k.verbose }
          readBody n k' (.flags f :: parts) branches
        | (.group f name, rest) =>
          let names ← match name with
            | some name => if k.names.contains name then none else some (name :: k.names)
            | none => some k.names
          let verbose := (f.bind (·.verbose)).getD k.verbose
          let (body, inner) ← readBody n { rest, verbose, names } [] []
          match inner.rest with
          | ')' :: rest =>
            readBody n { k with rest, names := inner.names } (.group f body :: parts) branches
          | _ => none
      | c => readBody n { k with rest } (.literal c false :: parts) branches

mutual
/-- The depth of nesting, in which every tree with parts counts. -/
def Tree.depth : Tree → Nat
  | .repetition _ _ body => body.depth + 1
  | .group _ body => body.depth + 1
  | .sequence parts => depths parts + 1
  | .alternation branches => depths branches + 1
  | .charClass _ => 1
  | _ => 0
/-- The greatest depth of some trees. -/
def depths : List Tree → Nat
  | [] => 0
  | t :: rest => max t.depth (depths rest)
end

/-- The greatest depth of a pattern. -/
def greatestDepth : Nat := 250

/-- Reads a pattern. -/
def parse? (s : String) : Option Tree :=
  let cs := s.toList
  match readBody (2 * cs.length + 1) ⟨cs, false, []⟩ [] [] with
  | some (t, k) => if k.rest = [] && t.depth ≤ greatestDepth then some t else none
  | none => none

end TestData.Pattern
