import TestData.Decimal.Layout
import TestData.Schema.Number
import TestData.Yaml.Node

/-!
The tree that a markup document stands for.

A plain scalar is null, a truth value, a number or a string, as its text decides. A number keeps
the text it was written as. `Tree.withDecimals` turns a number into a tagged text where the number
alone would not give that text back.
-/

namespace TestData.Yaml

/-- A number: an integer that fits into 64 bits, with or without a sign, or a floating-point
number. -/
inductive Number
  | whole (n : Int)
  | real (x : Float)

namespace Number

/-- The text of a number. -/
def text : Number → String
  | whole n => toString n
  | real x => Decimal.Layout.markup.text x

/-- Whether two numbers are the same key. -/
def same : Number → Number → Bool
  | whole a, whole b => a == b
  | real a, real b => a == b || (a.isNaN && b.isNaN)
  | _, _ => false

/-- The floating-point value. -/
def toFloat : Number → Float
  | whole n => Float.ofInt n
  | real x => x

/-- The integer that a number is, if it fits into 64 bits with a sign. -/
def toInt? : Number → Option Int
  | whole n => if n ≤ Decimal.greatestInteger then some n else none
  | real _ => none

end Number

/-- A tree. -/
inductive Tree
  | null
  | bool (b : Bool)
  | number (n : Number) (written : String)
  | string (s : String)
  | sequence (items : List Tree)
  | mapping (pairs : List (Tree × Tree))
  | tagged (tag : String) (content : Tree)
  deriving Inhabited

/-! ### Plain scalars -/

/-- The words for null. -/
def isNull (s : String) : Bool := s = "null" || s = "Null" || s = "NULL" || s = "~"

/-- The truth value that a word is. -/
def readBool? (s : String) : Option Bool :=
  if s = "true" || s = "True" || s = "TRUE" then some true
  else if s = "false" || s = "False" || s = "FALSE" then some false
  else none

/-- The value of a digit of any base. -/
def digitValue? (c : Char) : Option Nat :=
  if c.isDigit then some (c.toNat - '0'.toNat)
  else if 'a' ≤ c && c ≤ 'z' then some (c.toNat - 'a'.toNat + 10)
  else if 'A' ≤ c && c ≤ 'Z' then some (c.toNat - 'A'.toNat + 10)
  else none

/-- The number that digits of a base denote. -/
def readDigits? (base : Nat) (cs : List Char) : Option Nat :=
  if cs = [] then none
  else cs.foldlM (fun n c => do
    let d ← digitValue? c
    if d < base then some (base * n + d) else none) 0

/-- The digits of a scalar and their base, after a mark for the base. -/
def baseOf? : List Char → Option (Nat × List Char)
  | '0' :: 'x' :: rest => some (16, rest)
  | '0' :: 'o' :: rest => some (8, rest)
  | '0' :: 'b' :: rest => some (2, rest)
  | _ => none

/-- Whether a text is a zero and more digits, with or without a sign. -/
def isPadded (cs : List Char) : Bool :=
  let ds :=
    match cs with
    | '-' :: ds | '+' :: ds => ds
    | ds => ds
  match ds with
  | '0' :: d :: rest => (d :: rest).all Char.isDigit
  | _ => false

/-- The magnitude that a scalar without its sign denotes; `least` is what bounds it. -/
def readMagnitude? (padded : Bool) (bound : Nat) (cs : List Char) : Option Nat :=
  let small (n : Option Nat) := n.filter (· < bound)
  match baseOf? cs with
  | some (base, ds) => small (readDigits? base ds)
  | none => if padded then none else small (readDigits? 10 cs)

/-- The integer without a minus sign below a bound that a scalar denotes. -/
def readNatural? (bound : Nat) (cs : List Char) : Option Nat :=
  let rest := if cs.head? = some '+' then cs.drop 1 else cs
  readMagnitude? (isPadded cs) bound rest

/-- The integer with a minus sign and a magnitude of at most `bound` that a scalar denotes. -/
def readNegative? (bound : Nat) (cs : List Char) : Option Int :=
  match cs with
  | '-' :: rest => (readMagnitude? (isPadded cs) (bound + 1) rest).map fun n => -Int.ofNat n
  | _ => none

/-- The finite floating-point number or the special value that a scalar denotes. -/
def readReal? (s : String) : Option Float :=
  let cs := s.toList
  let rest := if cs.head? = some '+' then cs.drop 1 else cs
  let word := String.ofList rest
  if cs.head? = some '+' && (rest.head? = some '+' || rest.head? = some '-') then none
  else if word = ".inf" || word = ".Inf" || word = ".INF" then some (1 / 0)
  else if s = "-.inf" || s = "-.Inf" || s = "-.INF" then some (-(1 / 0))
  else if s = ".nan" || s = ".NaN" || s = ".NAN" then some (0 / 0)
  else
    match Decimal.readFloat word with
    | .ok x => if x.isFinite then some x else none
    | .error _ => none

/-- The integer that a scalar denotes; nothing inside if it is too large for 64 bits and yet fits
into 128. -/
def readWhole? (s : String) : Option (Option Int) :=
  let cs := s.toList
  if let some n := readNatural? UInt64.size cs then some (some n)
  else if let some n := readNegative? (UInt64.size / 2) cs then some (some n)
  else
    let double := UInt64.size * UInt64.size
    if (readNatural? double cs).isSome || (readNegative? (double / 2) cs).isSome then some none
    else none

/-- What a plain scalar stands for; nothing if it is an integer that is too large. -/
def Tree.ofPlain? (s : String) : Option Tree :=
  if s = "" || isNull s then some .null
  else
    match readBool? s with
    | some b => some (.bool b)
    | none =>
      match readWhole? s with
      | some n => n.map fun n => .number (.whole n) s
      | none =>
        if isPadded s.toList then some (.string s)
        else
          match readReal? s with
          | some x => some (.number (.real x) s)
          | none => some (.string s)

/-- The tag of a node that is kept: one that starts with an exclamation mark, without the mark
unless it is all there is. -/
def keptTag? (tag : Option String) : Option String :=
  match tag.map String.toList with
  | some ['!'] => some "!"
  | some ('!' :: rest) => some (String.ofList rest)
  | _ => none

/-- What a scalar stands for. A standard tag decides what is read; other tags that are not kept
make it a string. -/
def Tree.ofScalar? (tag : Option String) (plain : Bool) (s : String) : Option Tree :=
  match tag with
  | none => if plain then ofPlain? s else some (.string s)
  | some "tag:yaml.org,2002:bool" => (readBool? s).map .bool
  | some "tag:yaml.org,2002:int" => (readWhole? s).join.map fun n => .number (.whole n) s
  | some "tag:yaml.org,2002:float" => (readReal? s).map fun x => .number (.real x) s
  | some "tag:yaml.org,2002:null" => if isNull s then some .null else none
  | some _ => some (.string s)

/-! ### Trees of documents -/

namespace Tree

/-- Tags are the same up to an exclamation mark in front. -/
def bareTag (t : String) : String :=
  match t.toList with
  | '!' :: rest => String.ofList rest
  | _ => t

mutual
/-- Whether two trees are the same key. -/
def same : Tree → Tree → Bool
  | null, null => true
  | bool a, bool b => a == b
  | number a _, number b _ => a.same b
  | string a, string b => a == b
  | sequence a, sequence b => sameItems a b
  | mapping a, mapping b => a.length == b.length && samePairs a b
  | tagged s a, tagged t b => bareTag s == bareTag t && same a b
  | _, _ => false
/-- Whether two lists of trees are the same. -/
def sameItems : List Tree → List Tree → Bool
  | [], [] => true
  | a :: as, b :: bs => same a b && sameItems as bs
  | _, _ => false
/-- Whether every pair of one mapping is in another. -/
def samePairs : List (Tree × Tree) → List (Tree × Tree) → Bool
  | [], _ => true
  | (k, v) :: rest, bs => bs.any (fun (l, w) => same k l && same v w) && samePairs rest bs
end

mutual
/-- How deep a tree is nested; a tree without parts has height one. -/
def height : Tree → Nat
  | sequence items => 1 + itemsHeight items
  | mapping pairs => 1 + pairsHeight pairs
  | tagged _ t => 1 + height t
  | _ => 1
/-- The greatest height of items. -/
def itemsHeight : List Tree → Nat
  | [] => 0
  | t :: rest => max (height t) (itemsHeight rest)
/-- The greatest height of keys and values. -/
def pairsHeight : List (Tree × Tree) → Nat
  | [] => 0
  | (k, v) :: rest => max (max (height k) (height v)) (pairsHeight rest)
end

/-- The value under a name in a mapping. -/
def lookup (pairs : List (Tree × Tree)) (name : String) : Option Tree :=
  match pairs with
  | [] => none
  | (.string k, v) :: rest => if k = name then some v else lookup rest name
  | _ :: rest => lookup rest name

/-- How often nodes are counted against the number of aliases that may be followed. -/
def aliasFactor : Nat := 100

mutual
/-- The number of nodes, where what has parts counts twice. -/
def weight : Node → Nat
  | .scalar _ _ _ | .alias _ => 1
  | .sequence _ items => 2 + itemsWeight items
  | .mapping _ pairs => 2 + pairsWeight pairs
/-- The number of nodes in items. -/
def itemsWeight : List Node → Nat
  | [] => 0
  | n :: rest => weight n + itemsWeight rest
/-- The number of nodes in pairs. -/
def pairsWeight : List (Node × Node) → Nat
  | [] => 0
  | (k, v) :: rest => weight k + weight v + pairsWeight rest
end

/-- A computation that follows aliases as long as any are left. -/
abbrev Walk := StateT Nat Option

/-- The node that a node stands for: itself, or what an alias names. -/
def target (marks : List (Nat × Node)) : Node → Walk Node
  | .alias m => do
    match (← get), marks.lookup m with
    | left + 1, some n =>
      set left
      return n
    | _, _ => failure
  | n => return n

/-- Adds a pair to a mapping that has no such key. -/
def addPair (pairs : List (Tree × Tree)) (k v : Tree) : Walk (List (Tree × Tree)) :=
  if pairs.any fun p => p.1.same k then failure else return pairs ++ [(k, v)]

/-- The tree of a node. What has parts may be nested to the depth given. Where a node is `bare`,
as a key of a tagged mapping is, its own tag does not count. -/
def ofNode (marks : List (Nat × Node)) : Nat → Bool → Node → Walk Tree
  | depth, bare, node => do
    let bare := match node with
      | .alias _ => false
      | _ => bare
    match ← target marks node with
    | .scalar tag plain s =>
      let tag := if bare then none else tag
      match keptTag? tag with
      | some t => return .tagged t (← if plain then ofPlain? s else some (.string s))
      | none => ofScalar? tag plain s
    | .alias _ => failure
    | .sequence tag items =>
      match depth with
      | 0 => failure
      | depth + 1 =>
        let kept := if bare then none else keptTag? tag
        let l ← items.mapM fun n => ofNode marks depth false n
        return kept.elim (.sequence l) (.tagged · (.sequence l))
    | .mapping tag pairs =>
      match depth with
      | 0 => failure
      | depth + 1 =>
        let kept := if bare then none else keptTag? tag
        let l ← pairs.foldlM (fun l (k, v) => do
          let k ← ofNode marks depth (bare || kept.isSome) k
          let v ← ofNode marks depth false v
          addPair l k v) []
        return kept.elim (.mapping l) (.tagged · (.mapping l))

end Tree

/-- How deep a document may be nested. -/
def Document.maxDepth : Nat := 128

/-- The tree of a document. -/
def Document.tree? (d : Document) : Option Tree :=
  match d.root with
  | none => some .null
  | some root =>
    let bound := Tree.aliasFactor * Tree.weight root
    ((Tree.ofNode d.marks Document.maxDepth false root).run bound).map (·.1)

/-! ### Decimal texts -/

namespace Tree

/-- The tag of a decimal number that is kept as text. -/
def decimalTag : String := "decimal"

/-- A number, or its text if the text has a point and the number alone would be written
otherwise. -/
def ofNumber (n : Number) (written : String) : Tree :=
  let readable := match Schema.Number.read written with
    | .ok _ => true
    | .error _ => false
  if written.contains '.' && written ≠ n.text && readable then
    tagged decimalTag (string written)
  else number n written

mutual
/-- The tree whose numbers outside keys are replaced where their texts would be lost. -/
def withDecimals : Tree → Tree
  | number n written => ofNumber n written
  | sequence items => sequence (withDecimalsItems items)
  | mapping pairs => mapping (withDecimalsPairs pairs)
  | tagged t content => tagged t (withDecimals content)
  | t => t
/-- `withDecimals` on the items of a sequence. -/
def withDecimalsItems : List Tree → List Tree
  | [] => []
  | t :: rest => withDecimals t :: withDecimalsItems rest
/-- `withDecimals` on the values of a mapping. -/
def withDecimalsPairs : List (Tree × Tree) → List (Tree × Tree)
  | [] => []
  | (k, v) :: rest => (k, withDecimals v) :: withDecimalsPairs rest
end

/-- A tree without its tags. -/
def untagged : Tree → Tree
  | tagged _ t => untagged t
  | t => t

/-- The text of a decimal number that is kept as text. -/
def decimalText? : Tree → Option String
  | tagged t content =>
    match untagged content with
    | string s => if bareTag t = decimalTag then some s else none
    | _ => none
  | _ => none

end Tree

end TestData.Yaml
