import TestData.Template.Names
import TestData.Template.Parser
import TestData.Text.Transform

/-!
Rendering templates.

Blocks nest contexts. A path is looked up in the innermost context unless it climbs; a name that
a block gives to its value goes before. What is not there shows nothing. A definition holds from
where it is rendered; what is included has a context of its own. Rendering fails where a helper
is unknown or lacks an argument, where a list is asked for what is no position, and where
something is included that is not defined.
-/

namespace TestData

namespace Json

/-- The text that a template shows for a document. -/
def shown : Json → String
  | string s => s
  | null => ""
  | array items => "[" ++ ", ".intercalate (shownItems items) ++ "]"
  | object _ => "[object]"
  | j => j.compact
where
  /-- The texts of the items of a list. -/
  shownItems : List Json → List String
    | [] => []
    | j :: rest => shown j :: shownItems rest

mutual
/-- How deep a document is nested. -/
def height : Json → Nat
  | array items => 1 + heightOfItems items
  | object members => 1 + heightOfMembers members
  | _ => 1
/-- The greatest height of items. -/
def heightOfItems : List Json → Nat
  | [] => 0
  | j :: rest => max (height j) (heightOfItems rest)
/-- The greatest height of members. -/
def heightOfMembers : List (String × Json) → Nat
  | [] => 0
  | (_, j) :: rest => max (height j) (heightOfMembers rest)
end

/-- The number that a document is. -/
def number? : Json → Option Float
  | int n => some (Float.ofInt n)
  | float x => some x
  | _ => none

/-- The smallest number that is written with all its digits. -/
def smallestNormal : Float := Float.ofBits 0x0010000000000000

/-- Whether a document counts as true. Zero does so only where it is asked for. -/
def isTruthy (zero : Bool) : Json → Bool
  | null => false
  | bool b => b
  | int n => zero || n ≠ 0
  | float x => zero || smallestNormal ≤ x.abs
  | string s => !s.isEmpty
  | array items => !items.isEmpty
  | object members => !members.isEmpty

mutual
/-- Whether two documents are the same. An integer is not the same as any other number. -/
def same : Json → Json → Bool
  | null, null => true
  | bool a, bool b => a == b
  | int a, int b => a == b
  | float a, float b => a == b
  | string a, string b => a == b
  | array a, array b => sameItems a b
  | object a, object b => sameMembers a b
  | _, _ => false
/-- Whether two lists of documents are the same. -/
def sameItems : List Json → List Json → Bool
  | [], [] => true
  | a :: as, b :: bs => same a b && sameItems as bs
  | _, _ => false
/-- Whether two lists of members are the same. -/
def sameMembers : List (String × Json) → List (String × Json) → Bool
  | [], [] => true
  | (m, a) :: as, (n, b) :: bs => m == n && same a b && sameMembers as bs
  | _, _ => false
end

/-- How two numbers compare. -/
def compareFloats (x y : Float) : Option Ordering :=
  if x < y then some .lt else if x == y then some .eq else if y < x then some .gt else none

/-- How two documents compare: numbers and texts of numbers as numbers, other texts by their
characters. -/
def compare? : Json → Json → Option Ordering
  | int a, int b => some (compare a b)
  | string a, string b => some (compare a b)
  | bool a, bool b => some (compare a b)
  | string a, b => do compareFloats (← (Decimal.readFloat a).toOption) (← b.number?)
  | a, string b => do compareFloats (← a.number?) (← (Decimal.readFloat b).toOption)
  | a, b => do compareFloats (← a.number?) (← b.number?)

end Json

namespace Template

/-! ### Contexts -/

/-- A context: its value, what the block says about the turn, and the names that it gives. -/
structure Frame where
  value : Json
  turn : List (String × Json) := []
  vars : List (String × Json) := []

/-- Where a part is rendered. -/
structure Scope where
  /-- The outermost value. -/
  root : Json
  /-- The contexts, the innermost first. -/
  frames : List Frame
  /-- What stands between the tags of the includes that are open, the innermost first. -/
  between : List (List Part) := []

/-- The value of a context, or of the innermost one if there are not so many. -/
def Scope.valueAt (s : Scope) (depth : Nat) : Json :=
  ((s.frames[depth]?.or s.frames.head?).map Frame.value).getD .null

/-- The position that a text names. -/
def position? (s : String) : Option Nat :=
  let digits := match s.toList with
    | '+' :: ds => ds
    | ds => ds
  let n := Decimal.ofDigits digits
  if digits ≠ [] && digits.all Char.isDigit && n < UInt64.size then some n else none

/-- Goes down from a document. What is not there is null. -/
def descend : Json → List String → Option Json
  | j, [] => some j
  | .array items, s :: rest => do descend (items.getD (← position? s) .null) rest
  | .object members, s :: rest => descend ((members.lookup s).getD .null) rest
  | _, _ :: rest => descend .null rest

/-- The names among steps. -/
def namesOf (steps : List Step) : List String :=
  steps.filterMap fun
    | .named s => some s
    | _ => none

/-- Where a path starts, from the innermost of the contexts, and the names to go down. -/
def start (s : Scope) (all : List Step) : Nat → List Step → Json × List String
  | depth, .up :: rest => start s all (depth + 1) rest
  | _, .root :: _ => (s.root, namesOf all)
  | depth, .named name :: rest =>
    match s.frames.findSome? fun f => f.vars.lookup name with
    | some j => (j, namesOf rest)
    | none => (s.valueAt depth, namesOf all)
  | depth, _ => (s.valueAt depth, namesOf all)

/-- What a path leads to. -/
def Path.value? (s : Scope) (p : Path) : Option Json :=
  let relative := let (j, down) := start s p.steps 0 p.steps; descend j down
  match p.steps with
  | .turn :: rest =>
    let ups := rest.takeWhile (· = .up)
    match rest.drop ups.length with
    | .named name :: _ =>
      some (((s.frames[ups.length]?).bind fun f => f.turn.lookup name).getD .null)
    | _ => relative
  | _ => relative

/-! ### Helpers -/

/-- How a helper compares two arguments. -/
inductive Comparison
  | equal | unequal | greater | atLeast | less | atMost | both | either

namespace Comparison

/-- Whether a comparison holds. -/
def holds (a b : Json) : Comparison → Bool
  | equal => Json.same a b
  | unequal => !Json.same a b
  | greater => Json.compare? a b = some .gt
  | atLeast => (Json.compare? a b).any (· ≠ .lt)
  | less => Json.compare? a b = some .lt
  | atMost => (Json.compare? a b).any (· ≠ .gt)
  | both => a.isTruthy false && b.isTruthy false
  | either => a.isTruthy false || b.isTruthy false

end Comparison

/-- What can be called in a template. -/
inductive Helper
  /-- Renders its block if its argument counts as the truth value. -/
  | condition (wanted : Bool)
  | each
  | within
  | lookup
  | raw
  | log
  | comparison (c : Comparison)
  | negation
  | length
  | transform (t : Text.Transform)

namespace Helper

/-- The helper of a name. -/
def ofName? : String → Option Helper
  | "if" => some (.condition true)
  | "unless" => some (.condition false)
  | "each" => some .each
  | "with" => some .within
  | "lookup" => some .lookup
  | "raw" => some .raw
  | "log" => some .log
  | "eq" => some (.comparison .equal)
  | "ne" => some (.comparison .unequal)
  | "gt" => some (.comparison .greater)
  | "gte" => some (.comparison .atLeast)
  | "lt" => some (.comparison .less)
  | "lte" => some (.comparison .atMost)
  | "and" => some (.comparison .both)
  | "or" => some (.comparison .either)
  | "not" => some .negation
  | "len" => some .length
  | name => if helpers.contains name then (Text.Transform.ofName? name).map .transform else none

/-- The levels at which notes can be taken. -/
def levels : List String := ["error", "warn", "info", "debug", "trace"]

/-- The item of a list or the member of an object. -/
def look : Json → Json → Json
  | .array items, .int n => if 0 ≤ n then items.getD n.toNat .null else .null
  | .object members, .string s => (members.lookup s).getD .null
  | _, _ => .null

/-- The number of parts of a document. -/
def size : Json → Nat
  | .array items => items.length
  | .object members => members.length
  | .string s => s.utf8ByteSize
  | _ => 0

/-- The text of an argument of a helper for text. -/
def textOf : Json → String
  | .string s => s
  | .null => ""
  | j => j.compact

/-- What a helper gives where it has no block. -/
def call (h : Helper) (params : List Json) (named : List (String × Json)) : Option Json :=
  match h, params with
  | condition _, _ :: _ | each, _ :: _ | within, _ :: _ | raw, _ => some (.string "")
  | lookup, a :: b :: _ => some (look a b)
  | log, _ =>
    match named.lookup "level" with
    | some (.string s) =>
      if levels.contains (Text.loweredAscii s) then some (.string "") else none
    | _ => some (.string "")
  | comparison c, a :: b :: _ => some (.bool (c.holds a b))
  | negation, a :: _ => some (.bool !a.isTruthy false)
  | length, a :: _ => some (.int (size a))
  | transform t, _ => some (.string (t.apply ((params.head?.map textOf).getD "")))
  | _, _ => none

end Helper

/-! ### Expressions -/

mutual
/-- What an expression in parentheses or a tag with arguments gives. -/
def Expression.call (s : Scope) : Expression → Option Json
  | .mk name params named => do
    let h ← Helper.ofName? (← name.text s)
    h.call (← paramValues s params) (← namedValues s named)
/-- The name that a name stands for. -/
def Name.text (s : Scope) : Name → Option String
  | .word w => some w
  | .path p => some p.raw
  | .sub e => (e.call s).map Json.shown
/-- The value of an argument. -/
def Argument.value (s : Scope) : Argument → Option Json
  | .path p => p.value? s
  | .literal j => some j
  | .sub e => e.call s
/-- The values of arguments. -/
def paramValues (s : Scope) : List Argument → Option (List Json)
  | [] => some []
  | a :: rest => do return (← a.value s) :: (← paramValues s rest)
/-- The values of named arguments. -/
def namedValues (s : Scope) : List (String × Argument) → Option (List (String × Json))
  | [] => some []
  | (n, a) :: rest => do return (n, ← a.value s) :: (← namedValues s rest)
end

/-- What a name alone shows, which is no helper. -/
def Name.shown (s : Scope) : Name → Option Json
  | .word _ => some .null
  | .path p => p.value? s
  | .sub e => e.call s

/-- The text that an expression shows. -/
def Expression.shown (s : Scope) : Expression → Option String
  | .mk name [] [] => do
    match Helper.ofName? (← name.text s) with
    | some h => (h.call [] []).map Json.shown
    | none => (name.shown s).map Json.shown
  | e => (e.call s).map Json.shown

/-- The name that an expression calls, and the arguments. -/
def Expression.parts (s : Scope) : Expression →
    Option (String × List Json × List (String × Json))
  | .mk name params named => do
    return (← name.text s, ← paramValues s params, ← namedValues s named)

/-! ### Blocks -/

/-- The names that a block gives to a value and its key. -/
def given (vars : List String) (value key : Json) : List (String × Json) :=
  match vars with
  | [v] => [(v, value)]
  | [v, k] => if v = k then [(v, key)] else [(v, value), (k, key)]
  | _ => []

/-- What a block says about a turn. -/
def turnOf (i count : Nat) : List (String × Json) :=
  [("first", .bool (i = 0)), ("last", .bool (i + 1 = count)), ("index", .int i)]

/-- The context of each turn of a block over a list or an object. -/
def turns (vars : List String) : Json → List Frame
  | .array items =>
    items.mapIdx fun i j =>
      { value := j, turn := turnOf i items.length, vars := given vars j (.int i) }
  | .object members =>
    members.mapIdx fun i (k, j) =>
      { value := j, turn := ("key", .string k) :: turnOf i members.length
        vars := given vars j (.string k) }
  | _ => []

/-- What a block renders: its body in a context each, what it has for the other case, or a text
of its own. -/
inductive Choice
  | body (frames : List (List Frame))
  | otherwise
  | text (s : String)

/-- What the block of an expression renders. -/
def choice (s : Scope) (e : Expression) (vars : List String) (hasOther : Bool) :
    Option Choice := do
  let (name, params, named) ← e.parts s
  match ← Helper.ofName? name, params with
  | .condition wanted, a :: _ =>
    let zero := match named.lookup "includeZero" with
      | some (.bool b) => b
      | _ => false
    return if a.isTruthy zero = wanted then .body [s.frames] else .otherwise
  | .each, a :: _ =>
    match turns vars a with
    | [] => return if hasOther then .otherwise else .body []
    | l => return .body (l.map (· :: s.frames))
  | .within, a :: _ =>
    if a.isTruthy false then
      let vars := if vars.length = 1 then given vars a .null else []
      return .body [{ value := a, vars } :: s.frames]
    else return .otherwise
  | .raw, _ => return .body [s.frames]
  | h, params => return .text (← h.call params named).shown

/-! ### Definitions -/

/-- A rendering, which knows what has been defined so far, the latest first. -/
abbrev Rendering := StateT (List (String × List Part)) Option

/-- Defines a name as a list of parts. -/
def define (s : Scope) (e : Expression) (body : Option (List Part)) : Rendering Unit := do
  match ← e.parts s, body with
  | ("inline", .string name :: _, _), some parts => modify fun d => (name, parts) :: d
  | _, _ => failure

/-- Makes the definitions among parts. -/
def defineAll (s : Scope) : List Part → Rendering Unit
  | [] => return ()
  | .definition e body :: rest => do
    define s e body
    defineAll s rest
  | _ :: rest => defineAll s rest

/-- The name for what stands between the tags of the include around. -/
def betweenName : String := "@partial-block"

/-- The value that is seen where something is included: the argument or the value around, with
the named arguments put into it. -/
def seen (s : Scope) (params : List Json) (named : List (String × Json)) : Json :=
  let base := params.head?.getD (s.valueAt 0)
  let members := match base with
    | .object ms => ms
    | _ => []
  if named = [] then base
  else .object (named.foldl (fun ms (k, j) => Json.putSorted k j ms) members)

/-- What an expression includes, and where that is rendered. -/
def target (s : Scope) (e : Expression) (between : Option (List Part)) :
    Rendering (List Part × Scope) := do
  let (name, params, named) ← e.parts s
  let frames := [{ value := seen s params named : Frame }]
  let inner := { s with frames, between := between.toList ++ s.between }
  let outer := { s with frames, between := s.between.drop 1 }
  let known ← get
  if name = betweenName then
    match s.between.head?, between with
    | some parts, _ => return (parts, outer)
    | none, some parts => return (parts, inner)
    | none, none => failure
  else
    match (known.lookup name).or between with
    | some parts => return (parts, inner)
    | none => failure

/-- A text whose lines after the first start with an indentation. -/
def indented (indent : List Char) : List Char → List Char
  | '\n' :: c :: rest => '\n' :: indent ++ indented indent (c :: rest)
  | c :: rest => c :: indented indent rest
  | [] => []

/-! ### Rendering -/

/-- Renders items one after the other. -/
def inTurn {α : Type} (render : α → Rendering String) : List α → Rendering String
  | [] => return ""
  | a :: rest => do
    let text ← render a
    return text ++ (← inTurn render rest)

/-- Renders a part. The fuel bounds how deep parts are nested. -/
def Part.render : Nat → Scope → Part → Rendering String
  | 0, _, _ => failure
  | fuel + 1, s, p => do
    let all (s : Scope) := inTurn (Part.render fuel s)
    match p with
    | .text t => return t
    | .value e => e.shown s
    | .block e vars body other =>
      match ← choice s e vars other.isSome with
      | .body l => inTurn (fun frames => all { s with frames } body) l
      | .otherwise => all s (other.getD [])
      | .text t => return t
    | .definition e body =>
      define s e body
      return ""
    | .include e indent between =>
      defineAll s (between.getD [])
      let (parts, inner) ← target s e between
      let text ← all inner parts
      return String.ofList (indented indent.toList text.toList)

mutual
/-- The number of parts in a part. -/
def Part.size : Part → Nat
  | .text _ | .value _ | .definition _ none | .include _ _ none => 1
  | .block _ _ body none => 1 + sizeOfParts body
  | .block _ _ body (some other) => 1 + sizeOfParts body + sizeOfParts other
  | .definition _ (some parts) | .include _ _ (some parts) => 1 + sizeOfParts parts
/-- The number of parts in parts. -/
def sizeOfParts : List Part → Nat
  | [] => 0
  | p :: rest => p.size + sizeOfParts rest
end

/-- Renders a template with the names that it may ask for. What is included may include itself as
long as it goes down in the data. -/
def render? (t : Template) (data : Json) : Option String :=
  let fuel := (sizeOfParts t.parts + 1) * (data.height + 2)
  ((inTurn (Part.render fuel { root := data, frames := [{ value := data }] }) t.parts).run []).map
    (·.1)

end Template

end TestData
