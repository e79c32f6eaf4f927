import TestData.Template.Syntax
import TestData.Decimal.Reader
import TestData.Text.CodeSet

/-!
Reading the tags of templates.

White space may stand between the words of a tag but not inside a path. A reader takes text from
the front or leaves it as it was.
-/

namespace TestData.Template

/-- A reader of text. -/
abbrev Reader := StateT (List Char) Option

namespace Reader

/-- The white space between words. -/
def isGap (c : Char) : Bool := c = ' ' || c = '\t' || c = '\n' || c = '\r'

/-- Goes past white space. -/
def gap : Reader Unit := modify fun cs => cs.dropWhile isGap

/-- Takes a text away. -/
def take (mark : String) : Reader Unit := fun cs =>
  if mark.toList.isPrefixOf cs then some ((), cs.drop mark.length) else none

/-- Goes past white space and takes a text away. -/
def word (mark : String) : Reader Unit := do
  gap
  take mark

/-- Whether a reader takes something. -/
def accepts (r : Reader Unit) : Reader Bool := (do r; return true) <|> return false

/-- Reads characters that satisfy a test, at least one. -/
def some1 (p : Char → Bool) : Reader (List Char) := fun cs =>
  match cs.takeWhile p with
  | [] => none
  | taken => some (taken, cs.dropWhile p)

/-- Fails where a reader takes something, and takes nothing. -/
def refuse {α : Type} (r : Reader α) : Reader Unit := fun cs =>
  match r cs with
  | some _ => none
  | none => some ((), cs)

/-- Reads as often as a reader takes something, at most as often as the number says. -/
def many {α : Type} (r : Reader α) : Nat → Reader (List α)
  | 0 => return []
  | n + 1 => fun cs =>
    match r cs with
    | none => some ([], cs)
    | some (a, rest) => (many r n rest).map fun (as, rest) => (a :: as, rest)

/-- Reads as often as a reader takes something. -/
def all {α : Type} (r : Reader α) : Reader (List α) := do many r (← get).length

end Reader

open Reader

/-- The characters of names. -/
def isSymbol (c : Char) : Bool := c.isAlphanum || c = '_' || c = '-' || c = '$' || 0x80 ≤ c.toNat

/-- Reads a name. -/
def identifier : Reader String := return String.ofList (← some1 isSymbol)

/-! ### Paths -/

/-- Reads what stands between the steps of a path. -/
def separator : Reader Unit := take "/" <|> take "."

/-- Reads a name or any text in brackets. The word `this` is no step. -/
def pathItem : Reader (List Step) := do
  let s ← identifier <|> do
    take "["
    let cs ← get
    set (cs.dropWhile (· ≠ ']'))
    take "]"
    return String.ofList (cs.takeWhile (· ≠ ']'))
  return if s = "this" then [] else [.named s]

/-- Reads a path. -/
def path : Reader Path := do
  let cs ← get
  let _ ← accepts ((do take "this"; separator) <|> take "./")
  let root ← accepts (do take "@root"; separator)
  let turn ← accepts (take "@")
  let ups ← all (do take ".."; separator)
  let first ← pathItem
  let more ← all (do separator; pathItem)
  let rest ← get
  let steps := (if root then [.root] else []) ++ (if turn then [.turn] else []) ++
    ups.map (fun _ => .up) ++ first ++ more.flatten
  return { raw := String.ofList (cs.take (cs.length - rest.length)), steps }

/-! ### Literals -/

/-- The character that a letter stands for after a backslash. -/
def escaped? : Char → Option Char
  | '"' => some '"'
  | '\'' => some '\''
  | '\\' => some '\\'
  | '/' => some '/'
  | 'b' => some '\x08'
  | 'f' => some '\x0c'
  | 'n' => some '\n'
  | 'r' => some '\r'
  | 't' => some '\t'
  | _ => none

/-- A unit of text of 16 bits from four digits of base 16. -/
def unit? (ds : List Char) : Option Nat :=
  if ds.length = 4 && ds.all Text.isHex then some (Text.ofHex ds) else none

/-- The character with a code. -/
def charOf? (n : Nat) : Option Char :=
  if h : n.isValidChar then some (Char.ofNatAux n h) else none

/-- Reads a character by its code after `\u`. Two units may make one character. -/
def readUnits? (cs : List Char) : Option (Char × List Char) := do
  let n ← unit? (cs.take 4)
  let rest := cs.drop 4
  if 0xD800 ≤ n && n < 0xDC00 then
    let m ← unit? ((rest.drop 2).take 4)
    if rest.take 2 = ['\\', 'u'] && 0xDC00 ≤ m && m < 0xE000 then
      return (← charOf? (0x10000 + (n - 0xD800) * 0x400 + (m - 0xDC00)), rest.drop 6)
    else none
  else return (← charOf? n, rest)

/-- Reads a string after its opening quote. The fuel bounds the number of characters. -/
def stringTail? (quote : Char) : Nat → List Char → Option (List Char × List Char)
  | 0, _ => none
  | _ + 1, [] => none
  | fuel + 1, c :: rest =>
    let more (c : Char) (rest : List Char) :=
      (stringTail? quote fuel rest).map fun (s, after) => (c :: s, after)
    if c = quote then some ([], rest)
    else if c.toNat < 32 then none
    else if c = '\\' then
      match rest with
      | 'u' :: rest =>
        match readUnits? rest with
        | some (c, rest) => more c rest
        | none => none
      | e :: rest =>
        if (e = '\'' && quote = '"') || (e = '"' && quote = '\'') then none
        else
          match escaped? e with
          | some c => more c rest
          | none => none
      | [] => none
    else more c rest

/-- Reads a quoted string. -/
def quoted (quote : Char) : Reader String := fun cs =>
  match cs with
  | c :: rest =>
    if c = quote then
      (stringTail? quote (rest.length + 1) rest).map fun (s, after) => (String.ofList s, after)
    else none
  | [] => none

/-- The texts of a number: sign, digits, point and fraction, exponent. -/
structure NumberText where
  negative : Bool
  whole : List Char
  fraction : Option (List Char)
  exponent : Option (Bool × List Char)

/-- Reads the text of a number, which no other name character may follow. -/
def numberText : Reader NumberText := do
  let negative ← accepts (take "-")
  let whole ← some1 Char.isDigit
  let point ← accepts (take ".")
  let fraction ← some1 Char.isDigit <|> return []
  let exponent ← (do
    take "E"
    let negative ← accepts (take "-")
    return some (negative, ← some1 Char.isDigit)) <|> return none
  refuse (some1 isSymbol)
  return { negative, whole, fraction := if point || fraction ≠ [] then some fraction else none
           exponent }

/-- The number that a text denotes. Zeros in front and a point without digits are refused. -/
def NumberText.json? (t : NumberText) : Option Json :=
  if (1 < t.whole.length && t.whole.head? = some '0') || t.fraction = some [] then none
  else
    let fraction := t.fraction.getD []
    let digits := Decimal.ofDigits (t.whole ++ fraction)
    let e : Int := match t.exponent with
      | some (true, ds) => -Int.ofNat (Decimal.ofDigits ds)
      | some (false, ds) => Int.ofNat (Decimal.ofDigits ds)
      | none => 0
    let x := Decimal.nearest digits (e - fraction.length)
    let real := Json.float (if t.negative then -x else x)
    if t.fraction.isSome || t.exponent.isSome then if x.isFinite then some real else none
    else if t.negative then
      some (if digits = 0 || UInt64.size / 2 < digits then real else .int (-Int.ofNat digits))
    else some (if digits < UInt64.size then .int digits else real)

/-- Reads a word that no other name character follows. -/
def wholeWord (s : String) : Reader Unit := do
  take s
  refuse (some1 isSymbol)

/-- Reads items with commas between them. -/
def commaList {α : Type} (item : Reader α) : Reader (List α) :=
  (do
    gap
    let a ← item
    return a :: (← all (do word ","; gap; item))) <|> return []

/-- Reads a literal. Nothing inside means that a number is written as none can be. -/
def literal : Nat → Reader (Option Json)
  | 0 => failure
  | fuel + 1 =>
    (do return some (.string (← quoted '"' <|> quoted '\''))) <|>
    (do
      take "["
      let l ← commaList (literal fuel)
      word "]"
      return (l.mapM id).map .array) <|>
    (do
      take "\x7b"
      let l ← commaList (do
        let k ← quoted '"'
        word ":"
        gap
        return (k, ← literal fuel))
      word "\x7d"
      let members ← l.mapM fun (k, j) => do return (k, ← liftM j)
      return some (.object (members.foldl (fun ms (k, j) => Json.putSorted k j ms) []))) <|>
    (do return (← numberText).json?) <|>
    (do wholeWord "null"; return some .null) <|>
    (do wholeWord "true"; return some (.bool true)) <|>
    (do wholeWord "false"; return some (.bool false))

/-! ### Expressions -/

/-- Reads arguments and named arguments, at least as many as the number says. -/
def arguments (arg : Reader Argument) (least : Nat) :
    Reader (List Argument × List (String × Argument)) := do
  let l ← all (do
    gap
    (do
      let name ← identifier
      word "="
      gap
      return (some name, ← arg)) <|> (do return (none, ← arg)))
  if l.length < least then failure
  let params := l.filterMap fun (name, a) => if name.isNone then some a else none
  let named := l.filterMap fun (name, a) => name.map fun n => (n, a)
  return (params, named)

/-- Reads a helper with arguments. -/
def callWith (arg : Reader Argument) (least : Nat) : Reader Expression := do
  let name ← identifier
  let (params, named) ← arguments arg least
  return .mk (.word name) params named

/-- Reads what stands in parentheses. -/
def inParentheses (arg : Reader Argument) : Reader Expression := do
  take "("
  gap
  let e ← callWith arg 1 <|> (do return .mk (.path (← path)) [] [])
  word ")"
  return e

/-- Reads an argument, which is no keyword. The fuel bounds how deep parentheses are nested. -/
def argument : Nat → Reader Argument
  | 0 => failure
  | fuel + 1 => do
    refuse (wholeWord "as" <|> wholeWord "else")
    match ← (do return some (← literal (fuel + 1))) <|> return none with
    | some (some j) => return .literal j
    | some none => failure
    | none =>
      (do return .path (← path)) <|> (do return .sub (← inParentheses (argument fuel)))

/-- Reads a path or something in parentheses. -/
def named (fuel : Nat) : Reader Expression :=
  (do return .mk (.sub (← inParentheses (argument fuel))) [] []) <|>
  (do return .mk (.path (← path)) [] [])

/-- Reads what a tag shows: a helper with arguments, a path or something in parentheses. -/
def shown (fuel : Nat) : Reader Expression := callWith (argument fuel) 1 <|> named fuel

/-- Reads a helper and the names that it gives. -/
def opened (fuel : Nat) : Reader (Expression × List String) := do
  let e ← callWith (argument fuel) 0
  let vars ← (do
    word "as"
    word "|"
    gap
    let first ← identifier
    gap
    let second ← (do return some (← identifier)) <|> return none
    word "|"
    return first :: second.toList) <|> return []
  return (e, vars)

/-- The characters of names of templates. -/
def isPartSymbol (c : Char) : Bool := isSymbol c || c = '/' || c = '.' || c = '@'

/-- Reads a name between single quotes, with the quotes. -/
def quotedName : Reader String := do
  take "'"
  let cs ← some1 (· ≠ '\'')
  take "'"
  return String.ofList ('\'' :: cs ++ ['\''])

/-- Reads the name of what is included, and arguments. -/
def included (fuel : Nat) : Reader Expression := do
  let name ← (do return .word (String.ofList (← some1 isPartSymbol))) <|>
    (do return .word (← quotedName)) <|>
    (do return .sub (← inParentheses (argument fuel)))
  let (params, named) ← arguments (argument fuel) 0
  return .mk name params named

/-! ### Tags -/

/-- What a tag does. -/
inductive Tag
  | value (e : Expression)
  | opens (e : Expression) (vars : List String)
  | opensInclude (e : Expression)
  | opensDefinition (e : Expression)
  | otherwise
  | otherwiseOpens (e : Expression) (vars : List String)
  | closes (name : String)
  | include (e : Expression)
  | define (e : Expression)
  | comment

/-- A tag and whether it takes the white space before and after it away. -/
structure Mark where
  tag : Tag
  before : Bool
  after : Bool

/-- Reads a tilde, if there is one. -/
def tilde : Reader Bool := accepts (word "~")

/-- Reads a tag between two texts. -/
def between {α : Type} (front back : String) (r : Reader α) : Reader (α × Bool × Bool) := do
  take front
  let before ← tilde
  gap
  let a ← r
  let after ← tilde
  word back
  return (a, before, after)

/-- Reads a tag in double braces. -/
def doubled (r : Reader Tag) : Reader Mark := do
  let (t, before, after) ← between "\x7b\x7b" "\x7d\x7d" r
  return ⟨t, before, after⟩

/-- Takes everything up to a text and that text. -/
def skipPast (close : List Char) : List Char → Option (List Char)
  | [] => none
  | c :: rest =>
    if close.isPrefixOf (c :: rest) then some ((c :: rest).drop close.length)
    else skipPast close rest

/-- Reads a comment. -/
def comment : Reader Mark := do
  take "\x7b\x7b!"
  let cs ← get
  let inner := cs.dropWhile isGap
  let long :=
    if ['-', '-'].isPrefixOf inner then skipPast ['-', '-', '}', '}'] (inner.drop 2) else none
  match long.or (skipPast ['}', '}'] cs) with
  | some rest =>
    set rest
    return ⟨.comment, false, false⟩
  | none => failure

/-- Reads the tag of another case. -/
def other (fuel : Nat) : Reader Tag := do
  take "else" <|> take "^"
  (do
    gap
    let (e, vars) ← opened fuel
    return .otherwiseOpens e vars) <|> return .otherwise

/-- Reads what follows a number sign. -/
def opening (fuel : Nat) : Reader Tag :=
  (do
    take "*"
    gap
    let (e, _) ← opened fuel
    return .opensDefinition e) <|>
  (do take ">"; gap; return .opensInclude (← included fuel)) <|>
  (do
    let (e, vars) ← opened fuel
    return .opens e vars)

/-- Reads the inside of a tag that starts with a sign. -/
def signed (fuel : Nat) : Reader Tag :=
  (do take "&"; gap; return .value (← named fuel)) <|>
  (do
    take "\x7b"
    gap
    let e ← shown fuel
    word "\x7d"
    return .value e) <|>
  (do take "#"; gap; opening fuel) <|>
  (do take "/"; gap; return .closes (String.ofList (← some1 isPartSymbol))) <|>
  (do take ">"; gap; return .include (← included fuel)) <|>
  (do
    take "*"
    gap
    let (e, _) ← opened fuel
    return .define e)

/-- Reads a tag. -/
def mark (fuel : Nat) : Reader Mark :=
  doubled (other fuel) <|>
  doubled (do return .value (← shown fuel)) <|>
  (do
    let (e, before, after) ← between "\x7b\x7b\x7b" "\x7d\x7d\x7d" (shown fuel)
    return ⟨.value e, before, after⟩) <|>
  doubled (signed fuel) <|>
  comment

/-- Reads the start of a block whose text is taken as it stands. -/
def rawOpening (fuel : Nat) : Reader (Expression × List String × Bool × Bool) := do
  let ((e, vars), before, after) ←
    between "\x7b\x7b\x7b\x7b" "\x7d\x7d\x7d\x7d" (opened fuel)
  return (e, vars, before, after)

/-- Reads the end of a block whose text is taken as it stands. -/
def rawClosing : Reader (String × Bool × Bool) :=
  between "\x7b\x7b\x7b\x7b" "\x7d\x7d\x7d\x7d" (do take "/"; gap; identifier)

/-! ### Text -/

/-- Takes text up to a mark. A backslash before double braces is dropped and makes them text; of
several backslashes before double braces one is dropped. The truth value says whether the
backslashes at the front are the rest of such a run. -/
def plainText (stop : List Char) : Bool → List Char → List Char × List Char
  | _, [] => ([], [])
  | false, '\\' :: '{' :: '{' :: '{' :: '{' :: rest =>
    let (text, after) := plainText stop false rest
    (['{', '{', '{', '{'] ++ text, after)
  | false, '\\' :: '{' :: '{' :: rest =>
    let (text, after) := plainText stop false rest
    (['{', '{'] ++ text, after)
  | run, c :: rest =>
    if stop.isPrefixOf (c :: rest) then ([], c :: rest)
    else if c = '\\' && !run && rest.head? = some '\\' &&
        ['{', '{'].isPrefixOf (rest.dropWhile (· = '\\')) then
      plainText stop true rest
    else
      let (text, after) := plainText stop (run && c = '\\') rest
      (c :: text, after)

end TestData.Template
