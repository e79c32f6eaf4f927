import TestData.Decimal.Layout

/-!
Documents of JSON and their texts.

A number is an integer or a finite floating-point number. The compact text has no white space;
the indented text puts every member on a line of its own, two blanks further in than what
holds it.
-/

namespace TestData

/-- A JSON document. -/
inductive Json
  | null
  | bool (b : Bool)
  | int (n : Int)
  | float (x : Float)
  | string (s : String)
  | array (items : List Json)
  | object (members : List (String × Json))
  deriving Inhabited

namespace Json

/-- A digit of base 16. -/
def hexDigit (n : Nat) : Char :=
  if n < 10 then Char.ofNat ('0'.toNat + n) else Char.ofNat ('a'.toNat + (n - 10))

/-- A character inside a string. -/
def escape (c : Char) : List Char :=
  if c = '"' then ['\\', '"']
  else if c = '\\' then ['\\', '\\']
  else if c = '\n' then ['\\', 'n']
  else if c = '\r' then ['\\', 'r']
  else if c = '\t' then ['\\', 't']
  else if c = '\x08' then ['\\', 'b']
  else if c = '\x0c' then ['\\', 'f']
  else if c.toNat < 32 then
    ['\\', 'u', '0', '0', hexDigit (c.toNat / 16), hexDigit (c.toNat % 16)]
  else [c]

/-- A string between quotes. -/
def quoted (s : String) : List Char :=
  '"' :: s.toList.flatMap escape ++ ['"']

/-- The text of what has no members. -/
def scalar : Json → List Char
  | null => "null".toList
  | bool b => (if b then "true" else "false").toList
  | int n => (toString n).toList
  | float x => (Decimal.Layout.record.text x).toList
  | string s => quoted s
  | array _ => "[]".toList
  | object _ => ['{', '}']

mutual
/-- The compact text. -/
def chars : Json → List Char
  | array items => '[' :: itemChars items ++ [']']
  | object members => '{' :: memberChars members ++ ['}']
  | j => scalar j
/-- The items of an array with commas between. -/
def itemChars : List Json → List Char
  | [] => []
  | [j] => chars j
  | j :: k :: rest => chars j ++ ',' :: itemChars (k :: rest)
/-- The members of an object with commas between. -/
def memberChars : List (String × Json) → List Char
  | [] => []
  | [(n, j)] => quoted n ++ ':' :: chars j
  | (n, j) :: m :: rest => quoted n ++ ':' :: chars j ++ ',' :: memberChars (m :: rest)
end

/-- The compact text. -/
def compact (j : Json) : String := String.ofList j.chars

/-- A new line at a depth. -/
def newLine (depth : Nat) : List Char :=
  '\n' :: List.replicate (2 * depth) ' '

mutual
/-- The indented text at a depth. -/
def indentedChars (depth : Nat) : Json → List Char
  | array (j :: rest) => '[' :: indentedItems (depth + 1) (j :: rest) ++ newLine depth ++ [']']
  | object (m :: rest) =>
    '{' :: indentedMembers (depth + 1) (m :: rest) ++ newLine depth ++ ['}']
  | j => scalar j
/-- The items of an array, each on a line of its own. -/
def indentedItems (depth : Nat) : List Json → List Char
  | [] => []
  | [j] => newLine depth ++ indentedChars depth j
  | j :: k :: rest =>
    newLine depth ++ indentedChars depth j ++ ',' :: indentedItems depth (k :: rest)
/-- The members of an object, each on a line of its own. -/
def indentedMembers (depth : Nat) : List (String × Json) → List Char
  | [] => []
  | [(n, j)] => newLine depth ++ quoted n ++ ':' :: ' ' :: indentedChars depth j
  | (n, j) :: m :: rest =>
    newLine depth ++ quoted n ++ ':' :: ' ' :: indentedChars depth j ++
      ',' :: indentedMembers depth (m :: rest)
end

/-- The indented text. -/
def indented (j : Json) : String := String.ofList (j.indentedChars 0)

/-- Puts a member into sorted members, in the place of one of the same name. -/
def putSorted (name : String) (j : Json) : List (String × Json) → List (String × Json)
  | [] => [(name, j)]
  | (n, k) :: rest =>
    if name = n then (n, j) :: rest
    else if name < n then (name, j) :: (n, k) :: rest
    else (n, k) :: putSorted name j rest

end Json

end TestData
