import TestData.Calendar.Printer
import TestData.Json.Basic
import TestData.Value.Fields

/-!
Values: what evaluating a schema gives.

A value is written as JSON with its fields in order. The data that a template sees is the same
document with the members of every object sorted by name.
-/

namespace TestData

/-- A value. -/
inductive Value
  | null
  | bool (b : Bool)
  /-- An integer of 64 bits. -/
  | int (n : Int)
  | float (x : Float)
  | string (s : String)
  | date (d : Calendar.Date)
  | timestamp (t : Calendar.Timestamp)
  | array (items : List Value)
  | object (fields : Fields Value)
  deriving Inhabited

namespace Value

/-- The name of the kind of a value. -/
def kind : Value → String
  | null => "null"
  | bool _ => "bool"
  | int _ => "int"
  | float _ => "float"
  | string _ => "string"
  | date _ => "date"
  | timestamp _ => "timestamp"
  | array _ => "array"
  | object _ => "object"

/-- Whether a value has parts. -/
def isComposite : Value → Bool
  | array _ | object _ => true
  | _ => false

/-- The number that a value is. -/
def number? : Value → Option Float
  | int n => some (Float.ofInt n)
  | float x => some x
  | _ => none

/-- A number as JSON: what is not finite is null. -/
def floatJson (x : Float) : Json := if x.isFinite then .float x else .null

mutual
/-- The JSON document of a value, fields in order. -/
def toJson : Value → Json
  | null => .null
  | bool b => .bool b
  | int n => .int n
  | float x => floatJson x
  | string s => .string s
  | date d => .string d.text
  | timestamp t => .string t.text
  | array items => .array (itemsJson items)
  | object ⟨entries⟩ => .object (entriesJson entries)
/-- The documents of the items of an array. -/
def itemsJson : List Value → List Json
  | [] => []
  | v :: rest => toJson v :: itemsJson rest
/-- The members for the fields of an object. -/
def entriesJson : List (String × Value) → List (String × Json)
  | [] => []
  | (n, v) :: rest => (n, toJson v) :: entriesJson rest
end

mutual
/-- The JSON document of a value, the members of every object sorted by name. -/
def toData : Value → Json
  | null => .null
  | bool b => .bool b
  | int n => .int n
  | float x => floatJson x
  | string s => .string s
  | date d => .string d.text
  | timestamp t => .string t.text
  | array items => .array (itemsData items)
  | object ⟨entries⟩ => .object (entriesData entries [])
/-- The data of the items of an array. -/
def itemsData : List Value → List Json
  | [] => []
  | v :: rest => toData v :: itemsData rest
/-- Puts the data of fields into sorted members, in order. -/
def entriesData : List (String × Value) → List (String × Json) → List (String × Json)
  | [], members => members
  | (n, v) :: rest, members => entriesData rest (Json.putSorted n (toData v) members)
end

/-- The text of a value in running text and in table cells. -/
def text : Value → String
  | null => "null"
  | bool b => if b then "true" else "false"
  | int n => toString n
  | float x => Decimal.Layout.running.text x
  | string s => s
  | date d => d.text
  | timestamp t => t.text
  | v => v.toJson.compact

/-- The text of a table cell: empty for null and for what is absent. -/
def cellText : Option Value → String
  | none | some null => ""
  | some v => v.text

mutual
/-- Whether two values are equal. Floating-point numbers compare as numbers. -/
def same : Value → Value → Bool
  | null, null => true
  | bool a, bool b => a == b
  | int a, int b => a == b
  | float a, float b => a == b
  | string a, string b => a == b
  | date a, date b => a == b
  | timestamp a, timestamp b => a == b
  | array a, array b => sameItems a b
  | object ⟨a⟩, object ⟨b⟩ => sameEntries a b
  | _, _ => false
/-- Whether two lists of values are equal. -/
def sameItems : List Value → List Value → Bool
  | [], [] => true
  | a :: as, b :: bs => same a b && sameItems as bs
  | _, _ => false
/-- Whether two lists of fields are equal, order included. -/
def sameEntries : List (String × Value) → List (String × Value) → Bool
  | [], [] => true
  | (m, a) :: as, (n, b) :: bs => m == n && same a b && sameEntries as bs
  | _, _ => false
end

/-- Whether a value matches a key: two numbers by their floating-point values, all else by
equality. -/
def matchesKey (a b : Value) : Bool :=
  match a.number?, b.number? with
  | some x, some y => x == y
  | _, _ => same a b

end Value

end TestData
