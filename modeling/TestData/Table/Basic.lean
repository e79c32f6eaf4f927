import TestData.Value.Basic

/-!
Tables of text: records of cells, with or without a header.
-/

namespace TestData.Table

/-- A separator of cells, as one byte. From 128 on no character of a text is the separator. -/
abbrev Delimiter := UInt8

/-- Whether a character is the separator. -/
def isDelimiter (d : Delimiter) (c : Char) : Bool := d < 128 && c.toNat == d.toNat

/-- The comma. -/
def comma : Delimiter := 44

/-- The semicolon. -/
def semicolon : Delimiter := 59

/-- The first line of a text. -/
def firstLine (cs : List Char) : List Char := cs.takeWhile (· ≠ '\n')

/-- The semicolon where the first line has more semicolons than commas, else the comma. -/
def detectDelimiter (s : String) : Delimiter :=
  let line := firstLine s.toList
  if line.count ',' < line.count ';' then semicolon else comma

end TestData.Table

namespace TestData

/-- A table. -/
structure Table where
  delimiter : Table.Delimiter
  headers : Option (List String)
  rows : List (List String)
  deriving DecidableEq, Inhabited

namespace Table

/-- The number of rows. -/
def size (t : Table) : Nat := t.rows.length

/-- A row: an object with a field for each header, or the array of its cells. -/
def rowValue? (t : Table) (i : Nat) : Option Value :=
  (t.rows[i]?).map fun row =>
    match t.headers with
    | some names => .object (Fields.ofList ((names.zip row).map fun (n, c) => (n, .string c)))
    | none => .array (row.map .string)

end Table

end TestData
