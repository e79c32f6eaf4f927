/-!
Writing records as text.

Cells are parted by commas and a record ends with a line feed. A cell is quoted where it holds
a comma, a quote or a line break, with its quotes doubled. A record without any character, which
would be an empty line, is written as an empty quoted cell.
-/

namespace TestData.Table

/-- Whether a cell that holds this character must be quoted. -/
def needsQuotes (c : Char) : Bool := c = ',' || c = '"' || c = '\n' || c = '\r'

/-- A character inside a quoted cell. -/
def doubled (c : Char) : List Char := if c = '"' then ['"', '"'] else [c]

/-- The text of a cell. -/
def cellChars (cell : List Char) : List Char :=
  if cell.any needsQuotes then '"' :: cell.flatMap doubled ++ ['"'] else cell

/-- The cells with commas between. -/
def joined : List (List Char) → List Char
  | [] => []
  | [c] => c
  | c :: d :: rest => c ++ ',' :: joined (d :: rest)

/-- The text of a record. -/
def recordChars (cells : List String) : List Char :=
  let body := joined (cells.map fun c => cellChars c.toList)
  (if body = [] then ['"', '"'] else body) ++ ['\n']

/-- The text of a record. -/
def recordText (cells : List String) : String := String.ofList (recordChars cells)

end TestData.Table
