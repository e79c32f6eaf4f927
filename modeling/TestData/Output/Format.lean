import TestData.Files.Path
import TestData.Text.Blank

/-!
The formats of records in files.
-/

namespace TestData.Output

/-- A format of records. -/
inductive Format
  /-- One JSON document a line. -/
  | lines
  /-- A table with commas. -/
  | table
  deriving DecidableEq

namespace Format

/-- The name of a format. -/
def name : Format → String
  | lines => "Jsonl"
  | table => "Csv"

/-- The format that the extension of a path stands for, in either case. -/
def ofPath? (p : Files.Path) : Option Format := do
  match Text.loweredAscii (← Files.Path.extension? p) with
  | "jsonl" | "ndjson" => some lines
  | "csv" => some table
  | _ => none

end Format

end TestData.Output
