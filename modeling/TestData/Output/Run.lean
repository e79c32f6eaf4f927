import TestData.Engine.Check
import TestData.Output.Options
import TestData.Output.Records

/-!
Runs: from the file of a schema to a file of records.

A schema with errors is not run, and its output is not opened. Warnings do not matter.
-/

namespace TestData.Output

open Engine

/-- Why a run ends without a file of records. -/
inductive RunError
  | load (schema : Files.Path) (cause : Schema.ReadError)
  | invalid (schema : Files.Path) (errors : List Issue)
  | write (format : Format) (output : Files.Path) (cause : WriteError)
  /-- A draw is not possible. -/
  | stuck

/-- A character between quotes. Quotes and backslashes are marked, and control characters are
written by their codes. -/
def quotedChar (c : Char) : List Char :=
  if c = '"' || c = '\\' then ['\\', c]
  else if c = '\n' then ['\\', 'n']
  else if c = '\r' then ['\\', 'r']
  else if c = '\t' then ['\\', 't']
  else if c.toNat = 0 then ['\\', '0']
  else if c.toNat < 32 || (127 ≤ c.toNat && c.toNat < 160) then
    ['\\', 'u', '{'] ++ Nat.toDigits 16 c.toNat ++ ['}']
  else [c]

/-- A path between quotes. -/
def quotedPath (p : Files.Path) : String :=
  String.ofList ('"' :: p.toList.flatMap quotedChar ++ ['"'])

/-- The words for the files of a format. -/
def fileWords : Format → String
  | .lines => "JSONL file"
  | .table => "CSV file"

/-- The words for why a run ends. -/
def RunError.message : RunError → String
  | load schema _ => "Failed to load schema from " ++ quotedPath schema
  | invalid schema errors =>
    "Schema " ++ quotedPath schema ++ " has " ++ toString errors.length ++ " error(s):\n" ++
      "\n".intercalate (errors.map Issue.text)
  | write format output _ =>
    "Failed to write " ++ fileWords format ++ " " ++ quotedPath output
  | stuck => ""

/-- Loads the file of a schema. -/
def loadSchema (schema : Files.Path) (disk : Files.Disk) : Except RunError Schema.Workspace :=
  match Schema.Workspace.load disk schema with
  | .ok w => .ok w
  | .error e => .error (.load schema e)

/-- A session over the file of a schema, and the issues with its root document. -/
def openSchema (schema : Files.Path) (o : Engine.Options) (world : World) :
    Except RunError (Session × List Issue) := do
  let w ← loadSchema schema world.disk
  let s := Session.start w Schema.CallKind.all o world
  match s.check world Schema.Workspace.root with
  | .ok issues => return (s, issues)
  | .error _ => throw .stuck

/-- The issues with the root document of the file of a schema. -/
def checkFile (schema : Files.Path) (world : World) : Except RunError (List Issue) :=
  (openSchema schema {} world).map (·.2)

/-- Checks the file of a schema and writes records of an entity to a file. -/
def run (schema : Files.Path) (o : Options) (format : Format) (output : Files.Path)
    (world : World) : Except RunError Metrics × Files.Disk :=
  match openSchema schema o.engineOptions world with
  | .error e => (.error e, world.disk)
  | .ok (s, issues) =>
    match issues.filter (·.severity = .error) with
    | [] =>
      let style : Style := { format, header := o.header }
      let (r, disk, _) := writeFile style o.entity o.rows output false world s
      match r with
      | .ok m => (.ok m, disk)
      | .error .stuck => (.error .stuck, disk)
      | .error e => (.error (.write format output e), disk)
    | errors => (.error (.invalid schema errors), world.disk)

end TestData.Output
