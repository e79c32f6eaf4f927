import TestData.Engine.Evaluation
import TestData.Output.Format
import TestData.Output.Metrics
import TestData.Table.Writer

/-!
Writing records: to a text or to a file.

Records are generated and written one after the other, so that what is written when generation
fails are the records before the failure, whole. A table takes its columns from the first record
of the call; later records leave empty what they lack and lose what they have besides.
-/

namespace TestData.Output

open Engine

/-- How records are written. -/
structure Style where
  format : Format
  /-- Whether a table starts with its header. -/
  header : Bool := true

/-- Why records are not written. -/
inductive WriteError
  | noEntity (name : String)
  | notRecord (name : String)
  | evaluation (e : EvalError)
  /-- The file cannot be opened. -/
  | barred
  /-- A draw is not possible, or there is no root document. -/
  | stuck

/-- The words for records that are not written, as far as this library words them. -/
def WriteError.message (f : Format) : WriteError → String
  | noEntity name =>
    match f with
    | .lines => "Entity not found in document: " ++ name
    | .table => "Entity '" ++ name ++ "' not found in document"
  | notRecord name => "Entity '" ++ name ++ "' did not produce an object"
  | evaluation e => "Generator error: " ++ e.message
  | barred => "IO error"
  | stuck => ""

/-- The error for an evaluation that fails. -/
def WriteError.ofFailure : Failure → WriteError
  | .error e => evaluation e
  | .stuck => stuck

/-- The cells of a record under columns. -/
def cells (columns : List String) (f : Fields Value) : List String :=
  columns.map fun c => Value.cellText (f.get? c)

/-- The texts of a record, and the columns that later records have. -/
def recordTexts (style : Style) (columns : Option (List String)) (entity : String) (v : Value) :
    Except WriteError (List String × Option (List String)) :=
  match style.format, v with
  | .lines, v => .ok ([v.toJson.compact ++ "\n"], none)
  | .table, .object f =>
    match columns with
    | some cs => .ok ([Table.recordText (cells cs f)], some cs)
    | none =>
      let row := Table.recordText (cells f.names f)
      .ok (if style.header then [Table.recordText f.names, row] else [row], some f.names)
  | .table, _ => .error (.notRecord entity)

/-- What has been written: the texts, the number of records, and why there are no more. -/
structure Batch where
  texts : List String := []
  rows : Nat := 0
  failure : Option WriteError := none

namespace Batch

/-- A batch with the texts of one more record before it. -/
def prepend (texts : List String) (b : Batch) : Batch :=
  { b with texts := texts ++ b.texts, rows := b.rows + 1 }

/-- The text of a batch. -/
def text (b : Batch) : String := String.join b.texts

/-- The figures of a batch, given a number of bytes. -/
def result (b : Batch) (bytes : Nat) : Except WriteError Metrics :=
  match b.failure with
  | some e => .error e
  | none => .ok { rows := b.rows, bytes }

end Batch

/-- Generates and writes a number of records, each in a row of its own. -/
def batch (style : Style) (entity : String) (world : World) :
    Nat → Option (List String) → Session → Batch × Session
  | 0, _, s => ({}, s)
  | n + 1, columns, s =>
    match (Eval.record entity).exec world s with
    | (.error e, s) => ({ failure := some (.ofFailure e) }, s)
    | (.ok v, s) =>
      match recordTexts style columns entity v with
      | .error e => ({ failure := some e }, s)
      | .ok (texts, columns) =>
        let (b, s) := batch style entity world n columns s
        (b.prepend texts, s)

/-- Why there can be no records of an entity, unless the root document has it. -/
def obstacle? (s : Session) (entity : String) : Option WriteError :=
  if !s.workspace.hasRoot then some .stuck
  else if (s.workspace.entity? Schema.Workspace.root entity).isSome then none
  else some (.noEntity entity)

/-- Writes records to a text. The figures count the bytes of that text. -/
def writeText (style : Style) (entity : String) (count : Nat) (world : World) (s : Session) :
    Except WriteError Metrics × String × Session :=
  match obstacle? s entity with
  | some e => (.error e, "", s)
  | none =>
    let (b, s) := batch style entity world count none s
    (b.result b.text.utf8ByteSize, b.text, s)

/-- Writes records to a file, in the place of what is there or after it. What is appended has no
header. The figures count the bytes of the whole file. -/
def writeFile (style : Style) (entity : String) (count : Nat) (path : Files.Path) (append : Bool)
    (world : World) (s : Session) : Except WriteError Metrics × Files.Disk × Session :=
  match obstacle? s entity with
  | some e => (.error e, world.disk, s)
  | none =>
    match world.disk.openFile path append with
    | .error _ => (.error .barred, world.disk, s)
    | .ok (place, disk) =>
      let style := { style with header := style.header && !append }
      let (b, s) := batch style entity { world with disk } count none s
      let disk := disk.append place b.text.toUTF8
      (b.result (disk.sizeAt place), disk, s)

end TestData.Output
