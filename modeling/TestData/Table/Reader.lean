import TestData.Table.Basic

/-!
Reading tables from text.

A record ends with a line break and its cells are parted by the separator. A cell that starts
with a quote goes on to the next quote that is not doubled; what follows that quote up to the
end of the cell belongs to the cell as it stands. Empty lines between records are skipped and so
is a byte order mark at the start. All records must have as many cells as the first.

The text is scanned once. The state holds the cells of the record in progress, last first, and
the characters of the cell in progress, last first.
-/

namespace TestData.Table

/-- Where a scan stands. -/
inductive Phase
  | recordStart
  | cellStart
  | plain
  | quoted
  /-- After a quote that either ends the quoted part or is doubled. -/
  | quote
  deriving DecidableEq

/-- A place in a text: bytes before it and the number of its line. -/
structure Mark where
  byte : Nat
  line : Nat
  deriving DecidableEq

/-- A record and the place where it starts, which is the end of the one before it. -/
structure Record where
  start : Mark
  cells : List String
  deriving DecidableEq

/-- The state of a scan. -/
structure Scan where
  phase : Phase
  cell : List Char
  cells : List String
  records : List Record
  start : Mark
  here : Mark

namespace Scan

/-- The state before a text. -/
def init : Scan := ⟨.recordStart, [], [], [], ⟨0, 1⟩, ⟨0, 1⟩⟩

/-- Adds a character to the cell. -/
def push (s : Scan) (phase : Phase) (c : Char) : Scan := { s with phase, cell := c :: s.cell }

/-- Ends the cell. -/
def endCell (s : Scan) : Scan :=
  { s with phase := .cellStart, cell := [], cells := String.ofList s.cell.reverse :: s.cells }

/-- Ends the cell and the record; the next record starts here. -/
def endRecord (s : Scan) : Scan :=
  let t := s.endCell
  { t with phase := .recordStart, cells := [], records := ⟨s.start, t.cells.reverse⟩ :: s.records
           start := s.here }

/-- Whether a character ends a line. -/
def isBreak (c : Char) : Bool := c = '\n' || c = '\r'

/-- Counts a character. -/
def count (s : Scan) (c : Char) : Scan :=
  { s with here := ⟨s.here.byte + c.utf8Size, s.here.line + if c = '\n' then 1 else 0⟩ }

/-- A character at the end of a cell or inside an unquoted one. -/
def unquoted (d : Delimiter) (s : Scan) (c : Char) : Scan :=
  if isDelimiter d c then s.endCell
  else if isBreak c then s.endRecord
  else s.push .plain c

/-- A character at the start of a cell. -/
def opening (d : Delimiter) (s : Scan) (c : Char) : Scan :=
  if c = '"' then { s with phase := .quoted } else unquoted d s c

/-- Scans a character. -/
def step (d : Delimiter) (s : Scan) (c : Char) : Scan :=
  let s := s.count c
  match s.phase with
  | .recordStart => if isBreak c then s else s.opening d c
  | .cellStart => s.opening d c
  | .plain => s.unquoted d c
  | .quoted => if c = '"' then { s with phase := .quote } else s.push .quoted c
  | .quote => if c = '"' then s.push .quoted c else s.unquoted d c

/-- The records after the end of the text, which ends a record in progress. -/
def finish (s : Scan) : List Record :=
  match s.phase with
  | .recordStart => s.records.reverse
  | _ => s.endRecord.records.reverse

end Scan

/-- The byte order mark. -/
def byteOrderMark : Char := '\ufeff'

/-- The records of a text. -/
def records (d : Delimiter) (cs : List Char) : List Record :=
  match cs with
  | [] => []
  | c :: rest =>
    if c = byteOrderMark then (rest.foldl (Scan.step d) (Scan.init.count c)).finish
    else (cs.foldl (Scan.step d) Scan.init).finish

/-- Why a text is no table. -/
inductive ReadError
  /-- A record whose number of cells differs from that of the first; records count from 0. -/
  | ragged (record : Nat) (start : Mark) (found expected : Nat)
  | noRows
  deriving DecidableEq

/-- The words for a record of the wrong length. -/
def raggedText (record : Nat) (start : Mark) (found expected : Nat) : String :=
  "CSV error: record " ++ toString record ++ " (line: " ++ toString start.line ++ ", byte: " ++
    toString start.byte ++ "): found record with " ++ toString found ++
    " fields, but the previous record has " ++ toString expected ++ " fields"

/-- The first record whose number of cells is not `expected`; `i` is the number of the first
record of the list. -/
def firstRagged (expected : Nat) : Nat → List Record → Option ReadError
  | _, [] => none
  | i, r :: rest =>
    if r.cells.length = expected then firstRagged expected (i + 1) rest
    else some (.ragged i r.start r.cells.length expected)

/-- Reads a table. A separator that is not given is detected. -/
def read (s : String) (delimiter : Option Delimiter) (noHeader : Bool) : Except ReadError Table :=
  let d := delimiter.getD (detectDelimiter s)
  match records d s.toList with
  | [] => .error .noRows
  | first :: rest =>
    match firstRagged first.cells.length 1 rest with
    | some e => .error e
    | none =>
      let rows := rest.map (·.cells)
      if noHeader then .ok ⟨d, none, first.cells :: rows⟩
      else if rows = [] then .error .noRows
      else .ok ⟨d, some first.cells, rows⟩

end TestData.Table
