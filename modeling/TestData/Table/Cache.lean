import TestData.Files.Disk
import TestData.Table.Reader

/-!
Files of tables and a cache of them.

A cache keeps tables under the place of the file, the separator asked for and the header mode.
An entry is fresh for a while after it was loaded. When the cache is full, the entry that was
used least recently makes room. Time is a count of nanoseconds that the caller gives with every
request and that grows from request to request.
-/

namespace TestData.Table

open Files

/-- Why a table cannot be had from a file. -/
inductive LoadError
  | notFound (path : Path)
  | unreadable (path : Path)
  | malformed (path : Path) (text : String)
  | empty (path : Path)
  deriving DecidableEq

/-- The words for a table that cannot be had. Those for a file that cannot be read leave out
what the system says. -/
def LoadError.message : LoadError → String
  | .notFound p => "File not found: " ++ p
  | .unreadable p => "Failed to read '" ++ p ++ "'"
  | .malformed p text => "Invalid CSV '" ++ p ++ "': " ++ text
  | .empty p => "CSV file '" ++ p ++ "' has no data rows"

/-- The error for trouble with a file. -/
def LoadError.ofTrouble (p : Path) : Trouble → LoadError
  | .missing => .notFound p
  | .barred => .unreadable p

/-- Reads a table from a text that stands at a path. -/
def readAt (p : Path) (s : String) (delimiter : Option Delimiter) (noHeader : Bool) :
    Except LoadError Table :=
  match read s delimiter noHeader with
  | .ok t => .ok t
  | .error .noRows => .error (.empty p)
  | .error (.ragged i start found expected) =>
    .error (.malformed p (raggedText i start found expected))

/-- Reads a table from a file. -/
def load (disk : Disk) (p : Path) (delimiter : Option Delimiter) (noHeader : Bool) :
    Except LoadError Table :=
  match disk.text p with
  | .ok s => readAt p s delimiter noHeader
  | .error e => .error (.ofTrouble p e)

/-- What a table is kept under. -/
structure CacheKey where
  place : Place
  delimiter : Option Delimiter
  noHeader : Bool
  deriving DecidableEq

/-- A table in a cache. -/
structure CacheEntry where
  key : CacheKey
  table : Table
  loadedAt : Nat
  usedAt : Nat

/-- A cache of tables. -/
structure Cache where
  capacity : Nat
  /-- How long an entry is fresh, in nanoseconds. -/
  lifetime : Nat
  entries : List CacheEntry

namespace Cache

/-- An empty cache for at least one table; the lifetime is in seconds. -/
def new (capacity seconds : Nat) : Cache :=
  { capacity := max capacity 1, lifetime := seconds * 1000000000, entries := [] }

/-- Whether an entry is fresh. -/
def isFresh (c : Cache) (now : Nat) (e : CacheEntry) : Bool := now - e.loadedAt < c.lifetime

/-- The entry that was used least recently. -/
def oldest? : List CacheEntry → Option CacheEntry
  | [] => none
  | e :: rest =>
    match oldest? rest with
    | none => some e
    | some f => if e.usedAt ≤ f.usedAt then some e else some f

/-- Puts a new entry into the cache: what is no longer fresh goes, and if the cache is still
full and has nothing under the key, the oldest entry goes. -/
def put (c : Cache) (now : Nat) (e : CacheEntry) : Cache :=
  let fresh := c.entries.filter (c.isFresh now)
  let kept :=
    if c.capacity ≤ fresh.length && !fresh.any (·.key = e.key) then
      match oldest? fresh with
      | some o => fresh.filter (·.key ≠ o.key)
      | none => fresh
    else fresh
  { c with entries := e :: kept.filter (·.key ≠ e.key) }

/-- Notes that the entry under a key is used now. -/
def touch (c : Cache) (now : Nat) (key : CacheKey) : Cache :=
  { c with entries := c.entries.map fun e => if e.key = key then { e with usedAt := now } else e }

/-- The table of a file, from the cache while it is fresh. A request that fails leaves the
cache as it is. -/
def get (c : Cache) (disk : Disk) (now : Nat) (p : Path) (delimiter : Option Delimiter)
    (noHeader : Bool) : Except LoadError (CacheEntry × Cache) := do
  let place ← match disk.place p with
    | .ok q => pure q
    | .error e => .error (.ofTrouble p e)
  let key : CacheKey := ⟨place, delimiter, noHeader⟩
  match c.entries.find? (·.key = key) with
  | some e => if c.isFresh now e then return (e, c.touch now key)
  | none => pure ()
  let table ← load disk (Disk.pathOf place) delimiter noHeader
  let e : CacheEntry := ⟨key, table, now, now⟩
  return (e, c.put now e)

/-- Forgets all tables. -/
def clear (c : Cache) : Cache := { c with entries := [] }

/-- The number of tables. -/
def size (c : Cache) : Nat := c.entries.length

end Cache

end TestData.Table
