import TestData.Calendar.Reader
import TestData.Yaml.Record

/-!
The options of an engine.
-/

namespace TestData.Engine

/-- What can be chosen about an engine. -/
structure Options where
  /-- The seed of the random source; entropy decides when absent. -/
  seed : Option UInt64 := none
  /-- The time that the clock shows; the system's time when absent. -/
  now : Option Calendar.Timestamp := none
  /-- How many steps a chain of references may take. -/
  maxDepth : Nat := 100
  /-- How many tables are kept. -/
  cacheCapacity : Nat := 32
  /-- How many seconds a table is kept. -/
  cacheSeconds : Nat := 300
  /-- How often a repetition without an upper bound repeats at most. -/
  maxRepeat : Nat := 16

namespace Options

/-- Reads a seed. -/
def readSeed? (d : Yaml.Document) (n : Yaml.Node) : Option (Option UInt64) :=
  d.optional? (fun n => (d.natural? UInt64.size n).map UInt64.ofNat) n

/-- Reads options from a record. -/
def ofRecord? (d : Yaml.Document) (r : Yaml.Record) : Option Options := do
  let natural (bound : Nat) := d.natural? bound
  let time (n : Yaml.Node) := do Calendar.Timestamp.readLoose? (← d.string? n)
  let seed ← r.fieldOr? "seed" none (readSeed? d)
  let now ← r.fieldOr? "now" none (d.optional? time)
  let maxDepth ← r.fieldOr? "max_reference_depth" 100 (natural UInt64.size)
  let cacheCapacity ← r.fieldOr? "csv_cache_capacity" 32 (natural UInt64.size)
  let cacheSeconds ← r.fieldOr? "csv_cache_ttl_secs" 300 (natural UInt64.size)
  let maxRepeat ← r.fieldOr? "regex_max_repeat" 16 (natural UInt32.size)
  return { seed, now, maxDepth, cacheCapacity, cacheSeconds, maxRepeat }

/-- Reads options from a markup text. -/
def read? (text : String) : Option Options := do
  let d ← Yaml.Document.read? text
  ofRecord? d (← d.rootRecord?)

end Options

end TestData.Engine
