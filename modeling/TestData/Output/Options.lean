import TestData.Engine.Options

/-!
The options of a run that writes records.
-/

namespace TestData.Output

/-- What to write and how. -/
structure Options where
  /-- The entity of which every record is one. -/
  entity : String
  rows : Nat := 1000
  /-- A seed that goes before the seed of the engine. -/
  seed : Option UInt64 := none
  /-- Whether a table starts with its header. -/
  header : Bool := true
  engine : Engine.Options := {}

namespace Options

/-- Reads options from a markup text. -/
def read? (text : String) : Option Options := do
  let d ← Yaml.Document.read? text
  let r ← d.rootRecord?
  let entity ← d.string? (← (← r.field? "entity"))
  let rows ← r.fieldOr? "row_count" 1000 (d.natural? UInt64.size)
  let seed ← r.fieldOr? "seed" none (Engine.Options.readSeed? d)
  let header ← r.fieldOr? "header" true d.bool?
  let engine ← r.fieldOr? "generator" {} fun n => do
    Engine.Options.ofRecord? d (← d.record? n)
  return { entity, rows, seed, header, engine }

/-- The options of the engine that a run uses. -/
def engineOptions (o : Options) : Engine.Options :=
  { o.engine with seed := o.seed.or o.engine.seed }

end Options

end TestData.Output
