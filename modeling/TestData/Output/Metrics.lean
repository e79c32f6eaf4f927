/-!
Figures about a run that wrote records.
-/

namespace TestData.Output

/-- What a run did and how long it took, in nanoseconds. -/
structure Metrics where
  rows : Nat := 0
  totalNanos : Nat := 0
  generationNanos : Nat := 0
  writeNanos : Nat := 0
  bytes : Nat := 0

namespace Metrics

/-- A time in seconds. -/
def seconds (nanos : Nat) : Float :=
  Float.ofNat (nanos / 1000000000) + Float.ofNat (nanos % 1000000000) / 1000000000

/-- An amount for each second of the run; zero for a run that took no time. -/
def rate (m : Metrics) (amount : Nat) : Float :=
  let time := seconds m.totalNanos
  if 0 < time then Float.ofNat amount / time else 0

/-- Rows for each second. -/
def rowRate (m : Metrics) : Float := m.rate m.rows

/-- Bytes for each second. -/
def byteRate (m : Metrics) : Float := m.rate m.bytes

end Metrics

end TestData.Output
