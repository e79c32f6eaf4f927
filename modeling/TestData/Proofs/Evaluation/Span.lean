import TestData.Proofs.Evaluation.Exec
import TestData.Proofs.Evaluation.Range

/-!
What can be drawn between two days or two points in time.

A range keeps its first bound and the whole days or seconds to the second one, cut toward zero, and
a draw shifts the first bound by some of them. So a day may be any day between the bounds, both
included, and a point in time any that is a whole number of seconds after the first bound and not
after the second.
-/

namespace TestData.Calendar.Timestamp

variable {a b t : Timestamp} {n : Int}

/-- The nanoseconds from the first of January of the year 1, without leap seconds. -/
def instant (t : Timestamp) : Int := (t.date.ordinal * daySeconds + t.seconds) * second + t.nanos

/-- A point in time that can be represented and is not in a leap second. -/
structure Regular (t : Timestamp) : Prop where
  valid : t.Valid
  plain : t.nanos < second

/-- Regular points in time are ordered as their nanoseconds. -/
lemma Regular.after_iff (ha : a.Regular) (hb : b.Regular) : a.after b ↔ b.instant < a.instant := by
  have hna := ha.plain
  have hnb := hb.plain
  rw [Timestamp.after_iff ha.valid hb.valid]
  simp only [rank, instant, second] at *
  omega

end TestData.Calendar.Timestamp

namespace TestData.Engine

open Schema Calendar
open TestData.Random (Source)

/-! ### What may be drawn -/

namespace Operand

/-- A day from one day to another; or a point in time that is a whole number of seconds after one
and not after another. -/
def Reaches : Operand → Operand → Value → Prop
  | date a, date b, .date d => a.ordinal ≤ d.ordinal ∧ d.ordinal ≤ b.ordinal
  | time a, time b, .timestamp t =>
    t.Regular ∧ ∃ k : Nat, t.instant = a.instant + k * second ∧ t.instant ≤ b.instant
  | _, _, _ => False

end Operand

variable {a b : Operand} {spec : RangeSpec} {min max n : Int} {src : Source}

section

variable {d e : Date}

end

/-! ### Points in time -/

section

variable {t u : Timestamp}

end

/-! ### Ranges -/

section

variable {value : NodeRef → Eval (Option Value)} {w : World} {s s₁ s₂ : Session} {t : NodeRef}
  {i j : NodeId}

end

namespace LeapDay

/-- The 29th of February of the year 2024. -/
def day : Date := .ofParts 2024 2 29

end LeapDay

end TestData.Engine
