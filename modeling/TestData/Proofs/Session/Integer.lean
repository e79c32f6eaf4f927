import TestData.Proofs.Schema.Integer
import TestData.Proofs.Session.Literal
import TestData.Proofs.Session.Sequence

/-!
Integers over whole runs.

A property with an integer has, in every row, the number that is nearest to it; a sequence from the
integer on starts with the integer itself. The two are the same exactly if 53 binary digits are
enough (`integer_property_rounds`), and the first integer for which they are not is 2⁵³ + 1
(`odd_integer_is_rounded`).
-/

namespace TestData.Engine

open Schema
open Decimal (leastInteger greatestInteger clampInteger nearestInteger Representable)
open Yaml (propertyText)

variable {t : NodeRef} {s : Session} {n : Int}

/-- Before a row asks for a sequence, it answers the integer from which it starts. -/
lemma Run.answers_first (h : leastInteger ≤ n) (h' : n ≤ greatestInteger) (hs : Run t s 0 false)
    (hk : s.workspace.kind t = .call (.sequence n)) : s.Answers t (.int n) := by
  intro w r b c hr hb hbc ht
  have hcounts := hs.counts h h' hk
  have hrows : r.rowsBefore 0 false = 0 := by
    unfold Request.rowsBefore
    split <;> rfl
  have htracks := hcounts.tracks_root hk hr hb
  rw [hrows] at htracks
  have hnumber := (hbc.sequence h h' htracks (by rw [Request.scope_root hb hr]; exact ht)).1
  rw [hnumber, sequenceAt_zero h']

/-- **A property with an integer has the number nearest to it.** The text of the integer is loaded
as a literal, and behind the tag as a sequence. In every session that can be reached the literal
answers the nearest integer with 53 binary digits, cut to 64 bits; a sequence that no row has asked
for answers the integer itself. The two agree exactly if 53 digits are enough or the integer is the
greatest one. -/
theorem integer_property_rounds (path : Files.Path) (h : leastInteger ≤ n)
    (h' : n ≤ greatestInteger) :
    ∃ a, IntegerLoads n a ∧
      Document.ofText path (propertyText false (toString n)) =
        .ok (propertyDocument path (.literal (.number a))) ∧
      Document.ofText path (propertyText true (toString n)) =
        .ok (propertyDocument path (.call (.sequence n))) ∧
      (∀ s t, Reachable s → s.workspace.kind t = .literal (.number a) →
        s.Answers t (.int (clampInteger (nearestInteger n)))) ∧
      (∀ s t, Run t s 0 false → s.workspace.kind t = .call (.sequence n) → s.Answers t (.int n)) ∧
      (clampInteger (nearestInteger n) = n ↔ Representable n.natAbs ∨ n = greatestInteger) := by
  obtain ⟨a, hloads, hvalue⟩ := integer_loads h h'
  obtain ⟨hliteral, hsequence⟩ := hloads.ofText path
  refine ⟨a, hloads, hliteral, hsequence, fun s t hs hk => ?_, fun s t hs hk => ?_,
    Decimal.clampInteger_nearestInteger_eq_iff h h'⟩
  · rw [← hvalue]
    exact hs.literal hk
  · exact hs.answers_first h h' hk

namespace Rounding

/-- An engine for the document of a property, in a world without files. -/
def session (k : Kind) : Session :=
  .start (.ofDocuments Counting.world.disk [propertyDocument "a.yaml" k]) CallKind.all {}
    Counting.world

lemma kind_session (k : Kind) : (session k).workspace.kind ⟨0, 0⟩ = k := rfl

lemma reachable_session (k : Kind) : Reachable (session k) := .start _ _ _ _

lemma run_session (k : Kind) : Run ⟨0, 0⟩ (session k) 0 false := .start _ _ _

end Rounding

/-- A small integer is kept. -/
theorem five_is_kept : ∃ a,
    Document.ofText "a.yaml" (propertyText false "5") =
        .ok (propertyDocument "a.yaml" (.literal (.number a))) ∧
      Document.ofText "a.yaml" (propertyText true "5") =
        .ok (propertyDocument "a.yaml" (.call (.sequence 5))) ∧
      ((Eval.value ⟨0, 1⟩).exec Counting.world (Rounding.session (.literal (.number a)))).1 =
        .ok (some (.int 5)) ∧
      ((Eval.value ⟨0, 1⟩).exec Counting.world (Rounding.session (.call (.sequence 5)))).1 =
        .ok (some (.int 5)) := by
  obtain ⟨a, -, hliteral, hsequence, hint, hfirst, hkept⟩ :=
    integer_property_rounds (n := 5) "a.yaml" (by decide) (by decide)
  have hfive : clampInteger (nearestInteger 5) = 5 :=
    hkept.mpr (.inl (Decimal.representable_of_le (by decide)))
  rw [hfive] at hint
  exact ⟨a, hliteral, hsequence,
    (hint _ _ (Rounding.reachable_session _) (Rounding.kind_session _)).value rfl,
    (hfirst _ _ (Rounding.run_session _) (Rounding.kind_session _)).value rfl⟩

/-- 2⁵³ + 1 is rounded: the property has the integer below it, and the sequence starts with it. -/
theorem odd_integer_is_rounded : ∃ a,
    Document.ofText "a.yaml" (propertyText false "9007199254740993") =
        .ok (propertyDocument "a.yaml" (.literal (.number a))) ∧
      Document.ofText "a.yaml" (propertyText true "9007199254740993") =
        .ok (propertyDocument "a.yaml" (.call (.sequence 9007199254740993))) ∧
      ((Eval.value ⟨0, 1⟩).exec Counting.world (Rounding.session (.literal (.number a)))).1 =
        .ok (some (.int 9007199254740992)) ∧
      ((Eval.value ⟨0, 1⟩).exec Counting.world
          (Rounding.session (.call (.sequence 9007199254740993)))).1 =
        .ok (some (.int 9007199254740993)) := by
  have hlow : leastInteger ≤ 9007199254740993 := by decide
  have hhigh : 9007199254740993 ≤ greatestInteger := by decide
  have hround : clampInteger (nearestInteger 9007199254740993) = 9007199254740992 := by
    decide +kernel
  obtain ⟨a, hloads, hvalue⟩ := integer_loads hlow hhigh
  obtain ⟨hliteral, hsequence⟩ := hloads.ofText "a.yaml"
  have hint : (Rounding.session (.literal (.number a))).Answers ⟨0, 0⟩ a.toValue :=
    (Rounding.reachable_session _).literal (Rounding.kind_session (.literal (.number a)))
  rw [hvalue, hround] at hint
  have hfirst := (Rounding.run_session _).answers_first hlow hhigh (Rounding.kind_session _)
  exact ⟨a, hliteral, hsequence, hint.value rfl, hfirst.value rfl⟩

end TestData.Engine
