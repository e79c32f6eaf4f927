import TestData.Proofs.Schema.Written
import TestData.Proofs.Yaml.Integer

/-!
Integers as values of properties.

A plain scalar with the text of an integer is loaded as a literal with that text, whose value is
the floating-point number that is read of it, cut to 64 bits: the nearest integer with 53 binary
digits. Behind the tag of a sequence the same scalar is loaded as it is.
-/

namespace TestData.Schema

open Decimal (leastInteger greatestInteger clampInteger nearestInteger)
open Yaml (Numeral Tree propertyText propertyTree taggedTree)

/-- The document of an entity with one property. -/
def propertyDocument (path : Files.Path) (k : Kind) : Document :=
  { path
    imports := []
    entities := [3]
    nodes := #[
      { kind := k, parent := some 1 },
      { kind := .property "x" 0, parent := some 2 },
      { kind := .object [1], parent := some 3 },
      { kind := .entity "E" 2 }] }

/-- A tree is read as a node of a kind, wherever a value stands. -/
def ReadsAs (v : Tree) (k : Kind) : Prop :=
  ∀ (depth : Nat) (t : Trail) (d : Draft), (readValue (depth + 1) t v).run d = .ok (d.add k)

variable {v : Tree} {k : Kind} {s : String} {m : Yaml.Number} {a : Number} {n : Int}

lemma readsAs_number (h : Number.read m.text = .ok a) :
    ReadsAs (.number m s) (.literal (.number a)) := by
  intro depth t d
  simp only [readValue, h]
  rfl

lemma readsAs_sequence (h : m.toInt? = some n) :
    ReadsAs (.tagged "sequence" (.number m s)) (.call (.sequence n)) := by
  intro depth t d
  have hread : readValue (depth + 1) t (.tagged "sequence" (.number m s)) =
    readTagged (readValue depth) t (tagName "sequence") (.number m s) := rfl
  have hname : tagName "sequence" = "sequence" := by decide
  have hsequence : readTagged (readValue depth) t "sequence" (.number m s) =
    readStart t (.number m s) >>= fun start => Build.call (.sequence start) := rfl
  rw [hread, hname, hsequence, readStart, h]
  rfl

lemma ofTree_readsAs (path : Files.Path) (h : ReadsAs v k) (hk : k.children = []) :
    Document.ofTree path (propertyTree v) = .ok (propertyDocument path k) := by
  obtain ⟨depth, hdepth⟩ := height_propertyBody v
  have hvalue := h (depth + 1) ["x", "E"] { path, imports := [] }
  rw [← hdepth] at hvalue
  have hproperty (name : String) (i : NodeId) : (Kind.property name i).children = [i] := rfl
  have hobject (l : List NodeId) : (Kind.object l).children = l := rfl
  have hentity (name : String) (i : NodeId) : (Kind.entity name i).children = [i] := rfl
  rw [ofTree_propertyTree path hvalue]
  simp [Draft.add, Draft.addObject, Draft.addProperties, Draft.addEntity, Draft.finish,
    Draft.adopt, List.range_succ, hk, hproperty, hobject, hentity, propertyDocument]

/-- The tree of the text of an integer. -/
def integerTree (n : Int) : Tree := .number (.whole n) (toString n)

/-- How an integer is loaded: its text stands for the integer, and that is read as the same literal
at every place, and behind the tag of a sequence as the sequence from the integer on. -/
structure IntegerLoads (n : Int) (a : Number) : Prop where
  tree : Tree.ofPlain? (toString n) = some (integerTree n)
  plain : (integerTree n).withDecimals = integerTree n
  raw : a.raw = toString n
  literal : ReadsAs (integerTree n) (.literal (.number a))
  sequence : ReadsAs (.tagged "sequence" (integerTree n)) (.call (.sequence n))

section

variable (h : leastInteger ≤ n) (h' : n ≤ greatestInteger)

include h h'

lemma natAbs_le : n.natAbs ≤ 2 ^ 63 := by
  unfold leastInteger at h
  unfold greatestInteger at h'
  omega

/-- The value of the literal. -/
lemma exists_literal : ∃ a, Number.read (toString n) = .ok a ∧ a.raw = toString n ∧
    a.toValue = .int (clampInteger (nearestInteger n)) := by
  obtain ⟨x, hx, hnan, hticks⟩ := Decimal.readFloat_toString_eq (natAbs_le h h')
  obtain ⟨hwhole, hint⟩ := Decimal.isWhole_of_ticks (natAbs_le h h') hnan hticks
  refine ⟨⟨x, toString n⟩, Number.read_eq_ok hx, rfl, ?_⟩
  have hpoint : Number.hasPoint ⟨x, toString n⟩ = false := by
    simpa [Number.hasPoint] using Decimal.point_notMem_toString n
  rw [Number.toValue, hpoint, hwhole, hint]
  rfl

/-- **An integer is loaded** as the literal with its text, and behind the tag as a sequence. -/
theorem integer_loads :
    ∃ a, IntegerLoads n a ∧ a.toValue = .int (clampInteger (nearestInteger n)) := by
  obtain ⟨a, ha, hraw, hvalue⟩ := exists_literal h h'
  have hplain : (integerTree n).withDecimals = integerTree n := by
    rw [integerTree, withDecimals_number ha, if_neg]
    exact fun hne => hne.2 rfl
  exact ⟨a, ⟨Tree.ofPlain?_toString h h', hplain, hraw, readsAs_number ha,
    readsAs_sequence (if_pos h')⟩, hvalue⟩

end

/-- The documents of a property with the integer, and with a sequence from it on. -/
lemma IntegerLoads.ofText (hn : IntegerLoads n a) (path : Files.Path) :
    Document.ofText path (propertyText false (toString n)) =
        .ok (propertyDocument path (.literal (.number a))) ∧
      Document.ofText path (propertyText true (toString n)) =
        .ok (propertyDocument path (.call (.sequence n))) := by
  have hnumeral : Numeral (toString n) := (Tree.ofPlain?_number hn.tree).2.1
  have hdash : toString n ≠ "-" := by
    intro hdash
    have htree := hn.tree
    rw [hdash] at htree
    cases htree
  have hdecimals (v : Tree) : (propertyTree v).withDecimals = propertyTree v.withDecimals := by
    simp only [propertyTree, Tree.withDecimals, Tree.withDecimalsPairs]
  have htree (tagged : Bool) := Yaml.tree?_propertyText tagged hnumeral hdash hn.tree
  constructor
  · rw [Document.ofText, htree]
    dsimp only
    rw [hdecimals, taggedTree, if_neg Bool.false_ne_true, hn.plain]
    exact ofTree_readsAs path hn.literal rfl
  · rw [Document.ofText, htree]
    dsimp only
    rw [hdecimals, taggedTree, if_pos rfl, Tree.withDecimals, hn.plain]
    exact ofTree_readsAs path hn.sequence rfl

end TestData.Schema
