import TestData.Engine.Creation
import TestData.Proofs.Yaml.PropertyText
import TestData.Schema.Reader

/-!
The source texts of numbers in a range.

A quoted bound is a literal with the text in the quotes. A bare one is a number first: it keeps
its text where that has a point, and any other is written anew. So the two spellings of a range
load to the same document exactly if every bound has a point or is written as its number is. They
need not: `1e3` is written anew as `1000.0`, which has a point, and the range draws real numbers.
-/

namespace TestData.Schema

open Yaml (Tree Numeral propertyTree rangeText rangeTree)

/-! ### Reading the bounds -/

/-- The document of a range with two numbers as its bounds. -/
def rangeDocument (path : Files.Path) (a b : Number) : Document :=
  { path
    imports := []
    entities := [5]
    nodes := #[
      { kind := .literal (.number a), parent := some 2 },
      { kind := .literal (.number b), parent := some 2 },
      { kind := .call (.range 0 1), parent := some 3 },
      { kind := .property "x" 2, parent := some 4 },
      { kind := .object [3], parent := some 5 },
      { kind := .entity "E" 4 }] }

/-- A tree that is read as a literal where an operand is expected. -/
def IsOperand (v : Tree) (a : Number) : Prop :=
  ∀ (depth : Nat) (t : Trail) (d : Draft),
    (readOperand (readValue (depth + 1)) t v).run d = .ok (d.add (.literal (.number a)))

/-- Two literals and a range between them. -/
def Draft.addRange (d : Draft) (a b : Number) : NodeId × Draft :=
  let (i, d) := d.add (.literal (.number a))
  let (j, d) := d.add (.literal (.number b))
  d.add (.call (.range i j))

lemma Build.run_bind {α β : Type} {x : Build α} {f : α → Build β} {d d' : Draft} {a : α}
    (h : x.run d = .ok (a, d')) : (x >>= f).run d = (f a).run d' := by
  rw [StateT.run_bind, h]
  rfl

section Reading

variable {s : String} {n : Yaml.Number} {v w : Tree} {a b : Number}

lemma isOperand_string (h : Number.read s = .ok a) : IsOperand (.string s) a := by
  intro depth t d
  simp only [readOperand, h]
  rfl

lemma isOperand_number (h : Number.read n.text = .ok a) : IsOperand (.number n s) a := by
  intro depth t d
  simp only [readOperand, readValue, h]
  rfl

lemma tagName_decimal : tagName Tree.decimalTag = "decimal" := by decide

lemma tagName_range : tagName "range" = "range" := by decide

lemma readTagged_decimal (read : ValueReader) (t : Trail) (v : Tree) :
    readTagged read t "decimal" v =
      (readText t "a decimal number" v >>= fun s => readNumber t s >>= fun a =>
        Build.literal (.number a)) :=
  rfl

lemma readTagged_range (read : ValueReader) (t : Trail) (v w : Tree) :
    readTagged read t "range" (.sequence [v, w]) =
      (readOperand read t v >>= fun i => readOperand read t w >>= fun j =>
        Build.call (.range i j)) :=
  rfl

lemma isOperand_decimal (h : Number.read s = .ok a) :
    IsOperand (.tagged Tree.decimalTag (.string s)) a := by
  intro depth t d
  have hnumber : (readNumber t s).run d = .ok (a, d) := by
    rw [readNumber, h]
    rfl
  have hread : readOperand (readValue (depth + 1)) t (.tagged Tree.decimalTag (.string s)) =
    readTagged (readValue depth) t (tagName Tree.decimalTag) (.string s) := rfl
  rw [hread, tagName_decimal, readTagged_decimal, readText, pure_bind, Build.run_bind hnumber]
  rfl

lemma readValue_range (ha : IsOperand v a) (hb : IsOperand w b) (depth : Nat) (t : Trail)
    (d : Draft) :
    (readValue (depth + 2) t (.tagged "range" (.sequence [v, w]))).run d =
      .ok (d.addRange a b) := by
  have hread : readValue (depth + 2) t (.tagged "range" (.sequence [v, w])) =
    readTagged (readValue (depth + 1)) t (tagName "range") (.sequence [v, w]) := rfl
  rw [hread, tagName_range, readTagged_range, Build.run_bind (ha depth t d),
    Build.run_bind (hb depth t _)]
  rfl

lemma readObject_single {read : ValueReader} {t : Trail} {name : String} {d d' : Draft}
    {id : NodeId} (h : (read (name :: t) v).run d = .ok (id, d')) :
    (readObject read t [(.string name, v)]).run d = .ok (d'.addObject [(name, id)]) := by
  have hnamed : (readNamed read t [(.string name, v)]).run d = .ok ([(name, id)], d') := by
    simp only [readNamed, readKey, List.mapM_cons, List.mapM_nil, pure_bind]
    simp [h]
  rw [readObject, Build.run_bind hnamed]
  rfl

/-- The body of an entity with one property. -/
def propertyBody (v : Tree) : Tree := .mapping [(.string "x", v)]

lemma height_propertyBody (v : Tree) : ∃ depth, (propertyBody v).height = depth + 2 := by
  refine Nat.exists_eq_add_of_le' ?_
  simp only [propertyBody, Yaml.Tree.height, Yaml.Tree.pairsHeight]
  omega

lemma readEntity_property {read : ValueReader} {d d' : Draft} {id : NodeId}
    (h : (read ["x", "E"] v).run d = .ok (id, d')) :
    (readEntity read (.string "E") (propertyBody v)).run d =
      .ok ((d'.addObject [("x", id)]).2.addEntity "E" (d'.addObject [("x", id)]).1) := by
  have hread : readEntity read (.string "E") (propertyBody v) =
      (readObject read ["E"] [(.string "x", v)] >>= fun id =>
        Build.draw (·.addEntity "E" id)) := by
    simp only [readEntity, readKey, propertyBody, pure_bind]
  rw [hread, Build.run_bind (readObject_single h)]
  rfl

lemma outline?_propertyTree (v : Tree) :
    outline? (propertyTree v) = some ([], [(.string "E", propertyBody v)]) :=
  rfl

/-- An entity with one property is read as soon as the value of the property is. -/
lemma ofTree_propertyTree (path : Files.Path) {d : Draft} {id : NodeId}
    (h : (readValue (propertyBody v).height ["x", "E"] v).run { path, imports := [] } =
      .ok (id, d)) :
    Document.ofTree path (propertyTree v) =
      .ok ((d.addObject [("x", id)]).2.addEntity "E" (d.addObject [("x", id)]).1).2.finish := by
  have hbuild : Document.ofTree path (propertyTree v) =
      ((readEntity (readValue (propertyBody v).height) (.string "E") (propertyBody v)).run
        { path, imports := [] }).map fun p => p.2.finish := by
    rw [Document.ofTree, outline?_propertyTree]
    simp
    rfl
  rw [hbuild, readEntity_property h]
  rfl

lemma ofTree_rangeTree (path : Files.Path) (ha : IsOperand v a) (hb : IsOperand w b) :
    Document.ofTree path (rangeTree v w) = .ok (rangeDocument path a b) := by
  have htree : rangeTree v w = propertyTree (.tagged "range" (.sequence [v, w])) := rfl
  obtain ⟨depth, hdepth⟩ := height_propertyBody (.tagged "range" (.sequence [v, w]))
  have hvalue := readValue_range ha hb depth ["x", "E"] { path, imports := [] }
  rw [← hdepth] at hvalue
  rw [htree, ofTree_propertyTree path hvalue]
  simp [Draft.add, Draft.addObject, Draft.addProperties, Draft.addEntity, Draft.finish,
    Draft.adopt, List.range_succ, Kind.children, Call.operands, rangeDocument]

end Reading

/-! ### Bare and quoted bounds -/

/-- The source text of a bound: its own, but that of the number if it is bare and has no point. -/
def sourceText (plain : Bool) (n : Yaml.Number) (t : String) : String :=
  if plain ∧ '.' ∉ t.toList then n.text else t

section Bounds

variable {t u : String} {n m : Yaml.Number} {a b : Number}

lemma withDecimals_number (ha : Number.read t = .ok a) :
    (Tree.number n t).withDecimals =
      if '.' ∈ t.toList ∧ t ≠ n.text then .tagged Tree.decimalTag (.string t) else .number n t := by
  simp [Tree.withDecimals, Tree.ofNumber, ha, String.contains_char_eq]

lemma isOperand_bare (ht : Tree.ofPlain? t = some (.number n t)) (ha : Number.read t = .ok a) :
    ∃ a', IsOperand (Tree.number n t).withDecimals a' ∧
      Number.read (sourceText true n t) = .ok a' := by
  rw [withDecimals_number ha]
  by_cases hpoint : '.' ∈ t.toList
  · have htext : sourceText true n t = t := if_neg fun h => h.2 hpoint
    rw [htext]
    refine ⟨a, ?_, ha⟩
    split_ifs with hkept
    · exact isOperand_decimal ha
    · obtain rfl : t = n.text := by simpa [hpoint] using hkept
      exact isOperand_number ha
  · have htext : sourceText true n t = n.text := if_pos ⟨rfl, hpoint⟩
    obtain ⟨y, hy⟩ := Yaml.Number.read_text ht ha
    rw [if_neg fun h => hpoint h.1, htext]
    exact ⟨_, isOperand_number hy, hy⟩

/-- A bound is loaded to the literal of its source text. -/
lemma isOperand_bound (ht : Tree.ofPlain? t = some (.number n t)) (ha : Number.read t = .ok a)
    (plain : Bool) :
    ∃ v a', Tree.ofScalar? none plain t = some v ∧ IsOperand v.withDecimals a' ∧
      Number.read (sourceText plain n t) = .ok a' := by
  cases plain with
  | false => exact ⟨.string t, a, rfl, isOperand_string ha, ha⟩
  | true =>
    obtain ⟨a', hoperand, hread⟩ := isOperand_bare ht ha
    exact ⟨.number n t, a', ht, hoperand, hread⟩

lemma raw_of_sourceText {plain : Bool} {a' : Number} (ht : Tree.ofPlain? t = some (.number n t))
    (ha : Number.read t = .ok a) (h : Number.read (sourceText plain n t) = .ok a') :
    a'.raw = sourceText plain n t := by
  by_cases hbare : plain ∧ '.' ∉ t.toList
  · obtain ⟨y, hy⟩ := Yaml.Number.read_text ht ha
    rw [sourceText, if_pos hbare] at h ⊢
    rw [hy] at h
    rw [← Except.ok.inj h]
  · rw [sourceText, if_neg hbare] at h ⊢
    exact (Number.read_of_isNumeral (Tree.ofPlain?_number ht).2.1.2 h).2

/-- A range is loaded with the literals of the source texts of its bounds. -/
lemma ofText_rangeText (path : Files.Path) (ht : Tree.ofPlain? t = some (.number n t))
    (hu : Tree.ofPlain? u = some (.number m u)) (ha : Number.read t = .ok a)
    (hb : Number.read u = .ok b) (plain plain' : Bool) :
    ∃ a' b', Number.read (sourceText plain n t) = .ok a' ∧
      Number.read (sourceText plain' m u) = .ok b' ∧
      Document.ofText path (rangeText plain plain' t u) = .ok (rangeDocument path a' b') := by
  obtain ⟨v, a', hv, hva, hread⟩ := isOperand_bound ht ha plain
  obtain ⟨w, b', hw, hwb, hread'⟩ := isOperand_bound hu hb plain'
  refine ⟨a', b', hread, hread', ?_⟩
  have htree := Yaml.tree?_rangeText (Tree.ofPlain?_number ht).2.1 (Tree.ofPlain?_number hu).2.1
    hv hw
  have hdecimals : (rangeTree v w).withDecimals = rangeTree v.withDecimals w.withDecimals := by
    simp only [rangeTree, Tree.withDecimals, Tree.withDecimalsPairs, Tree.withDecimalsItems]
  rw [Document.ofText, htree]
  simp only [hdecimals]
  exact ofTree_rangeTree path hva hwb

end Bounds

/-- The literals that a number is loaded to in quotes and without, wherever an operand stands. In
quotes it has the text in the quotes, and without them it is the same literal exactly if there is
a point in the text or the number is written so. -/
structure Alike (t : String) (n : Yaml.Number) (quoted bare : Number) : Prop where
  quoted_operand : IsOperand (.string t) quoted
  bare_operand : IsOperand (Tree.number n t).withDecimals bare
  quoted_raw : quoted.raw = t
  bare_raw : bare.raw = sourceText true n t
  same : bare = quoted ↔ '.' ∈ t.toList ∨ n.text = t

lemma alike_of_sourceText {t : String} {n : Yaml.Number} {a a' : Number}
    (ht : Tree.ofPlain? t = some (.number n t)) (ha : Number.read t = .ok a)
    (h : Number.read (sourceText true n t) = .ok a') : Alike t n a a' where
  quoted_operand := isOperand_string ha
  bare_operand := by
    obtain ⟨a'', hoperand, hread⟩ := isOperand_bare ht ha
    obtain rfl := Except.ok.inj (h.symm.trans hread)
    exact hoperand
  quoted_raw := (Number.read_of_isNumeral (Tree.ofPlain?_number ht).2.1.2 ha).2
  bare_raw := raw_of_sourceText ht ha h
  same := by
    have hraw := (Number.read_of_isNumeral (Tree.ofPlain?_number ht).2.1.2 ha).2
    have hraw' := raw_of_sourceText ht ha h
    constructor
    · rintro rfl
      rw [hraw, sourceText] at hraw'
      split_ifs at hraw' with hbare
      · exact .inr hraw'.symm
      · exact .inl (by simpa using hbare)
    · intro hkept
      have htext : sourceText true n t = t := by
        rw [sourceText, ite_eq_right_iff]
        exact fun hbare => hkept.resolve_left hbare.2
      rw [htext, ha] at h
      exact (Except.ok.inj h).symm

/-- **A range between two numbers is loaded whether its bounds are quoted or not.** Quoted bounds
keep the text in the quotes. Bare bounds are the same literals, with the same places and the same
choice of what is drawn, exactly if each has a point or is written as its number is. -/
theorem Document.range_quoted_or_bare (path : Files.Path) {t u : String} {n m : Yaml.Number}
    {a b : Number} (ht : Tree.ofPlain? t = some (.number n t))
    (hu : Tree.ofPlain? u = some (.number m u)) (ha : Number.read t = .ok a)
    (hb : Number.read u = .ok b) :
    Document.ofText path (rangeText false false t u) = .ok (rangeDocument path a b) ∧
      ∃ a' b', Document.ofText path (rangeText true true t u) = .ok (rangeDocument path a' b') ∧
        Alike t n a a' ∧ Alike u m b b' := by
  constructor
  · obtain ⟨a', b', ha', hb', hquoted⟩ := ofText_rangeText path ht hu ha hb false false
    have htext (s : String) (k : Yaml.Number) : sourceText false k s = s := rfl
    rw [htext, ha] at ha'
    rw [htext, hb] at hb'
    rwa [← Except.ok.inj ha', ← Except.ok.inj hb'] at hquoted
  · obtain ⟨a', b', ha', hb', hbare⟩ := ofText_rangeText path ht hu ha hb true true
    exact ⟨a', b', hbare, alike_of_sourceText ht ha ha', alike_of_sourceText hu hb hb'⟩

/-- A number with a point and an integer that is written as it is are the same in quotes. -/
theorem Document.range_of_point_and_integer :
    Document.ofText "schema.yaml" (rangeText true true "10.10" "12") =
      Document.ofText "schema.yaml" (rangeText false false "10.10" "12") := by
  obtain ⟨hquoted, a', b', hbare, hfirst, hsecond⟩ :=
    Document.range_quoted_or_bare "schema.yaml" (t := "10.10") (u := "12") rfl rfl rfl rfl
  rw [hquoted, hbare, hfirst.same.mpr (.inl (by decide)), hsecond.same.mpr (.inr rfl)]

/-- The literal that a text is read as. -/
def literalOf (s : String) : Number := (Number.read s).toOption.getD default

/-- What bare thousands are written anew as. -/
lemma thousands_written :
    (∃ n, Tree.ofPlain? "1e3" = some (.number n "1e3") ∧ n.text = "1000.0") ∧
      ∃ n, Tree.ofPlain? "2e3" = some (.number n "2e3") ∧ n.text = "2000.0" :=
  ⟨⟨_, rfl, rfl⟩, _, rfl, rfl⟩

open Engine (RangeSpec) in
/-- In quotes, thousands written with an exponent are the bounds of a range of integers; without,
they have a point and are the bounds of a range of real numbers. -/
theorem Document.range_of_thousands_differs :
    Document.ofText "schema.yaml" (rangeText false false "1e3" "2e3") =
        .ok (rangeDocument "schema.yaml" (literalOf "1e3") (literalOf "2e3")) ∧
      Document.ofText "schema.yaml" (rangeText true true "1e3" "2e3") =
        .ok (rangeDocument "schema.yaml" (literalOf "1000.0") (literalOf "2000.0")) ∧
      (literalOf "1e3").raw = "1e3" ∧ (literalOf "1000.0").raw = "1000.0" ∧
      RangeSpec.between (.number (literalOf "1e3")) (.number (literalOf "2e3")) =
        .ok (.whole 1000 2000) ∧
      RangeSpec.between (.number (literalOf "1000.0")) (.number (literalOf "2000.0")) =
        .ok (.real (literalOf "1000.0").value (literalOf "2000.0").value 1) := by
  obtain ⟨⟨n, hn, hnText⟩, m, hm, hmText⟩ := thousands_written
  have hfirst : Number.read "1e3" = .ok (literalOf "1e3") := rfl
  have hsecond : Number.read "2e3" = .ok (literalOf "2e3") := rfl
  have hdocument (plain : Bool) :
      ∃ a b, Number.read (sourceText plain n "1e3") = .ok a ∧
        Number.read (sourceText plain m "2e3") = .ok b ∧
        Document.ofText "schema.yaml" (rangeText plain plain "1e3" "2e3") =
          .ok (rangeDocument "schema.yaml" a b) :=
    ofText_rangeText "schema.yaml" hn hm hfirst hsecond plain plain
  have hquoted (k : Yaml.Number) (s : String) : sourceText false k s = s := rfl
  have hbare (k : Yaml.Number) {s : String} (hs : '.' ∉ s.toList) : sourceText true k s = k.text :=
    if_pos ⟨rfl, hs⟩
  refine ⟨?_, ?_, rfl, rfl, rfl, rfl⟩
  · obtain ⟨a, b, ha, hb, hd⟩ := hdocument false
    rw [hquoted, hfirst] at ha
    rw [hquoted, hsecond] at hb
    rw [hd, ← Except.ok.inj ha, ← Except.ok.inj hb]
  · have hfirst' : Number.read "1000.0" = .ok (literalOf "1000.0") := rfl
    have hsecond' : Number.read "2000.0" = .ok (literalOf "2000.0") := rfl
    obtain ⟨a, b, ha, hb, hd⟩ := hdocument true
    rw [hbare n (by decide), hnText, hfirst'] at ha
    rw [hbare m (by decide), hmText, hsecond'] at hb
    rw [hd, ← Except.ok.inj ha, ← Except.ok.inj hb]

end TestData.Schema
