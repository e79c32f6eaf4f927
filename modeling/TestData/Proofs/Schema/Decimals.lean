import TestData.Proofs.Schema.Operands
import TestData.Proofs.Schema.Written
import TestData.Proofs.Yaml.Decimals

/-!
Decimal texts on their way into a document.

The reader finds the tagged texts where the numbers were, at the same addresses. So a number that is
written with a point is a literal with exactly that text, wherever a literal is made of a number
that is no key.
-/

namespace TestData.Yaml.Tree

variable {items : List Tree} {pairs : List (Tree × Tree)} {t v : Tree} {name : String}

lemma getElem?_withDecimalsItems {i : Nat} (h : items[i]? = some v) :
    (withDecimalsItems items)[i]? = some v.withDecimals := by
  induction items generalizing i with
  | nil => cases h
  | cons t items ih =>
    cases i with
    | zero => rw [← Option.some.inj h]; rfl
    | succ i => exact ih (i := i) h

lemma getElem?_withDecimalsPairs {i : Nat} {k : Tree} (h : pairs[i]? = some (k, v)) :
    (withDecimalsPairs pairs)[i]? = some (k, v.withDecimals) := by
  induction pairs generalizing i with
  | nil => cases h
  | cons p pairs ih =>
    cases i with
    | zero => rw [Option.some.inj h]; rfl
    | succ i => exact ih (i := i) h

lemma lookup_withDecimalsPairs (pairs : List (Tree × Tree)) (name : String) :
    lookup (withDecimalsPairs pairs) name = (lookup pairs name).map withDecimals := by
  induction pairs with
  | nil => rfl
  | cons p pairs ih =>
    obtain ⟨k, v⟩ := p
    cases k with
    | string s =>
      rw [withDecimalsPairs, lookup, lookup]
      split_ifs
      · rfl
      · exact ih
    | _ => exact ih

lemma isString_ofNumber (n : Number) (w : String) : (ofNumber n w).isString = false :=
  iteInduction (motive := fun t : Tree => t.isString = false) (fun _ => rfl) fun _ => rfl

/-- What a tree stands for apart from its tags stays the same, unless it is a number. -/
lemma untagged_withDecimals (h : ∀ n w, t.untagged ≠ number n w) :
    t.withDecimals.untagged = t.untagged.withDecimals := by
  fun_induction untagged t with
  | case1 tag t ih => exact ih h
  | case2 t hother =>
    cases t with
    | number n w => exact absurd rfl (h n w)
    | tagged tag t => exact absurd rfl (hother tag t)
    | _ => rfl

end TestData.Yaml.Tree

namespace TestData.Schema

open Yaml (Tree propertyTree rangeText rangeTree)

variable {v w : Tree} {i : Nat}

lemma Operand.withDecimals (h : Operand v i w) : Operand v.withDecimals i w.withDecimals := by
  cases h with
  | item h => exact .item (Tree.getElem?_withDecimalsItems h)
  | property h => exact .property (Tree.getElem?_withDecimalsPairs h)
  | bound htag h => exact .bound htag (Tree.getElem?_withDecimalsItems h)
  | choice htag h => exact .choice htag (Tree.getElem?_withDecimalsItems h)
  | weighted htag h => exact .weighted htag (Tree.getElem?_withDecimalsItems h)
  | normal htag hname h =>
    exact .normal htag hname (by rw [Tree.lookup_withDecimalsPairs, h]; rfl)
  | source htag h => exact .source htag (by rw [Tree.lookup_withDecimalsPairs, h]; rfl)
  | entry htag hentries h =>
    exact .entry htag (by rw [Tree.lookup_withDecimalsPairs, hentries]; rfl)
      (Tree.getElem?_withDecimalsPairs h)
  | target htag hitems h =>
    exact .target htag (by rw [Tree.lookup_withDecimalsPairs, hitems]; rfl)
      (Tree.getElem?_withDecimalsItems h)
  | parameter htag hparams h =>
    exact .parameter htag (by rw [Tree.lookup_withDecimalsPairs, hparams]; rfl)
      (Tree.getElem?_withDecimalsPairs h)
  | piped htag h => exact .piped htag (by rw [Tree.lookup_withDecimalsPairs, h]; rfl)

lemma along_withDecimals {address : List Nat} (h : Along Operand v address w) :
    Along Operand v.withDecimals address w.withDecimals := by
  induction address generalizing v with
  | nil => exact congrArg Tree.withDecimals h
  | cons i address ih =>
    obtain ⟨u, hu, hrest⟩ := h
    exact ⟨u.withDecimals, hu.withDecimals, ih hrest⟩

/-! ### Literals -/

/-- A number is written as a literal: bare, or under the tag of decimal numbers. -/
inductive IsLiteral (n : Yaml.Number) (w : String) : Tree → Prop
  | bare : IsLiteral n w (.number n w)
  | tagged {tag : String} (htag : tagName tag = "decimal") :
      IsLiteral n w (.tagged tag (.number n w))

section Literals

variable {n : Yaml.Number} {w : String} {doc : Document} {id : NodeId} {a : Number}

/-- What is read as a number is a literal in the document. -/
lemma IsOperand.kind {v : Tree} (h : IsOperand v a) (hv : v.isString = false)
    (hstands : doc.Stands v id) : doc.kind id = .literal (.number a) := by
  obtain ⟨depth, t, d, d', hread, hwithin⟩ := hstands
  obtain _ | depth := depth
  · cases hread
  have hoperand : (readOperand (readValue (depth + 1)) t v).run d =
      readValue (depth + 1) t v d := by
    cases v with
    | string s => cases hv
    | _ => rfl
  rw [← hoperand, h depth t d] at hread
  obtain ⟨rfl, rfl⟩ := Prod.mk.inj (Except.ok.inj hread)
  exact hwithin _ _ (Draft.getElem?_add d _)

/-- A number with a point is tagged, or it is written as it is. -/
lemma ofNumber_cases (n : Yaml.Number) (hpoint : '.' ∈ w.toList) (hread : Number.read w = .ok a) :
    Tree.ofNumber n w = .tagged Tree.decimalTag (.string w) ∨
      Tree.ofNumber n w = .number n w ∧ n.text = w := by
  have hnumber := withDecimals_number (n := n) hread
  rw [Tree.withDecimals] at hnumber
  by_cases htext : w = n.text
  · exact .inr ⟨by rw [hnumber, if_neg fun h => h.2 htext], htext.symm⟩
  · exact .inl (by rw [hnumber, if_pos ⟨hpoint, htext⟩])

lemma isOperand_ofNumber (n : Yaml.Number) (hpoint : '.' ∈ w.toList)
    (hread : Number.read w = .ok a) : IsOperand (Tree.ofNumber n w) a := by
  rcases ofNumber_cases n hpoint hread with hw | ⟨hw, htext⟩ <;> rw [hw]
  · exact isOperand_decimal hread
  · exact isOperand_number (htext.symm ▸ hread)

/-- Under the tag of decimal numbers, the text of a number is read. -/
lemma isOperand_tagged {tag : String} (htag : tagName tag = "decimal") (n : Yaml.Number)
    (hpoint : '.' ∈ w.toList) (hread : Number.read w = .ok a) :
    IsOperand (.tagged tag (Tree.ofNumber n w)) a := by
  intro depth t d
  have htext : readText t "a decimal number" (Tree.ofNumber n w) = pure w := by
    rcases ofNumber_cases n hpoint hread with hw | ⟨hw, htext⟩ <;> rw [hw]
    · rfl
    · rw [readText, htext]
  have hvalue : readOperand (readValue (depth + 1)) t (.tagged tag (Tree.ofNumber n w)) =
      readTagged (readValue depth) t (tagName tag) (Tree.ofNumber n w) := rfl
  have hnumber : (readNumber t w).run d = .ok (a, d) := by
    rw [readNumber, hread]
    rfl
  simp only [hvalue, htag, readTagged_decimal, htext, pure_bind]
  rw [Build.run_bind hnumber]
  rfl

lemma ofNumber_of_unreadable (hread : ∀ a, Number.read w ≠ .ok a) :
    Tree.ofNumber n w = .number n w := by
  cases hw : Number.read w with
  | ok a => exact absurd hw (hread a)
  | error e => simp [Tree.ofNumber, hw]

/-- A number whose text cannot be read stands for nothing. -/
lemma not_stands_of_unreadable {v : Tree} (htext : ∀ a, Number.read n.text ≠ .ok a)
    (hv : IsLiteral n w v) : ¬doc.Stands v id := by
  rintro ⟨depth, t, d, d', h, -⟩
  obtain _ | depth := depth
  · cases h
  obtain ⟨e, he⟩ : ∃ e, Number.read n.text = .error e := by
    cases hn : Number.read n.text with
    | ok a => exact absurd hn (htext a)
    | error e => exact ⟨e, rfl⟩
  cases hv with
  | bare =>
    rw [readValue, he] at h
    cases h
  | tagged htag =>
    rw [readValue, htag] at h
    simp only [readTagged_decimal, readText, pure_bind, readNumber, he] at h
    cases h

/-- **A number with a point** is a literal with the text that it is written as. -/
lemma IsLiteral.kind {v : Tree} (hv : IsLiteral n w v) (hdenotes : Tree.Denotes w n)
    (hpoint : '.' ∈ w.toList) (h : doc.Stands v.withDecimals id) :
    doc.kind id = .literal (.number ⟨n.toFloat, w⟩) := by
  rcases hdenotes.cases_of_point hpoint with ⟨x, rfl, -, hread⟩ | ⟨hread, htext⟩
  · cases hv with
    | bare => exact (isOperand_ofNumber _ hpoint hread).kind (Tree.isString_ofNumber _ w) h
    | tagged htag => exact (isOperand_tagged htag _ hpoint hread).kind rfl h
  · refine absurd h ?_
    cases hv with
    | bare =>
      rw [Tree.withDecimals, ofNumber_of_unreadable hread]
      exact not_stands_of_unreadable htext .bare
    | tagged htag =>
      rw [Tree.withDecimals, Tree.withDecimals, ofNumber_of_unreadable hread]
      exact not_stands_of_unreadable htext (.tagged htag)

end Literals

/-! ### Numbers in trees -/

section Denoted

variable {pairs : Pairs} {key : String}

lemma denoted_content {tag : String} (h : (Tree.tagged tag v).Denoted) : v.Denoted := by
  cases h with
  | tagged _ h => exact h

lemma denoted_lookup (h : (Tree.mapping pairs).Denoted) (hv : Tree.lookup pairs key = some v) :
    v.Denoted := by
  cases h with
  | mapping h =>
    obtain ⟨p, hp, rfl⟩ := mem_of_lookup hv
    exact h p hp

lemma denoted_item {items : List Tree} (h : (Tree.sequence items).Denoted)
    (hv : items[i]? = some v) : v.Denoted := by
  cases h with
  | sequence h => exact h v (List.mem_of_getElem? hv)

lemma denoted_value {k : Tree} (h : (Tree.mapping pairs).Denoted)
    (hv : pairs[i]? = some (k, v)) : v.Denoted := by
  cases h with
  | mapping h => exact h (k, v) (List.mem_of_getElem? hv)

/-- The numbers in an operand are numbers in the value. -/
lemma Operand.denoted (h : Operand v i w) (hv : v.Denoted) : w.Denoted := by
  cases h with
  | item h => exact denoted_item hv h
  | property h => exact denoted_value hv h
  | bound _ h | choice _ h => exact denoted_item (denoted_content hv) h
  | weighted _ h => exact denoted_item (i := 0) (denoted_item (denoted_content hv) h) rfl
  | normal _ _ h | source _ h | piped _ h => exact denoted_lookup (denoted_content hv) h
  | entry _ hentries h => exact denoted_value (denoted_lookup (denoted_content hv) hentries) h
  | target _ hitems h => exact denoted_item (denoted_lookup (denoted_content hv) hitems) h
  | parameter _ hparams h => exact denoted_value (denoted_lookup (denoted_content hv) hparams) h

lemma denoted_along {address : List Nat} (h : Along Operand v address w) (hv : v.Denoted) :
    w.Denoted := by
  induction address generalizing v with
  | nil => rwa [show w = v from h]
  | cons i address ih =>
    obtain ⟨u, hu, hrest⟩ := h
    exact ih hrest (hu.denoted hv)

lemma IsLiteral.denotes {n : Yaml.Number} {s : String} (h : IsLiteral n s v) (hv : v.Denoted) :
    Tree.Denotes s n := by
  have hnumber : (Tree.number n s).Denoted := by
    cases h with
    | bare => exact hv
    | tagged _ => exact denoted_content hv
  cases hnumber with
  | number h => exact h

end Denoted

/-! ### Entities -/

/-- The entities that a tree describes, whatever its imports are. -/
def entities? (v : Tree) : Option Pairs := do
  let fs ← fields? v
  mapping? (← field? fs "entities")

section Entities

variable {tree : Tree} {entities : Pairs} {fs : List (String × Tree)}

lemma entities?_of_outline? {imports : List Import} (h : outline? tree = some (imports, entities)) :
    entities? tree = some entities := by
  obtain ⟨fs, hfs, h⟩ := Option.bind_eq_some_iff.mp h
  obtain ⟨_, -, h⟩ := Option.bind_eq_some_iff.mp h
  obtain ⟨_, -, h⟩ := Option.bind_eq_some_iff.mp h
  obtain ⟨_, -, h⟩ := Option.bind_eq_some_iff.mp h
  obtain ⟨w, hw, h⟩ := Option.bind_eq_some_iff.mp h
  obtain ⟨pairs, hpairs, h⟩ := Option.bind_eq_some_iff.mp h
  obtain ⟨-, rfl⟩ := Prod.mk.inj (Option.some.inj h)
  rw [entities?, hfs]
  change (field? fs "entities").bind mapping? = _
  rw [hw]
  exact hpairs

/-- The fields of a record with decimal texts. -/
def fieldsWithDecimals (fs : List (String × Tree)) : List (String × Tree) :=
  fs.map fun f => (f.1, f.2.withDecimals)

/-- The field that a pair of a record is. -/
def fieldOf? (p : Tree × Tree) : Option (String × Tree) :=
  match p.1.untagged with
  | .string s => some (s, p.2)
  | _ => none

lemma fields?_of_untagged {pairs : Pairs} (h : v.untagged = .mapping pairs) :
    fields? v = pairs.mapM fieldOf? := by
  rw [fields?, h]
  rfl

lemma mapM_fieldOf?_withDecimals {pairs : Pairs} (h : pairs.mapM fieldOf? = some fs) :
    (Tree.withDecimalsPairs pairs).mapM fieldOf? = some (fieldsWithDecimals fs) := by
  induction pairs generalizing fs with
  | nil =>
    obtain rfl := Option.some.inj h
    rfl
  | cons p pairs ih =>
    rw [List.mapM_cons] at h
    obtain ⟨f, hf, h⟩ := Option.bind_eq_some_iff.mp h
    obtain ⟨fs', hfs, h⟩ := Option.bind_eq_some_iff.mp h
    obtain rfl := Option.some.inj h
    have hp : fieldOf? (p.1, p.2.withDecimals) = some (f.1, f.2.withDecimals) := by
      unfold fieldOf? at hf ⊢
      split at hf
      case h_1 s hs =>
        obtain rfl := Option.some.inj hf
        rw [hs]
      case h_2 => cases hf
    rw [Tree.withDecimalsPairs, List.mapM_cons, hp, ih hfs]
    rfl

lemma fields?_withDecimals (h : fields? v = some fs) :
    fields? v.withDecimals = some (fieldsWithDecimals fs) := by
  cases hv : v.untagged with
  | null =>
    rw [fields?, hv] at h
    rw [fields?, Tree.untagged_withDecimals (by simp [hv]), hv, ← Option.some.inj h]
    rfl
  | mapping pairs =>
    rw [fields?_of_untagged hv] at h
    have hw : v.withDecimals.untagged = .mapping (Tree.withDecimalsPairs pairs) := by
      rw [Tree.untagged_withDecimals (by simp [hv]), hv, Tree.withDecimals]
    rw [fields?_of_untagged hw, mapM_fieldOf?_withDecimals h]
  | _ =>
    rw [fields?, hv] at h
    cases h

lemma field?_withDecimals (fs : List (String × Tree)) (name : String) :
    field? (fieldsWithDecimals fs) name = (field? fs name).map (Option.map Tree.withDecimals) := by
  have hfilter : (fieldsWithDecimals fs).filter (·.1 = name) =
      fieldsWithDecimals (fs.filter (·.1 = name)) := List.filter_map
  rw [field?, field?, hfilter]
  generalize List.filter _ fs = l
  rcases l with _ | ⟨f, _ | ⟨g, l⟩⟩ <;> rfl

lemma mapping?_withDecimals {w : Option Tree} (h : mapping? w = some entities) :
    mapping? (w.map Tree.withDecimals) = some (Tree.withDecimalsPairs entities) := by
  unfold mapping? at h
  split at h
  case h_1 =>
    obtain rfl := Option.some.inj h
    rfl
  case h_2 v =>
    rw [Option.map_some, mapping?]
    split at h
    case h_1 hnull =>
      rw [Tree.untagged_withDecimals (by simp [hnull]), hnull, ← Option.some.inj h]
      rfl
    case h_2 pairs hpairs =>
      rw [Tree.untagged_withDecimals (by simp [hpairs]), hpairs, ← Option.some.inj h]
      rfl
    case h_3 => cases h

/-- Decimal texts stand in the values of the entities. -/
lemma entities?_withDecimals (h : entities? tree = some entities) :
    entities? tree.withDecimals = some (Tree.withDecimalsPairs entities) := by
  obtain ⟨fs, hfs, h⟩ := Option.bind_eq_some_iff.mp h
  obtain ⟨w, hw, h⟩ := Option.bind_eq_some_iff.mp h
  rw [entities?, fields?_withDecimals hfs]
  change (field? (fieldsWithDecimals fs) "entities").bind mapping? = _
  rw [field?_withDecimals, hw]
  exact mapping?_withDecimals h

lemma denoted_untagged (h : v.Denoted) : v.untagged.Denoted := by
  fun_induction Tree.untagged v with
  | case1 tag t ih => exact ih (denoted_content h)
  | case2 t hother => exact h

lemma denoted_fields? (h : fields? v = some fs) (hv : v.Denoted) : ∀ f ∈ fs, f.2.Denoted := by
  have hu := denoted_untagged hv
  unfold fields? at h
  split at h
  case h_1 =>
    obtain rfl := Option.some.inj h
    exact List.forall_mem_nil _
  case h_2 pairs hpairs =>
    intro f hf
    obtain ⟨p, hp, hpf⟩ := exists_of_mapM h hf
    rw [hpairs] at hu
    dsimp only at hpf
    split at hpf
    · obtain rfl := Option.some.inj hpf
      cases hu with
      | mapping hu => exact hu p hp
    · cases hpf
  case h_3 => cases h

lemma denoted_entities? (h : entities? tree = some entities) (htree : tree.Denoted) :
    (Tree.mapping entities).Denoted := by
  obtain ⟨fs, hfs, h⟩ := Option.bind_eq_some_iff.mp h
  obtain ⟨w, hw, h⟩ := Option.bind_eq_some_iff.mp h
  unfold mapping? at h
  split at h
  case h_1 =>
    obtain rfl := Option.some.inj h
    exact .mapping (List.forall_mem_nil _)
  case h_2 v =>
    obtain ⟨f, hf, rfl⟩ := mem_of_field? hw
    have hv := denoted_untagged (denoted_fields? hfs htree f hf)
    split at h
    case h_1 =>
      obtain rfl := Option.some.inj h
      exact .mapping (List.forall_mem_nil _)
    case h_2 pairs hpairs =>
      obtain rfl := Option.some.inj h
      rwa [hpairs] at hv
    case h_3 => cases h

end Entities

/-! ### Decimals in documents -/

/-- A number stands in the body of an entity, at an address where a literal is made of it. -/
def HasNumber (tree : Tree) (entity : Nat) (address : List Nat) (n : Yaml.Number) (w : String) :
    Prop :=
  ∃ (entities : Pairs) (k : Tree) (pairs : Pairs) (v : Tree), entities? tree = some entities ∧
    entities[entity]? = some (k, .mapping pairs) ∧ Along Operand (.mapping pairs) address v ∧
    IsLiteral n w v

namespace Document

/-- A literal stands in the body of an entity, at an address. -/
def HasLiteral (doc : Document) (entity : Nat) (address : List Nat) (l : Literal) : Prop :=
  ∃ (eid : NodeId) (name : String) (body id : NodeId), doc.entities[entity]? = some eid ∧
    doc.kind eid = .entity name body ∧ Along doc.Operand body address id ∧
    doc.kind id = .literal l

variable {path : Files.Path} {tree : Tree} {doc : Document} {entity : Nat} {address : List Nat}
  {n : Yaml.Number} {w : String}

lemma hasLiteral_of_hasNumber (htree : tree.Denoted) (h : ofTree path tree.withDecimals = .ok doc)
    (hn : HasNumber tree entity address n w) (hpoint : '.' ∈ w.toList) :
    doc.HasLiteral entity address (.number ⟨n.toFloat, w⟩) := by
  obtain ⟨entities, k, pairs, v, hentities, hentity, hv, hliteral⟩ := hn
  obtain ⟨imports, entities', -, houtline, -, -⟩ := ofTree_draft h
  obtain rfl : Tree.withDecimalsPairs entities = entities' := Option.some.inj
    ((entities?_withDecimals hentities).symm.trans (entities?_of_outline? houtline))
  obtain ⟨eid, name, body, heid, -, hkind, hstands⟩ :=
    stands_of_entity h houtline (Tree.getElem?_withDecimalsPairs hentity)
  have hstring : v.withDecimals.isString = false := by
    cases hliteral with
    | bare => exact Tree.isString_ofNumber n w
    | tagged _ => rfl
  obtain ⟨id, hid, hvalue⟩ := hstands.along (along_withDecimals hv) hstring
  have hdenoted := denoted_along hv (denoted_value (denoted_entities? hentities htree) hentity)
  exact ⟨eid, name, body, id, heid, hkind, hid,
    hliteral.kind (hliteral.denotes hdenoted) hpoint hvalue⟩

/-- **Decimal texts change nothing else.** In the tree that a text stands for, some numbers are
replaced by their tagged texts, which are read as the same numbers, and the tree without the tags
that are new is the one before. In a document that is made of it, every number that is written with
a point is a literal with the text that it is written as, wherever a literal is made of a number
that is no key. -/
theorem decimals_are_kept {text : String}
    (htree : (Yaml.Document.read? text >>= Yaml.Document.tree?) = some tree) :
    Tree.Retagged tree tree.withDecimals ∧
      tree.withDecimals.untagAt (tree.isNewTag tree.withDecimals) = tree ∧
      ∀ path doc, ofText path text = .ok doc → ∀ entity address n w,
        HasNumber tree entity address n w → '.' ∈ w.toList →
        doc.HasLiteral entity address (.number ⟨n.toFloat, w⟩) := by
  have hdenoted : tree.Denoted := by
    obtain ⟨y, -, hy⟩ := Option.bind_eq_some_iff.mp htree
    exact Tree.denoted_tree? hy
  have hretagged := Tree.retagged_withDecimals hdenoted
  refine ⟨hretagged, hretagged.untagAt, fun path doc hdoc entity address n w hn hpoint => ?_⟩
  rw [ofText, htree] at hdoc
  exact hasLiteral_of_hasNumber hdenoted hdoc hn hpoint

/-- A bound of a range keeps its text. -/
theorem decimal_of_bound_is_kept :
    ∃ tree n doc, (Yaml.Document.read? (rangeText true true "1.50" "2") >>= Yaml.Document.tree?) =
        some tree ∧
      ofText "schema.yaml" (rangeText true true "1.50" "2") = .ok doc ∧
      HasNumber tree 0 [0, 0] n "1.50" ∧ n.text = "1.5" ∧
      doc.HasLiteral 0 [0, 0] (.number ⟨n.toFloat, "1.50"⟩) := by
  obtain ⟨n, hn, htext⟩ : ∃ n, Tree.ofPlain? "1.50" = some (.number n "1.50") ∧ n.text = "1.5" :=
    ⟨_, rfl, rfl⟩
  obtain ⟨m, hm⟩ : ∃ m, Tree.ofPlain? "2" = some (.number m "2") := ⟨_, rfl⟩
  obtain ⟨a, b, -, -, hdoc⟩ := ofText_rangeText "schema.yaml" hn hm rfl rfl true true
  have htree : (Yaml.Document.read? (rangeText true true "1.50" "2") >>= Yaml.Document.tree?) =
      some (rangeTree (.number n "1.50") (.number m "2")) :=
    Yaml.tree?_rangeText (Tree.ofPlain?_number hn).2.1 (Tree.ofPlain?_number hm).2.1 hn hm
  have hnumber : HasNumber (rangeTree (.number n "1.50") (.number m "2")) 0 [0, 0] n "1.50" :=
    ⟨_, _, _, _, rfl, rfl, ⟨_, .property rfl, _, .bound tagName_range rfl, rfl⟩, .bare⟩
  exact ⟨_, n, _, htree, hdoc, hnumber, htext,
    (decimals_are_kept htree).2.2 _ _ hdoc 0 [0, 0] n "1.50" hnumber (by decide)⟩

namespace DecimalKey

/-- The text of a document with a choice whose only key has a point. -/
def text : String := "entities:\n  E:\n    x: !dict \x7b source: a, pairs: \x7b 1.50: b \x7d \x7d\n"

/-- The tree of the document, given the number of the key. -/
def keyTree (n : Yaml.Number) : Tree :=
  propertyTree (.tagged "dict" (.mapping [(.string "source", .string "a"),
    (.string "pairs", .mapping [(.number n "1.50", .string "b")])]))

/-- The number of the key in a tree of that form. -/
def number? : Tree → Option Yaml.Number
  | .mapping [(.string "entities", .mapping [(.string "E", .mapping [(.string "x",
      .tagged "dict" (.mapping [(.string "source", .string "a"),
        (.string "pairs", .mapping [(.number n "1.50", .string "b")])]))])])] => some n
  | _ => none

lemma eq_of_number? {t : Tree} {n : Yaml.Number} (h : number? t = some n) : t = keyTree n := by
  unfold number? at h
  split at h
  · rw [Option.some.inj h]
    rfl
  · cases h

/-- The document. -/
def document : Document := (ofInline text).toOption.getD default

/-- The texts of the numbers in a document. -/
def numberTexts (d : Document) : List String :=
  d.nodes.toList.filterMap fun n =>
    match n.kind with
    | .literal (.number a) => some a.raw
    | _ => none

lemma facts : ((Yaml.Document.read? text >>= Yaml.Document.tree?).bind number?).isSome = true ∧
    (ofInline text).toOption.isSome = true ∧ numberTexts document = ["1.5"] := by
  decide +kernel

end DecimalKey

/-- The number of a key stays as it is in the tree, and the literal that is made of it has the text
of the number. -/
theorem decimal_of_key_is_lost :
    ∃ n, (Yaml.Document.read? DecimalKey.text >>= Yaml.Document.tree?) =
        some (DecimalKey.keyTree n) ∧
      (DecimalKey.keyTree n).withDecimals = DecimalKey.keyTree n ∧
      ofInline DecimalKey.text = .ok DecimalKey.document ∧
      DecimalKey.numberTexts DecimalKey.document = ["1.5"] := by
  obtain ⟨hnumber, hdocument, htexts⟩ := DecimalKey.facts
  obtain ⟨n, hn⟩ := Option.isSome_iff_exists.mp hnumber
  obtain ⟨t, ht, hn⟩ := Option.bind_eq_some_iff.mp hn
  obtain rfl := DecimalKey.eq_of_number? hn
  exact ⟨n, ht, rfl, ofText_of_isSome hdocument, htexts⟩

end Document

end TestData.Schema
