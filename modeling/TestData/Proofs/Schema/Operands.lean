import TestData.Proofs.Schema.Stages

/-!
Where the values in a value stand in a document.

A value that is read has a node, and so have the values in it that are read on the way: the items
of a list, the values of properties and the operands of calls. Each of them is found from the node
as it is found from the value, by the same positions.
-/

namespace TestData.Schema

open Yaml (Tree)

/-! ### Positions -/

/-- A value is the operand of another at a position: it is read on the way to it, and it is no
key. -/
inductive Operand : Tree → Nat → Tree → Prop
  | item {items : List Tree} {i : Nat} {v : Tree} (h : items[i]? = some v) :
      Operand (.sequence items) i v
  | property {pairs : Pairs} {i : Nat} {k v : Tree} (h : pairs[i]? = some (k, v)) :
      Operand (.mapping pairs) i v
  | bound {tag : String} {items : List Tree} {i : Nat} {v : Tree} (htag : tagName tag = "range")
      (h : items[i]? = some v) : Operand (.tagged tag (.sequence items)) i v
  | choice {tag : String} {items : List Tree} {i : Nat} {v : Tree} (htag : tagName tag = "random")
      (h : items[i]? = some v) : Operand (.tagged tag (.sequence items)) i v
  | weighted {tag : String} {entries : List Tree} {i : Nat} {v w : Tree}
      (htag : tagName tag = "weighted") (h : entries[i]? = some (.sequence [v, w])) :
      Operand (.tagged tag (.sequence entries)) i v
  | normal {tag name : String} {pairs : Pairs} {i : Nat} {v : Tree} (htag : tagName tag = "normal")
      (hname : ["min", "max", "mean", "std"][i]? = some name)
      (h : Tree.lookup pairs name = some v) : Operand (.tagged tag (.mapping pairs)) i v
  | source {tag : String} {pairs : Pairs} {v : Tree}
      (htag : tagName tag = "dict" ∨ tagName tag = "map")
      (h : Tree.lookup pairs "source" = some v) : Operand (.tagged tag (.mapping pairs)) 0 v
  | entry {tag : String} {pairs entries : Pairs} {i : Nat} {k v : Tree}
      (htag : tagName tag = "dict") (hentries : Tree.lookup pairs "pairs" = some (.mapping entries))
      (h : entries[i]? = some (k, v)) : Operand (.tagged tag (.mapping pairs)) (2 * i + 2) v
  | target {tag : String} {pairs : Pairs} {items : List Tree} {i : Nat} {v : Tree}
      (htag : tagName tag = "map") (hitems : Tree.lookup pairs "to" = some (.sequence items))
      (h : items[i]? = some v) : Operand (.tagged tag (.mapping pairs)) (i + 1) v
  | parameter {tag : String} {pairs params : Pairs} {i : Nat} {k v : Tree}
      (htag : tagName tag = "template")
      (hparams : Tree.lookup pairs "params" = some (.mapping params))
      (h : params[i]? = some (k, v)) : Operand (.tagged tag (.mapping pairs)) i v
  | piped {tag : String} {pairs : Pairs} {v : Tree} (htag : tagName tag = "pipe")
      (h : Tree.lookup pairs "value" = some v) : Operand (.tagged tag (.mapping pairs)) 0 v

/-- A node is the operand of another at a position: an item of a list, the value of a property of
an object, an operand of a call, or what the first link of a pipe stands on. -/
inductive Document.Operand (doc : Document) : NodeId → Nat → NodeId → Prop
  | item {id id' : NodeId} {ids : List NodeId} {i : Nat} (hkind : doc.kind id = .list ids)
      (h : ids[i]? = some id') : doc.Operand id i id'
  | property {id pid id' : NodeId} {ps : List NodeId} {i : Nat} {name : String}
      (hkind : doc.kind id = .object ps) (h : ps[i]? = some pid)
      (hproperty : doc.kind pid = .property name id') : doc.Operand id i id'
  | call {id id' : NodeId} {c : Call} {i : Nat} (hkind : doc.kind id = .call c)
      (h : c.operands[i]? = some id') : doc.Operand id i id'
  | piped {start id : NodeId} {ks : List Text.Transform} (h : doc.Linked start ks id) :
      doc.Operand id 0 start

/-- Steps at positions lead from one thing to another. -/
def Along {α : Type} (step : α → Nat → α → Prop) : α → List Nat → α → Prop
  | a, [], c => c = a
  | a, i :: address, c => ∃ b, step a i b ∧ Along step b address c

variable {d d' : Draft} {doc : Document} {t : Trail} {id : NodeId} {depth i : Nat}
  {k v w : Tree} {items : List Tree} {pairs : Pairs} {key tag : String}

/-! ### Steps of reading -/

namespace Build

/-- A node that is added is one of the document, with all nodes before it. -/
lemma kind_of_add {k : Kind} (h : add k d = .ok (id, d')) (hwithin : d'.Within doc) :
    doc.kind id = k ∧ d.Within doc := by
  obtain ⟨rfl, rfl⟩ := Prod.mk.inj (Except.ok.inj h)
  exact ⟨hwithin _ _ (Draft.getElem?_add d k), hwithin.of_extends (Draft.extends_add d k)⟩

lemma ok_of_argument {α : Type} {f : Tree → Build α} {r : α × Draft}
    (h : (argument t pairs key >>= f) d = .ok r) :
    ∃ v, Tree.lookup pairs key = some v ∧ f v d = .ok r := by
  rw [argument] at h
  cases hv : Tree.lookup pairs key with
  | none =>
    rw [hv] at h
    cases h
  | some v =>
    rw [hv] at h
    exact ⟨v, rfl, h⟩

end Build

open Build

section Reading

variable {ids : List NodeId} {l : List (String × NodeId)}

lemma adds_readOperand (depth : Nat) (t : Trail) (v : Tree) :
    (readOperand (readValue depth) t v).Adds :=
  constructive_adds.readOperand (fun t v _ => adds_readValue depth t v) t fun _ _ => trivial

lemma stands_of_readOperand {d₁ : Draft} (h : readOperand (readValue depth) t v d = .ok (id, d₁))
    (hv : v.isString = false) (hd : d₁.Extends d') (hwithin : d'.Within doc) : doc.Stands v id := by
  unfold readOperand at h
  split at h
  · cases hv
  · exact Document.stands_of_readValue h hd hwithin

lemma stands_of_readList (h : readList (readValue depth) t items d = .ok (ids, d'))
    (hv : items[i]? = some v) (hwithin : d'.Within doc) :
    ∃ id, ids[i]? = some id ∧ doc.Stands v id := by
  have hi : items.zipIdx[i]? = some (v, i) := by rw [List.getElem?_zipIdx, hv, zero_add]; rfl
  have hadds : ∀ p : Tree × Nat, (readValue depth (toString p.2 :: t) p.1).Adds := fun p =>
    adds_readValue depth _ p.1
  obtain ⟨id, d₁, d₂, hid, hread, hd⟩ := ok_of_getElem?_mapM hadds h hi
  exact ⟨id, hid, Document.stands_of_readValue hread hd hwithin⟩

lemma stands_of_readNamed (h : readNamed (readValue depth) t pairs d = .ok (l, d'))
    (hv : pairs[i]? = some (k, v)) (hwithin : d'.Within doc) :
    ∃ name id, l[i]? = some (name, id) ∧ doc.Stands v id := by
  obtain ⟨name, value, d₁, d₂, hp, -, hvalue, hd⟩ := ok_of_readNamed h hv
  exact ⟨name, value, hp, Document.stands_of_readValue hvalue hd hwithin⟩

/-! ### Operands of calls -/

lemma operand_of_readRange (h : readRange (readValue depth) t (.sequence items) d = .ok (id, d'))
    (hv : items[i]? = some v) (hstring : v.isString = false) (hwithin : d'.Within doc) :
    ∃ id', doc.Operand id i id' ∧ doc.Stands v id' := by
  obtain ⟨items', d₀, hitems, h⟩ := ok_of_bind h
  obtain ⟨rfl, rfl⟩ := Prod.mk.inj (Except.ok.inj hitems)
  split at h
  case h_1 min max _ =>
    obtain ⟨minId, d₁, hmin, h⟩ := ok_of_bind h
    obtain ⟨maxId, d₂, hmax, h⟩ := ok_of_bind h
    obtain ⟨hkind, hwithin⟩ := kind_of_add h hwithin
    have hd := adds_readOperand depth t max d₁ maxId d₂ hmax
    rcases i with _ | _ | i
    · obtain rfl := Option.some.inj hv
      exact ⟨minId, .call hkind rfl, stands_of_readOperand hmin hstring hd hwithin⟩
    · obtain rfl := Option.some.inj hv
      exact ⟨maxId, .call hkind rfl,
        stands_of_readOperand hmax hstring (fun _ _ hn => hn) hwithin⟩
    · cases hv
  case h_2 => cases h

lemma operand_of_choice
    (h : (readList (readValue depth) t items >>= fun ids => call (.choice ids)) d = .ok (id, d'))
    (hv : items[i]? = some v) (hwithin : d'.Within doc) :
    ∃ id', doc.Operand id i id' ∧ doc.Stands v id' := by
  obtain ⟨ids, d₁, hread, h⟩ := ok_of_bind h
  obtain ⟨hkind, hwithin⟩ := kind_of_add h hwithin
  obtain ⟨id', hid, hstands⟩ := stands_of_readList hread hv hwithin
  exact ⟨id', .call hkind hid, hstands⟩

lemma operand_of_readWeightedCall
    (h : readWeightedCall (readValue depth) t (.sequence items) d = .ok (id, d'))
    (hv : items[i]? = some (.sequence [v, w])) (hwithin : d'.Within doc) :
    ∃ id', doc.Operand id i id' ∧ doc.Stands v id' := by
  obtain ⟨l, d₁, hread, h⟩ := ok_of_bind h
  obtain ⟨hkind, hwithin⟩ := kind_of_add h hwithin
  have hadds : ∀ entry, (readEntry (readValue depth) t entry).Adds := fun entry =>
    constructive_adds.readEntry (fun t v _ => adds_readValue depth t v) t fun _ _ => trivial
  obtain ⟨p, d₂, d₃, hp, hentry, hd⟩ := ok_of_getElem?_mapM hadds hread hv
  obtain ⟨parts, d₀, hparts, hentry⟩ := ok_of_bind hentry
  obtain ⟨rfl, rfl⟩ := Prod.mk.inj (Except.ok.inj hparts)
  obtain ⟨value, d₄, hvalue, hentry⟩ := ok_of_bind hentry
  obtain ⟨weight, d₅, hweight, hpair⟩ := ok_of_bind hentry
  obtain ⟨rfl, rfl⟩ := Prod.mk.inj (Except.ok.inj hpair)
  have hd' := constructive_adds.toSequential.readWeight t w d₄ weight d₅ hweight
  refine ⟨value, .call hkind ?_, Document.stands_of_readValue hvalue (hd'.trans hd) hwithin⟩
  rw [Call.operands, List.getElem?_map, hp]
  rfl

lemma operand_of_readNormal (h : readNormal (readValue depth) t (.mapping pairs) d = .ok (id, d'))
    (hname : ["min", "max", "mean", "std"][i]? = some key) (hv : Tree.lookup pairs key = some v)
    (hstring : v.isString = false) (hwithin : d'.Within doc) :
    ∃ id', doc.Operand id i id' ∧ doc.Stands v id' := by
  obtain ⟨pairs', d₀, hpairs, h⟩ := ok_of_bind h
  obtain ⟨rfl, rfl⟩ := Prod.mk.inj (Except.ok.inj hpairs)
  obtain ⟨min, d₁, hmin, h⟩ := ok_of_bind h
  obtain ⟨max, d₂, hmax, h⟩ := ok_of_bind h
  obtain ⟨mean, d₃, hmean, h⟩ := ok_of_bind h
  obtain ⟨deviation, d₄, hdeviation, h⟩ := ok_of_bind h
  obtain ⟨hkind, hwithin⟩ := kind_of_add h hwithin
  have hadds (key : String) : (argument t pairs key >>= readOperand (readValue depth) t).Adds :=
    adds_bind (constructive_adds.toSequential.argument t pairs key) fun v _ =>
      adds_readOperand depth t v
  have hd₃ := hadds "std" d₃ deviation d₄ hdeviation
  have hd₂ := (hadds "mean" d₂ mean d₃ hmean).trans hd₃
  have hd₁ := (hadds "max" d₁ max d₂ hmax).trans hd₂
  have hoperand {d : Draft} {r : NodeId × Draft}
      (h : (argument t pairs key >>= readOperand (readValue depth) t) d = .ok r) :
      readOperand (readValue depth) t v d = .ok r := by
    obtain ⟨v', hv', h⟩ := ok_of_argument h
    obtain rfl := Option.some.inj (hv.symm.trans hv')
    exact h
  rcases i with _ | _ | _ | _ | i
  · obtain rfl := Option.some.inj hname
    exact ⟨min, .call hkind rfl,
      stands_of_readOperand (hoperand hmin) hstring hd₁ hwithin⟩
  · obtain rfl := Option.some.inj hname
    exact ⟨max, .call hkind rfl,
      stands_of_readOperand (hoperand hmax) hstring hd₂ hwithin⟩
  · obtain rfl := Option.some.inj hname
    exact ⟨mean, .call hkind rfl,
      stands_of_readOperand (hoperand hmean) hstring hd₃ hwithin⟩
  · obtain rfl := Option.some.inj hname
    exact ⟨deviation, .call hkind rfl,
      stands_of_readOperand (hoperand hdeviation) hstring (fun _ _ hn => hn) hwithin⟩
  · cases hname

/-- Keys and values take turns among the operands of a choice by key. -/
lemma getElem?_operands_dict (source : NodeId) (l : List (NodeId × NodeId)) (i : Nat) :
    (Call.dict source l).operands[2 * i + 2]? = l[i]?.map (·.2) := by
  induction l generalizing i with
  | nil => simp [Call.operands]
  | cons p l ih =>
    cases i with
    | zero => rfl
    | succ i => exact ih i

/-- A choice by key that is read is made on its source, among the values that are read of its
entries. -/
lemma ok_of_readDict (h : readDict (readValue depth) t (.mapping pairs) d = .ok (id, d'))
    (hwithin : d'.Within doc) :
    ∃ (v : Tree) (source : NodeId) (entries : Pairs) (l : List (NodeId × NodeId)),
      Tree.lookup pairs "source" = some v ∧ doc.Stands v source ∧
      Tree.lookup pairs "pairs" = some (.mapping entries) ∧ doc.kind id = .call (.dict source l) ∧
      ∀ (i : Nat) (k v : Tree), entries[i]? = some (k, v) →
        ∃ p, l[i]? = some p ∧ doc.Stands v p.2 := by
  obtain ⟨pairs', d₀, hpairs, h⟩ := ok_of_bind h
  obtain ⟨rfl, rfl⟩ := Prod.mk.inj (Except.ok.inj hpairs)
  obtain ⟨v, hv, h⟩ := ok_of_argument h
  obtain ⟨source, d₁, hsource, h⟩ := ok_of_bind h
  rcases hentries : Tree.lookup pairs "pairs" with _ | entries <;> rw [hentries] at h
  · cases h
  cases entries
  case mapping entries =>
    obtain ⟨l, d₂, hl, h⟩ := ok_of_bind h
    obtain ⟨hkind, hwithin⟩ := kind_of_add h hwithin
    have hadds : ∀ p : Tree × Tree, (readValue depth t p.1 >>= fun key =>
        readKey t p.1 >>= fun name => readValue depth (name :: t) p.2 >>= fun value =>
        pure (key, value)).Adds := fun p =>
      adds_bind (adds_readValue depth t p.1) fun key _ =>
        adds_bind (constructive_adds.toSequential.readKey t p.1) fun name _ =>
        adds_bind (adds_readValue depth (name :: t) p.2) fun value _ => constructive_adds.result _
    have hd := constructive_adds.toSequential.mapM (fun p _ => hadds p) d₁ l d₂ hl
    refine ⟨v, source, entries, l, hv, Document.stands_of_readValue hsource hd hwithin, rfl, hkind,
      fun i k v hi => ?_⟩
    obtain ⟨p, d₃, d₄, hp, hread, hd⟩ := ok_of_getElem?_mapM hadds hl hi
    obtain ⟨key, d₅, -, hread⟩ := ok_of_bind hread
    obtain ⟨name, d₆, -, hread⟩ := ok_of_bind hread
    obtain ⟨value, d₇, hvalue, hpair⟩ := ok_of_bind hread
    obtain ⟨rfl, rfl⟩ := Prod.mk.inj (Except.ok.inj hpair)
    exact ⟨_, hp, Document.stands_of_readValue hvalue hd hwithin⟩
  all_goals cases h

/-- A choice by position that is read is made on its source, among the items that are read. -/
lemma ok_of_readMap (h : readMap (readValue depth) t (.mapping pairs) d = .ok (id, d'))
    (hwithin : d'.Within doc) :
    ∃ (v : Tree) (source : NodeId) (items : List Tree) (ids : List NodeId),
      Tree.lookup pairs "source" = some v ∧ doc.Stands v source ∧
      Tree.lookup pairs "to" = some (.sequence items) ∧ doc.kind id = .call (.map source ids) ∧
      ∀ (i : Nat) (v : Tree), items[i]? = some v →
        ∃ id', ids[i]? = some id' ∧ doc.Stands v id' := by
  obtain ⟨pairs', d₀, hpairs, h⟩ := ok_of_bind h
  obtain ⟨rfl, rfl⟩ := Prod.mk.inj (Except.ok.inj hpairs)
  obtain ⟨v, hv, h⟩ := ok_of_argument h
  obtain ⟨source, d₁, hsource, h⟩ := ok_of_bind h
  rcases hitems : Tree.lookup pairs "to" with _ | items <;> rw [hitems] at h
  · cases h
  cases items
  case sequence items =>
    obtain ⟨ids, d₂, hids, h⟩ := ok_of_bind h
    obtain ⟨hkind, hwithin⟩ := kind_of_add h hwithin
    have hadds : (readList (readValue depth) t items).Adds :=
      constructive_adds.readList (fun t v _ => adds_readValue depth t v) t fun _ _ _ _ => trivial
    exact ⟨v, source, items, ids, hv,
      Document.stands_of_readValue hsource (hadds d₁ ids d₂ hids) hwithin, rfl, hkind,
      fun i v hi => stands_of_readList hids hi hwithin⟩
  all_goals cases h

lemma operand_of_readTemplate {params : Pairs}
    (h : readTemplate (readValue depth) t (.mapping pairs) d = .ok (id, d'))
    (hparams : Tree.lookup pairs "params" = some (.mapping params))
    (hv : params[i]? = some (k, v)) (hwithin : d'.Within doc) :
    ∃ id', doc.Operand id i id' ∧ doc.Stands v id' := by
  obtain ⟨u, -, h⟩ := ok_of_argument h
  obtain ⟨text, d₁, -, h⟩ := ok_of_bind h
  rw [hparams] at h
  obtain ⟨l, d₂, hl, h⟩ := ok_of_bind h
  obtain ⟨hkind, hwithin⟩ := kind_of_add h hwithin
  obtain ⟨name, id', hi, hstands⟩ := stands_of_readNamed hl hv hwithin
  refine ⟨id', .call hkind ?_, hstands⟩
  rw [Call.operands, List.getElem?_map, hi]
  rfl

/-! ### Pipes -/

/-- A step that leaves the draft as it is. -/
def Build.Still {α : Type} (x : Build α) : Prop :=
  ∀ (d : Draft) (a : α) (d' : Draft), x d = .ok (a, d') → d' = d

lemma Build.sequential_still : Sequential Still where
  result a := by
    intro d b d' h
    exact (Prod.mk.inj (Except.ok.inj h)).2.symm
  fail e := by
    intro d a d' h
    cases h
  bind hx hf := by
    intro d b d' h
    obtain ⟨a, d₁, ha, hb⟩ := ok_of_bind h
    rw [hf a ⟨d, d₁, ha⟩ d₁ b d' hb, hx d a d₁ ha]

/-- A transform that is read is linked to what came before. -/
lemma ok_of_readTransform {previous : NodeId}
    (h : readTransform t previous v d = .ok (id, d')) :
    ∃ k, d.add (.call (.pipe previous k)) = (id, d') := by
  obtain ⟨name, d₁, hname, h⟩ := ok_of_bind h
  obtain ⟨k, d₂, hk, hcall⟩ := ok_of_bind h
  obtain rfl := sequential_still.readText t v _ _ _ _ hname
  obtain rfl := sequential_still.ofExcept t _ _ _ _ _ hk
  exact ⟨k, Except.ok.inj hcall⟩

lemma ok_of_readTransforms {start : NodeId}
    (h : items.foldlM (readTransform t) start d = .ok (id, d')) :
    ∃ ks, d.addLinks start ks = (id, d') := by
  induction items generalizing start d with
  | nil => exact ⟨[], Except.ok.inj h⟩
  | cons v items ih =>
    rw [List.foldlM_cons] at h
    obtain ⟨next, d₁, hnext, h⟩ := ok_of_bind h
    obtain ⟨k, hk⟩ := ok_of_readTransform hnext
    obtain ⟨ks, hks⟩ := ih h
    refine ⟨k :: ks, ?_⟩
    rw [Draft.addLinks, hk]
    exact hks

lemma operand_of_readPipe (h : readPipe (readValue depth) t (.mapping pairs) d = .ok (id, d'))
    (hv : Tree.lookup pairs "value" = some v) (hwithin : d'.Within doc) :
    ∃ start, doc.Operand id 0 start ∧ doc.Stands v start := by
  obtain ⟨pairs', d₀, hpairs, h⟩ := ok_of_bind h
  obtain ⟨rfl, rfl⟩ := Prod.mk.inj (Except.ok.inj hpairs)
  obtain ⟨v', hv', h⟩ := ok_of_argument h
  obtain rfl := Option.some.inj (hv.symm.trans hv')
  obtain ⟨start, d₁, hstart, h⟩ := ok_of_bind h
  have hlinks : ∃ ks, d₁.addLinks start ks = (id, d') := by
    rcases htransforms : Tree.lookup pairs "transforms" with _ | transforms <;>
      rw [htransforms] at h
    · cases h
    cases transforms
    case sequence items => exact ok_of_readTransforms h
    case string s =>
      obtain ⟨k, hk⟩ := ok_of_readTransform h
      exact ⟨[k], hk⟩
    all_goals cases h
  obtain ⟨ks, hks⟩ := hlinks
  obtain rfl : (d₁.addLinks start ks).1 = id := by rw [hks]
  obtain rfl : (d₁.addLinks start ks).2 = d' := by rw [hks]
  exact ⟨start, .piped (linked_addLinks hwithin),
    Document.stands_of_readValue hstart (Draft.extends_addLinks d₁ start ks) hwithin⟩

end Reading

/-! ### From values to nodes -/

/-- **The operands of a value** have nodes that stand for them, at their positions among the
operands of the node of the value. A text may be read as a number or a date instead. -/
lemma Document.Stands.operand (h : doc.Stands v id) (hw : Schema.Operand v i w)
    (hstring : w.isString = false) : ∃ id', doc.Operand id i id' ∧ doc.Stands w id' := by
  obtain ⟨depth, t, d, d', h, hwithin⟩ := h
  obtain _ | depth := depth
  · cases h
  cases hw with
  | item hi =>
    obtain ⟨ids, d₁, hids, h⟩ := ok_of_bind h
    obtain ⟨hkind, hwithin⟩ := kind_of_add h hwithin
    obtain ⟨id', hid, hstands⟩ := stands_of_readList hids hi hwithin
    exact ⟨id', .item hkind hid, hstands⟩
  | property hp =>
    obtain ⟨ps, name, value, pid, d₁, d₂, hobject, hpid, -, hproperty, hvalue, hd⟩ :=
      ok_of_readObject h hp
    exact ⟨value, .property (hwithin _ _ hobject) hpid (hwithin _ _ hproperty),
      stands_of_readValue hvalue hd hwithin⟩
  | bound htag hi =>
    rw [readValue, htag] at h
    exact operand_of_readRange h hi hstring hwithin
  | choice htag hi =>
    rw [readValue, htag] at h
    exact operand_of_choice h hi hwithin
  | weighted htag hi =>
    rw [readValue, htag] at h
    exact operand_of_readWeightedCall h hi hwithin
  | normal htag hname hi =>
    rw [readValue, htag] at h
    exact operand_of_readNormal h hname hi hstring hwithin
  | source htag hi =>
    rcases htag with htag | htag
    · rw [readValue, htag] at h
      obtain ⟨v', source, entries, l, hv', hstands, -, hkind, -⟩ := ok_of_readDict h hwithin
      obtain rfl := Option.some.inj (hi.symm.trans hv')
      exact ⟨source, .call hkind rfl, hstands⟩
    · rw [readValue, htag] at h
      obtain ⟨v', source, items, ids, hv', hstands, -, hkind, -⟩ := ok_of_readMap h hwithin
      obtain rfl := Option.some.inj (hi.symm.trans hv')
      exact ⟨source, .call hkind rfl, hstands⟩
  | entry htag hentries hi =>
    rw [readValue, htag] at h
    obtain ⟨-, source, entries', l, -, -, hentries', hkind, hl⟩ := ok_of_readDict h hwithin
    cases hentries.symm.trans hentries'
    obtain ⟨p, hp, hstands⟩ := hl _ _ _ hi
    exact ⟨p.2, .call hkind (by rw [getElem?_operands_dict, hp, Option.map_some]), hstands⟩
  | target htag hitems hi =>
    rw [readValue, htag] at h
    obtain ⟨-, source, items, ids, -, -, hitems', hkind, hids⟩ := ok_of_readMap h hwithin
    cases hitems.symm.trans hitems'
    obtain ⟨id', hid, hstands⟩ := hids _ _ hi
    exact ⟨id', .call hkind hid, hstands⟩
  | parameter htag hparams hi =>
    rw [readValue, htag] at h
    exact operand_of_readTemplate h hparams hi hwithin
  | piped htag hi =>
    rw [readValue, htag] at h
    exact operand_of_readPipe h hi hwithin

/-- Steps that are numbered lead through nodes that stand for what they lead through. -/
lemma Document.Stands.along {address : List Nat} (h : doc.Stands v id)
    (hw : Along Schema.Operand v address w) (hstring : w.isString = false) :
    ∃ id', Along doc.Operand id address id' ∧ doc.Stands w id' := by
  induction address generalizing v id with
  | nil =>
    obtain rfl := hw
    exact ⟨id, rfl, h⟩
  | cons i address ih =>
    obtain ⟨u, hu, hrest⟩ := hw
    have hu' : u.isString = false := by
      rcases address with _ | ⟨j, address⟩
      · rwa [← show w = u from hrest]
      · obtain ⟨u', hu', -⟩ := hrest
        cases hu' <;> rfl
    obtain ⟨id₁, hid₁, hstands⟩ := h.operand hu hu'
    obtain ⟨id', hid', hw⟩ := ih hstands hrest
    exact ⟨id', ⟨id₁, hid₁, hid'⟩, hw⟩

end TestData.Schema
