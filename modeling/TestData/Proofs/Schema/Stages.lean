import TestData.Proofs.Schema.Names

/-!
What stands for a value in a document, and the links of a pipe.

The reader makes a node of every value that it reads, and the node stays what it is while the rest
of the document is read. The node of a pipe is the last of a chain: one link for each transform,
the first of them after the node of the value that goes through.
-/

namespace TestData.Schema

open Yaml (Tree)

/-- The nodes of a draft are those of a document. -/
def Draft.Within (d : Draft) (doc : Document) : Prop :=
  ∀ (id : NodeId) (n : Node), d.nodes[id]? = some n → doc.kind id = n.kind

/-- A node of a document stands for a value: the reader made it of the value, on the way to the
document. -/
def Document.Stands (doc : Document) (v : Tree) (id : NodeId) : Prop :=
  ∃ (depth : Nat) (t : Trail) (d d' : Draft), readValue depth t v d = .ok (id, d') ∧ d'.Within doc

/-- From one node to another there is a chain of links, one for each transform. -/
def Document.Linked (doc : Document) : NodeId → List Text.Transform → NodeId → Prop
  | start, [], id => id = start
  | start, k :: ks, id => ∃ next, doc.kind next = .call (.pipe start k) ∧ doc.Linked next ks id

/-- Adds a link for each transform. -/
def Draft.addLinks (d : Draft) (start : NodeId) : List Text.Transform → NodeId × Draft
  | [] => (start, d)
  | k :: ks => (d.add (.call (.pipe start k))).2.addLinks (d.add (.call (.pipe start k))).1 ks

variable {d d' : Draft} {doc : Document} {ks : List Text.Transform} {names : List String}
  {t : Trail} {start id : NodeId} {v : Tree} {pairs : Pairs}

lemma Draft.Within.of_extends (h : d'.Within doc) (hd : d.Extends d') : d.Within doc :=
  fun id n hn => h id n (hd id n hn)

lemma Draft.within_finish {held : Multiset NodeId} (h : d.Grown held) : d.Within d.finish := by
  intro id n hn
  rw [kind_finish h, hn, Option.getD_some]

/-! ### Steps only add -/

namespace Build

variable {α β : Type}

/-- A sequence of steps hands the draft on. -/
lemma apply_bind (x : Build α) (f : α → Build β) (d : Draft) :
    (x >>= f) d = (x d).bind fun r => f r.1 r.2 := rfl

/-- A step that leaves the nodes that are there. -/
def Adds (x : Build α) : Prop :=
  ∀ (d : Draft) (a : α) (d' : Draft), x d = .ok (a, d') → d.Extends d'

lemma adds_bind {x : Build α} {f : α → Build β} (hx : x.Adds) (hf : ∀ a, x.Ends a → (f a).Adds) :
    (x >>= f).Adds := by
  intro d b d' h
  obtain ⟨a, d₁, ha, hb⟩ := ok_of_bind h
  exact (hx d a d₁ ha).trans (hf a ⟨d, d₁, ha⟩ d₁ b d' hb)

lemma extends_addProperties (d : Draft) (l : List (String × NodeId)) :
    d.Extends (d.addProperties l).2 := by
  induction l generalizing d with
  | nil => exact fun _ _ hn => hn
  | cons p l ih => exact (Draft.extends_add d _).trans (ih _)

lemma constructive_adds : Constructive Adds fun _ => True where
  result a := by
    intro d b d' h
    obtain ⟨rfl, rfl⟩ := Prod.mk.inj (Except.ok.inj h)
    exact fun _ _ hn => hn
  fail e := by
    intro d a d' h
    cases h
  bind := adds_bind
  add _ := by
    intro d a d' h
    obtain ⟨rfl, rfl⟩ := Prod.mk.inj (Except.ok.inj h)
    exact Draft.extends_add d _
  object _ _ := by
    intro d a d' h
    obtain ⟨rfl, rfl⟩ := Prod.mk.inj (Except.ok.inj h)
    exact (extends_addProperties d _).trans (Draft.extends_add _ _)

variable {γ : Type} {l : List γ} {c : γ} {d d' : Draft}

/-- Each of the steps of a list is taken on the way, and ends with the result at its place. -/
lemma ok_of_getElem?_mapM {f : γ → Build β} {bs : List β} {i : Nat} (hf : ∀ c, (f c).Adds)
    (h : l.mapM f d = .ok (bs, d')) (hc : l[i]? = some c) :
    ∃ b d₁ d₂, bs[i]? = some b ∧ f c d₁ = .ok (b, d₂) ∧ d₂.Extends d' := by
  induction l generalizing d bs i with
  | nil => cases hc
  | cons c' l ih =>
    rw [List.mapM_cons] at h
    obtain ⟨b, d₁, hb, h⟩ := ok_of_bind h
    obtain ⟨bs', d₂, hbs, h⟩ := ok_of_bind h
    obtain ⟨rfl, rfl⟩ := Prod.mk.inj (Except.ok.inj h)
    cases i with
    | zero =>
      obtain rfl := Option.some.inj hc
      exact ⟨b, d, d₁, rfl, hb,
        (constructive_adds.toSequential.mapM fun c _ => hf c) d₁ bs' d₂ hbs⟩
    | succ i =>
      obtain ⟨b', d₃, d₄, hb', hcb, hd⟩ := ih (i := i) hbs hc
      exact ⟨b', d₃, d₄, hb', hcb, hd⟩

end Build

open Build

lemma Document.stands_of_readValue {depth : Nat} {d₁ : Draft}
    (h : readValue depth t v d = .ok (id, d₁)) (hd : d₁.Extends d') (hwithin : d'.Within doc) :
    doc.Stands v id :=
  ⟨depth, t, d, d₁, h, hwithin.of_extends hd⟩

/-! ### Objects -/

lemma Draft.getElem?_addProperties {l : List (String × NodeId)} {p : String × NodeId} {i : Nat}
    (d : Draft) (hp : l[i]? = some p) :
    ∃ pid : NodeId, (d.addProperties l).1[i]? = some pid ∧
      (d.addProperties l).2.nodes[pid]? = some ({ kind := .property p.1 p.2 } : Node) := by
  induction l generalizing d i with
  | nil => cases hp
  | cons q l ih =>
    cases i with
    | zero =>
      obtain rfl := Option.some.inj hp
      exact ⟨_, rfl, extends_addProperties _ l _ _ (Draft.getElem?_add d _)⟩
    | succ i => exact ih _ hp

lemma adds_readValue (depth : Nat) (t : Trail) (v : Tree) : (readValue depth t v).Adds :=
  constructive_adds.readValue depth t fun _ _ => trivial

/-- The values that are read under names are read on the way. -/
lemma ok_of_readNamed {depth i : Nat} {k v : Tree} {l : List (String × NodeId)}
    (h : readNamed (readValue depth) t pairs d = .ok (l, d')) (hp : pairs[i]? = some (k, v)) :
    ∃ (name : String) (value : NodeId) (d₁ d₂ : Draft), l[i]? = some (name, value) ∧
      k.keyText? = some name ∧ readValue depth (name :: t) v d₁ = .ok (value, d₂) ∧
      d₂.Extends d' := by
  have hadds : ∀ p : Tree × Tree, (readKey t p.1 >>= fun name =>
      readValue depth (name :: t) p.2 >>= fun value => pure (name, value)).Adds := fun p =>
    adds_bind (constructive_adds.toSequential.readKey t p.1) fun name _ =>
      adds_bind (adds_readValue depth (name :: t) p.2) fun value _ => constructive_adds.result _
  obtain ⟨p, d₁, d₂, hpl, hread, hd⟩ := ok_of_getElem?_mapM hadds h hp
  obtain ⟨name, d₃, hkey, hread⟩ := ok_of_bind hread
  obtain ⟨value, d₄, hvalue, hpair⟩ := ok_of_bind hread
  obtain ⟨rfl, rfl⟩ := Prod.mk.inj (Except.ok.inj hpair)
  exact ⟨name, value, d₃, d₄, hpl, ends_readKey ⟨d₁, d₃, hkey⟩, hvalue, hd⟩

/-- The value of each property of an object that is read is read on the way. -/
lemma ok_of_readObject {depth i : Nat} {k v : Tree}
    (h : readObject (readValue depth) t pairs d = .ok (id, d')) (hp : pairs[i]? = some (k, v)) :
    ∃ (ps : List NodeId) (name : String) (value pid : NodeId) (d₁ d₂ : Draft),
      d'.nodes[id]? = some ({ kind := .object ps } : Node) ∧ ps[i]? = some pid ∧
      k.keyText? = some name ∧
      d'.nodes[pid]? = some ({ kind := .property name value } : Node) ∧
      readValue depth (name :: t) v d₁ = .ok (value, d₂) ∧ d₂.Extends d' := by
  obtain ⟨properties, d₁, hnamed, hobject⟩ := ok_of_bind h
  obtain ⟨rfl, rfl⟩ := Prod.mk.inj (Except.ok.inj hobject)
  obtain ⟨name, value, d₂, d₃, hproperty, hkey, hvalue, hd⟩ := ok_of_readNamed hnamed hp
  obtain ⟨pid, hpid, hnode⟩ := Draft.getElem?_addProperties d₁ hproperty
  have hlast := Draft.extends_add (d₁.addProperties properties).2
    (.object (d₁.addProperties properties).1)
  exact ⟨_, name, value, pid, d₂, d₃, Draft.getElem?_add _ _, hpid, hkey, hlast _ _ hnode, hvalue,
    hd.trans ((extends_addProperties d₁ properties).trans hlast)⟩

/-! ### Entities -/

lemma adds_readEntity (depth : Nat) (key body : Tree) :
    (readEntity (readValue depth) key body).Adds := by
  rw [readEntity_eq]
  refine adds_bind (constructive_adds.toSequential.readKey [] key) fun name _ =>
    adds_bind (constructive_adds.readBody trivial depth name fun _ _ => trivial) fun id _ => ?_
  intro d a d' h
  obtain ⟨rfl, rfl⟩ := Prod.mk.inj (Except.ok.inj h)
  exact Draft.extends_add d _

/-- A step that leaves the entities as they are. -/
def Build.Leaves {α : Type} (x : Build α) : Prop :=
  ∀ (d : Draft) (a : α) (d' : Draft), x d = .ok (a, d') → d'.entities = d.entities

lemma Draft.entities_addProperties (d : Draft) (l : List (String × NodeId)) :
    (d.addProperties l).2.entities = d.entities := by
  induction l generalizing d with
  | nil => rfl
  | cons p l ih => exact ih (d.add (.property p.1 p.2)).2

lemma Build.constructive_leaves : Constructive Leaves fun _ => True where
  result a := by
    intro d b d' h
    rw [(Prod.mk.inj (Except.ok.inj h)).2]
  fail e := by
    intro d a d' h
    cases h
  bind hx hf := by
    intro d b d' h
    obtain ⟨a, d₁, ha, hb⟩ := ok_of_bind h
    exact (hf a ⟨d, d₁, ha⟩ d₁ b d' hb).trans (hx d a d₁ ha)
  add _ := by
    intro d a d' h
    rw [← (Prod.mk.inj (Except.ok.inj h)).2]
  object _ _ := by
    intro d a d' h
    rw [← (Prod.mk.inj (Except.ok.inj h)).2]
    exact Draft.entities_addProperties d _

/-- A node is an entity that has been read from a key and a body. -/
def Draft.IsEntity (d : Draft) (p : Tree × Tree) (eid : NodeId) : Prop :=
  ∃ (name : String) (body : NodeId) (d₁ d₂ : Draft), p.1.keyText? = some name ∧
    d.nodes[eid]? = some ({ kind := .entity name body } : Node) ∧
    readBody (readValue p.2.height) name p.2 d₁ = .ok (body, d₂) ∧ d₂.Extends d

lemma Draft.IsEntity.mono {p : Tree × Tree} {eid : NodeId} (h : d.IsEntity p eid)
    (hd : d.Extends d') : d'.IsEntity p eid := by
  obtain ⟨name, body, d₁, d₂, hkey, hnode, hbody, hd₂⟩ := h
  exact ⟨name, body, d₁, d₂, hkey, hd _ _ hnode, hbody, hd₂.trans hd⟩

/-- An entity that is read is added to the entities. -/
lemma isEntity_of_readEntity {k : Tree} (h : readEntity (readValue v.height) k v d = .ok (id, d')) :
    d'.entities = d.entities ++ [id] ∧ d'.IsEntity (k, v) id := by
  rw [readEntity_eq] at h
  obtain ⟨name, d₁, hkey, h⟩ := ok_of_bind h
  obtain ⟨body, d₂, hbody, h⟩ := ok_of_bind h
  obtain ⟨rfl, rfl⟩ := Prod.mk.inj (Except.ok.inj h)
  have hd₁ := constructive_leaves.toSequential.readKey [] k d name d₁ hkey
  have hd₂ := constructive_leaves.readBody trivial v.height name (fun _ _ => trivial) d₁ body d₂
    hbody
  refine ⟨?_, name, body, d₁, d₂, ends_readKey ⟨d, d₁, hkey⟩, Draft.getElem?_add d₂ _, hbody,
    Draft.extends_add d₂ _⟩
  rw [← hd₁, ← hd₂]

/-- The entities that are read are added in their order. -/
lemma isEntity_of_readEntities {entities : Pairs}
    (h : (entities.forM fun (k, v) => do
      let _ ← readEntity (readValue v.height) k v : Build Unit) d = .ok ((), d')) :
    d.Extends d' ∧ ∃ eids, d'.entities = d.entities ++ eids ∧
      List.Forall₂ d'.IsEntity entities eids := by
  induction entities generalizing d with
  | nil =>
    obtain ⟨-, rfl⟩ := Prod.mk.inj (Except.ok.inj h)
    exact ⟨fun _ _ hn => hn, [], (List.append_nil _).symm, .nil⟩
  | cons p entities ih =>
    rw [List.forM] at h
    obtain ⟨_, d₁, hfirst, hrest⟩ := ok_of_bind h
    obtain ⟨eid, d₂, hentity, hunit⟩ := ok_of_bind hfirst
    obtain ⟨-, rfl⟩ := Prod.mk.inj (Except.ok.inj hunit)
    obtain ⟨hentities, hp⟩ := isEntity_of_readEntity hentity
    obtain ⟨hd, eids, heids, hall⟩ := ih hrest
    refine ⟨(adds_readEntity _ p.1 p.2 d eid d₂ hentity).trans hd, eid :: eids, ?_,
      .cons (hp.mono hd) hall⟩
    rw [heids, hentities, List.append_assoc]
    rfl

/-- **The bodies of entities** have nodes that stand for them, under the entities in their
order. -/
lemma Document.stands_of_entity {path : Files.Path} {tree k : Tree} {imports : List Import}
    {entities : Pairs} {i : Nat} (h : ofTree path tree = .ok doc)
    (houtline : outline? tree = some (imports, entities))
    (he : entities[i]? = some (k, .mapping pairs)) :
    ∃ eid name body, doc.entities[i]? = some eid ∧ k.keyText? = some name ∧
      doc.kind eid = .entity name body ∧ doc.Stands (.mapping pairs) body := by
  obtain ⟨imports', entities', draft, houtline', hdraft, rfl⟩ := ofTree_draft h
  obtain ⟨rfl, rfl⟩ := Prod.mk.inj (Option.some.inj (houtline.symm.trans houtline'))
  have hwithin := Draft.within_finish (planted_of_entities hdraft).toGrown
  obtain ⟨-, eids, heids, hall⟩ := isEntity_of_readEntities hdraft
  obtain ⟨hi, hp⟩ := List.getElem?_eq_some_iff.mp he
  have hi' : i < eids.length := hall.length_eq ▸ hi
  have hentity : draft.IsEntity entities[i] eids[i] := hall.get hi hi'
  rw [hp] at hentity
  obtain ⟨name, body, d₁, d₂, hkey, hnode, hbody, hd⟩ := hentity
  have hread : readValue ((Tree.mapping pairs).height + 1) [name] (.mapping pairs) d₁ =
    .ok (body, d₂) := hbody
  refine ⟨eids[i], name, body, ?_, hkey, hwithin _ _ hnode,
    Document.stands_of_readValue hread hd hwithin⟩
  rw [show draft.finish.entities = eids from heids, List.getElem?_eq_getElem hi']

/-- **The value of a property** has a node that stands for it. -/
lemma Document.stands_ofTree {path : Files.Path} {tree key k v : Tree} {imports : List Import}
    {entities : Pairs} (h : ofTree path tree = .ok doc)
    (houtline : outline? tree = some (imports, entities))
    (he : (key, .mapping pairs) ∈ entities) (hp : (k, v) ∈ pairs) :
    ∃ name value pid, k.keyText? = some name ∧ doc.kind pid = .property name value ∧
      doc.Stands v value := by
  obtain ⟨i, hi⟩ := List.mem_iff_getElem?.mp he
  obtain ⟨j, hj⟩ := List.mem_iff_getElem?.mp hp
  obtain ⟨-, -, body, -, -, -, hbody⟩ := stands_of_entity h houtline hi
  obtain ⟨depth, t, d, d', hread, hwithin⟩ := hbody
  obtain _ | depth := depth
  · cases hread
  obtain ⟨-, name, value, pid, d₁, d₂, -, -, hkey, hpid, hvalue, hd⟩ := ok_of_readObject hread hj
  exact ⟨name, value, pid, hkey, hwithin _ _ hpid, stands_of_readValue hvalue hd hwithin⟩

/-! ### Pipes -/

lemma Draft.extends_addLinks (d : Draft) (start : NodeId) (ks : List Text.Transform) :
    d.Extends (d.addLinks start ks).2 := by
  induction ks generalizing d start with
  | nil => exact fun _ _ hn => hn
  | cons k ks ih => exact (extends_add d _).trans (ih _ _)

lemma linked_addLinks (h : (d.addLinks start ks).2.Within doc) :
    doc.Linked start ks (d.addLinks start ks).1 := by
  induction ks generalizing d start with
  | nil => rfl
  | cons k ks ih =>
    refine ⟨(d.add (.call (.pipe start k))).1, ?_, ih h⟩
    exact h _ _ (Draft.extends_addLinks _ _ ks _ _ (Draft.getElem?_add d _))

/-- Names of transforms add a link for each of them. -/
lemma run_readTransforms
    (h : List.Forall₂ (fun name k => Text.Transform.read name = .ok k) names ks) :
    (names.map Tree.string).foldlM (readTransform t) start d = .ok (d.addLinks start ks) := by
  induction h generalizing d start with
  | nil => rfl
  | @cons name k names ks hk _ ih =>
    have hlink : readTransform t start (.string name) = call (.pipe start k) := by
      simp only [readTransform, readText, Build.ofExcept, pure_bind, hk]
    rw [List.map_cons, List.foldlM_cons, hlink, apply_bind]
    exact ih

/-- **A pipe is read** as its value and a chain of links. -/
lemma readValue_pipe {tag : String} {depth : Nat} (htag : tagName tag = "pipe")
    (hvalue : Tree.lookup pairs "value" = some v)
    (hnames : Tree.lookup pairs "transforms" = some (.sequence (names.map .string)))
    (hks : List.Forall₂ (fun name k => Text.Transform.read name = .ok k) names ks) :
    readValue (depth + 1) t (.tagged tag (.mapping pairs)) d =
      (readValue depth t v d).map fun r => r.2.addLinks r.1 ks := by
  have hread : readValue (depth + 1) t (.tagged tag (.mapping pairs)) =
      readPipe (readValue depth) t (.mapping pairs) := by
    rw [readValue, htag]
    rfl
  have hpipe : readPipe (readValue depth) t (.mapping pairs) =
      readValue depth t v >>= fun start =>
        (names.map Tree.string).foldlM (readTransform t) start := by
    simp only [readPipe, readPairs, argument, ofOption, pure_bind, hvalue, hnames]
  rw [hread, hpipe, apply_bind]
  rcases readValue depth t v d with e | ⟨id, d₁⟩
  · rfl
  · exact run_readTransforms hks

/-- The node of a pipe is linked to the node of its value. -/
lemma Document.Stands.pipe {tag : String} (htag : tagName tag = "pipe")
    (hvalue : Tree.lookup pairs "value" = some v)
    (hnames : Tree.lookup pairs "transforms" = some (.sequence (names.map .string)))
    (hks : List.Forall₂ (fun name k => Text.Transform.read name = .ok k) names ks)
    (h : doc.Stands (.tagged tag (.mapping pairs)) id) :
    ∃ start, doc.Stands v start ∧ doc.Linked start ks id := by
  obtain ⟨depth, t, d, d', hread, hwithin⟩ := h
  obtain _ | depth := depth
  · cases hread
  rw [readValue_pipe htag hvalue hnames hks] at hread
  rcases hv : readValue depth t v d with e | ⟨start, d₁⟩ <;> rw [hv] at hread
  · cases hread
  · have hlinks : d₁.addLinks start ks = (id, d') := Except.ok.inj hread
    obtain rfl : (d₁.addLinks start ks).1 = id := by rw [hlinks]
    obtain rfl : (d₁.addLinks start ks).2 = d' := by rw [hlinks]
    exact ⟨start, ⟨depth, t, d, d₁, hv, hwithin.of_extends (Draft.extends_addLinks _ _ _)⟩,
      linked_addLinks hwithin⟩

end TestData.Schema
