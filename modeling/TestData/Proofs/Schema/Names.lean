import TestData.Proofs.Schema.Owners
import TestData.Proofs.Yaml.Keys

/-!
Where the names in a document come from.

The names of the properties of an object are the texts of the keys of one mapping, in their order,
and so are the names of the entities. The nodes of a draft stay where they are, so that a name that
a node has been given is the one that it has in the document.
-/

namespace TestData.Schema

open Yaml (Tree)

/-- The name of a property. -/
def Kind.propertyName? : Kind → Option String
  | property name _ => some name
  | _ => none

/-- The name of an entity. -/
def Kind.entityName? : Kind → Option String
  | entity name _ => some name
  | _ => none

namespace Draft

/-- Nodes stay where they are while others are added. -/
def Extends (d d' : Draft) : Prop := ∀ (id : NodeId) (n : Node), d.nodes[id]? = some n →
  d'.nodes[id]? = some n

/-- Nodes have names, in the order given. -/
def Labelled (d : Draft) (label : Kind → Option String) (ids : List NodeId)
    (names : List String) : Prop :=
  List.Forall₂ (fun id name => ∃ n, d.nodes[id]? = some n ∧ label n.kind = some name) ids names

variable {d d' d'' : Draft} {k : Kind} {label : Kind → Option String} {ids : List NodeId}
  {names : List String}

lemma Extends.trans (h : d.Extends d') (h' : d'.Extends d'') : d.Extends d'' :=
  fun id n hn => h' id n (h id n hn)

lemma extends_add (d : Draft) (k : Kind) : d.Extends (d.add k).2 := by
  intro id n hn
  obtain ⟨hlt, hn⟩ := Array.getElem?_eq_some_iff.mp hn
  rw [add, Array.getElem?_push_lt hlt, hn]

lemma Labelled.mono (h : d.Labelled label ids names) (hd : d.Extends d') :
    d'.Labelled label ids names :=
  h.imp fun _ _ ⟨n, hn, hname⟩ => ⟨n, hd _ n hn, hname⟩

lemma getElem?_add (d : Draft) (k : Kind) :
    (d.add k).2.nodes[(d.add k).1]? = some { kind := k } :=
  Array.getElem?_push_size

/-- The names in a draft are the texts of keys of which `P` holds: those of the entities in order,
and those of the properties of every object. -/
structure Named (P : List Tree → Prop) (names : List String) (d : Draft) : Prop where
  entities : d.Labelled Kind.entityName? d.entities names
  objects : ∀ (id : NodeId) (n : Node) (ps : List NodeId), d.nodes[id]? = some n →
    n.kind = .object ps → ∃ keys names, P keys ∧ keys.map Tree.keyText? = names.map some ∧
      d.Labelled Kind.propertyName? ps names

variable {P : List Tree → Prop}

/-- A node is added that is no object or whose properties have the names of keys. -/
lemma Named.add (h : d.Named P names) (hk : ∀ ps, k = .object ps → ∃ keys names, P keys ∧
    keys.map Tree.keyText? = names.map some ∧ d.Labelled Kind.propertyName? ps names) :
    (d.add k).2.Named P names where
  entities := h.entities.mono (extends_add d k)
  objects id n ps hn hps := by
    have hold : ∃ keys names, P keys ∧ keys.map Tree.keyText? = names.map some ∧
        d.Labelled Kind.propertyName? ps names := by
      rw [Draft.add, Array.getElem?_push] at hn
      split_ifs at hn
      · obtain rfl := Option.some.inj hn
        exact hk ps hps
      · exact h.objects id n ps hn hps
    obtain ⟨keys, names, hkeys, htexts, hnames⟩ := hold
    exact ⟨keys, names, hkeys, htexts, hnames.mono (extends_add d k)⟩

/-- Properties are added under their names. -/
lemma Named.addProperties {l : List (String × NodeId)} (h : d.Named P names) :
    (d.addProperties l).2.Named P names ∧ d.Extends (d.addProperties l).2 ∧
      (d.addProperties l).2.Labelled Kind.propertyName? (d.addProperties l).1 (l.map (·.1)) := by
  induction l generalizing d with
  | nil => exact ⟨h, fun _ _ hn => hn, .nil⟩
  | cons p l ih =>
    obtain ⟨name, value⟩ := p
    obtain ⟨hnamed, hextends, hlabels⟩ := ih (h.add (k := .property name value) nofun)
    exact ⟨hnamed, (extends_add d _).trans hextends,
      .cons ⟨_, hextends _ _ (getElem?_add d _), rfl⟩ hlabels⟩

lemma Named.addObject {l : List (String × NodeId)} {keys : List Tree} (h : d.Named P names)
    (hkeys : P keys) (htexts : keys.map Tree.keyText? = l.map (some ·.1)) :
    (d.addObject l).2.Named P names := by
  obtain ⟨hnamed, -, hlabels⟩ := h.addProperties (l := l)
  refine hnamed.add fun ps hps => ⟨keys, l.map (·.1), hkeys, by rw [htexts, List.map_map]; rfl, ?_⟩
  rw [← Kind.object.inj hps]
  exact hlabels

lemma Named.addEntity {name : String} {body : NodeId} (h : d.Named P names) :
    (d.addEntity name body).2.Named P (names ++ [name]) where
  entities := by
    refine List.rel_append (h.entities.mono (extends_add d _))
      (.cons ⟨_, getElem?_add d _, rfl⟩ .nil)
  objects := (h.add (k := .entity name body) nofun).objects

end Draft

/-! ### Steps of reading -/

namespace Build

variable {α β : Type} {P : List Tree → Prop} {names : List String}

/-- A step that keeps what is known of the names in a draft. -/
def Names (P : List Tree → Prop) (names : List String) (x : Build α) : Prop :=
  ∀ (d : Draft) (a : α) (d' : Draft), d.Named P names → x d = .ok (a, d') → d'.Named P names

lemma names_bind {x : Build α} {f : α → Build β} (hx : x.Names P names)
    (hf : ∀ a, x.Ends a → (f a).Names P names) : (x >>= f).Names P names := by
  intro d b d' hd h
  obtain ⟨a, d₁, ha, hb⟩ := ok_of_bind h
  exact hf a ⟨d, d₁, ha⟩ d₁ b d' (hx d a d₁ hd ha) hb

lemma constructive_names (P : List Tree → Prop) (names : List String) :
    Constructive (Names P names) P where
  result a := by
    intro d b d' hd hx
    obtain ⟨rfl, rfl⟩ := Prod.mk.inj (Except.ok.inj hx)
    exact hd
  fail e := by
    intro d a d' _ hx
    cases hx
  bind := names_bind
  add hk := by
    intro d a d' hd hx
    obtain ⟨rfl, rfl⟩ := Prod.mk.inj (Except.ok.inj hx)
    refine hd.add fun ps hps => ?_
    rw [hps] at hk
    cases hk
  object hkeys htexts := by
    intro d a d' hd hx
    obtain ⟨rfl, rfl⟩ := Prod.mk.inj (Except.ok.inj hx)
    exact hd.addObject hkeys htexts

end Build

open Build

section Entities

variable {P : List Tree → Prop} {names : List String} {d d' : Draft}

/-- An entity that is read has the text of its key for its name. -/
lemma named_readEntity {key body : Tree} {depth : Nat} {id : NodeId} (hnil : P [])
    (hbody : body.Keyed P) (hd : d.Named P names)
    (h : readEntity (readValue depth) key body d = .ok (id, d')) :
    ∃ name, key.keyText? = some name ∧ d'.Named P (names ++ [name]) := by
  have hC := constructive_names P names
  rw [readEntity_eq] at h
  obtain ⟨name, d₁, hkey, h⟩ := ok_of_bind h
  obtain ⟨id, d₂, hread, h⟩ := ok_of_bind h
  obtain ⟨rfl, rfl⟩ := Prod.mk.inj (Except.ok.inj h)
  have hd₂ := hC.readBody hnil depth name hbody d₁ id d₂ (hC.readKey [] key d name d₁ hd hkey) hread
  exact ⟨name, ends_readKey ⟨d, d₁, hkey⟩, hd₂.addEntity⟩

/-- Reading entities adds the texts of their keys to the names. -/
lemma named_entities {entities : Pairs} (hnil : P []) (hbodies : ∀ p ∈ entities, p.2.Keyed P)
    (hd : d.Named P names)
    (h : (entities.forM fun (k, v) => do
      let _ ← readEntity (readValue v.height) k v : Build Unit) d = .ok ((), d')) :
    ∃ texts, (entities.map (·.1)).map Tree.keyText? = texts.map some ∧
      d'.Named P (names ++ texts) := by
  induction entities generalizing d names with
  | nil =>
    obtain ⟨-, rfl⟩ := Prod.mk.inj (Except.ok.inj h)
    exact ⟨[], rfl, by rwa [List.append_nil]⟩
  | cons p entities ih =>
    obtain ⟨hbody, hbodies⟩ := List.forall_mem_cons.mp hbodies
    rw [List.forM] at h
    obtain ⟨_, d₁, hfirst, hrest⟩ := ok_of_bind h
    obtain ⟨id, d₂, hread, hresult⟩ := ok_of_bind hfirst
    obtain ⟨-, rfl⟩ := Prod.mk.inj (Except.ok.inj hresult)
    obtain ⟨name, hname, hd₂⟩ := named_readEntity hnil hbody hd hread
    obtain ⟨texts, htexts, hd'⟩ := ih hbodies hd₂ hrest
    refine ⟨name :: texts, ?_, by rwa [List.append_assoc] at hd'⟩
    rw [List.map_cons, List.map_cons, htexts, hname, List.map_cons]

end Entities

/-! ### The outline of a document -/

section Outline

variable {P : List Tree → Prop} {v : Tree} {fs : List (String × Tree)} {entities : Pairs}

lemma exists_of_mapM {α β : Type} {f : α → Option β} {l : List α} {bs : List β} {b : β}
    (h : l.mapM f = some bs) (hb : b ∈ bs) : ∃ a ∈ l, f a = some b := by
  induction l generalizing bs with
  | nil =>
    obtain rfl := Option.some.inj h
    cases hb
  | cons a l ih =>
    rw [List.mapM_cons] at h
    obtain ⟨c, hc, h⟩ := Option.bind_eq_some_iff.mp h
    obtain ⟨cs, hcs, h⟩ := Option.bind_eq_some_iff.mp h
    obtain rfl := Option.some.inj h
    rcases List.mem_cons.mp hb with rfl | hb
    · exact ⟨a, List.mem_cons_self, hc⟩
    · obtain ⟨a', ha', hb⟩ := ih hcs hb
      exact ⟨a', List.mem_cons_of_mem _ ha', hb⟩

lemma keyed_fields? (h : fields? v = some fs) (hv : v.Keyed P) : ∀ p ∈ fs, p.2.Keyed P := by
  have hu := Tree.keyed_untagged hv
  unfold fields? at h
  split at h
  · obtain rfl := Option.some.inj h
    exact List.forall_mem_nil _
  · rename_i pairs hpairs
    intro q hq
    obtain ⟨p, hp, hq⟩ := exists_of_mapM h hq
    rw [hpairs, Tree.keyed_mapping] at hu
    dsimp only at hq
    split at hq
    · obtain rfl := Option.some.inj hq
      exact (hu.2 p hp).2
    · cases hq
  · cases h

lemma mem_of_field? {name : String} {w : Tree} (h : field? fs name = some (some w)) :
    ∃ p ∈ fs, p.2 = w := by
  unfold field? at h
  split at h
  · cases h
  · rename_i q u hfilter
    obtain rfl := Option.some.inj (Option.some.inj h)
    exact ⟨_, List.mem_of_mem_filter (hfilter ▸ List.mem_singleton_self _), rfl⟩
  · cases h

/-- The keys of the entities are those of a mapping, if there are any. -/
lemma keyed_mapping? {w : Option Tree} (hnil : P []) (h : mapping? w = some entities)
    (hw : ∀ v ∈ w, v.Keyed P) : P (entities.map (·.1)) ∧ ∀ p ∈ entities, p.2.Keyed P := by
  unfold mapping? at h
  split at h
  · obtain rfl := Option.some.inj h
    exact ⟨hnil, List.forall_mem_nil _⟩
  · have hu := Tree.keyed_untagged (hw _ rfl)
    split at h
    · obtain rfl := Option.some.inj h
      exact ⟨hnil, List.forall_mem_nil _⟩
    · rename_i hpairs
      obtain rfl := Option.some.inj h
      rw [hpairs, Tree.keyed_mapping] at hu
      exact ⟨hu.1, fun p hp => (hu.2 p hp).2⟩
    · cases h

lemma keyed_outline? {imports : List Import} (hnil : P [])
    (h : outline? v = some (imports, entities)) (hv : v.Keyed P) :
    P (entities.map (·.1)) ∧ ∀ p ∈ entities, p.2.Keyed P := by
  obtain ⟨fs, hfs, h⟩ := Option.bind_eq_some_iff.mp h
  obtain ⟨_, -, h⟩ := Option.bind_eq_some_iff.mp h
  obtain ⟨_, -, h⟩ := Option.bind_eq_some_iff.mp h
  obtain ⟨_, -, h⟩ := Option.bind_eq_some_iff.mp h
  obtain ⟨w, hw, h⟩ := Option.bind_eq_some_iff.mp h
  obtain ⟨pairs, hpairs, h⟩ := Option.bind_eq_some_iff.mp h
  obtain ⟨-, rfl⟩ := Prod.mk.inj (Option.some.inj h)
  refine keyed_mapping? hnil hpairs ?_
  rintro u rfl
  obtain ⟨p, hp, rfl⟩ := mem_of_field? hw
  exact keyed_fields? hfs hv p hp

end Outline

namespace Document

variable {d : Document}

/-- The names of the properties among nodes, in order. -/
def propertyNames (d : Document) (ids : List NodeId) : List String :=
  ids.filterMap fun id => (d.kind id).propertyName?

/-- The names of the entities, in order. -/
def entityNames (d : Document) : List String := d.namedEntities.map (·.1)

lemma entityNames_eq (d : Document) :
    d.entityNames = d.entities.filterMap fun id => (d.kind id).entityName? := by
  rw [entityNames, namedEntities, List.map_filterMap]
  refine List.filterMap_congr fun id _ => ?_
  cases d.kind id <;> rfl

lemma filterMap_of_labelled {draft : Draft} {label : Kind → Option String} {ids : List NodeId}
    {names : List String} (h : draft.Labelled label ids names)
    (hkind : ∀ id, d.kind id = (draft.nodes[id]?.getD default).kind) :
    ids.filterMap (fun id => label (d.kind id)) = names := by
  induction h with
  | nil => rfl
  | cons hname _ ih =>
    obtain ⟨n, hn, hname⟩ := hname
    rw [List.filterMap_cons, hkind, hn, Option.getD_some, hname, ih]

/-- The keys of the mappings of a text, and no keys at all. -/
def keyLists (text : String) : List (List Tree) :=
  [] :: ((Yaml.Document.read? text >>= Yaml.Document.tree?).map Tree.keyLists).getD []

/-- Names are the texts of the keys of a mapping, no two of which are the same. -/
def Keys (text : String) (names : List String) (keys : List Tree) : Prop :=
  keys ∈ keyLists text ∧ Tree.Distinct keys ∧ keys.map Tree.keyText? = names.map some

lemma keys_ofTree {path : Files.Path} {v : Tree} {P : List Tree → Prop} (hnil : P [])
    (hv : v.Keyed P) (h : ofTree path v = .ok d) :
    (∃ keys, P keys ∧ keys.map Tree.keyText? = d.entityNames.map some) ∧
      ∀ id ps, d.kind id = .object ps →
        ∃ keys, P keys ∧ keys.map Tree.keyText? = (d.propertyNames ps).map some := by
  obtain ⟨imports, entities, draft, houtline, hdraft, rfl⟩ := ofTree_draft h
  obtain ⟨hkeys, hbodies⟩ := keyed_outline? hnil houtline hv
  have hkind := Draft.kind_finish (planted_of_entities hdraft).toGrown
  have hempty : ({ path, imports } : Draft).Named P [] :=
    ⟨.nil, fun id n ps hn => by simp at hn⟩
  obtain ⟨texts, htexts, hnamed⟩ := named_entities hnil hbodies hempty hdraft
  refine ⟨⟨entities.map (·.1), hkeys, ?_⟩, fun id ps hps => ?_⟩
  · rw [htexts, entityNames_eq]
    exact congrArg (List.map some) (filterMap_of_labelled hnamed.entities hkind).symm
  · rw [hkind] at hps
    rcases hn : draft.nodes[id]? with _ | n <;> rw [hn] at hps
    · cases hps
    · obtain ⟨keys, names, hkeys, hnames, hlabels⟩ := hnamed.objects id n ps hn hps
      rw [← filterMap_of_labelled hlabels hkind] at hnames
      exact ⟨keys, hkeys, hnames⟩

/-- **The names in a document** are the texts of the keys of a mapping, no two of which are the
same: the names of the entities, and those of the properties of every object. -/
lemma keys_ofText {path : Files.Path} {text : String} (h : ofText path text = .ok d) :
    (∃ keys, Keys text d.entityNames keys) ∧
      ∀ id ps, d.kind id = .object ps → ∃ keys, Keys text (d.propertyNames ps) keys := by
  unfold ofText at h
  split at h
  · cases h
  · rename_i v hread
    have hdistinct : v.Keyed Tree.Distinct := by
      obtain ⟨y, -, hy⟩ := Option.bind_eq_some_iff.mp hread
      exact Tree.keyed_tree? hy
    have hlists : keyLists text = [] :: v.keyLists := by rw [keyLists, hread]; rfl
    have hv : v.withDecimals.Keyed fun keys => keys ∈ keyLists text ∧ Tree.Distinct keys := by
      intro keys hkeys
      rw [Tree.keyLists_withDecimals] at hkeys
      exact ⟨hlists ▸ List.mem_cons_of_mem _ hkeys, hdistinct keys hkeys⟩
    obtain ⟨⟨keys, hkeys, htexts⟩, hobjects⟩ :=
      keys_ofTree ⟨List.mem_cons_self, List.Pairwise.nil⟩ hv h
    refine ⟨⟨keys, hkeys.1, hkeys.2, htexts⟩, fun id ps hps => ?_⟩
    obtain ⟨keys, hkeys, htexts⟩ := hobjects id ps hps
    exact ⟨keys, hkeys.1, hkeys.2, htexts⟩

end Document

end TestData.Schema
