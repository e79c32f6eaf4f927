import TestData.Engine.Resolution
import TestData.Proofs.Schema.Closure
import TestData.Proofs.Schema.Forest
import TestData.Proofs.Schema.Names

/-!
What a name means where it is written.

One goes outwards from a node, always to the node that owns the last one. The innermost object on
the way that has a property of the name gives its meaning, which is the first such property. A name
that no object on the way has a property of means the first entity of that name in the document,
and one that no entity has means what the first import lends that lists the name and leads to a
document with such an entity.
-/

namespace TestData.Schema

/-- The first member of a list that satisfies a condition. -/
def IsFirst {α : Type} (P : α → Prop) (l : List α) (a : α) : Prop :=
  ∃ front back, l = front ++ a :: back ∧ P a ∧ ∀ b ∈ front, ¬ P b

section

variable {α : Type} {P Q : α → Prop} {l : List α} {a : α}

lemma isFirst_find? {p : α → Bool} (hp : ∀ b, p b = true ↔ P b) :
    l.find? p = some a ↔ IsFirst P l a := by
  have hnot : ∀ b, (!p b) = true ↔ ¬ P b := fun b => by
    rw [← hp, Bool.not_eq_true', Bool.not_eq_true]
  simp only [List.find?_eq_some_iff_append, hp, hnot]
  constructor
  · rintro ⟨ha, front, back, hl, hfront⟩
    exact ⟨front, back, hl, ha, hfront⟩
  · rintro ⟨front, back, hl, ha, hfront⟩
    exact ⟨ha, front, back, hl, hfront⟩

lemma IsFirst.mem (h : IsFirst P l a) : a ∈ l ∧ P a := by
  obtain ⟨front, back, rfl, ha, -⟩ := h
  exact ⟨by simp, ha⟩

/-- A list has a first member that satisfies a condition if one of its members does. -/
lemma exists_isFirst : (∃ b, IsFirst P l b) ↔ ∃ b ∈ l, P b := by
  classical
  constructor
  · rintro ⟨b, hb⟩
    exact ⟨b, hb.mem⟩
  · rintro ⟨b, hb, hPb⟩
    rcases hfind : l.find? fun b => decide (P b) with _ | c
    · exact absurd hPb (by simpa using List.find?_eq_none.mp hfind b hb)
    · exact ⟨c, (isFirst_find? (by simp)).mp hfind⟩

lemma isFirst_filter {p : α → Bool} :
    IsFirst P (l.filter p) a ↔ IsFirst (fun b => p b = true ∧ P b) l a := by
  classical
  rw [← isFirst_find? (p := fun b => decide (P b)) (by simp), List.find?_filter]
  exact isFirst_find? (by simp)

lemma findSome?_isFirst {β : Type} {f : α → Option β} {b : β} :
    l.findSome? f = some b ↔ ∃ a, IsFirst (fun a => ∃ b, f a = some b) l a ∧ f a = some b := by
  rw [List.findSome?_eq_some_iff]
  constructor
  · rintro ⟨front, a, back, rfl, ha, hfront⟩
    exact ⟨a, ⟨front, back, rfl, ⟨b, ha⟩, fun c hc => by simp [hfront c hc]⟩, ha⟩
  · rintro ⟨a, ⟨front, back, rfl, -, hfront⟩, ha⟩
    exact ⟨front, a, back, rfl, ha,
      fun c hc => Option.eq_none_iff_forall_ne_some.mpr fun b hb => hfront c hc ⟨b, hb⟩⟩

end

namespace Document

variable (d : Document) {name : String} {n id p e : NodeId}

/-- The node that so many steps outwards lead to, each to the owner of the node before. -/
def outward? : Nat → NodeId → Option NodeId
  | 0, id => some id
  | k + 1, id => (d.parent id).bind (outward? k)

/-- A node is a property of a name. -/
def IsProperty (name : String) (id : NodeId) : Prop := ∃ value, d.kind id = .property name value

/-- A node is an entity of a name. -/
def IsEntity (name : String) (id : NodeId) : Prop := ∃ body, d.kind id = .entity name body

/-- A node is an object, and a property is the first of a name in it. -/
def Binds (name : String) (id p : NodeId) : Prop :=
  ∃ properties, d.kind id = .object properties ∧ IsFirst (d.IsProperty name) properties p

/-- A property is the first of a name in the innermost object, among a node and all that it stands
in, that has a property of that name. -/
def BoundAround (name : String) (n p : NodeId) : Prop :=
  ∃ k id, d.outward? k n = some id ∧ d.Binds name id p ∧
    ∀ j < k, ∀ id q, d.outward? j n = some id → ¬ d.Binds name id q

/-- An entity is the first of a name in the document. -/
def Declares (name : String) (e : NodeId) : Prop := IsFirst (d.IsEntity name) d.entities e

variable {d}

lemma chain_getElem? (fuel k : Nat) (id : NodeId) :
    (d.chain fuel id)[k]? = if k < fuel then d.outward? k id else none := by
  induction fuel generalizing k id with
  | zero => rfl
  | succ fuel ih =>
    rw [chain]
    rcases hp : d.parent id with _ | p
    · rcases k with _ | k <;> simp [outward?, hp]
    · rcases k with _ | k
      · simp [outward?]
      · simp [outward?, hp, ih]

/-- Each step outwards leads further on in the document. -/
lemma outward?_lt (h : d.Ascending) {k n id : Nat} (hk : d.outward? (k + 1) n = some id) :
    n + k < id ∧ id < d.nodes.size := by
  induction k generalizing n with
  | zero =>
    obtain ⟨p, hp, hid⟩ := Option.bind_eq_some_iff.mp hk
    obtain rfl := Option.some.inj hid
    exact h n p hp
  | succ k ih =>
    obtain ⟨p, hp, hid⟩ := Option.bind_eq_some_iff.mp hk
    obtain ⟨hlt, -⟩ := h n p hp
    obtain ⟨hle, hsize⟩ := ih hid
    exact ⟨by omega, hsize⟩

/-- A node and all that it stands in are what steps outwards lead to. -/
lemma ancestors_getElem? (h : d.Ascending) (k n : Nat) :
    (d.ancestors n)[k]? = d.outward? k n := by
  rw [ancestors, chain_getElem?]
  split_ifs with hk
  · rfl
  · rcases ho : d.outward? k n with _ | id
    · rfl
    obtain ⟨k, rfl⟩ := Nat.exists_eq_succ_of_ne_zero (n := k) (by omega)
    obtain ⟨hle, hsize⟩ := outward?_lt h ho
    omega

/-- The first of the nodes outwards that satisfies a condition is the nearest. -/
lemma isFirst_ancestors (h : d.Ascending) {P : NodeId → Prop} :
    IsFirst P (d.ancestors n) id ↔ ∃ k, d.outward? k n = some id ∧ P id ∧
      ∀ j < k, ∀ id, d.outward? j n = some id → ¬ P id := by
  constructor
  · rintro ⟨front, back, hl, hid, hfront⟩
    refine ⟨front.length, ?_, hid, fun j hj a ha => ?_⟩
    · rw [← ancestors_getElem? h, hl]
      simp
    · rw [← ancestors_getElem? h, hl, List.getElem?_append_left hj] at ha
      exact hfront a (List.mem_of_getElem? ha)
  · rintro ⟨k, hk, hid, hnear⟩
    rw [← ancestors_getElem? h] at hk
    obtain ⟨hlt, hget⟩ := List.getElem?_eq_some_iff.mp hk
    refine ⟨(d.ancestors n).take k, (d.ancestors n).drop (k + 1), ?_, hid, fun a ha => ?_⟩
    · rw [← hget, List.getElem_cons_drop, List.take_append_drop]
    · obtain ⟨j, hj, rfl⟩ := List.mem_take_iff_getElem.mp ha
      refine hnear j (by omega) _ ?_
      rw [← ancestors_getElem? h, List.getElem?_eq_getElem]

/-- Some object around a node decides if one of them has a property of the name. -/
lemma exists_boundAround (h : d.Ascending) : (∃ p, d.BoundAround name n p) ↔
    ∃ k id properties, d.outward? k n = some id ∧ d.kind id = .object properties ∧
      ∃ p ∈ properties, d.IsProperty name p := by
  constructor
  · rintro ⟨p, k, id, hk, ⟨properties, hkind, hp⟩, -⟩
    exact ⟨k, id, properties, hk, hkind, p, hp.mem⟩
  · rintro ⟨k, id, properties, hk, hkind, hp⟩
    obtain ⟨p, hp⟩ := exists_isFirst.mpr hp
    rw [← ancestors_getElem? h] at hk
    have hsome : ∃ id ∈ d.ancestors n, ∃ p, d.Binds name id p :=
      ⟨id, List.mem_of_getElem? hk, p, properties, hkind, hp⟩
    obtain ⟨id, hid⟩ := exists_isFirst.mpr hsome
    obtain ⟨k, hk, ⟨p, hp⟩, hnear⟩ := (isFirst_ancestors h).mp hid
    exact ⟨p, k, id, hk, hp, fun j hj id q hid hq => hnear j hj id hid ⟨q, hq⟩⟩

lemma findProperty?_iff {properties : List NodeId} :
    d.findProperty? properties name = some p ↔ IsFirst (d.IsProperty name) properties p := by
  refine isFirst_find? fun q => ?_
  unfold IsProperty
  split
  · rename_i n v hk
    simp [hk]
  · rename_i hk
    simpa using fun v hv => hk name v hv

/-- The first pair with a name, among pairs of names and what they are taken from. -/
lemma lookup_names {α : Type} {f : α → Option String} {g : α → Option (String × α)}
    (hg : ∀ a, g a = (f a).map fun n => (n, a)) (l : List α) (name : String) :
    (l.filterMap g).lookup name = l.find? fun a => f a = some name := by
  obtain rfl : g = fun a => (f a).map fun n => (n, a) := funext hg
  induction l with
  | nil => rfl
  | cons a l ih =>
    rcases hf : f a with _ | n
    · simp [hf, ih]
    · by_cases hn : name = n
      · simp [hf, hn]
      · simp [hf, Ne.symm hn, ih, lookup_cons_if, hn]

lemma entity?_iff : d.entity? name = some e ↔ d.Declares name e := by
  rw [entity?, namedEntities, lookup_names (f := fun id => (d.kind id).entityName?)]
  · refine isFirst_find? fun q => ?_
    unfold IsEntity Kind.entityName?
    split <;> simp_all
  · intro id
    unfold Kind.entityName?
    split <;> simp_all

end Document

namespace Workspace

open Files (Disk Path)

/-- A path leads to a document: the last whose path has the same key, with the keys of the
documents taken on one disk and that of the path on another. -/
def LeadsTo (disk disk' : Disk) (docs : List Document) (p : Path) (j : DocumentId) : Prop :=
  ∃ e, docs[j]? = some e ∧ PathKey.of disk e.path = PathKey.of disk' p ∧
    ∀ (j' : Nat) (e' : Document), j < j' → docs[j']? = some e' →
      PathKey.of disk e'.path ≠ PathKey.of disk' p

variable {disk disk' : Disk} {docs : List Document} {p : Path} {j : Nat}

lemma keys_snoc (docs : List Document) (d : Document) :
    (ofDocuments disk (docs ++ [d])).keys =
      (PathKey.of disk d.path, docs.length) :: (ofDocuments disk docs).keys := by
  simp [ofDocuments, List.zipIdx_append]

/-- The document that was added last is found first. -/
lemma leadsTo_snoc {d : Document} : LeadsTo disk disk' (docs ++ [d]) p j ↔
    if PathKey.of disk' p = PathKey.of disk d.path then j = docs.length
      else LeadsTo disk disk' docs p j := by
  have hlast : (docs ++ [d])[docs.length]? = some d := by simp
  have hlt : ∀ {i : Nat} {e}, i ≠ docs.length →
      ((docs ++ [d])[i]? = some e ↔ docs[i]? = some e) := by
    intro i e hi
    rcases Nat.lt_or_gt_of_ne hi with hi | hi
    · rw [List.getElem?_append_left hi]
    · rw [List.getElem?_eq_none (by simp; omega), List.getElem?_eq_none (by omega)]
  split_ifs with hkey
  · constructor
    · rintro ⟨e, he, -, hlater⟩
      by_contra hj
      have hj' := (List.getElem?_eq_some_iff.mp ((hlt hj).mp he)).1
      exact hlater docs.length d hj' hlast hkey.symm
    · rintro rfl
      refine ⟨d, hlast, hkey.symm, fun j' e' hj' he' => ?_⟩
      have hle := (List.getElem?_eq_some_iff.mp he').1
      rw [List.length_append, List.length_singleton] at hle
      exact absurd hj' (Nat.not_lt.mpr (Nat.le_of_lt_succ hle))
  · constructor
    · rintro ⟨e, he, hkey', hlater⟩
      have hj : j ≠ docs.length := by
        rintro rfl
        obtain rfl := Option.some.inj (hlast.symm.trans he)
        exact hkey hkey'.symm
      refine ⟨e, (hlt hj).mp he, hkey', fun j' e' hj' he' => hlater j' e' hj' ((hlt ?_).mpr he')⟩
      exact Nat.ne_of_lt (List.getElem?_eq_some_iff.mp he').1
    · rintro ⟨e, he, hkey', hlater⟩
      have hj : j < docs.length := (List.getElem?_eq_some_iff.mp he).1
      refine ⟨e, (hlt hj.ne).mpr he, hkey', fun j' e' hj' he' => ?_⟩
      by_cases hj'' : j' = docs.length
      · subst hj''
        obtain rfl := Option.some.inj (hlast.symm.trans he')
        exact Ne.symm hkey
      · exact hlater j' e' hj' ((hlt hj'').mp he')

/-- A path leads to the document that is looked up with it. -/
lemma documentAt?_iff :
    (ofDocuments disk docs).documentAt? disk' p = some j ↔ LeadsTo disk disk' docs p j := by
  unfold documentAt?
  induction docs using List.reverseRecOn with
  | nil => simp [ofDocuments, LeadsTo]
  | append_singleton docs d ih =>
    rw [keys_snoc, lookup_cons_if, leadsTo_snoc]
    split_ifs
    · rw [Option.some.injEq, eq_comm]
    · exact ih

/-- A workspace that is loaded holds documents that were read, each under a key of its own. -/
lemma documents_of_load {root : Path} {w : Workspace} (h : load disk root = .ok w) :
    ∃ docs, w = ofDocuments disk docs ∧
      (∀ d ∈ docs, ∃ text, Document.ofText d.path text = .ok d) ∧
      (docs.map fun d => PathKey.of disk d.path).Nodup := by
  rw [load_eq] at h
  rcases hg : gather disk (disk.entries.length + 1) [] [root] with err | docs <;> rw [hg] at h
  · cases h
  have hgathered := gathered ⟨List.nodup_nil, by simp⟩ (by simp) hg
  refine ⟨docs, (Except.ok.inj h).symm, fun d hd => ?_, hgathered.once⟩
  obtain ⟨text, -, htext⟩ := text_of_ofFile (hgathered.read d hd)
  exact ⟨text, htext⟩

end Workspace

end TestData.Schema

namespace TestData.Engine

open Schema
open Files (Disk)

section

variable (disk disk' : Disk) (docs : List Document) (d : Document) (name : String)

/-- An import lends an entity of another document: it lists the name, and it leads to a document
of which the entity is the first of that name. -/
def Lends (i : Import) (m : NodeRef) : Prop :=
  name ∈ i.entities ∧ Workspace.LeadsTo disk disk' docs (d.resolvePath i.path) m.document ∧
    ∃ e, docs[m.document]? = some e ∧ e.Declares name m.node

/-- What a name means at a node of a document. -/
inductive Means (n : NodeRef) : NodeRef → Prop
  /-- The innermost object around the node that has a property of the name decides. -/
  | property {p : NodeId} : d.BoundAround name n.node p → Means n (n.at p)
  /-- No object around the node decides, and the document has an entity of the name. -/
  | entity {e : NodeId} : (∀ p, ¬ d.BoundAround name n.node p) → d.Declares name e →
      Means n (n.at e)
  /-- Neither decides, and the import is the first that lends an entity of the name. -/
  | imported {i : Import} {m : NodeRef} : (∀ p, ¬ d.BoundAround name n.node p) →
      (∀ e, ¬ d.Declares name e) →
      IsFirst (fun i => ∃ m, Lends disk disk' docs d name i m) d.imports i →
      Lends disk disk' docs d name i m → Means n m

end

namespace Scope

section

variable {disk : Disk} {docs : List Document} {s : Scope} {n m : NodeRef} {d : Document}
  {name : String}

lemma document_of_docs (hs : s.workspace = .ofDocuments disk docs) {i : DocumentId}
    (hd : docs[i]? = some d) : s.workspace.document i = d := by
  rw [hs, Workspace.document, Workspace.document_ofDocuments, hd]
  rfl

lemma property?_iff (hd : s.workspace.document n.document = d) {id : NodeId} :
    s.property? (n.at id) name = some m ↔ ∃ p, d.Binds name id p ∧ n.at p = m := by
  have hkind : s.workspace.kind (n.at id) = d.kind id := by rw [← hd]; rfl
  unfold property? Document.Binds
  rw [hkind]
  split
  · rename_i properties hk
    simp [hk, ← Document.findProperty?_iff, NodeRef.at, hd]
  · rename_i hk
    simpa using fun p properties hp => absurd hp (hk properties)

/-- What the objects around a node give. -/
lemma around_iff (hd : s.workspace.document n.document = d) (hasc : d.Ascending) :
    ((d.ancestors n.node).findSome? fun id => s.property? (n.at id) name) = some m ↔
      ∃ p, d.BoundAround name n.node p ∧ n.at p = m := by
  rw [findSome?_isFirst]
  simp only [property?_iff hd, Document.isFirst_ancestors hasc, Document.BoundAround]
  constructor
  · rintro ⟨id, ⟨k, hk, -, hnear⟩, p, hp, rfl⟩
    exact ⟨p, ⟨k, id, hk, hp, fun j hj id' q hid hq => hnear j hj id' hid ⟨_, q, hq, rfl⟩⟩, rfl⟩
  · rintro ⟨p, ⟨k, id, hk, hp, hnear⟩, rfl⟩
    refine ⟨id, ⟨k, hk, ⟨_, p, hp, rfl⟩, ?_⟩, p, hp, rfl⟩
    rintro j hj id' hid ⟨m, q, hq, -⟩
    exact hnear j hj id' q hid hq

/-- What an import gives. -/
lemma lends_iff (hs : s.workspace = .ofDocuments disk docs) (hd : docs[n.document]? = some d)
    {i : Import} : Lends disk s.disk docs d name i m ↔ name ∈ i.entities ∧
      ((s.workspace.imported? s.disk n.document i).bind fun j => s.workspace.entity? j name) =
        some m := by
  rw [Workspace.imported?, document_of_docs hs hd, Option.bind_eq_some_iff, Lends]
  refine and_congr_right fun _ => ⟨?_, ?_⟩
  · rintro ⟨hleads, e, he, hdeclares⟩
    refine ⟨m.document, by rw [hs, Workspace.documentAt?_iff]; exact hleads, ?_⟩
    rw [Workspace.entity?, document_of_docs hs he, Document.entity?_iff.mpr hdeclares]
    rfl
  · rintro ⟨j, hj, hm⟩
    rw [hs, Workspace.documentAt?_iff] at hj
    obtain ⟨e, he, -⟩ := id hj
    rw [Workspace.entity?, document_of_docs hs he] at hm
    obtain ⟨id, hid, rfl⟩ := Option.map_eq_some_iff.mp hm
    exact ⟨hj, e, he, Document.entity?_iff.mp hid⟩

/-- What the imports of a document give. -/
lemma importedEntity?_iff (hs : s.workspace = .ofDocuments disk docs)
    (hd : docs[n.document]? = some d) :
    s.workspace.importedEntity? s.disk n.document name = some m ↔
      ∃ i, IsFirst (fun i => ∃ m, Lends disk s.disk docs d name i m) d.imports i ∧
        Lends disk s.disk docs d name i m := by
  rw [Workspace.importedEntity?, document_of_docs hs hd]
  change List.findSome? (fun i => (s.workspace.imported? s.disk n.document i).bind fun j =>
    s.workspace.entity? j name) _ = some m ↔ _
  simp only [findSome?_isFirst, isFirst_filter, lends_iff hs hd, List.contains_iff_mem,
    exists_and_left]
  refine exists_congr fun i => and_congr_right fun hi => ?_
  rw [and_iff_right hi.mem.2.1]

/-- What the document itself gives. -/
lemma declared_iff (hd : s.workspace.document n.document = d) :
    s.workspace.entity? n.document name = some m ↔ ∃ e, d.Declares name e ∧ n.at e = m := by
  simp [Workspace.entity?, hd, Document.entity?_iff, NodeRef.at]

/-- The three places where a name is looked up. -/
lemma lookup_eq (hd : s.workspace.document n.document = d) (name : String) :
    s.lookup? n name =
      ((d.ancestors n.node).findSome? fun id => s.property? (n.at id) name).or
        ((s.workspace.entity? n.document name).or
          (s.workspace.importedEntity? s.disk n.document name)) := by
  rw [lookup?, hd]

lemma around_eq_none (hd : s.workspace.document n.document = d) (hasc : d.Ascending) :
    ((d.ancestors n.node).findSome? fun id => s.property? (n.at id) name) = none ↔
      ∀ p, ¬ d.BoundAround name n.node p := by
  simp [Option.eq_none_iff_forall_ne_some, around_iff hd hasc]

lemma declared_eq_none (hd : s.workspace.document n.document = d) :
    s.workspace.entity? n.document name = none ↔ ∀ e, ¬ d.Declares name e := by
  simp [Option.eq_none_iff_forall_ne_some, declared_iff hd]

lemma importedEntity?_eq_none (hs : s.workspace = .ofDocuments disk docs)
    (hd : docs[n.document]? = some d) :
    s.workspace.importedEntity? s.disk n.document name = none ↔
      ∀ i ∈ d.imports, ∀ m, ¬ Lends disk s.disk docs d name i m := by
  rw [Option.eq_none_iff_forall_ne_some]
  simp only [ne_eq, importedEntity?_iff hs hd]
  constructor
  · intro h i hi m hm
    have hlends : ∃ i ∈ d.imports, ∃ m, Lends disk s.disk docs d name i m := ⟨i, hi, m, hm⟩
    obtain ⟨i, hi⟩ := exists_isFirst.mpr hlends
    obtain ⟨m, hm⟩ := hi.mem.2
    exact h m ⟨i, hi, hm⟩
  · rintro h m ⟨i, hi, hm⟩
    exact h i hi.mem.1 m hm

lemma lookup_iff_means (hs : s.workspace = .ofDocuments disk docs) (hasc : d.Ascending)
    (hd : docs[n.document]? = some d) :
    s.lookup? n name = some m ↔ Means disk s.disk docs d name n m := by
  have hdoc := document_of_docs hs hd
  rw [lookup_eq hdoc, Option.or_eq_some_iff, Option.or_eq_some_iff, around_iff hdoc hasc,
    declared_iff hdoc, around_eq_none hdoc hasc, declared_eq_none hdoc, importedEntity?_iff hs hd]
  constructor
  · rintro (⟨p, hp, rfl⟩ | ⟨hb, ⟨e, he, rfl⟩ | ⟨hn, i, hi, hm⟩⟩)
    · exact .property hp
    · exact .entity hb he
    · exact .imported hb hn hi hm
  · rintro (hp | ⟨hb, he⟩ | ⟨hb, hn, hi, hm⟩)
    · exact .inl ⟨_, hp, rfl⟩
    · exact .inr ⟨hb, .inl ⟨_, he, rfl⟩⟩
    · exact .inr ⟨hb, .inr ⟨hn, _, hi, hm⟩⟩

/-- Nothing of what a name could mean is there. -/
def Meaningless (disk disk' : Disk) (docs : List Document) (d : Document) (name : String)
    (n : NodeId) : Prop :=
  (∀ k id properties, d.outward? k n = some id → d.kind id = .object properties →
      ∀ p ∈ properties, ¬ d.IsProperty name p) ∧
    (∀ e ∈ d.entities, ¬ d.IsEntity name e) ∧
    ∀ i ∈ d.imports, name ∈ i.entities → ∀ (j : DocumentId) (e : Document),
      Workspace.LeadsTo disk disk' docs (d.resolvePath i.path) j → docs[j]? = some e →
        ∀ id ∈ e.entities, ¬ e.IsEntity name id

lemma lookup_eq_none_iff (hs : s.workspace = .ofDocuments disk docs) (hasc : d.Ascending)
    (hd : docs[n.document]? = some d) :
    s.lookup? n name = none ↔ Meaningless disk s.disk docs d name n.node := by
  have hdoc := document_of_docs hs hd
  rw [lookup_eq hdoc, Option.or_eq_none_iff, Option.or_eq_none_iff, around_eq_none hdoc hasc,
    declared_eq_none hdoc, importedEntity?_eq_none hs hd, ← not_exists,
    Document.exists_boundAround hasc, ← not_exists]
  refine and_congr ?_ (and_congr ?_ ?_)
  · push Not
    exact ⟨fun h k id properties hk => h k id properties hk,
      fun h k id properties hk => h k id properties hk⟩
  · unfold Document.Declares
    rw [exists_isFirst]
    push Not
    rfl
  · constructor
    · intro h i hi hname j e hj he id hid hentity
      obtain ⟨id, hid⟩ := exists_isFirst.mpr ⟨id, hid, hentity⟩
      exact h i hi ⟨j, id⟩ ⟨hname, hj, e, he, hid⟩
    · rintro h i hi m ⟨hname, hleads, e, he, hdeclares⟩
      exact h i hi hname m.document e hleads he m.node hdeclares.mem.1 hdeclares.mem.2

/-- **Names are bound lexically.** In a workspace of documents that were read, at every node of
every document, a name means the first property of that name in the innermost object, among the
node and all that it stands in, that has one; where no object around it has one, the first entity
of that name in the document; and where there is none either, the entity that the first import
lends which lists the name and leads to a document that has an entity of that name. It means
nothing where none of this is there. -/
theorem name_means_innermost (hs : s.workspace = .ofDocuments disk docs)
    (hread : ∀ d ∈ docs, ∃ text, Document.ofText d.path text = .ok d)
    (hd : docs[n.document]? = some d) (name : String) :
    (∀ m, s.lookup? n name = some m ↔ Means disk s.disk docs d name n m) ∧
      (s.lookup? n name = none ↔ Meaningless disk s.disk docs d name n.node) := by
  obtain ⟨text, htext⟩ := hread d (List.mem_of_getElem? hd)
  have hasc := Document.ascending_ofText htext
  exact ⟨fun m => lookup_iff_means hs hasc hd, lookup_eq_none_iff hs hasc hd⟩

end

namespace Nested

/-- A schema with an object in an object, that imports two others. -/
def text : String :=
  "imports: [{path: b, entities: [X]}, {path: c, entities: [X]}]\n" ++
    "entities: {A: {x: u, y: u, o: {x: u}}}"

/-- The three schemas, of which the last has the entity that is imported. -/
def files : List (Files.Path × String) := [("/a", text), ("/b", ""), ("/c", "entities: {X: }")]

/-- The document of a schema. -/
def document (f : Files.Path × String) : Document :=
  (Document.ofText f.1 f.2).toOption.getD default

def documents : List Document := files.map document

def folder : Disk := .ofDirectory []

def scope : Scope := { workspace := .ofDocuments folder documents, disk := folder, maxDepth := 8 }

/-- The value in the inner object. -/
def here : NodeRef := ⟨0, 2⟩

lemma facts :
    (∀ f ∈ files, (Document.ofText f.1 f.2).toOption.isSome = true ∧ (document f).path = f.1) ∧
    scope.lookup? here "x" = some ⟨0, 3⟩ ∧ scope.lookup? here "y" = some ⟨0, 6⟩ ∧
      scope.lookup? here "A" = some ⟨0, 9⟩ ∧ scope.lookup? here "X" = some ⟨2, 1⟩ ∧
      scope.lookup? here "z" = none := by
  decide +kernel

lemma read : ∀ d ∈ documents, ∃ text, Document.ofText d.path text = .ok d := by
  intro d hd
  obtain ⟨f, hf, rfl⟩ := List.mem_map.mp hd
  obtain ⟨hsome, hpath⟩ := facts.1 f hf
  exact ⟨f.2, by rw [hpath]; exact Document.ofText_of_isSome hsome⟩

end Nested

open Nested in
/-- In the inner object its own property hides that of the outer one. The outer object, the document
and the imports give the rest, where the import is passed over whose document has no such entity. -/
theorem name_means_innermost_nested :
    Means folder folder documents (document ("/a", text)) "x" here ⟨0, 3⟩ ∧
      Means folder folder documents (document ("/a", text)) "y" here ⟨0, 6⟩ ∧
      Means folder folder documents (document ("/a", text)) "A" here ⟨0, 9⟩ ∧
      Means folder folder documents (document ("/a", text)) "X" here ⟨2, 1⟩ ∧
      Meaningless folder folder documents (document ("/a", text)) "z" 2 := by
  obtain ⟨-, hx, hy, hA, hX, hz⟩ := facts
  have hmeans := fun name => name_means_innermost (s := scope) (n := here)
    (d := document ("/a", text)) rfl read rfl name
  exact ⟨((hmeans _).1 _).mp hx, ((hmeans _).1 _).mp hy, ((hmeans _).1 _).mp hA,
    ((hmeans _).1 _).mp hX, (hmeans _).2.mp hz⟩

end Scope

end TestData.Engine
