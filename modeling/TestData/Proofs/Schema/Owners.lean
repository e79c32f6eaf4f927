import TestData.Proofs.Schema.Forest

/-!
Owners and entities.

A finished document has the parents filled in: what is owned in the draft has its owner as its
parent, and what is not owned has none. As every node is owned once or an entity, the walk from a
node outwards ends at an entity.
-/

namespace TestData.Schema

namespace Draft

/-! ### Parents that are filled in -/

/-- A node has a parent. -/
def HasParent (nodes : Array Node) (c : NodeId) : Prop :=
  ∃ n, nodes[c]? = some n ∧ n.parent ≠ none

section

variable {d : Draft} {held : Multiset NodeId} {nodes : Array Node} {c p id : NodeId}

lemma HasParent.modify (h : HasParent nodes c) (c' p : NodeId) :
    HasParent (nodes.modify c' fun n => { n with parent := some p }) c := by
  obtain ⟨n, hn, hp⟩ := h
  rw [HasParent, Array.getElem?_modify, hn]
  split_ifs
  · exact ⟨_, rfl, nofun⟩
  · exact ⟨n, rfl, hp⟩

lemma HasParent.foldl (h : HasParent nodes c) (cs : List NodeId) (p : NodeId) :
    HasParent (cs.foldl (fun ns c => ns.modify c fun n => { n with parent := some p }) nodes)
      c := by
  induction cs generalizing nodes with
  | nil => exact h
  | cons c' cs ih => exact ih (h.modify c' p)

lemma hasParent_foldl {cs : List NodeId} (hc : c ∈ cs) (hlt : c < nodes.size) (p : NodeId) :
    HasParent (cs.foldl (fun ns c => ns.modify c fun n => { n with parent := some p }) nodes)
      c := by
  induction cs generalizing nodes with
  | nil => cases hc
  | cons c' cs ih =>
    rcases List.mem_cons.mp hc with rfl | hc
    · have hfirst : HasParent (nodes.modify c fun n => { n with parent := some p }) c := by
        rw [HasParent, Array.getElem?_modify, if_pos rfl, Array.getElem?_eq_getElem hlt]
        exact ⟨_, rfl, nofun⟩
      exact hfirst.foldl cs p
    · exact ih hc (by simpa using hlt)

lemma Adopted.lt_size (h : Adopted d nodes) (hid : id < d.nodes.size) : id < nodes.size := by
  have hk := h.kinds id
  rw [Array.getElem?_eq_getElem hid] at hk
  obtain ⟨m, hm, -⟩ := Option.map_eq_some_iff.mp hk
  exact (Array.getElem?_eq_some_iff.mp hm).1

/-- What a node owns has a parent once the node has adopted it. -/
lemma Adopted.hasParent_adopt (h : Adopted d nodes) {o : Node} (ho : d.nodes[p]? = some o)
    (hc : c ∈ o.kind.children) (hlt : c < d.nodes.size) : HasParent (Draft.adopt nodes p) c := by
  have hk := h.kinds p
  rw [ho] at hk
  obtain ⟨m, hm, hmo⟩ := Option.map_eq_some_iff.mp hk
  refine hasParent_foldl ?_ (h.lt_size hlt) p
  rw [hm, Option.getD_some, hmo]
  exact hc

lemma HasParent.adopts (h : HasParent nodes c) (ps : List NodeId) :
    HasParent (ps.foldl Draft.adopt nodes) c := by
  induction ps generalizing nodes with
  | nil => exact h
  | cons p ps ih => exact ih (h.foldl _ p)

lemma Adopted.hasParent_adopts {ps : List NodeId} (h : Adopted d nodes) (hp : p ∈ ps) {o : Node}
    (ho : d.nodes[p]? = some o) (hc : c ∈ o.kind.children) (hlt : c < d.nodes.size) :
    HasParent (ps.foldl Draft.adopt nodes) c := by
  induction ps generalizing nodes with
  | nil => cases hp
  | cons q ps ih =>
    rcases List.mem_cons.mp hp with rfl | hp
    · exact (h.hasParent_adopt ho hc hlt).adopts ps
    · exact ih (h.adopt q) hp

end

/-! ### Finished drafts -/

section

variable {d : Draft} {held : Multiset NodeId} {c p id : NodeId}

lemma kind_finish (h : d.Grown held) (id : NodeId) :
    d.finish.kind id = (d.nodes[id]?.getD default).kind := by
  have hk := (adopted_finish h.orphan).kinds id
  unfold Document.kind Document.node
  rcases hn : d.nodes[id]? with _ | n <;> rw [hn] at hk
  · rw [Option.map_eq_none_iff.mp hk]
  · obtain ⟨m, hm, hmn⟩ := Option.map_eq_some_iff.mp hk
    rw [hm]
    exact hmn

lemma size_finish (h : d.Grown held) : d.finish.nodes.size = d.nodes.size := by
  have ha := adopted_finish h.orphan
  refine Nat.le_antisymm (Nat.le_of_not_lt fun hlt => ?_) (Nat.le_of_not_lt fun hlt => ?_)
  · have hk := ha.kinds d.nodes.size
    rw [Array.getElem?_eq_getElem hlt, Array.getElem?_eq_none (Nat.le_refl _)] at hk
    cases hk
  · exact absurd (ha.lt_size hlt) (Nat.lt_irrefl _)

/-- A node that owns something is there. -/
lemma exists_of_children (hc : c ∈ ((d.nodes[p]?.getD default).kind.children)) :
    ∃ o, d.nodes[p]? = some o ∧ c ∈ o.kind.children := by
  rcases ho : d.nodes[p]? with _ | o <;> rw [ho] at hc
  · cases hc
  · exact ⟨o, rfl, hc⟩

/-- What is there once among lists stands in one of them, once. -/
lemma exists_of_count_flatMap {α : Type} {f : α → List NodeId} {l : List α}
    (h : (l.flatMap f).count c = 1) :
    ∃ i x, l[i]? = some x ∧ (f x).count c = 1 ∧
      ∀ (j : Nat) (y : α), l[j]? = some y → c ∈ f y → j = i := by
  induction l with
  | nil => cases h
  | cons x l ih =>
    rw [List.flatMap_cons, List.count_append] at h
    rcases Nat.eq_zero_or_pos ((f x).count c) with hx | hx
    · rw [hx, Nat.zero_add] at h
      obtain ⟨i, y, hi, hy, huniq⟩ := ih h
      refine ⟨i + 1, y, hi, hy, fun j z hj hz => ?_⟩
      cases j with
      | zero =>
        obtain rfl := Option.some.inj hj
        exact absurd hz (List.count_eq_zero.mp hx)
      | succ j => rw [huniq j z hj hz]
    · refine ⟨0, x, rfl, by omega, fun j z hj hz => ?_⟩
      cases j with
      | zero => rfl
      | succ j =>
        have hl : c ∈ l.flatMap f := List.mem_flatMap.mpr ⟨z, List.mem_of_getElem? hj, hz⟩
        have hpos := List.count_pos_iff.mpr hl
        omega

lemma Grown.count (h : d.Grown 0) (hid : id < d.nodes.size) :
    (d.nodes.toList.flatMap fun n : Node => n.kind.children).count id + d.entities.count id =
      1 := by
  have hcount := congrArg (Multiset.count id) h.once
  rw [add_zero, Multiset.count_add, owned, Multiset.coe_count, Multiset.coe_count,
    Multiset.count_eq_one_of_mem (Multiset.nodup_range _) (Multiset.mem_range.mpr hid)] at hcount
  exact hcount

/-- A node that is no entity is owned once, by one node. -/
lemma Grown.exists_owner (h : d.Grown 0) (hid : id < d.nodes.size) (he : id ∉ d.entities) :
    ∃ p o, d.nodes[p]? = some o ∧ o.kind.children.count id = 1 ∧
      ∀ (q : NodeId) (o' : Node), d.nodes[q]? = some o' → id ∈ o'.kind.children → q = p := by
  have hone := h.count hid
  rw [List.count_eq_zero.mpr he, add_zero] at hone
  obtain ⟨p, o, ho, hc, huniq⟩ := exists_of_count_flatMap hone
  simp only [Array.getElem?_toList] at ho huniq
  exact ⟨p, o, ho, hc, huniq⟩

/-- Nothing owns an entity. -/
lemma Grown.not_owned (h : d.Grown 0) (he : id ∈ d.entities) {o : Node} (ho : o ∈ d.nodes) :
    id ∉ o.kind.children := by
  intro hc
  have hone := h.count (h.lt_of_entity he)
  have hentity := List.count_pos_iff.mpr he
  have hmem : id ∈ d.nodes.toList.flatMap fun n : Node => n.kind.children :=
    List.mem_flatMap.mpr ⟨o, Array.mem_toList_iff.mpr ho, hc⟩
  have howned := List.count_pos_iff.mpr hmem
  omega

end

end Draft

namespace Document

/-! ### Forests -/

/-- The nodes of a document are a forest. What grows from an entity begins with an object. -/
structure Forest (d : Document) : Prop where
  /-- What a node owns stands before it. -/
  before : ∀ p, ∀ c ∈ (d.kind p).children, c < p
  /-- Every other node is owned by its parent, once, and by no other node. -/
  owner : ∀ id < d.nodes.size, id ∉ d.entities → ∃ p < d.nodes.size, d.parent id = some p ∧
    (d.kind p).children.count id = 1 ∧ ∀ q, id ∈ (d.kind q).children → q = p
  root : ∀ id ∈ d.entities, d.parent id = none ∧ ∀ q, id ∉ (d.kind q).children
  entity : ∀ id, id ∈ d.entities ↔ ∃ name body, d.kind id = .entity name body
  body : ∀ id name body, d.kind id = .entity name body → ∃ ps, d.kind body = .object ps

section

variable {d : Draft} {id : NodeId}

/-- The parent of a node in a finished draft is its owner. -/
lemma parent_finish (h : d.Grown 0) {p : NodeId} {o : Node} (ho : d.nodes[p]? = some o)
    (hc : id ∈ o.kind.children) : d.finish.parent id = some p := by
  have hid : id < d.nodes.size :=
    Nat.lt_trans (h.before p o ho id hc) (Array.getElem?_eq_some_iff.mp ho).1
  have he : id ∉ d.entities := fun he => h.not_owned he (Array.mem_of_getElem? ho) hc
  have hp : p ∈ List.range d.nodes.size :=
    List.mem_range.mpr (Array.getElem?_eq_some_iff.mp ho).1
  have hstart : Draft.Adopted d d.nodes :=
    ⟨fun _ => rfl, fun i n p hn hp => by
      rw [h.orphan n (Array.mem_of_getElem? hn)] at hp
      cases hp⟩
  obtain ⟨n, hn, hparent⟩ := hstart.hasParent_adopts hp ho hc hid
  obtain ⟨q, hq⟩ := Option.ne_none_iff_exists'.mp hparent
  obtain ⟨o', ho', hc'⟩ := (Draft.adopted_finish h.orphan).owners id n q hn hq
  obtain ⟨r, _, _, _, huniq⟩ := h.exists_owner hid he
  have hqp : q = p := (huniq q o' ho' hc').trans (huniq p o ho hc).symm
  have hnode : d.finish.nodes[id]? = some n := hn
  rw [parent, node, hnode, Option.getD_some, hq, hqp]

lemma parent_finish_entity (h : d.Grown 0) (he : id ∈ d.entities) :
    d.finish.parent id = none := by
  rcases hp : d.finish.parent id with _ | p
  · rfl
  · unfold parent node at hp
    rcases hn : d.finish.nodes[id]? with _ | n <;> rw [hn] at hp
    · cases hp
    · obtain ⟨o, ho, hc⟩ := (Draft.adopted_finish h.orphan).owners id n p hn hp
      exact absurd hc (h.not_owned he (Array.mem_of_getElem? ho))

lemma forest_finish (h : d.Planted 0) : d.finish.Forest where
  before p c hc := by
    rw [Draft.kind_finish h.toGrown] at hc
    obtain ⟨o, ho, hco⟩ := Draft.exists_of_children hc
    exact h.before p o ho c hco
  owner id hid he := by
    rw [Draft.size_finish h.toGrown] at hid ⊢
    obtain ⟨p, o, ho, hcount, huniq⟩ := h.exists_owner hid he
    have hmem : id ∈ o.kind.children := List.count_pos_iff.mp (by omega)
    refine ⟨p, (Array.getElem?_eq_some_iff.mp ho).1, parent_finish h.toGrown ho hmem, ?_,
      fun q hq => ?_⟩
    · rw [Draft.kind_finish h.toGrown, ho]
      exact hcount
    · rw [Draft.kind_finish h.toGrown] at hq
      obtain ⟨o', ho', hq'⟩ := Draft.exists_of_children hq
      exact huniq q o' ho' hq'
  root id he := by
    refine ⟨parent_finish_entity h.toGrown he, fun q hq => ?_⟩
    rw [Draft.kind_finish h.toGrown] at hq
    obtain ⟨o, ho, hc⟩ := Draft.exists_of_children hq
    exact h.not_owned he (Array.mem_of_getElem? ho) hc
  entity id := by
    rw [Draft.kind_finish h.toGrown]
    show id ∈ d.entities ↔ _
    rcases hn : d.nodes[id]? with _ | n
    · refine iff_of_false (fun he => ?_) (by rintro ⟨name, body, hk⟩; cases hk)
      have hlt := h.lt_of_entity he
      rw [Array.getElem?_eq_getElem hlt] at hn
      cases hn
    · rw [h.declared id n hn, Option.getD_some]
      rcases n with ⟨_ | _ | _ | _ | _ | _ | _, _, _⟩ <;> simp [Kind.body?]
  body id name body hk := by
    rw [Draft.kind_finish h.toGrown] at hk ⊢
    rcases hn : d.nodes[id]? with _ | n <;> rw [hn] at hk
    · cases hk
    · have hbody : n.kind.body? = some body := by rw [show n.kind = _ from hk]; rfl
      obtain ⟨o, ps, ho, hps⟩ := h.bodies n (Array.mem_of_getElem? hn) body hbody
      exact ⟨ps, by rw [ho]; exact hps⟩

end

/-! ### Walks outwards -/

section

variable {d : Document} {id : Nat}

/-- A walk outwards that has enough steps ends at an entity. -/
lemma Forest.chain_ends (h : d.Forest) (ha : d.Ascending) {fuel : Nat}
    (hfuel : d.nodes.size < fuel + id) (hid : id < d.nodes.size) :
    ∃ e ∈ d.entities, ∃ inner, d.chain fuel id = inner ++ [e] := by
  induction fuel generalizing id with
  | zero => omega
  | succ fuel ih =>
    rw [chain]
    rcases hp : d.parent id with _ | p
    · refine ⟨id, ?_, [], rfl⟩
      by_contra he
      obtain ⟨q, -, hq, -⟩ := h.owner id hid he
      rw [hp] at hq
      cases hq
    · obtain ⟨hlt, hpsize⟩ := ha id p hp
      obtain ⟨e, he, inner, hinner⟩ := ih (by omega) hpsize
      refine ⟨e, he, id :: inner, ?_⟩
      dsimp only
      rw [hinner, List.cons_append]

end

/-- **Documents that are read are forests.** What a node owns stands before it, every node but the
entities is owned once, by its parent, nothing owns an entity, and the body of an entity is an
object. So the walk outwards from a node, in which names are looked up, ends by itself, and at an
entity; and where the node stands is said by a path that begins with the name of the entity. -/
theorem forest_ofText {path : Files.Path} {text : String} {d : Document}
    (h : ofText path text = .ok d) :
    d.Forest ∧ ∀ id < d.nodes.size, ∃ e ∈ d.entities, ∃ name body inner names,
      d.kind e = .entity name body ∧ d.ancestors id = inner ++ [e] ∧
      (∀ fuel, d.nodes.size < fuel → d.chain fuel id = inner ++ [e]) ∧
      d.displayPath id = ".".intercalate (name :: names) := by
  obtain ⟨draft, hplanted, rfl⟩ := ofText_planted h
  have hforest := forest_finish hplanted
  have ha := ascending_ofText h
  refine ⟨hforest, fun id hid => ?_⟩
  have hfuel : draft.finish.nodes.size < draft.finish.nodes.size + 1 + id := by omega
  obtain ⟨e, he, inner, hinner⟩ := hforest.chain_ends ha hfuel hid
  obtain ⟨name, body, hk⟩ := (hforest.entity e).mp he
  have hwalk : draft.finish.ancestors id = inner ++ [e] := hinner
  refine ⟨e, he, name, body, inner,
    inner.reverse.filterMap fun a => (draft.finish.kind a).name?, hk, hwalk,
    fun fuel hfuel => ?_, ?_⟩
  · rw [ancestors_fuel ha hfuel, hwalk]
  · have hname : (draft.finish.kind e).name? = some name := by rw [hk]; rfl
    rw [displayPath, hwalk, List.reverse_append, List.reverse_singleton, List.singleton_append,
      List.filterMap_cons, hname]

namespace Piped

/-- The text of a document with a choice that goes through two transforms. -/
def text : String :=
  "entities: \x7bA: \x7bx: !pipe \x7bvalue: !random [b, c], transforms: [upper, lower]\x7d\x7d\x7d"

/-- The document of the text. -/
def document : Document := (ofText "a.yaml" text).toOption.getD default

/-- The text is a document whose only entity is its last node. -/
lemma facts : (ofText "a.yaml" text).toOption.isSome = true ∧ document.nodes.size = 8 ∧
    document.entities = [7] := by
  decide +kernel

lemma ofText_text : ofText "a.yaml" text = .ok document := ofText_of_isSome facts.1

end Piped

/-- Every walk through the document ends at its entity. -/
theorem forest_of_pipe :
    ofText "a.yaml" Piped.text = .ok Piped.document ∧ Piped.document.Forest ∧
      ∀ id < 8, ∃ inner, Piped.document.ancestors id = inner ++ [7] := by
  obtain ⟨hforest, hwalks⟩ := forest_ofText Piped.ofText_text
  refine ⟨Piped.ofText_text, hforest, fun id hid => ?_⟩
  rw [← Piped.facts.2.1] at hid
  obtain ⟨e, he, name, body, inner, names, -, hwalk, -⟩ := hwalks id hid
  rw [Piped.facts.2.2, List.mem_singleton] at he
  exact ⟨inner, by rw [hwalk, he]⟩

end Document

end TestData.Schema
