import Mathlib.Algebra.Order.Group.Multiset
import Mathlib.Data.Multiset.Range
import Mathlib.Tactic.Abel
import TestData.Proofs.Schema.Reading

/-!
The documents that are read are forests.

While a document is read, every node of the draft is either owned once, by a node after it, or
held by the reader that made it, or an entity. A reader of a value takes nothing of what is held
and adds its value to it; a node that is added takes what it owns. Only an object is taken by an
entity.
-/

namespace TestData.Schema

/-- The body of an entity. -/
def Kind.body? : Kind → Option NodeId
  | entity _ body => some body
  | _ => none

namespace Draft

/-- What is owned in a draft, as often as it is owned. -/
def owned (d : Draft) : Multiset NodeId :=
  (d.nodes.toList.flatMap fun n : Node => n.kind.children : List NodeId)

/-- A draft that grows into a forest, with the nodes that are held. -/
structure Grown (d : Draft) (held : Multiset NodeId) : Prop where
  /-- What a node owns stands before it. -/
  before : ∀ (id : NodeId) (n : Node), d.nodes[id]? = some n → ∀ c ∈ n.kind.children, c < id
  orphan : ∀ n ∈ d.nodes, n.parent = none
  /-- Every node is owned, held or an entity, and that once. -/
  once : d.owned + held + (d.entities : Multiset NodeId) = Multiset.range d.nodes.size

variable {d : Draft} {held : Multiset NodeId} {k : Kind}

lemma Grown.lt_of_mem (h : d.Grown held) {c : NodeId} (hc : c ∈ held) : c < d.nodes.size := by
  rw [← Multiset.mem_range, ← h.once]
  simp [hc]

lemma grown_add (h : d.Grown (k.children + held)) : (d.add k).2.Grown (d.nodes.size ::ₘ held) where
  before id n hn c hc := by
    rw [add, Array.getElem?_push] at hn
    split_ifs at hn with hid
    · obtain rfl := Option.some.inj hn
      rw [hid]
      exact h.lt_of_mem (Multiset.mem_add.mpr (.inl hc))
    · exact h.before id n hn c hc
  orphan n hn := by
    rcases Array.mem_push.mp hn with hn | rfl
    · exact h.orphan n hn
    · rfl
  once := by
    have ho : (d.add k).2.owned = d.owned + k.children := by
      simp [owned, add, List.flatMap_append]
    have hs : (d.add k).2.nodes.size = d.nodes.size + 1 := by simp [add]
    rw [ho, hs, Multiset.range_succ, ← h.once, ← Multiset.singleton_add, ← Multiset.singleton_add]
    show _ + _ + (d.entities : Multiset NodeId) = _
    abel

/-- What a node owns is there, and an object. -/
def IsObject (d : Draft) (id : NodeId) : Prop :=
  ∃ n ps, d.nodes[id]? = some n ∧ n.kind = .object ps

/-- A draft that grows, in which the nodes with a body are the entities, and bodies are objects. -/
structure Planted (d : Draft) (held : Multiset NodeId) : Prop extends d.Grown held where
  declared : ∀ (id : NodeId) (n : Node), d.nodes[id]? = some n →
    (id ∈ d.entities ↔ n.kind.body? ≠ none)
  bodies : ∀ n ∈ d.nodes, ∀ body, n.kind.body? = some body → d.IsObject body

lemma Grown.lt_of_entity (h : d.Grown held) {id : NodeId} (hid : id ∈ d.entities) :
    id < d.nodes.size := by
  rw [← Multiset.mem_range, ← h.once]
  simp [hid]

lemma IsObject.add {id : NodeId} (h : d.IsObject id) : (d.add k).2.IsObject id := by
  obtain ⟨n, ps, hn, hk⟩ := h
  refine ⟨n, ps, ?_, hk⟩
  rw [Draft.add, Array.getElem?_push_lt (Array.getElem?_eq_some_iff.mp hn).1,
    Array.getElem?_eq_some_iff.mp hn |>.2]

lemma isObject_addObject (ps : List (String × NodeId)) :
    (d.addObject ps).2.IsObject (d.addObject ps).1 :=
  ⟨_, _, Array.getElem?_push_size, rfl⟩

lemma planted_add (h : d.Planted (k.children + held)) (hk : k.body? = none) :
    (d.add k).2.Planted (d.nodes.size ::ₘ held) where
  toGrown := grown_add h.toGrown
  declared id n hn := by
    rw [add, Array.getElem?_push] at hn
    split_ifs at hn with hid
    · obtain rfl := Option.some.inj hn
      simp only [hk, ne_eq, not_true_eq_false, iff_false]
      intro hmem
      exact absurd (hid ▸ h.lt_of_entity hmem) (Nat.lt_irrefl _)
    · exact h.declared id n hn
  bodies n hn body hb := by
    rcases Array.mem_push.mp hn with hn | rfl
    · exact (h.bodies n hn body hb).add
    · rw [hk] at hb
      cases hb

lemma planted_addProperties {ps : List (String × NodeId)}
    (h : d.Planted ((ps.map (·.2) : List NodeId) + held)) :
    (d.addProperties ps).2.Planted (((d.addProperties ps).1 : Multiset NodeId) + held) := by
  induction ps generalizing d held with
  | nil => simpa [addProperties] using h
  | cons p rest ih =>
    obtain ⟨name, value⟩ := p
    rw [List.map_cons, ← Multiset.cons_coe, Multiset.cons_add] at h
    have h₁ : (d.add (.property name value)).2.Planted
        (d.nodes.size ::ₘ ((rest.map (·.2) : List NodeId) + held)) := planted_add h rfl
    rw [← Multiset.add_cons] at h₁
    have h₂ := ih h₁
    rw [Multiset.add_cons, ← Multiset.cons_add, Multiset.cons_coe] at h₂
    exact h₂

lemma planted_addObject {ps : List (String × NodeId)}
    (h : d.Planted ((ps.map (·.2) : List NodeId) + held)) :
    (d.addObject ps).2.Planted ((d.addObject ps).1 ::ₘ held) :=
  planted_add (planted_addProperties h) rfl

lemma grown_addEntity {name : String} {body : NodeId} (h : d.Grown (body ::ₘ held)) :
    (d.addEntity name body).2.Grown held := by
  have h₁ : (d.add (.entity name body)).2.Grown (d.nodes.size ::ₘ held) :=
    grown_add (by simpa [Kind.children] using h)
  refine ⟨h₁.before, h₁.orphan, ?_⟩
  have h₂ := h₁.once
  rw [← Multiset.singleton_add] at h₂
  show (d.add (.entity name body)).2.owned + held + ((d.entities ++ [d.nodes.size] : List NodeId)) =
    Multiset.range (d.add (.entity name body)).2.nodes.size
  rw [← h₂, ← Multiset.coe_add]
  show _ = _ + _ + (d.entities : Multiset NodeId)
  rw [Multiset.coe_singleton]
  abel

lemma planted_addEntity {name : String} {body : NodeId} (h : d.Planted (body ::ₘ held))
    (hbody : d.IsObject body) : (d.addEntity name body).2.Planted held where
  toGrown := grown_addEntity h.toGrown
  declared id n hn := by
    show id ∈ d.entities ++ [d.nodes.size] ↔ _
    rw [addEntity, add, Array.getElem?_push] at hn
    split_ifs at hn with hid
    · obtain rfl := Option.some.inj hn
      simp [hid, Kind.body?]
    · rw [← h.declared id n hn, List.mem_append, List.mem_singleton]
      exact or_iff_left hid
  bodies n hn b hb := by
    rcases Array.mem_push.mp hn with hn | rfl
    · exact (h.bodies n hn b hb).add
    · obtain rfl := Option.some.inj hb
      exact hbody.add

end Draft

/-! ### Steps of reading -/

namespace Build

variable {α β : Type} {held : Multiset NodeId} {r : α → Multiset NodeId} {r' : β → Multiset NodeId}

/-- A step that goes from what is held to what its result holds. -/
def Yields (x : Build α) (held : Multiset NodeId) (r : α → Multiset NodeId) : Prop :=
  ∀ (d : Draft) (a : α) (d' : Draft), d.Planted held → x d = .ok (a, d') → d'.Planted (r a)

lemma yields_pure (a : α) (h : held = r a) : (pure a : Build α).Yields held r := by
  intro d b d' hd hx
  obtain ⟨rfl, rfl⟩ := Prod.mk.inj (Except.ok.inj hx)
  rw [← h]
  exact hd

lemma yields_throw (e : ReadError) : (throw e : Build α).Yields held r := by
  intro d a d' _ hx
  cases hx

lemma yields_refuse (t : Trail) (f : Fault) : (refuse t f : Build α).Yields held r :=
  yields_throw _

lemma yields_bind_of_ends {x : Build α} {f : α → Build β} (hx : x.Yields held r)
    (hf : ∀ a, x.Ends a → (f a).Yields (r a) r') : (x >>= f).Yields held r' := by
  intro d b d' hd h
  obtain ⟨a, d₁, ha, hb⟩ := ok_of_bind h
  exact hf a ⟨d, d₁, ha⟩ d₁ b d' (hx d a d₁ hd ha) hb

lemma yields_bind {x : Build α} {f : α → Build β} (hx : x.Yields held r)
    (hf : ∀ a, (f a).Yields (r a) r') : (x >>= f).Yields held r' :=
  yields_bind_of_ends hx fun a _ => hf a

lemma yields_congr {x : Build α} {held' : Multiset NodeId} {r₁ : α → Multiset NodeId}
    (hx : x.Yields held' r₁) (h : held = held') (hr : ∀ a, r₁ a = r a) : x.Yields held r := by
  obtain rfl := h
  obtain rfl : r₁ = r := funext hr
  exact hx

lemma yields_add {k : Kind} {rest : Multiset NodeId} (hk : k.body? = none)
    (h : held = (k.children : Multiset NodeId) + rest) :
    (add k).Yields held fun id => id ::ₘ rest := by
  intro d a d' hd hx
  obtain ⟨rfl, rfl⟩ := Prod.mk.inj (Except.ok.inj hx)
  exact Draft.planted_add (h ▸ hd) hk

lemma yields_literal (l : Literal) : (literal l).Yields held fun id => id ::ₘ held :=
  yields_add rfl (by rw [Kind.children, Multiset.coe_nil, zero_add])

lemma yields_call {c : Call} {rest : Multiset NodeId}
    (h : held = (c.operands : Multiset NodeId) + rest) :
    (call c).Yields held fun id => id ::ₘ rest :=
  yields_add rfl h

lemma yields_mapM {γ : Type} {f : γ → Build β} (ids : β → List NodeId) (l : List γ)
    (held : Multiset NodeId)
    (h : ∀ c held, (f c).Yields held fun b => (ids b : Multiset NodeId) + held) :
    (l.mapM f).Yields held fun bs => (bs.flatMap ids : Multiset NodeId) + held := by
  induction l generalizing held with
  | nil => exact yields_pure _ (by simp)
  | cons c l ih =>
    rw [List.mapM_cons]
    refine yields_bind (h c held) fun b => yields_bind (ih _) fun bs => yields_pure _ ?_
    rw [List.flatMap_cons, ← Multiset.coe_add]
    abel

/-- A step that leaves the draft as it is. -/
def Plain (x : Build α) : Prop := ∀ held, x.Yields held fun _ => held

lemma plain_pure (a : α) : (pure a : Build α).Plain := fun _ => yields_pure a rfl

/-- Leaving the draft as it is is a property of all readers of scalars. -/
lemma sequential_plain : Sequential Plain where
  result := plain_pure
  fail e _ := yields_throw e
  bind hx hf held := yields_bind_of_ends (hx held) fun a ha => hf a ha held

end Build

open Build
open Yaml (Tree)

/-! ### Values with parts -/

/-- A reader of values that adds its value to what is held. -/
def Reads (read : ValueReader) : Prop :=
  ∀ t v held, (read t v).Yields held fun id => id ::ₘ held

section Parts

variable {read : ValueReader} (hread : Reads read) (t : Trail) (v : Tree)
  {held : Multiset NodeId}

include hread

lemma yields_readList (items : List Tree) :
    (readList read t items).Yields held fun ids => (ids : Multiset NodeId) + held := by
  refine yields_congr (yields_mapM (fun id => [id]) _ held fun p held => ?_) rfl
    fun ids => by rw [List.flatMap_singleton']
  exact hread _ _ held

lemma yields_readNamed (pairs : Pairs) :
    (readNamed read t pairs).Yields held
      fun l => (l.map (·.2) : List NodeId) + held := by
  refine yields_congr (yields_mapM (fun p => [p.2]) _ held fun p held => ?_) rfl
    fun l => by rw [List.map_eq_flatMap]
  exact yields_bind (sequential_plain.readKey t p.1 held) fun name =>
    yields_bind (hread _ p.2 held) fun id => yields_pure _ rfl

lemma yields_readObject (pairs : Pairs) :
    (readObject read t pairs).Yields held fun id => id ::ₘ held := by
  refine yields_bind (yields_readNamed hread t pairs) fun ps d a d' hd hx => ?_
  obtain ⟨rfl, rfl⟩ := Prod.mk.inj (Except.ok.inj hx)
  exact Draft.planted_addObject hd

lemma reads_readOperand : Reads (readOperand read) := by
  intro t v held
  unfold readOperand
  split
  · split
    · exact yields_literal _
    · split
      · exact yields_literal _
      · split
        · exact yields_literal _
        · exact hread t _ held
  · exact hread t v held

lemma yields_readWeighted (entries : Pairs) :
    (readWeighted read t entries).Yields held fun id => id ::ₘ held := by
  refine yields_bind (yields_mapM (fun p => [p.1]) _ held fun p held => ?_) fun l =>
    yields_call ?_
  · exact yields_bind (hread t p.1 held) fun id =>
      yields_bind (sequential_plain.readWeight t p.2 _) fun x => yields_pure _ rfl
  · rw [Call.operands, List.map_eq_flatMap]

lemma yields_readEntry (entry : Tree) :
    (readEntry read t entry).Yields held fun p => ([p.1] : List NodeId) + held := by
  refine yields_bind (sequential_plain.readItems t entry _ held) fun items => ?_
  split
  · exact yields_bind (hread t _ held) fun id =>
      yields_bind (sequential_plain.readWeight t _ _) fun x => yields_pure _ rfl
  · exact yields_refuse t _

lemma yields_readWeightedCall :
    (readWeightedCall read t v).Yields held fun id => id ::ₘ held := by
  unfold readWeightedCall
  split
  · refine yields_bind (yields_mapM (fun p => [p.1]) _ held fun entry held =>
      yields_readEntry hread t entry) fun l => yields_call ?_
    rw [Call.operands, List.map_eq_flatMap]
  · exact yields_readWeighted hread t _
  · exact yields_refuse t _

lemma yields_readRange : (readRange read t v).Yields held fun id => id ::ₘ held := by
  have hop := reads_readOperand hread
  refine yields_bind (sequential_plain.readItems t v _ held) fun items => ?_
  split
  · refine yields_bind (hop t _ held) fun min => yields_bind (hop t _ _) fun max =>
      yields_call ?_
    simp only [Call.operands, ← Multiset.cons_coe, Multiset.coe_nil, Multiset.cons_add, zero_add]
    exact Multiset.cons_swap _ _ _
  · exact yields_refuse t _

lemma yields_readNormal : (readNormal read t v).Yields held fun id => id ::ₘ held := by
  refine yields_bind (sequential_plain.readPairs t v _ held) fun pairs => ?_
  have hop : ∀ (key : String) (held : Multiset NodeId),
      (argument t pairs key >>= readOperand read t).Yields held fun id => id ::ₘ held :=
    fun key held => yields_bind (sequential_plain.argument t pairs key held) fun v =>
      reads_readOperand hread t v held
  refine yields_bind (hop "min" held) fun min => yields_bind (hop "max" _) fun max =>
    yields_bind (hop "mean" _) fun mean => yields_bind (hop "std" _) fun deviation =>
    yields_call ?_
  simp only [Call.operands, ← Multiset.cons_coe, Multiset.coe_nil, ← Multiset.singleton_add]
  abel

lemma yields_readDict : (readDict read t v).Yields held fun id => id ::ₘ held := by
  refine yields_bind (sequential_plain.readPairs t v _ held) fun pairs =>
    yields_bind (sequential_plain.argument t pairs _ held) fun a => yields_bind (hread t a held)
    fun source => ?_
  split
  · exact yields_refuse t _
  · refine yields_bind (yields_mapM (fun p => [p.1, p.2]) _ _ fun p held => ?_) fun l =>
      yields_call ?_
    · refine yields_bind (hread t p.1 held) fun key =>
        yields_bind (sequential_plain.readKey t p.1 _) fun name =>
        yields_bind (hread _ p.2 _) fun v => yields_pure _ ?_
      simp only [← Multiset.cons_coe, Multiset.coe_nil, ← Multiset.singleton_add]
      abel
    · simp only [Call.operands, ← Multiset.cons_coe, ← Multiset.singleton_add]
      abel
  · exact yields_refuse t _

lemma yields_readMap : (readMap read t v).Yields held fun id => id ::ₘ held := by
  refine yields_bind (sequential_plain.readPairs t v _ held) fun pairs =>
    yields_bind (sequential_plain.argument t pairs _ held) fun a => yields_bind (hread t a held)
    fun source => ?_
  split
  · refine yields_bind (yields_readList hread t _) fun l => yields_call ?_
    simp only [Call.operands, ← Multiset.cons_coe, ← Multiset.singleton_add]
    abel
  · exact yields_refuse t _

lemma yields_readParams (params : Option Tree) :
    (readParams read t params).Yields held
      fun l => (l.map (·.2) : List NodeId) + held := by
  unfold readParams
  split
  · exact yields_pure _ (by simp)
  · exact yields_readNamed hread t _
  · exact yields_refuse t _

lemma yields_readTemplate : (readTemplate read t v).Yields held fun id => id ::ₘ held := by
  unfold readTemplate
  split
  · exact yields_bind (sequential_plain.argument t _ _ held) fun a =>
      yields_bind (sequential_plain.readText t a _ held) fun text =>
      yields_bind (yields_readParams hread t _) fun params => yields_call rfl
  · exact yields_bind (sequential_plain.readText t _ _ held) fun text =>
      yields_call (by simp [Call.operands])

omit hread in
lemma yields_readTransform (previous : NodeId) :
    (readTransform t previous v).Yields (previous ::ₘ held) fun id => id ::ₘ held :=
  yields_bind (sequential_plain.readText t v _ _) fun name =>
    yields_bind (sequential_plain.ofExcept t _ _ _) fun k =>
    yields_call (by simp [Call.operands])

omit hread in
lemma yields_transforms (items : List Tree) (start : NodeId) :
    (items.foldlM (readTransform t) start).Yields (start ::ₘ held) fun id => id ::ₘ held := by
  induction items generalizing start with
  | nil => exact yields_pure _ rfl
  | cons v items ih =>
    rw [List.foldlM_cons]
    exact yields_bind (yields_readTransform t v start) fun id => ih id

lemma yields_readPipe : (readPipe read t v).Yields held fun id => id ::ₘ held := by
  refine yields_bind (sequential_plain.readPairs t v _ held) fun pairs =>
    yields_bind (sequential_plain.argument t pairs _ held) fun a => yields_bind (hread t a held)
    fun start => ?_
  split
  · exact yields_transforms t _ start
  · exact yields_readTransform t _ start
  · exact yields_refuse t _

omit hread in
lemma yields_readReference : (readReference t v).Yields held fun id => id ::ₘ held := by
  refine yields_bind (sequential_plain.readText t v _ held) fun path => ?_
  dsimp only
  split
  · exact yields_refuse t _
  · exact yields_add rfl (by simp [Kind.children])

omit hread in
/-- A literal or a call without operands, from what leaves the draft as it is. -/
lemma yields_leaf {α : Type} {x : Build α} (hx : x.Plain) (f : α → Kind)
    (hf : ∀ a, (f a).children = [] ∧ (f a).body? = none) :
    (x >>= fun a => add (f a)).Yields held fun id => id ::ₘ held :=
  yields_bind (hx held) fun a => yields_add (hf a).2 (by simp [(hf a).1])

lemma yields_readTagged (tag : String) :
    (readTagged read t tag v).Yields held fun id => id ::ₘ held := by
  unfold readTagged
  split
  · exact yields_bind (sequential_plain.readText t v _ held) fun text =>
      yields_leaf (sequential_plain.readNumber t text) (fun n => .literal (.number n))
        fun _ => ⟨rfl, rfl⟩
  · exact yields_readReference t v
  · exact yields_bind (sequential_plain.readText t v _ held) fun text =>
      yields_leaf (sequential_plain.ofOption t _ _) (fun d => .literal (.date d))
        fun _ => ⟨rfl, rfl⟩
  · exact yields_bind (sequential_plain.readText t v _ held) fun text =>
      yields_leaf (sequential_plain.ofOption t _ _) (fun d => .literal (.timestamp d))
        fun _ => ⟨rfl, rfl⟩
  · exact yields_leaf (sequential_plain.readText t v _) (fun s => .literal (.file s))
      fun _ => ⟨rfl, rfl⟩
  · exact yields_leaf (sequential_plain.readText t v _) (fun s => .literal (.pattern s))
      fun _ => ⟨rfl, rfl⟩
  · exact yields_readRange hread t v
  · exact yields_bind (sequential_plain.readItems t v _ held) fun items =>
      yields_bind (yields_readList hread t items) fun l => yields_call rfl
  · exact yields_readNormal hread t v
  · exact yields_readWeightedCall hread t v
  · exact yields_leaf (sequential_plain.readSource t v) (fun s => .call (.table s))
      fun _ => ⟨rfl, rfl⟩
  · exact yields_readDict hread t v
  · exact yields_readMap hread t v
  · exact yields_leaf (sequential_plain.readStart t v) (fun i => .call (.sequence i))
      fun _ => ⟨rfl, rfl⟩
  · exact yields_call (by simp [Call.operands])
  · exact yields_leaf (sequential_plain.readOffset t v) (fun o => .call (.now o))
      fun _ => ⟨rfl, rfl⟩
  · exact yields_leaf (sequential_plain.readOffset t v) (fun o => .call (.today o))
      fun _ => ⟨rfl, rfl⟩
  · exact yields_leaf (sequential_plain.readText t v _) (fun s => .call (.regex s))
      fun _ => ⟨rfl, rfl⟩
  · exact yields_readTemplate hread t v
  · exact yields_readPipe hread t v
  · exact yields_throw _

end Parts

lemma reads_readValue (depth : Nat) : Reads (readValue depth) := by
  induction depth with
  | zero => exact fun t v held => yields_throw _
  | succ depth ih =>
    intro t v held
    unfold readValue
    split
    · exact yields_literal _
    · exact yields_literal _
    · exact yields_leaf (sequential_plain.ofExcept t _ _) (fun n => .literal (.number n))
        fun _ => ⟨rfl, rfl⟩
    · exact yields_literal _
    · exact yields_bind (yields_readList ih t _) fun l => yields_add rfl rfl
    · exact yields_readObject ih t _
    · exact yields_readTagged ih t _ _

/-! ### Documents -/

/-- An object is taken by the entity that it is made for. -/
lemma yields_entityOf (name : String) (ps : List (String × NodeId)) :
    (draw (·.addObject ps) >>= fun id => draw (·.addEntity name id)).Yields
      ((ps.map (·.2) : List NodeId) + held) fun _ => held := by
  intro d a d' hd hx
  obtain ⟨rfl, rfl⟩ := Prod.mk.inj (Except.ok.inj hx)
  exact Draft.planted_addEntity (Draft.planted_addObject hd) (Draft.isObject_addObject ps)

lemma yields_readEntity {read : ValueReader} (hread : Reads read) (key body : Tree)
    (held : Multiset NodeId) : (readEntity read key body).Yields held fun _ => held := by
  refine yields_bind (sequential_plain.readKey [] key held) fun name => ?_
  dsimp only
  split
  · rw [readObject, bind_assoc]
    exact yields_bind (yields_readNamed hread _ _) fun ps => yields_entityOf name ps
  · exact yields_congr (yields_entityOf name []) (by simp) fun _ => rfl
  · intro d a d' _ hx
    cases hx

/-- Reads entities one after the other. -/
lemma yields_entities (entities : Pairs) (held : Multiset NodeId) :
    (entities.forM fun (k, v) => do
      let _ ← readEntity (readValue v.height) k v).Yields held fun _ => held := by
  induction entities with
  | nil => exact yields_pure _ rfl
  | cons e entities ih =>
    rw [List.forM]
    exact yields_bind (yields_bind (yields_readEntity (reads_readValue _) e.1 e.2 held) fun _ =>
      yields_pure _ rfl) fun _ => ih

namespace Draft

/-- Parents are filled in only as they own. -/
structure Adopted (d : Draft) (nodes : Array Node) : Prop where
  kinds : ∀ i : NodeId, (nodes[i]?).map (·.kind) = (d.nodes[i]?).map (·.kind)
  owners : ∀ (i : NodeId) (n : Node) (p : NodeId), nodes[i]? = some n → n.parent = some p →
    ∃ o, d.nodes[p]? = some o ∧ i ∈ o.kind.children

variable {d : Draft} {nodes : Array Node}

lemma Adopted.modify {p c : NodeId} {o : Node} (h : Adopted d nodes) (ho : d.nodes[p]? = some o)
    (hc : c ∈ o.kind.children) :
    Adopted d (nodes.modify c fun n => { n with parent := some p }) where
  kinds i := by
    rw [← h.kinds i, Array.getElem?_modify]
    split_ifs
    · rcases nodes[i]? with _ | _ <;> rfl
    · rfl
  owners i n q hn hq := by
    rw [Array.getElem?_modify] at hn
    split_ifs at hn with hi
    · obtain ⟨m, -, rfl⟩ := Option.map_eq_some_iff.mp hn
      obtain rfl : p = q := Option.some.inj hq
      exact ⟨o, ho, hi ▸ hc⟩
    · exact h.owners i n q hn hq

lemma Adopted.adopt (h : Adopted d nodes) (p : NodeId) : Adopted d (adopt nodes p) := by
  have hk := h.kinds p
  unfold Draft.adopt
  rcases hn : nodes[p]? with _ | n
  · exact h
  · rw [hn] at hk
    obtain ⟨o, ho, hko⟩ := Option.map_eq_some_iff.mp hk.symm
    have hall : ∀ cs : List NodeId, (∀ c ∈ cs, c ∈ o.kind.children) → ∀ nodes, Adopted d nodes →
        Adopted d (cs.foldl (fun ns c => ns.modify c fun n => { n with parent := some p })
          nodes) := by
      intro cs
      induction cs with
      | nil => exact fun _ _ h => h
      | cons c cs ih =>
        intro hcs nodes h
        exact ih (fun c hc => hcs c (by simp [hc])) _ (h.modify ho (hcs c (by simp)))
    refine hall _ (fun c hc => ?_) nodes h
    rw [hko]
    exact hc

lemma adopted_finish (h : ∀ n ∈ d.nodes, n.parent = none) : Adopted d d.finish.nodes := by
  have hall : ∀ (ps : List NodeId) nodes, Adopted d nodes →
      Adopted d (ps.foldl Draft.adopt nodes) := by
    intro ps
    induction ps with
    | nil => exact fun _ h => h
    | cons p ps ih => exact fun nodes h => ih _ (h.adopt p)
  refine hall _ d.nodes ⟨fun _ => rfl, fun i n p hn hp => ?_⟩
  rw [h n (Array.mem_of_getElem? hn)] at hp
  cases hp

end Draft

namespace Document

/-- What stands in a node stands before it. -/
def Ascending (d : Document) : Prop :=
  ∀ id p : Nat, d.parent id = some p → id < p ∧ p < d.nodes.size

lemma ascending_finish {d : Draft} {held : Multiset NodeId} (h : d.Grown held) :
    d.finish.Ascending := by
  intro id p hp
  have ha := Draft.adopted_finish h.orphan
  unfold parent node at hp
  rcases hn : d.finish.nodes[id]? with _ | n <;> rw [hn] at hp
  · cases hp
  · obtain ⟨o, ho, hid⟩ := ha.owners id n p hn hp
    refine ⟨h.before p o ho id hid, ?_⟩
    have hk := ha.kinds p
    rw [ho] at hk
    obtain ⟨m, hm, -⟩ := Option.map_eq_some_iff.mp hk
    exact (Array.getElem?_eq_some_iff.mp hm).1

/-- A document that is read is finished from the draft that reading its entities leaves. -/
lemma ofTree_draft {path : Files.Path} {v : Tree} {d : Document} (h : ofTree path v = .ok d) :
    ∃ (imports : List Import) (entities : Pairs) (draft : Draft),
      outline? v = some (imports, entities) ∧
      (entities.forM fun (k, v) => do
        let _ ← readEntity (readValue v.height) k v : Build Unit) { path, imports } =
          .ok ((), draft) ∧ d = draft.finish := by
  unfold ofTree at h
  split at h
  · cases h
  · rename_i imports entities houtline
    generalize hx : (entities.forM fun (k, v) => do
      let _ ← readEntity (readValue v.height) k v : Build Unit) = x at h
    change (x { path, imports }).bind (fun p => .ok p.2.finish) = .ok d at h
    rcases hr : x { path, imports } with _ | ⟨⟨⟩, draft⟩ <;> rw [hr] at h
    · cases h
    · exact ⟨imports, entities, draft, houtline, hx ▸ hr, (Except.ok.inj h).symm⟩

/-- In the draft that reading entities leaves nothing is held. -/
lemma planted_of_entities {path : Files.Path} {imports : List Import} {entities : Pairs}
    {draft : Draft} (h : (entities.forM fun (k, v) => do
      let _ ← readEntity (readValue v.height) k v : Build Unit) { path, imports } =
        .ok ((), draft)) : draft.Planted 0 := by
  have hd : ({ path, imports } : Draft).Planted 0 :=
    ⟨⟨fun id n hn => by simp at hn, fun n hn => by simp at hn, rfl⟩,
      fun id n hn => by simp at hn, fun n hn => by simp at hn⟩
  exact yields_entities entities 0 _ _ _ hd h

lemma ofTree_planted {path : Files.Path} {v : Tree} {d : Document} (h : ofTree path v = .ok d) :
    ∃ draft : Draft, draft.Planted 0 ∧ d = draft.finish := by
  obtain ⟨imports, entities, draft, -, hdraft, hd⟩ := ofTree_draft h
  exact ⟨draft, planted_of_entities hdraft, hd⟩

/-- The document of a text that is one. -/
lemma ofText_of_isSome {path : Files.Path} {text : String}
    (h : (ofText path text).toOption.isSome = true) :
    ofText path text = .ok ((ofText path text).toOption.getD default) := by
  rcases hd : ofText path text with e | d
  · rw [hd] at h
    cases h
  · rfl

lemma ofText_planted {path : Files.Path} {text : String} {d : Document}
    (h : ofText path text = .ok d) : ∃ draft : Draft, draft.Planted 0 ∧ d = draft.finish := by
  unfold ofText at h
  split at h
  · cases h
  · exact ofTree_planted h

/-- **Documents that are read** have every node before the node that it stands in. -/
theorem ascending_ofText {path : Files.Path} {text : String} {d : Document}
    (h : ofText path text = .ok d) : d.Ascending := by
  obtain ⟨draft, hg, rfl⟩ := ofText_planted h
  exact ascending_finish hg.toGrown

/-! ### What a node stands in -/

lemma chain_fuel {d : Document} (h : d.Ascending) {fuel fuel' id : Nat}
    (hf : d.nodes.size < fuel + id) (hf' : d.nodes.size < fuel' + id) (hp : 0 < fuel)
    (hp' : 0 < fuel') : d.chain fuel id = d.chain fuel' id := by
  induction fuel generalizing fuel' id with
  | zero => cases hp
  | succ fuel ih =>
    obtain _ | fuel' := fuel'
    · cases hp'
    rw [chain, chain]
    rcases hq : d.parent id with _ | p
    · rfl
    · dsimp only
      obtain ⟨hlt, hle⟩ := h id p hq
      have hc : d.chain fuel p = d.chain fuel' p :=
        ih (by omega) (by omega) (by omega) (by omega)
      rw [hc]

/-- **The walk outwards ends by itself**: it meets no more nodes than the document has. -/
theorem ancestors_fuel {d : Document} (h : d.Ascending) {fuel : Nat} (hf : d.nodes.size < fuel)
    (id : NodeId) : d.chain fuel id = d.ancestors id :=
  chain_fuel h (by omega) (by omega) (by omega) (by omega)

end Document

end TestData.Schema
