import Mathlib.Data.List.Forall2
import TestData.Proofs.Yaml.Mappings
import TestData.Schema.Reader

/-!
What holds of every step of reading.

A property of steps that results, refusals and sequences have is one of all readers of scalars. If
the steps that add nodes have it too, it is one of all readers of values. The names of an object
that is added are the texts of the keys of one mapping, so what is known of the keys in a tree is
known of them.
-/

namespace TestData.Schema

open Yaml (Tree)

/-- Whether a node is neither an entity nor a property nor what has properties. -/
def Kind.isValue : Kind → Bool
  | reference _ | literal _ | list _ | call _ => true
  | entity _ _ | object _ | property _ _ => false

namespace Build

variable {α β γ : Type}

/-- A step may end with a result. -/
def Ends (x : Build α) (a : α) : Prop := ∃ d d' : Draft, x d = .ok (a, d')

lemma ends_pure {a b : α} (h : (pure a : Build α).Ends b) : b = a := by
  obtain ⟨d, d', h⟩ := h
  exact (Prod.mk.inj (Except.ok.inj h)).1.symm

/-- A sequence of steps goes through the draft between them. -/
lemma ok_of_bind {x : Build α} {f : α → Build β} {d d' : Draft} {b : β}
    (h : (x >>= f) d = .ok (b, d')) : ∃ a d₁, x d = .ok (a, d₁) ∧ f a d₁ = .ok (b, d') := by
  change (x d).bind (fun p => f p.1 p.2) = .ok (b, d') at h
  rcases hx : x d with _ | ⟨a, d₁⟩ <;> rw [hx] at h
  · cases h
  · exact ⟨a, d₁, rfl, h⟩

lemma ends_bind {x : Build α} {f : α → Build β} {b : β} (h : (x >>= f).Ends b) :
    ∃ a, x.Ends a ∧ (f a).Ends b := by
  obtain ⟨d, d', h⟩ := h
  obtain ⟨a, d₁, ha, hb⟩ := ok_of_bind h
  exact ⟨a, ⟨d, d₁, ha⟩, d₁, d', hb⟩

lemma ends_mapM {f : γ → Build β} {l : List γ} {bs : List β} (h : (l.mapM f).Ends bs) :
    List.Forall₂ (fun c b => (f c).Ends b) l bs := by
  induction l generalizing bs with
  | nil =>
    obtain rfl := ends_pure h
    exact .nil
  | cons c l ih =>
    rw [List.mapM_cons] at h
    obtain ⟨b, hb, h⟩ := ends_bind h
    obtain ⟨bs', hbs, h⟩ := ends_bind h
    obtain rfl := ends_pure h
    exact .cons hb (ih hbs)

lemma ends_ofOption {t : Trail} {f : Fault} {r : Option α} {a : α}
    (h : (ofOption t f r).Ends a) : r = some a := by
  cases r with
  | some b => rw [ends_pure h]
  | none =>
    obtain ⟨d, d', h⟩ := h
    cases h

/-- A property of steps that results, refusals and sequences of steps have. -/
structure Sequential (C : ∀ {α : Type}, Build α → Prop) : Prop where
  result {α : Type} (a : α) : C (pure a : Build α)
  fail {α : Type} (e : ReadError) : C (throw e : Build α)
  bind {α β : Type} {x : Build α} {f : α → Build β} :
    C x → (∀ a, x.Ends a → C (f a)) → C (x >>= f)

/-- A property of steps that those have that add nodes. The names of an object are the texts of
keys of which `P` holds. -/
structure Constructive (C : ∀ {α : Type}, Build α → Prop) (P : List Tree → Prop) : Prop
    extends Sequential C where
  add {k : Kind} : k.isValue → C (add k)
  object {keys : List Tree} {properties : List (String × NodeId)} : P keys →
    keys.map Tree.keyText? = properties.map (some ·.1) → C (draw (·.addObject properties))

namespace Sequential

variable {C : ∀ {α : Type}, Build α → Prop} (hC : Sequential C)

include hC

lemma refuse (t : Trail) (f : Fault) : C (refuse t f : Build α) := hC.fail _

lemma ofExcept {ε : Type} (t : Trail) (f : ε → Fault) (r : Except ε α) : C (ofExcept t f r) := by
  cases r with
  | ok a => exact hC.result a
  | error e => exact hC.refuse t (f e)

lemma ofOption (t : Trail) (f : Fault) (r : Option α) : C (ofOption t f r) := by
  cases r with
  | some a => exact hC.result a
  | none => exact hC.refuse t f

lemma mapM {f : γ → Build β} {l : List γ} (h : ∀ c ∈ l, C (f c)) : C (l.mapM f) := by
  induction l with
  | nil => exact hC.result _
  | cons c l ih =>
    rw [List.mapM_cons]
    obtain ⟨hc, hl⟩ := List.forall_mem_cons.mp h
    exact hC.bind hc fun b _ => hC.bind (ih hl) fun bs _ => hC.result _

lemma foldlM {f : β → γ → Build β} (h : ∀ b c, C (f b c)) (l : List γ) (b : β) :
    C (l.foldlM f b) := by
  induction l generalizing b with
  | nil => exact hC.result b
  | cons c l ih =>
    rw [List.foldlM_cons]
    exact hC.bind (h b c) fun b _ => ih b

/-! ### Scalars -/

variable (t : Trail) (v : Tree) (pairs : Pairs) (what key text : String)

lemma readKey : C (readKey t v) := by
  unfold Schema.readKey
  split
  · exact hC.result _
  · exact hC.result _
  · exact hC.result _
  · exact hC.refuse t _

lemma readText : C (readText t what v) := by
  unfold Schema.readText
  split
  · exact hC.result _
  · exact hC.result _
  · exact hC.result _
  · exact hC.ofOption t _ _

lemma readNumber : C (readNumber t text) := hC.ofExcept t _ _

lemma readItems : C (readItems t what v) := by
  unfold Schema.readItems
  split
  · exact hC.result _
  · exact hC.refuse t _

lemma readPairs : C (readPairs t what v) := by
  unfold Schema.readPairs
  split
  · exact hC.result _
  · exact hC.refuse t _

lemma argument : C (argument t pairs key) := hC.ofOption t _ _

lemma readFlag : C (readFlag t pairs key) := by
  unfold Schema.readFlag
  split
  · exact hC.result _
  · exact hC.result _
  · exact hC.result _
  · exact hC.refuse t _

lemma readDelimiter : C (readDelimiter t pairs) := by
  unfold Schema.readDelimiter
  split
  · exact hC.result _
  · exact hC.result _
  · split
    · split
      · exact hC.result _
      · exact hC.refuse t _
    · exact hC.refuse t _
  · exact hC.refuse t _

lemma readDuration : C (readDuration t pairs key) := by
  unfold Schema.readDuration
  split
  · exact hC.result _
  · exact hC.result _
  · exact hC.bind (hC.readText t _ _) fun text _ =>
      hC.bind (hC.ofExcept t _ _) fun d _ => hC.result _

lemma readOffset : C (readOffset t v) := by
  unfold Schema.readOffset
  split
  · exact hC.result _
  · exact hC.result _
  · exact hC.bind (hC.readDuration t _ _) fun plus _ =>
      hC.bind (hC.readDuration t _ _) fun minus _ => hC.result _
  · exact hC.refuse t _

lemma readStart : C (readStart t v) := by
  unfold Schema.readStart
  split
  · exact hC.result _
  · exact hC.result _
  · exact hC.ofOption t _ _
  · exact hC.refuse t _

lemma readWeight : C (readWeight t v) := by
  unfold Schema.readWeight
  split
  · exact hC.result _
  · split
    · exact hC.bind (hC.readNumber t _) fun n _ => hC.result _
    · exact hC.refuse t _

lemma readSource : C (readSource t v) := by
  unfold Schema.readSource
  split
  · exact hC.bind (hC.argument t _ _) fun file _ => hC.bind (hC.readText t file _)
      fun path _ => hC.bind (hC.readDelimiter t _) fun delimiter _ =>
      hC.bind (hC.readFlag t _ _) fun noHeader _ => hC.result _
  · exact hC.bind (hC.readText t _ _) fun path _ => hC.result _

end Sequential

end Build

open Build

/-! ### What readers end with -/

section Ends

variable {t : Trail} {v w : Tree} {pairs : Pairs} {items : List Tree} {what key name : String}

lemma ends_readPairs (h : (readPairs t what v).Ends pairs) : v = .mapping pairs := by
  unfold readPairs at h
  split at h
  · rw [ends_pure h]
  · obtain ⟨d, d', h⟩ := h
    cases h

lemma ends_readItems (h : (readItems t what v).Ends items) : v = .sequence items := by
  unfold readItems at h
  split at h
  · rw [ends_pure h]
  · obtain ⟨d, d', h⟩ := h
    cases h

lemma mem_of_lookup (h : Tree.lookup pairs key = some w) : ∃ p ∈ pairs, p.2 = w := by
  fun_induction Tree.lookup pairs key with
  | case1 => cases h
  | case2 => exact ⟨_, List.mem_cons_self, Option.some.inj h⟩
  | case3 _ _ _ _ ih | case4 _ _ _ ih =>
    obtain ⟨p, hp, hw⟩ := ih h
    exact ⟨p, List.mem_cons_of_mem _ hp, hw⟩

lemma ends_argument (h : (argument t pairs key).Ends w) : ∃ p ∈ pairs, p.2 = w :=
  mem_of_lookup (ends_ofOption h)

lemma ends_readKey (h : (readKey t v).Ends name) : v.keyText? = some name := by
  unfold readKey at h
  split at h
  · rw [ends_pure h]
    rfl
  · rw [ends_pure h]
    rfl
  · rw [ends_pure h]
    rfl
  · obtain ⟨d, d', h⟩ := h
    cases h

/-- The names that are read are the texts of the keys. -/
lemma ends_readNamed {read : ValueReader} {l : List (String × NodeId)}
    (h : (readNamed read t pairs).Ends l) :
    (pairs.map (·.1)).map Tree.keyText? = l.map (some ·.1) := by
  rw [List.map_map, ← List.forall₂_eq_eq_eq, List.forall₂_map_left_iff, List.forall₂_map_right_iff]
  refine (ends_mapM h).imp fun p q hq => ?_
  obtain ⟨name, hname, hq⟩ := ends_bind hq
  obtain ⟨id, -, hq⟩ := ends_bind hq
  rw [ends_pure hq]
  exact ends_readKey hname

end Ends

namespace Build.Constructive

variable {C : ∀ {α : Type}, Build α → Prop} {P : List Tree → Prop} (hC : Constructive C P)

include hC

/-! ### Values with parts -/

lemma literal (l : Literal) : C (literal l) := hC.add rfl

lemma call (c : Call) : C (call c) := hC.add rfl

variable {read : ValueReader} (hread : ∀ t (v : Tree), v.Keyed P → C (read t v)) (t : Trail)
  {v : Tree} {items : List Tree} {pairs : Pairs}

section

variable (v : Tree)

lemma readReference : C (readReference t v) := by
  refine hC.bind (hC.readText t v _) fun path _ => ?_
  dsimp only
  split
  · exact hC.refuse t _
  · exact hC.add rfl

lemma readTransform (previous : NodeId) : C (readTransform t previous v) :=
  hC.bind (hC.readText t v _) fun _ _ => hC.bind (hC.ofExcept t _ _) fun _ _ => hC.call _

end

include hread

lemma readList (h : ∀ v ∈ items, v.Keyed P) : C (readList read t items) :=
  hC.mapM fun p hp => hread _ p.1 (h p.1 (List.fst_mem_of_mem_zipIdx hp))

lemma readNamed (h : ∀ p ∈ pairs, p.2.Keyed P) : C (readNamed read t pairs) :=
  hC.mapM fun p hp => hC.bind (hC.readKey t p.1) fun _ _ =>
    hC.bind (hread _ p.2 (h p hp)) fun _ _ => hC.result _

lemma readObject (h : (Tree.mapping pairs).Keyed P) : C (readObject read t pairs) := by
  obtain ⟨hkeys, hpairs⟩ := Tree.keyed_mapping.mp h
  exact hC.bind (hC.readNamed hread t fun p hp => (hpairs p hp).2) fun _ hnames =>
    hC.object hkeys (ends_readNamed hnames)

lemma readOperand (h : v.Keyed P) : C (readOperand read t v) := by
  unfold Schema.readOperand
  split
  · split
    · exact hC.literal _
    · split
      · exact hC.literal _
      · split
        · exact hC.literal _
        · exact hread t _ h
  · exact hread t v h

lemma readWeighted (h : ∀ p ∈ pairs, p.1.Keyed P) : C (readWeighted read t pairs) :=
  hC.bind (hC.mapM fun p hp => hC.bind (hread t p.1 (h p hp)) fun _ _ =>
    hC.bind (hC.readWeight t p.2) fun _ _ => hC.result _) fun _ _ => hC.call _

lemma readEntry (h : v.Keyed P) : C (readEntry read t v) := by
  refine hC.bind (hC.readItems t v _) fun items hitems => ?_
  rw [ends_readItems hitems, Tree.keyed_sequence] at h
  split
  · exact hC.bind (hread t _ (h _ List.mem_cons_self)) fun _ _ =>
      hC.bind (hC.readWeight t _) fun _ _ => hC.result _
  · exact hC.refuse t _

lemma readWeightedCall (h : v.Keyed P) : C (readWeightedCall read t v) := by
  unfold Schema.readWeightedCall
  split
  · exact hC.bind (hC.mapM fun entry hentry =>
      hC.readEntry hread t (Tree.keyed_sequence.mp h entry hentry)) fun _ _ => hC.call _
  · exact hC.readWeighted hread t fun p hp => ((Tree.keyed_mapping.mp h).2 p hp).1
  · exact hC.refuse t _

lemma readRange (h : v.Keyed P) : C (readRange read t v) := by
  refine hC.bind (hC.readItems t v _) fun items hitems => ?_
  rw [ends_readItems hitems, Tree.keyed_sequence] at h
  split
  · exact hC.bind (hC.readOperand hread t (h _ List.mem_cons_self)) fun _ _ =>
      hC.bind (hC.readOperand hread t (h _ (List.mem_cons_of_mem _ List.mem_cons_self)))
        fun _ _ => hC.call _
  · exact hC.refuse t _

omit hread in
/-- What is known of the keys of a mapping that is expected is known of those in its values. -/
lemma withPairs {α : Type} {f : Pairs → Build α} {what : String} (h : v.Keyed P)
    (hf : ∀ pairs : Pairs, (∀ p ∈ pairs, p.2.Keyed P) → C (f pairs)) :
    C (readPairs t what v >>= f) := by
  refine hC.bind (hC.readPairs t v _) fun pairs hpairs => hf pairs ?_
  rw [ends_readPairs hpairs, Tree.keyed_mapping] at h
  exact fun p hp => (h.2 p hp).2

omit hread in
lemma withArgument {α : Type} {f : Tree → Build α} {key : String} (h : ∀ p ∈ pairs, p.2.Keyed P)
    (hf : ∀ v : Tree, v.Keyed P → C (f v)) : C (argument t pairs key >>= f) := by
  refine hC.bind (hC.argument t pairs _) fun v hv => hf v ?_
  obtain ⟨p, hp, rfl⟩ := ends_argument hv
  exact h p hp

lemma readNormal (h : v.Keyed P) : C (readNormal read t v) := by
  refine hC.withPairs t h fun pairs hpairs => ?_
  have hoperand (key : String) : C (argument t pairs key >>= Schema.readOperand read t) :=
    hC.withArgument t hpairs fun v hv => hC.readOperand hread t hv
  exact hC.bind (hoperand "min") fun _ _ => hC.bind (hoperand "max") fun _ _ =>
    hC.bind (hoperand "mean") fun _ _ => hC.bind (hoperand "std") fun _ _ => hC.call _

lemma readDict (h : v.Keyed P) : C (readDict read t v) := by
  refine hC.withPairs t h fun pairs hpairs => hC.withArgument t hpairs fun a ha =>
    hC.bind (hread t a ha) fun source _ => ?_
  split
  · exact hC.refuse t _
  · rename_i entries hentries
    obtain ⟨p, hp, hentry⟩ := mem_of_lookup hentries
    have hkeyed := Tree.keyed_mapping.mp (hentry ▸ hpairs p hp)
    exact hC.bind (hC.mapM fun p hp => hC.bind (hread t p.1 (hkeyed.2 p hp).1) fun _ _ =>
      hC.bind (hC.readKey t p.1) fun _ _ => hC.bind (hread _ p.2 (hkeyed.2 p hp).2) fun _ _ =>
      hC.result _) fun _ _ => hC.call _
  · exact hC.refuse t _

lemma readMap (h : v.Keyed P) : C (readMap read t v) := by
  refine hC.withPairs t h fun pairs hpairs => hC.withArgument t hpairs fun a ha =>
    hC.bind (hread t a ha) fun source _ => ?_
  split
  · rename_i items hitems
    obtain ⟨p, hp, hitem⟩ := mem_of_lookup hitems
    exact hC.bind (hC.readList hread t (Tree.keyed_sequence.mp (hitem ▸ hpairs p hp)))
      fun _ _ => hC.call _
  · exact hC.refuse t _

lemma readParams {params : Option Tree} (h : ∀ v ∈ params, v.Keyed P) :
    C (readParams read t params) := by
  unfold Schema.readParams
  split
  · exact hC.result _
  · exact hC.readNamed hread t fun p hp => ((Tree.keyed_mapping.mp (h _ rfl)).2 p hp).2
  · exact hC.refuse t _

lemma readTemplate (h : v.Keyed P) : C (readTemplate read t v) := by
  unfold Schema.readTemplate
  split
  · rename_i pairs
    refine hC.bind (hC.argument t _ _) fun a _ => hC.bind (hC.readText t a _) fun text _ =>
      hC.bind (hC.readParams hread t fun v hv => ?_) fun _ _ => hC.call _
    obtain ⟨p, hp, rfl⟩ := mem_of_lookup hv
    exact ((Tree.keyed_mapping.mp h).2 p hp).2
  · exact hC.bind (hC.readText t _ _) fun _ _ => hC.call _

lemma readPipe (h : v.Keyed P) : C (readPipe read t v) := by
  refine hC.withPairs t h fun pairs hpairs => hC.withArgument t hpairs fun a ha =>
    hC.bind (hread t a ha) fun start _ => ?_
  split
  · exact hC.foldlM (fun previous v => hC.readTransform t v previous) _ _
  · exact hC.readTransform t _ _
  · exact hC.refuse t _

lemma readTagged (h : v.Keyed P) (tag : String) : C (readTagged read t tag v) := by
  have htext {α : Type} {f : String → Build α} (what : String) (hf : ∀ s, C (f s)) :
      C (Schema.readText t what v >>= f) := hC.bind (hC.readText t v _) fun s _ => hf s
  unfold Schema.readTagged
  split
  · exact htext _ fun s => hC.bind (hC.readNumber t s) fun _ _ => hC.literal _
  · exact hC.readReference t v
  · exact htext _ fun s => hC.bind (hC.ofOption t _ _) fun _ _ => hC.literal _
  · exact htext _ fun s => hC.bind (hC.ofOption t _ _) fun _ _ => hC.literal _
  · exact htext _ fun s => hC.literal _
  · exact htext _ fun s => hC.literal _
  · exact hC.readRange hread t h
  · refine hC.bind (hC.readItems t v _) fun items hitems => ?_
    rw [ends_readItems hitems, Tree.keyed_sequence] at h
    exact hC.bind (hC.readList hread t h) fun _ _ => hC.call _
  · exact hC.readNormal hread t h
  · exact hC.readWeightedCall hread t h
  · exact hC.bind (hC.readSource t v) fun _ _ => hC.call _
  · exact hC.readDict hread t h
  · exact hC.readMap hread t h
  · exact hC.bind (hC.readStart t v) fun _ _ => hC.call _
  · exact hC.call _
  · exact hC.bind (hC.readOffset t v) fun _ _ => hC.call _
  · exact hC.bind (hC.readOffset t v) fun _ _ => hC.call _
  · exact htext _ fun s => hC.call _
  · exact hC.readTemplate hread t h
  · exact hC.readPipe hread t h
  · exact hC.fail _

omit hread in
/-- **A property of the steps that add nodes** is one of reading a value. -/
theorem readValue (depth : Nat) (t : Trail) {v : Tree} (h : v.Keyed P) :
    C (readValue depth t v) := by
  induction depth generalizing t v with
  | zero => exact hC.fail _
  | succ depth ih =>
    have hread (t : Trail) (v : Tree) (h : v.Keyed P) := ih t h
    unfold Schema.readValue
    split
    · exact hC.literal _
    · exact hC.literal _
    · exact hC.bind (hC.ofExcept t _ _) fun _ _ => hC.literal _
    · exact hC.literal _
    · exact hC.bind (hC.readList hread t (Tree.keyed_sequence.mp h)) fun _ _ => hC.add rfl
    · exact hC.readObject hread t h
    · exact hC.readTagged hread t ((Tree.keyed_tagged _).mp h) _

end Build.Constructive

/-! ### Entities -/

/-- Reads the body of an entity. -/
def readBody (read : ValueReader) (name : String) : Tree → Build NodeId
  | .mapping pairs => readObject read [name] pairs
  | .null => draw (·.addObject [])
  | _ => refuse [name] .entityNotMapping

lemma readEntity_eq (read : ValueReader) (key body : Tree) :
    readEntity read key body = readKey [] key >>= fun name =>
      readBody read name body >>= fun id => draw (·.addEntity name id) := by
  unfold readEntity
  cases body <;> rfl

lemma Build.Constructive.readBody {C : ∀ {α : Type}, Build α → Prop} {P : List Tree → Prop}
    (hC : Constructive C P) (hnil : P []) (depth : Nat) (name : String) {body : Tree}
    (h : body.Keyed P) : C (Schema.readBody (Schema.readValue depth) name body) := by
  unfold Schema.readBody
  split
  · exact hC.readObject (fun t _ hv => hC.readValue depth t hv) _ h
  · exact hC.object hnil rfl
  · exact hC.refuse _ _

end TestData.Schema
