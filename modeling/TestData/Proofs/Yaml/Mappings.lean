import Mathlib.Tactic.Common
import TestData.Yaml.Tree

/-!
The keys of the mappings in a tree.

A mapping in a text has no two keys that are the same. So it is with every mapping in the tree of a
document, in keys as in values, and the texts that stand for decimal numbers leave the keys alone.
-/

namespace TestData.Yaml

namespace Tree

/-- The text of a key that is a string, a number or a truth value. -/
def keyText? : Tree → Option String
  | string s => some s
  | number n _ => some n.text
  | bool b => some (if b then "true" else "false")
  | _ => none

/-- Whether a key is a string. -/
def isString : Tree → Bool
  | string _ => true
  | _ => false

/-! ### The keys in a tree -/

mutual
/-- The keys of every mapping in a tree, those in keys included. -/
def keyLists : Tree → List (List Tree)
  | sequence items => itemsKeyLists items
  | mapping pairs => pairs.map (·.1) :: pairsKeyLists pairs
  | tagged _ t => keyLists t
  | _ => []
/-- The keys of the mappings in items. -/
def itemsKeyLists : List Tree → List (List Tree)
  | [] => []
  | t :: rest => keyLists t ++ itemsKeyLists rest
/-- The keys of the mappings in keys and values. -/
def pairsKeyLists : List (Tree × Tree) → List (List Tree)
  | [] => []
  | (k, v) :: rest => keyLists k ++ keyLists v ++ pairsKeyLists rest
end

/-- The keys of every mapping in a tree have a property. -/
def Keyed (P : List Tree → Prop) (t : Tree) : Prop := ∀ ks ∈ t.keyLists, P ks

section Keyed

variable {P : List Tree → Prop} {t : Tree} {items : List Tree} {pairs : List (Tree × Tree)}

lemma keyed_tagged (tag : String) : (tagged tag t).Keyed P ↔ t.Keyed P := Iff.rfl

lemma keyed_sequence : (sequence items).Keyed P ↔ ∀ t ∈ items, t.Keyed P := by
  change (∀ ks ∈ itemsKeyLists items, P ks) ↔ _
  induction items with
  | nil => simp [itemsKeyLists]
  | cons t items ih =>
    rw [itemsKeyLists, List.forall_mem_append, ih, List.forall_mem_cons]
    rfl

lemma keyed_mapping : (mapping pairs).Keyed P ↔
    P (pairs.map (·.1)) ∧ ∀ p ∈ pairs, p.1.Keyed P ∧ p.2.Keyed P := by
  have hpairs : (∀ ks ∈ pairsKeyLists pairs, P ks) ↔ ∀ p ∈ pairs, p.1.Keyed P ∧ p.2.Keyed P := by
    induction pairs with
    | nil => simp [pairsKeyLists]
    | cons p pairs ih =>
      rw [pairsKeyLists, List.forall_mem_append, List.forall_mem_append, ih, List.forall_mem_cons]
      rfl
  rw [← hpairs]
  exact List.forall_mem_cons

lemma keyed_untagged (h : t.Keyed P) : t.untagged.Keyed P := by
  fun_induction untagged t with
  | case1 tag t ih => exact ih h
  | case2 t hother => exact h

end Keyed

/-! ### Decimal texts -/

lemma keyLists_ofNumber (n : Number) (written : String) : (ofNumber n written).keyLists = [] :=
  iteInduction (motive := fun t : Tree => t.keyLists = []) (fun _ => rfl) fun _ => rfl

mutual
/-- Decimal texts stand outside keys. -/
lemma keyLists_withDecimals : ∀ t : Tree, t.withDecimals.keyLists = t.keyLists
  | null | bool _ | string _ => rfl
  | number n written => keyLists_ofNumber n written
  | sequence items => itemsKeyLists_withDecimals items
  | mapping pairs => by
    have hpairs := pairsKeyLists_withDecimals pairs
    rw [withDecimals, keyLists, keyLists, hpairs.1, hpairs.2]
  | tagged _ t => keyLists_withDecimals t
lemma itemsKeyLists_withDecimals :
    ∀ items : List Tree, itemsKeyLists (withDecimalsItems items) = itemsKeyLists items
  | [] => rfl
  | t :: rest => by
    rw [withDecimalsItems, itemsKeyLists, itemsKeyLists, keyLists_withDecimals t,
      itemsKeyLists_withDecimals rest]
lemma pairsKeyLists_withDecimals : ∀ pairs : List (Tree × Tree),
    (withDecimalsPairs pairs).map (·.1) = pairs.map (·.1) ∧
      pairsKeyLists (withDecimalsPairs pairs) = pairsKeyLists pairs
  | [] => ⟨rfl, rfl⟩
  | (k, v) :: rest => by
    have hrest := pairsKeyLists_withDecimals rest
    rw [withDecimalsPairs, pairsKeyLists, pairsKeyLists, keyLists_withDecimals v, hrest.2,
      List.map_cons, List.map_cons, hrest.1]
    exact ⟨rfl, rfl⟩
end

/-! ### Keys that differ -/

/-- No two keys are the same. -/
def Distinct (keys : List Tree) : Prop := keys.Pairwise fun a b => a.same b = false

end Tree

/-- What a computation gives has a property. -/
def Gives {α : Type} (x : Tree.Walk α) (P : α → Prop) : Prop :=
  ∀ (s : Nat) (r : α × Nat), x s = some r → P r.1

section Gives

variable {α β γ : Type} {P : α → Prop} {Q : β → Prop}

lemma gives_pure {a : α} (h : P a) : Gives (pure a) P := by
  intro s r hr
  obtain rfl := Option.some.inj hr
  exact h

lemma gives_failure : Gives (failure : Tree.Walk α) P := by
  intro s r hr
  cases hr

lemma gives_bind {x : Tree.Walk α} {f : α → Tree.Walk β} (hx : Gives x P)
    (hf : ∀ a, P a → Gives (f a) Q) : Gives (x >>= f) Q := by
  intro s r hr
  obtain ⟨p, hp, hr⟩ := Option.bind_eq_some_iff.mp hr
  exact hf p.1 (hx s p hp) p.2 r hr

lemma gives_true (x : Tree.Walk α) : Gives x fun _ => True := fun _ _ _ => trivial

lemma gives_lift {x : Option α} (h : ∀ a ∈ x, P a) : Gives (liftM x : Tree.Walk α) P := by
  intro s r hr
  obtain ⟨a, ha, hr⟩ := Option.bind_eq_some_iff.mp hr
  obtain rfl := Option.some.inj hr
  exact h a ha

lemma gives_mapM {f : γ → Tree.Walk α} {l : List γ} (h : ∀ c ∈ l, Gives (f c) P) :
    Gives (l.mapM f) fun as => ∀ a ∈ as, P a := by
  induction l with
  | nil => exact gives_pure fun a ha => absurd ha List.not_mem_nil
  | cons c l ih =>
    rw [List.mapM_cons]
    obtain ⟨hc, hl⟩ := List.forall_mem_cons.mp h
    exact gives_bind hc fun a ha => gives_bind (ih hl) fun as has =>
      gives_pure (List.forall_mem_cons.mpr ⟨ha, has⟩)

lemma gives_foldlM {f : α → γ → Tree.Walk α} {l : List γ} {a : α} (ha : P a)
    (h : ∀ a c, c ∈ l → P a → Gives (f a c) P) : Gives (l.foldlM f a) P := by
  induction l generalizing a with
  | nil => exact gives_pure ha
  | cons c l ih =>
    rw [List.foldlM_cons]
    exact gives_bind (h a c List.mem_cons_self ha) fun b hb =>
      ih hb fun b c hc => h b c (List.mem_cons_of_mem _ hc)

end Gives

namespace Tree

/-! ### Trees of nodes -/

/-- What holds of scalars, and of what is put together from parts of which it holds. A mapping is
put together pair by pair, each with a key that is not there yet. -/
structure Built (P : Tree → Prop) : Prop where
  scalar : ∀ (tag : Option String) (plain : Bool) (s : String), ∀ t ∈ ofScalar? tag plain s, P t
  tagged : ∀ (tag : String) {t : Tree}, P t → P (tagged tag t)
  sequence : ∀ {items : List Tree}, (∀ t ∈ items, P t) → P (sequence items)
  empty : P (mapping [])
  pair : ∀ {pairs : List (Tree × Tree)} {k v : Tree}, P (mapping pairs) → P k → P v →
    (∀ p ∈ pairs, p.1.same k = false) → P (mapping (pairs ++ [(k, v)]))

section Built

variable {P : Tree → Prop} (hP : Built P)
include hP

lemma Built.elim (kept : Option String) {t : Tree} (h : P t) : P (kept.elim t (.tagged · t)) := by
  cases kept with
  | none => exact h
  | some tag => exact hP.tagged tag h

lemma gives_scalar (tag : Option String) (plain : Bool) (s : String) :
    Gives (match keptTag? tag with
      | some t => return .tagged t (← if plain then ofPlain? s else some (.string s))
      | none => ofScalar? tag plain s) P := by
  split
  · rename_i t _
    dsimp only
    split
    · exact gives_bind (gives_lift (hP.scalar none true s)) fun content hcontent =>
        gives_pure (hP.tagged t hcontent)
    · exact gives_pure (hP.tagged t (hP.scalar none false s _ rfl))
  · exact gives_lift (hP.scalar tag plain s)

lemma gives_addPair {pairs : List (Tree × Tree)} {k v : Tree} (h : P (mapping pairs)) (hk : P k)
    (hv : P v) : Gives (addPair pairs k v) fun l => P (mapping l) := by
  unfold addPair
  split
  · exact gives_failure
  · rename_i hnew
    rw [Bool.not_eq_true, List.any_eq_false] at hnew
    exact gives_pure (hP.pair h hk hv fun p hp => Bool.eq_false_iff.mpr (hnew p hp))

lemma gives_ofNode (marks : List (Nat × Node)) (depth : Nat) (bare : Bool) (n : Node) :
    Gives (ofNode marks depth bare n) P := by
  induction depth generalizing bare n with
  | zero =>
    unfold ofNode
    refine gives_bind (gives_true _) fun target _ => ?_
    split
    · exact gives_scalar hP _ _ _
    all_goals exact gives_failure
  | succ depth ih =>
    unfold ofNode
    refine gives_bind (gives_true _) fun target _ => ?_
    split
    · exact gives_scalar hP _ _ _
    · exact gives_failure
    · exact gives_bind (gives_mapM fun n _ => ih false n) fun items hitems =>
        gives_pure (hP.elim _ (hP.sequence hitems))
    · refine gives_bind (gives_foldlM (P := fun l => P (mapping l)) hP.empty ?_)
        fun pairs hpairs => gives_pure (hP.elim _ hpairs)
      exact fun l p _ hl => gives_bind (ih _ p.1) fun k hk => gives_bind (ih false p.2)
        fun v hv => gives_addPair hP hl hk hv

/-- **What holds of all trees that are built** holds of the tree of a document. -/
lemma Built.tree? (hnull : P null) {d : Document} {t : Tree} (h : d.tree? = some t) : P t := by
  unfold Document.tree? at h
  split at h
  · obtain rfl := Option.some.inj h
    exact hnull
  · obtain ⟨r, hr, rfl⟩ := Option.map_eq_some_iff.mp h
    exact gives_ofNode hP _ _ _ _ _ _ hr

end Built

/-! ### Keys of trees -/

lemma keyLists_ofPlain? {s : String} : ∀ t ∈ ofPlain? s, t.keyLists = [] := by
  intro t ht
  unfold ofPlain? at ht
  repeat' split at ht
  all_goals first
    | obtain rfl := Option.some.inj ht; rfl
    | obtain ⟨n, -, rfl⟩ := Option.map_eq_some_iff.mp ht; rfl

lemma keyLists_ofScalar? {tag : Option String} {plain : Bool} {s : String} :
    ∀ t ∈ ofScalar? tag plain s, t.keyLists = [] := by
  intro t ht
  unfold ofScalar? at ht
  repeat' split at ht
  all_goals first
    | exact keyLists_ofPlain? t ht
    | obtain rfl := Option.some.inj ht; rfl
    | obtain ⟨n, -, rfl⟩ := Option.map_eq_some_iff.mp ht; rfl
    | cases ht

lemma keyed_of_keyLists {P : List Tree → Prop} {t : Tree} (h : t.keyLists = []) : t.Keyed P := by
  intro ks hks
  rw [h] at hks
  cases hks

/-- The keys of every mapping are no two the same. -/
lemma built_distinct : Built (Keyed Distinct) where
  scalar _ _ _ t ht := keyed_of_keyLists (keyLists_ofScalar? t ht)
  tagged _ _ h := h
  sequence := keyed_sequence.mpr
  empty := keyed_mapping.mpr ⟨List.Pairwise.nil, List.forall_mem_nil _⟩
  pair {pairs k v} h hk hv hnew := by
    rw [keyed_mapping] at h ⊢
    refine ⟨?_, List.forall_mem_append.mpr ⟨h.2, List.forall_mem_singleton.mpr ⟨hk, hv⟩⟩⟩
    rw [List.map_append, Distinct, List.pairwise_append]
    refine ⟨h.1, List.pairwise_singleton _ _, fun a ha b hb => ?_⟩
    obtain ⟨p, hp, rfl⟩ := List.mem_map.mp ha
    obtain rfl := List.mem_singleton.mp hb
    exact hnew p hp

/-- The tree of a document has no mapping with the same key twice. -/
theorem keyed_tree? {d : Document} {t : Tree} (h : d.tree? = some t) : t.Keyed Distinct :=
  built_distinct.tree? (fun _ hks => absurd hks List.not_mem_nil) h

end Tree

end TestData.Yaml
