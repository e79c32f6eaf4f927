import TestData.Proofs.Evaluation.Exec

/-!
What the scripts of an engine are bound by.

A script of an engine asks for the operands of its node, fails by itself with errors that are not
about names, and ends with what it was made for. One walk through each script says all of it at
once, for any terms that allow as much. What a generator is made from, what an evaluation depends
on and which errors are about names are then read off the terms.
-/

namespace TestData.Engine

open Schema

/-- If an error is about a name that means nothing, the location, the name and the span satisfy a
predicate. -/
def EvalError.Blames (Q : Location → String → Span → Prop) : EvalError → Prop
  | .unresolved l name span => Q l name span
  | _ => True

/-- An error that is not about a name. -/
def EvalError.Nameless (e : EvalError) : Prop := e.Blames fun _ _ _ => False

lemma EvalError.Nameless.blames {e : EvalError} {Q : Location → String → Span → Prop}
    (h : e.Nameless) : e.Blames Q := by
  cases e with
  | unresolved l name span => exact h.elim
  | _ => trivial

/-- What a script is bound by: the setting that it looks at, the nodes that it may ask for, and the
errors that it may fail with by itself. -/
structure Terms where
  setting : Setting
  asks : NodeRef → Prop
  fails : EvalError → Prop

/-- Terms that allow every error that is not about a name, and those of nodes that stand for
nothing. -/
structure Terms.Lenient (T : Terms) : Prop where
  nameless : ∀ {e : EvalError}, e.Nameless → T.fails e
  resolve : ∀ {n : NodeRef} {e : EvalError}, T.setting.scope.resolve n = .error e → T.fails e

/-- Terms that allow every error. -/
def Terms.asking (c : Setting) (P : NodeRef → Prop) : Terms where
  setting := c
  asks := P
  fails _ := True

lemma Terms.asking_lenient (c : Setting) (P : NodeRef → Prop) : (Terms.asking c P).Lenient :=
  ⟨fun _ => trivial, fun _ => trivial⟩

namespace Script

variable {α β : Type} {T : Terms} {Q : α → Prop}

/-- Whatever a script is answered, it keeps to its terms, and a result of it satisfies a
predicate. -/
def Obeys (T : Terms) : Script α → (α → Prop) → Prop
  | done a, Q => Q a
  | fail e, _ => T.fails e
  | look k, Q => (k T.setting).Obeys T Q
  | ask n k, Q => T.asks n ∧ ∀ v, (k v).Obeys T Q
  | selected _ k, Q => ∀ i, (k i).Obeys T Q
  | table _ _ k, Q => ∀ t, (k t).Obeys T Q

@[simp] lemma obeys_pure (a : α) : (pure a : Script α).Obeys T Q ↔ Q a := Iff.rfl
@[simp] lemma obeys_fail (e : EvalError) : (fail e : Script α).Obeys T Q ↔ T.fails e := Iff.rfl
@[simp] lemma obeys_table (n : NodeRef) (source : TableSource) (k : Table → Script α) :
    (table n source k).Obeys T Q ↔ ∀ t, (k t).Obeys T Q := Iff.rfl
@[simp] lemma obeys_selected (n : NodeRef) (k : Option Nat → Script α) :
    (selected n k).Obeys T Q ↔ ∀ i, (k i).Obeys T Q := Iff.rfl
@[simp] lemma obeys_value {Q : Option Value → Prop} (n : NodeRef) :
    (value n).Obeys T Q ↔ T.asks n ∧ ∀ v, Q v := Iff.rfl
@[simp] lemma obeys_setting {Q : Setting → Prop} : setting.Obeys T Q ↔ Q T.setting := Iff.rfl
@[simp] lemma obeys_location {Q : Location → Prop} (n : NodeRef) :
    (location n).Obeys T Q ↔ Q (T.setting.location n) := Iff.rfl
@[simp] lemma obeys_kind {Q : Kind → Prop} (n : NodeRef) :
    (kind n).Obeys T Q ↔ Q (T.setting.workspace.kind n) := Iff.rfl

@[simp] lemma obeys_bind {Q : β → Prop} (x : Script α) (f : α → Script β) :
    (x >>= f).Obeys T Q ↔ x.Obeys T fun a => (f a).Obeys T Q := by
  show (x.bind f).Obeys T Q ↔ _
  induction x with
  | done a => rfl
  | fail e => rfl
  | look k ih => exact ih T.setting
  | ask n k ih => exact and_congr_right' (forall_congr' ih)
  | selected n k ih => exact forall_congr' ih
  | table n source k ih => exact forall_congr' ih

lemma obeys_lift (x : Except EvalError α) :
    (lift x).Obeys T Q ↔ (∀ e, x = .error e → T.fails e) ∧ ∀ a, x = .ok a → Q a := by
  rcases x with e | a <;> simp [lift, Obeys]

lemma obeys_resolve (hT : T.Lenient) {Q : Resolution → Prop} (n : NodeRef) (hQ : ∀ r, Q r) :
    (resolve n).Obeys T Q :=
  (obeys_lift (T.setting.scope.resolve n)).mpr ⟨fun _ he => hT.resolve he, fun r _ => hQ r⟩

end Script

open Script

variable {T : Terms} {owner n : NodeRef}

/-! ### Operands -/

section

variable (hT : T.Lenient)

include hT

lemma obeys_operandOf {Q : Operand → Prop} (hn : T.asks n) (hQ : ∀ a, Q a) :
    (operandOf owner n).Obeys T Q := by
  unfold operandOf
  extract_lets read
  have hread : read.Obeys T Q := by
    simp only [read, obeys_bind, obeys_value]
    refine ⟨hn, fun v => ?_⟩
    rcases Operand.ofValue v with why | a
    · exact hT.nameless trivial
    · exact hQ a
  refine (obeys_bind _ _).mpr (obeys_resolve hT n fun r => ?_)
  rcases r with target | ⟨base, keys⟩
  · simp only [obeys_bind, obeys_kind]
    split
    · exact hQ _
    · exact hread
  · exact hread

lemma obeys_numberOf {Q : Number → Prop} (hn : T.asks n) (hQ : ∀ a, Q a) :
    (numberOf owner n).Obeys T Q := by
  refine (obeys_bind _ _).mpr (obeys_operandOf hT hn fun a => ?_)
  rcases a with m | d | t
  · exact hQ m
  · exact hT.nameless trivial
  · exact hT.nameless trivial

lemma obeys_selectorOf {Q : NodeRef × Nat → Prop} (source : NodeRef) (hQ : ∀ p, Q p) :
    (selectorOf owner source).Obeys T Q := by
  unfold selectorOf
  simp only [obeys_bind, obeys_location]
  refine obeys_resolve hT source fun r => ?_
  rcases r with target | ⟨base, keys⟩
  · simp only [obeys_bind, obeys_kind]
    split
    · exact hQ _
    · exact hT.nameless trivial
  · exact hT.nameless trivial

end

/-- The keys of a dictionary are asked for, and lead to the nodes that its pairs lead to. -/
lemma obeys_keysOf {pairs : List (NodeId × NodeId)} {Q : List (Value × NodeRef) → Prop}
    (hask : ∀ p ∈ pairs, T.asks (owner.at p.1))
    (hQ : ∀ entries, entries.map (·.2) = pairs.map (fun p => owner.at p.2) → Q entries) :
    (keysOf owner pairs).Obeys T Q := by
  induction pairs generalizing Q with
  | nil => exact hQ [] rfl
  | cons p rest ih =>
    simp only [keysOf, obeys_bind, obeys_value, obeys_pure]
    refine ⟨hask p List.mem_cons_self, fun key => ?_⟩
    refine ih (fun q hq => hask q (List.mem_cons_of_mem p hq)) fun entries h => hQ _ ?_
    simp [h]

/-! ### Values -/

lemma obeys_itemValues {ids : List NodeId} {Q : List Value → Prop}
    (hask : ∀ id ∈ ids, T.asks (owner.at id)) (hQ : ∀ vs, Q vs) :
    (itemValues owner ids).Obeys T Q := by
  induction ids generalizing Q with
  | nil => exact hQ []
  | cons id rest ih =>
    simp only [itemValues, obeys_bind, obeys_value, obeys_pure]
    exact ⟨hask id List.mem_cons_self, fun v =>
      ih (fun i hi => hask i (List.mem_cons_of_mem id hi)) fun vs => hQ _⟩

lemma obeys_fieldValues {ids : List NodeId} {Q : Fields Value → Prop}
    (hask : ∀ id ∈ ids, T.asks (owner.at id)) (hQ : ∀ f, Q f) (f : Fields Value) :
    (fieldValues owner f ids).Obeys T Q := by
  induction ids generalizing f with
  | nil => exact hQ f
  | cons id rest ih =>
    have hrest := ih fun i hi => hask i (List.mem_cons_of_mem id hi)
    simp only [fieldValues, obeys_bind, obeys_kind]
    split
    · simp only [obeys_bind, obeys_value]
      refine ⟨hask id List.mem_cons_self, fun v => ?_⟩
      rcases v with _ | v <;> exact hrest _
    · exact hrest f

/-- **The evaluation of a node that is no call** asks for what the node owns, and fails by itself
with no error about a name. -/
theorem obeys_plainValue (hT : T.Lenient) {k : Kind} (hask : ∀ id ∈ k.children, T.asks (n.at id)) :
    (plainValue n k).Obeys T fun _ => True := by
  rcases k with _ | ids | _ | _ | _ | ids | _
  case literal => trivial
  case list => exact (obeys_bind _ _).mpr (obeys_itemValues hask fun _ => trivial)
  case object => exact (obeys_bind _ _).mpr (obeys_fieldValues hask (fun _ => trivial) _)
  all_goals exact hT.nameless trivial

/-! ### Steps -/

lemma obeys_bindAll {params : List (String × NodeRef)} {Q : List (String × Json) → Prop}
    (hask : ∀ p ∈ params, T.asks p.2) (hQ : ∀ data, Q data) (data : List (String × Json)) :
    (bindAll params data).Obeys T Q := by
  induction params generalizing data with
  | nil => exact hQ data
  | cons p rest ih =>
    have hrest := ih fun q hq => hask q (List.mem_cons_of_mem p hq)
    simp only [bindAll, obeys_bind, obeys_value]
    refine ⟨hask p List.mem_cons_self, fun v => ?_⟩
    rcases v with _ | v <;> exact hrest _

/-- A script may look up the names of a text: it may ask for what they mean, and fail with those
that mean nothing. -/
def Terms.Allows (T : Terms) (l : Location) (names : List String) : Prop :=
  ∀ name ∈ names,
    match T.setting.scope.lookup? l.node name with
    | some m => T.asks m
    | none => T.fails (.unresolved l name (T.setting.workspace.node l.node).span)

lemma obeys_bindNames {l : Location} {names : List String} {Q : List (String × Json) → Prop}
    (h : T.Allows l names) (hQ : ∀ data, Q data) (data : List (String × Json)) :
    (bindNames l names data).Obeys T Q := by
  induction names generalizing data with
  | nil => exact hQ data
  | cons name rest ih =>
    have hname := h name List.mem_cons_self
    have hrest := ih fun name hn => h name (List.mem_cons_of_mem _ hn)
    simp only [bindNames, obeys_bind, obeys_setting]
    rcases hl : T.setting.scope.lookup? l.node name with _ | m <;> rw [hl] at hname
    · exact hname
    · refine (obeys_bind _ _).mpr (obeys_bindAll ?_ hrest _)
      simpa using hname

/-- The nodes that the plan of a step asks for, but for names. -/
def Plan.nodes : Plan → List NodeRef
  | .value _ | .fault _ => []
  | .node n | .transform n _ => [n]
  | .look source entries => source :: entries.map (·.2)
  | .replay source _ targets => source :: targets
  | .render _ _ params _ => params.map (·.2)

/-- **The plan of a step** asks for its nodes and for what its names mean, and fails by itself with
its fault, with a name that means nothing, or with an error that is not about a name. -/
theorem obeys_plan (hT : T.Lenient) {plan : Plan} (hask : ∀ m ∈ plan.nodes, T.asks m)
    (hfault : ∀ e, plan = .fault e → T.fails e)
    (hrender : ∀ l t params names, plan = .render l t params names → T.Allows l names) :
    plan.script.Obeys T fun _ => True := by
  rcases plan with v | e | n | ⟨source, entries⟩ | ⟨source, selector, targets⟩ |
    ⟨l, t, params, names⟩ | ⟨previous, t⟩
  case value => trivial
  case fault => exact hfault e rfl
  case node => exact ⟨hask n List.mem_cons_self, fun _ => trivial⟩
  case look =>
    simp only [Plan.script, obeys_bind, obeys_value]
    refine ⟨hask source List.mem_cons_self, fun v => ?_⟩
    rcases v with _ | key
    · trivial
    · dsimp only
      split
      · next e hfind =>
        have hmem := List.mem_of_find?_eq_some hfind
        exact ⟨hask _ (List.mem_cons_of_mem _ (List.mem_map.mpr ⟨_, hmem, rfl⟩)),
          fun _ => trivial⟩
      · trivial
  case replay =>
    simp only [Plan.script, obeys_bind, obeys_value, obeys_selected]
    refine ⟨hask source List.mem_cons_self, fun _ i => ?_⟩
    split
    · next hi =>
      obtain ⟨j, -, hj⟩ := Option.bind_eq_some_iff.mp hi
      exact ⟨hask _ (List.mem_cons_of_mem _ (List.mem_of_getElem? hj)), fun _ => trivial⟩
    · trivial
  case render =>
    have hparams : ∀ p ∈ params, T.asks p.2 := fun p hp => hask p.2 (List.mem_map.mpr ⟨p, hp, rfl⟩)
    simp only [Plan.script, obeys_bind]
    refine obeys_bindAll hparams (fun data => ?_) []
    refine obeys_bindNames (hrender l t params names rfl) (fun data => ?_) data
    rcases t.render? (.object data) with _ | s
    · exact hT.nameless trivial
    · trivial
  case transform =>
    simp only [Plan.script, obeys_bind, obeys_value]
    refine ⟨hask previous List.mem_cons_self, fun v => ?_⟩
    rcases v with _ | v
    · trivial
    · rcases v <;> trivial

end TestData.Engine
