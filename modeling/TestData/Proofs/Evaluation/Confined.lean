import TestData.Proofs.Evaluation.Answer

/-!
What the scripts of an engine can reach.

Every script of an engine looks at settings only as far as alike settings agree, asks for an index
only where a map is replayed, and for a table only where the generator of a table is made. What it
asks for beyond that are values.
-/

namespace TestData.Engine

open Schema

namespace Script

variable {α β : Type}

/-- A script does not look at what evaluations should not tell apart, asks for an index only if
that is allowed, and for a table only where it is allowed. -/
def Confined (index : Prop) (tables : NodeRef → TableSource → Prop) : Script α → Prop
  | done _ | fail _ => True
  | look k => (∀ c c', c.Alike c' → k c' = k c) ∧ ∀ c, (k c).Confined index tables
  | ask _ k => ∀ v, (k v).Confined index tables
  | selected _ k => index ∧ ∀ i, (k i).Confined index tables
  | table n source k => tables n source ∧ ∀ t, (k t).Confined index tables

variable {index : Prop} {tables : NodeRef → TableSource → Prop}

@[simp] lemma confined_pure (a : α) : (pure a : Script α).Confined index tables := trivial
@[simp] lemma confined_fail (e : EvalError) : (fail e : Script α).Confined index tables := trivial
@[simp] lemma confined_value (n : NodeRef) : (value n).Confined index tables := fun _ => trivial

lemma confined_bind {x : Script α} {f : α → Script β} (hx : x.Confined index tables)
    (hf : ∀ a, (f a).Confined index tables) : (x >>= f).Confined index tables := by
  show (x.bind f).Confined index tables
  induction x with
  | done a => exact hf a
  | fail e => trivial
  | look k ih =>
    exact ⟨fun c c' h => congrArg (Script.bind · f) (hx.1 c c' h), fun c => ih c (hx.2 c)⟩
  | ask n k ih => exact fun v => ih v (hx v)
  | selected n k ih => exact ⟨hx.1, fun i => ih i (hx.2 i)⟩
  | table n source k ih => exact ⟨hx.1, fun t => ih t (hx.2 t)⟩

lemma confined_setting {f : Setting → Script α} (h : ∀ c c', c.Alike c' → f c' = f c)
    (hf : ∀ c, (f c).Confined index tables) : (setting >>= f).Confined index tables := ⟨h, hf⟩

@[simp] lemma confined_location (n : NodeRef) : (location n).Confined index tables :=
  confined_setting (fun _ _ h => by rw [h.location]) fun _ => trivial

@[simp] lemma confined_kind (n : NodeRef) : (kind n).Confined index tables :=
  confined_setting (fun _ _ h => by rw [h.workspace]) fun _ => trivial

@[simp] lemma confined_lift (x : Except EvalError α) : (lift x).Confined index tables := by
  cases x <;> trivial

@[simp] lemma confined_resolve (n : NodeRef) : (resolve n).Confined index tables :=
  confined_setting (fun _ _ h => by rw [h.resolve]) fun c => confined_lift _

/-- A script that asks for nothing but values is quiet. -/
lemma Confined.quiet {x : Script α} (h : x.Confined False fun _ _ => False) : x.Quiet := by
  induction x with
  | done a => trivial
  | fail e => trivial
  | look k ih => exact ⟨h.1, fun c => ih c (h.2 c)⟩
  | ask n k ih => exact fun v => ih v (h v)
  | selected n k ih => exact h.1
  | table n source k ih => exact h.1

lemma Quiet.confined {x : Script α} (h : x.Quiet) : x.Confined index tables := by
  induction x with
  | done a => trivial
  | fail e => trivial
  | look k ih => exact ⟨h.1, fun c => ih c (h.2 c)⟩
  | ask n k ih => exact fun v => ih v (h v)
  | selected n k ih => exact h.elim
  | table n source k ih => exact h.elim

end Script

open Script

variable {index : Prop} {tables : NodeRef → TableSource → Prop}

/-! ### Creation -/

lemma confined_operandOf (owner n : NodeRef) : (operandOf owner n).Confined index tables := by
  unfold operandOf
  extract_lets read
  have hread : read.Confined index tables := by
    refine confined_bind (confined_value n) fun v => ?_
    rcases Operand.ofValue v with why | a
    · exact confined_bind (confined_location owner) fun l => confined_fail _
    · exact confined_pure a
  refine confined_bind (confined_resolve n) fun r => ?_
  rcases r with target | ⟨base, keys⟩
  · refine confined_bind (confined_kind target) fun k => ?_
    split
    · exact confined_pure _
    · exact hread
  · exact hread

lemma confined_numberOf (owner n : NodeRef) : (numberOf owner n).Confined index tables := by
  refine confined_bind (confined_operandOf owner n) fun a => ?_
  rcases a with m | d | t
  case number => exact confined_pure m
  all_goals exact confined_bind (confined_location owner) fun l => confined_fail _

lemma confined_keysOf (owner : NodeRef) (pairs : List (NodeId × NodeId)) :
    (keysOf owner pairs).Confined index tables := by
  induction pairs with
  | nil => exact confined_pure _
  | cons p rest ih =>
    exact confined_bind (confined_value _) fun key => confined_bind ih fun keys => confined_pure _

lemma confined_selectorOf (owner source : NodeRef) :
    (selectorOf owner source).Confined index tables := by
  refine confined_bind (confined_location owner) fun l => ?_
  refine confined_bind (confined_resolve source) fun r => ?_
  rcases r with target | ⟨base, keys⟩
  · refine confined_bind (confined_kind target) fun k => ?_
    split
    · exact confined_pure _
    · exact confined_fail _
  · exact confined_fail _

/-- What makes the generator of a call asks for a table only if the call is one of a table, and
for no index. -/
lemma confined_ofCall {n : NodeRef} {c : Call} (h : ∀ source, c = .table source → tables n source) :
    (Generator.ofCall n c).Confined index tables := by
  refine confined_bind (confined_location n) fun l => ?_
  rcases c with ⟨a, b⟩ | ids | ⟨a, b, m, d⟩ | ⟨values, weights⟩ | source | ⟨source, pairs⟩ |
    ⟨source, targets⟩ | first | _ | offset | offset | pattern | ⟨text, params⟩ | ⟨previous, t⟩
  case range =>
    refine confined_bind (confined_operandOf _ _) fun x => ?_
    refine confined_bind (confined_operandOf _ _) fun y => ?_
    rcases RangeSpec.between x y with why | spec
    · exact confined_fail _
    · exact confined_pure _
  case normal =>
    refine confined_bind (confined_numberOf _ _) fun x => ?_
    refine confined_bind (confined_numberOf _ _) fun y => ?_
    refine confined_bind (confined_numberOf _ _) fun z => ?_
    refine confined_bind (confined_numberOf _ _) fun u => ?_
    exact confined_bind (confined_lift _) fun bell => confined_pure _
  case choice =>
    dsimp only
    split_ifs
    · exact confined_fail _
    · exact confined_pure _
  case weighted =>
    dsimp only
    split_ifs
    · exact confined_fail _
    · rcases bucketsOf values.length weights with why | buckets
      · exact confined_fail _
      · exact confined_pure _
  case table => exact ⟨h source rfl, fun t => confined_pure _⟩
  case dict => exact confined_bind (confined_keysOf _ _) fun entries => confined_pure _
  case map => exact confined_bind (confined_selectorOf _ _) fun found => confined_pure _
  case sequence => exact confined_pure _
  case uuid => exact confined_pure _
  case now => exact confined_setting (fun _ _ h => by rw [h.now]) fun c => confined_pure _
  case today => exact confined_setting (fun _ _ h => by rw [h.now]) fun c => confined_pure _
  case regex =>
    refine confined_setting (fun _ _ h => by rw [h.options]) fun c => ?_
    rcases Pattern.compile? pattern c.options.maxRepeat with _ | recipe
    · exact confined_fail _
    · exact confined_pure _
  case template =>
    dsimp only
    rcases Template.parse? text with _ | t
    · exact confined_fail _
    · exact confined_pure _
  case pipe => exact confined_pure _

lemma confined_ofCallAs {expected : CallKind} {n : NodeRef} {c : Call}
    (h : ∀ source, c = .table source → tables n source) :
    (Generator.ofCallAs expected n c).Confined index tables := by
  unfold Generator.ofCallAs
  split_ifs
  · exact confined_ofCall h
  · exact confined_bind (confined_location n) fun l => confined_fail _

/-! ### Steps -/

lemma confined_bindAll (params : List (String × NodeRef)) (data : List (String × Json)) :
    (bindAll params data).Confined index tables := by
  induction params generalizing data with
  | nil => exact confined_pure _
  | cons p rest ih =>
    refine confined_bind (confined_value _) fun v => ?_
    rcases v with _ | v <;> exact ih _

lemma confined_bindNames (l : Location) (names : List String) (data : List (String × Json)) :
    (bindNames l names data).Confined index tables := by
  induction names generalizing data with
  | nil => exact confined_pure _
  | cons name rest ih =>
    refine confined_setting (fun c c' h => ?_) fun c => ?_
    · rw [h.lookup, h.workspace]
    · rcases c.scope.lookup? l.node name with _ | n
      · exact confined_fail _
      · exact confined_bind (confined_bindAll _ _) fun data => ih data

/-- What makes the value of a plan asks for an index only to replay. -/
lemma confined_plan {plan : Plan}
    (h : ∀ source selector targets, plan = .replay source selector targets → index) :
    plan.script.Confined index tables := by
  rcases plan with v | e | n | ⟨source, entries⟩ | ⟨source, selector, targets⟩ |
    ⟨l, t, params, names⟩ | ⟨previous, t⟩
  case value => exact confined_pure v
  case fault => exact confined_fail e
  case node => exact confined_value n
  case look =>
    refine confined_bind (confined_value source) fun v => ?_
    rcases v with _ | key
    · exact confined_pure none
    · dsimp only
      split
      · exact confined_value _
      · exact confined_pure none
  case replay =>
    refine confined_bind (confined_value source) fun _ => ⟨h _ _ _ rfl, fun i => ?_⟩
    dsimp only
    split
    · exact confined_value _
    · exact confined_pure none
  case render =>
    refine confined_bind (confined_bindAll params []) fun data => ?_
    refine confined_bind (confined_bindNames l names data) fun data => ?_
    rcases t.render? (.object data) with _ | s
    · exact confined_fail _
    · exact confined_pure _
  case transform =>
    refine confined_bind (confined_value previous) fun v => ?_
    rcases v with _ | v
    · exact confined_pure none
    · rcases v <;> exact confined_pure _

end TestData.Engine
