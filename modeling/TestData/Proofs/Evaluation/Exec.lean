import Mathlib.Tactic.Common
import TestData.Engine.Evaluation

/-!
Running evaluations: what each step gives for a world and a session.

An evaluation is a function of a world and a session. Here stands one equation for each way of
putting evaluations together, and one for each operation of the engine; later proofs use these
and never the monad.
-/

namespace TestData.Engine

open Schema

lemma ok_of_toOption {ε α : Type} {x : Except ε α} {a : α} (h : x.toOption = some a) :
    x = .ok a := by
  cases x with
  | error e => cases h
  | ok b => rw [Option.some.inj h]

lemma error_of_toOption {ε α : Type} {x : Except ε α} (h : x.toOption = none) :
    ∃ e, x = .error e := by
  cases x with
  | error e => exact ⟨e, rfl⟩
  | ok b => cases h

/-- A node is a call, or it is none. -/
lemma call_or_ne (k : Kind) : (∃ c, k = .call c) ∨ ∀ c, k ≠ .call c := by
  rcases k with _ | _ | _ | _ | _ | _ | c
  case call => exact .inl ⟨c, rfl⟩
  all_goals exact .inr fun c h => by cases h

lemma Session.loadTable_state (s : Session) (disk : Files.Disk) (p : Files.Path)
    (delimiter : Option Table.Delimiter) (noHeader : Bool) :
    ∃ t r, (s.loadTable disk p delimiter noHeader).2 = { s with tables := t, requests := r } := by
  unfold loadTable
  dsimp only
  rcases s.tables.get disk (s.requests + 1) p delimiter noHeader with _ | ⟨_, t⟩
  · exact ⟨s.tables, s.requests + 1, rfl⟩
  · exact ⟨t, s.requests + 1, rfl⟩

namespace Eval

variable {α β : Type} (w : World) (s : Session)

@[simp] lemma exec_pure (a : α) : (pure a : Eval α).exec w s = (.ok a, s) := rfl

lemma exec_bind (x : Eval α) (f : α → Eval β) :
    (x >>= f).exec w s =
      match x.exec w s with
      | (.ok a, s') => (f a).exec w s'
      | (.error e, s') => (.error e, s') := by
  show ExceptT.bindCont (fun a => f a w) (x.exec w s).1 (x.exec w s).2 = _
  rcases x.exec w s with ⟨_ | _, _⟩ <;> rfl

@[simp] lemma exec_fail (e : EvalError) : (fail e : Eval α).exec w s = (.error (.error e), s) := rfl
@[simp] lemma exec_throw (f : Failure) : (throw f : Eval α).exec w s = (.error f, s) := rfl
@[simp] lemma exec_get : (get : Eval Session).exec w s = (.ok s, s) := rfl
@[simp] lemma exec_read : (read : Eval World).exec w s = (.ok w, s) := rfl
@[simp] lemma exec_set (s' : Session) : (set s' : Eval PUnit).exec w s = (.ok ⟨⟩, s') := rfl
@[simp] lemma exec_modify (f : Session → Session) :
    (modify f : Eval PUnit).exec w s = (.ok ⟨⟩, f s) := rfl
@[simp] lemma exec_kind (n : NodeRef) : (kind n).exec w s = (.ok (s.workspace.kind n), s) := rfl
@[simp] lemma exec_keepValue (n : NodeRef) (v : Option Value) :
    (keepValue n v).exec w s = (.ok ⟨⟩, s.keep n v) := rfl

lemma exec_resolve (n : NodeRef) : (resolve n).exec w s =
    match (s.scope w).resolve n with
    | .ok r => (.ok r, s)
    | .error e => (.error (.error e), s) := by
  show ((lift ((s.scope w).resolve n)) : Eval Resolution).exec w s = _
  rcases (s.scope w).resolve n with _ | _ <;> rfl

@[simp] lemma exec_whileActive (n : NodeRef) (x : Eval α) :
    (whileActive n x).exec w s =
      let r := x.exec w (s.enter n)
      (r.1, r.2.leave n) := rfl

@[simp] lemma exec_whileOut (n : NodeRef) (g : Generator) (x : Eval α) :
    (whileOut n g x).exec w s =
      let r := x.exec w (s.withoutGenerator n)
      (r.1, r.2.withGenerator n g) := rfl

/-- What asks for a table changes the tables and the count of requests only. -/
lemma exec_table (n : NodeRef) (source : TableSource) :
    ∃ t r, ((table n source).exec w s).2 = { s with tables := t, requests := r } := by
  obtain ⟨t, r, h⟩ := s.loadTable_state w.disk
    ((s.workspace.document n.document).resolvePath source.path) source.delimiter source.noHeader
  refine ⟨t, r, ?_⟩
  unfold table
  simp only [exec_bind, exec_get, exec_read, exec_set]
  rw [← h]
  rcases (s.loadTable _ _ _ _).1 with (_ | _ | _ | _) | _ <;> rfl

end Eval

/-! ### Scripts -/

namespace Script

variable {α : Type} (value : NodeRef → Eval (Option Value)) (w : World) (s : Session)

@[simp] lemma exec_done (a : α) : ((done a).run value).exec w s = (.ok a, s) := rfl
@[simp] lemma exec_fail (e : EvalError) :
    ((fail e : Script α).run value).exec w s = (.error (.error e), s) := rfl
@[simp] lemma exec_look (k : Setting → Script α) :
    ((look k).run value).exec w s = ((k (s.setting w)).run value).exec w s := rfl
@[simp] lemma exec_selected (n : NodeRef) (k : Option Nat → Script α) :
    ((selected n k).run value).exec w s = ((k (s.selected? n)).run value).exec w s := rfl

lemma exec_ask (n : NodeRef) (k : Option Value → Script α) :
    ((ask n k).run value).exec w s =
      match (value n).exec w s with
      | (.ok v, s') => ((k v).run value).exec w s'
      | (.error f, s') => (.error f, s') := by
  rw [run, Eval.exec_bind]
  rcases (value n).exec w s with ⟨_ | _, _⟩ <;> rfl

lemma exec_table (n : NodeRef) (source : TableSource) (k : Table → Script α) :
    ((table n source k).run value).exec w s =
      match (Eval.table n source).exec w s with
      | (.ok t, s') => ((k t).run value).exec w s'
      | (.error f, s') => (.error f, s') := by
  rw [run, Eval.exec_bind]
  rcases (Eval.table n source).exec w s with ⟨_ | _, _⟩ <;> rfl

/-- A script and then another one run one after the other. -/
lemma exec_bind {β : Type} (x : Script α) (f : α → Script β) :
    ((x >>= f).run value).exec w s =
      match (x.run value).exec w s with
      | (.ok a, s') => ((f a).run value).exec w s'
      | (.error e, s') => (.error e, s') := by
  induction x generalizing s with
  | done a => rfl
  | fail e => rfl
  | look k ih => exact ih _ s
  | ask n k ih =>
    show ((ask n fun v => k v >>= f).run value).exec w s = _
    rw [exec_ask, exec_ask]
    rcases (value n).exec w s with ⟨_ | v, s'⟩
    · rfl
    · exact ih v s'
  | selected n k ih => exact ih _ s
  | table n source k ih =>
    show ((table n source fun t => k t >>= f).run value).exec w s = _
    rw [exec_table, exec_table]
    rcases (Eval.table n source).exec w s with ⟨_ | t, s'⟩
    · rfl
    · exact ih t s'

@[simp] lemma exec_location (n : NodeRef) :
    ((location n).run value).exec w s = (.ok (s.location n), s) := rfl

end Script

/-! ### Nodes -/

variable (value : NodeRef → Eval (Option Value)) (w : World) (s : Session)

lemma exec_callValue (n : NodeRef) (c : Call) :
    (callValue value n c).exec w s =
      match (generatorOf value n c).exec w s with
      | (.error f, s') => (.error f, s')
      | (.ok g, s') =>
        match g.step s'.source with
        | none => (.error .stuck, s')
        | some ((plan, g'), source) =>
          let r := (plan.script.run value).exec w ({ s' with source }.withoutGenerator n)
          (r.1, r.2.withGenerator n g') := by
  unfold callValue
  rw [Eval.exec_bind]
  rcases (generatorOf value n c).exec w s with ⟨_ | g, s'⟩
  · rfl
  · simp only [Eval.exec_bind, Eval.exec_get]
    rcases g.step s'.source with _ | ⟨⟨plan, g'⟩, source⟩ <;> rfl

lemma exec_ownValue (n : NodeRef) :
    (ownValue value n).exec w s =
      match s.workspace.kind n with
      | .call c => (callValue value n c).exec w s
      | k => ((plainValue n k).run value).exec w s := by
  unfold ownValue
  simp only [Eval.exec_bind, Eval.exec_kind]
  rcases s.workspace.kind n with _ | _ | _ | _ | _ | _ | _ <;> rfl

/-- The error for a key that a node reads and that is not there. -/
def Session.noKey (s : Session) (n : NodeRef) (key : String) : Failure :=
  .error (.unresolved (s.location n) key (s.workspace.node n).span)

lemma exec_extract (n : NodeRef) (v : Value) (keys : List String) :
    (extract n v keys).exec w s =
      match keysIn v keys with
      | .ok v => (.ok v, s)
      | .error key => (.error (s.noKey n key), s) := by
  unfold extract
  rcases keysIn v keys with _ | _ <;> rfl

variable {value w s} {n target base : NodeRef} {keys : List String}

/-! ### The generator of a node -/

lemma generatorOf_kept {c : Call} {g : Generator} (hg : s.generators.lookup n = some g) :
    (generatorOf value n c).exec w s = (.ok g, s) := by
  unfold generatorOf
  simp only [Eval.exec_bind, Eval.exec_get, hg, Eval.exec_pure]

lemma generatorOf_new {c : Call} (hg : s.generators.lookup n = none) (hf : c.kind ∈ s.functions) :
    (generatorOf value n c).exec w s = ((Generator.ofCallAs c.kind n c).run value).exec w s := by
  unfold generatorOf
  simp only [Eval.exec_bind, Eval.exec_get, hg, List.contains_iff_mem, hf, if_true]
  rfl

lemma generatorOf_unknown {c : Call} (hg : s.generators.lookup n = none)
    (hf : c.kind ∉ s.functions) :
    (generatorOf value n c).exec w s =
      (.error (.error (.badArgument (s.location n) (.noFunction c.kind))), s) := by
  unfold generatorOf
  simp only [Eval.exec_bind, Eval.exec_get, hg, List.contains_iff_mem, hf, if_false,
    Eval.exec_fail]

/-! ### One layer of an evaluation -/

lemma valueVia_unresolved {e : EvalError} (hr : (s.scope w).resolve n = .error e) :
    (valueVia value n).exec w s = (.error (.error e), s) := by
  unfold valueVia
  rw [Eval.exec_bind, Eval.exec_resolve, hr]

lemma valueVia_extract (hr : (s.scope w).resolve n = .ok (.extract base keys)) :
    (valueVia value n).exec w s =
      match (value base).exec w s with
      | (.error f, s') => (.error f, s')
      | (.ok none, s') => (.ok none, s')
      | (.ok (some v), s') =>
        match keysIn v keys with
        | .ok v => (.ok (some v), s')
        | .error key => (.error (s'.noKey n key), s') := by
  unfold valueVia
  simp only [Eval.exec_bind, Eval.exec_resolve, hr]
  rcases (value base).exec w s with ⟨_ | _ | v, s'⟩
  · rfl
  · rfl
  · simp only [Eval.exec_bind, exec_extract]
    rcases keysIn v keys with _ | _ <;> rfl

/-- A node that reads names changes what the request for the call that they are read from
changes. -/
lemma valueVia_extract_snd (hr : (s.scope w).resolve n = .ok (.extract base keys)) :
    ((valueVia value n).exec w s).2 = ((value base).exec w s).2 := by
  rw [valueVia_extract hr]
  rcases (value base).exec w s with ⟨_ | _ | v, s'⟩
  · rfl
  · rfl
  · dsimp only
    rcases keysIn v keys with _ | _ <;> rfl

lemma valueVia_cached {v : Option Value} (hr : (s.scope w).resolve n = .ok (.value target))
    (hl : s.values.lookup target = some v) : (valueVia value n).exec w s = (.ok v, s) := by
  unfold valueVia
  simp only [Eval.exec_bind, Eval.exec_resolve, hr, Eval.exec_get, hl, Eval.exec_pure]

lemma valueVia_active (hr : (s.scope w).resolve n = .ok (.value target))
    (hl : s.values.lookup target = none) (ha : target ∈ s.active) :
    (valueVia value n).exec w s = (.error (.error (.circular (s.location target))), s) := by
  unfold valueVia
  simp only [Eval.exec_bind, Eval.exec_resolve, hr, Eval.exec_get, hl, List.contains_iff_mem, ha,
    if_true, Eval.exec_fail]

/-- A request for what has a value or is being evaluated changes nothing. -/
lemma valueVia_settled_snd (hr : (s.scope w).resolve n = .ok (.value target))
    (h : s.values.lookup target ≠ none ∨ target ∈ s.active) :
    ((valueVia value n).exec w s).2 = s := by
  rcases hl : s.values.lookup target with _ | v
  · rw [valueVia_active hr hl (h.resolve_left fun hv => hv hl)]
  · rw [valueVia_cached hr hl]

lemma valueVia_own (hr : (s.scope w).resolve n = .ok (.value target))
    (hl : s.values.lookup target = none) (ha : target ∉ s.active) :
    (valueVia value n).exec w s =
      match (ownValue value target).exec w (s.enter target) with
      | (.error f, s') => (.error f, s'.leave target)
      | (.ok v, s') => (.ok v, (s'.leave target).keep target v) := by
  unfold valueVia
  simp only [Eval.exec_bind, Eval.exec_resolve, hr, Eval.exec_get, hl, List.contains_iff_mem, ha,
    if_false, Eval.exec_whileActive]
  rcases (ownValue value target).exec w (s.enter target) with ⟨_ | _, _⟩ <;> rfl

end TestData.Engine
