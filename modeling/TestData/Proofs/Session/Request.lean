import TestData.Proofs.Evaluation.Frame

/-!
What can be asked of an engine from outside, and the sessions that come of it.

A row ends with a request that forgets the values; every other request only adds to what the
session knows. Between two requests no node is being evaluated.
-/

namespace TestData.Engine

open Schema

/-- How an evaluation ends, without its value. -/
def ended {α : Type} : Except Failure α × Session → Option Failure × Session
  | (.ok _, s) => (none, s)
  | (.error f, s) => (some f, s)

@[simp] lemma ended_snd {α : Type} (x : Except Failure α × Session) : (ended x).2 = x.2 := by
  rcases x with ⟨_ | _, _⟩ <;> rfl

lemma ended_fst_of_error {α : Type} {x : Except Failure α × Session} {f : Failure}
    (h : x.1 = .error f) : (ended x).1 = some f := by
  rcases x with ⟨_ | _, _⟩
  · exact congrArg some (Except.error.inj h)
  · cases h

/-- What can be asked of an engine. -/
inductive Request
  | value (n : NodeRef)
  | entity (name : String)
  /-- The next record of an entity, in a row of its own. -/
  | record (name : String)
  /-- Creates a generator, which is not kept. -/
  | create (expected : CallKind) (n : NodeRef) (c : Call)
  /-- Steps a generator that was created, and makes the value. -/
  | step (g : Generator)
  | table (p : Files.Path) (delimiter : Option Table.Delimiter) (noHeader : Bool)
  /-- Draws from the random source, or replaces it. -/
  | source (src : Random.Source)
  | reset
  | clear
  | replace (w : Workspace)

namespace Request

/-- What a request does: how it ends, and what becomes of the session. -/
def exec (r : Request) (w : World) (s : Session) : Option Failure × Session :=
  match r with
  | value n => ended ((Eval.value n).exec w s)
  | entity name => ended ((Eval.entity name).exec w s)
  | record name => ended ((Eval.record name).exec w s)
  | create expected n c => ended ((Generator.create Eval.value expected n c).exec w s)
  | step g =>
    match g.step s.source with
    | none => (some .stuck, s)
    | some ((plan, _), src) => ended ((plan.script.run Eval.value).exec w { s with source := src })
  | table p delimiter noHeader => (none, (s.loadTable w.disk p delimiter noHeader).2)
  | source src => (none, { s with source := src })
  | reset => (none, s.reset)
  | clear => (none, s.clear)
  | replace w => (none, s.replace w)

/-- Whether a request forgets the values of the row. -/
def newRow : Request → Bool
  | record _ | reset | clear | replace _ => true
  | _ => false

lemma value_ne_stuck {w : World} {s s' : Session} {n : NodeRef} {v : Option Value}
    (h : (Eval.value n).exec w s = (.ok v, s')) :
    ((value n).exec w s).1 ≠ some .stuck := by
  rw [exec, h]
  simp [ended]

end Request

/-! ### Entities -/

section

variable {w : World} {s : Session} {name : String}

lemma hasRoot_of_entity {ws : Workspace} {n : NodeRef}
    (h : ws.entity? Workspace.root name = some n) : ws.hasRoot = true := by
  rcases hd : ws.documents.isEmpty with _ | _
  · simp [Workspace.hasRoot, hd]
  · have hdoc : ws.document Workspace.root = default := by
      simp only [Array.isEmpty_iff] at hd
      simp [Workspace.document, hd]
    rw [Workspace.entity?, hdoc] at h
    cases h

lemma exec_entity_some {n : NodeRef} (h : s.workspace.entity? Workspace.root name = some n) :
    (Eval.entity name).exec w s =
      match (Eval.value n).exec w s with
      | (.ok v, s') => (.ok (v.getD (.object .empty)), s')
      | (.error f, s') => (.error f, s') := by
  unfold Eval.entity
  rw [Eval.exec_bind, Eval.exec_get]
  simp only [hasRoot_of_entity h, h, Bool.not_true, Bool.false_eq_true, if_false, Eval.exec_bind]
  rcases (Eval.value n).exec w s with ⟨_ | _, _⟩ <;> rfl

lemma exec_entity_none (h : s.workspace.entity? Workspace.root name = none) :
    ∃ f, (Eval.entity name).exec w s = (.error f, s) := by
  unfold Eval.entity
  simp only [Eval.exec_bind, Eval.exec_get]
  rcases s.workspace.hasRoot with _ | _
  · exact ⟨.stuck, rfl⟩
  · simp only [h]
    exact ⟨_, rfl⟩

lemma exec_record : (Eval.record name).exec w s = (Eval.entity name).exec w s.reset := by
  unfold Eval.record
  rw [Eval.exec_bind, Eval.exec_modify]

lemma grows_entity (w : World) (s : Session) (name : String) :
    Grows s ((Eval.entity name).exec w s).2 := by
  rcases h : s.workspace.entity? Workspace.root name with _ | n
  · obtain ⟨f, hf⟩ := exec_entity_none (w := w) h
    rw [hf]
    exact .refl s
  · have hg := grows_value w n s
    rw [exec_entity_some h]
    rcases hv : (Eval.value n).exec w s with ⟨_ | _, s'⟩ <;> rw [hv] at hg <;> exact hg

end

/-! ### The value that a request is for -/

/-- The request for the value of a node that a request makes. -/
def Request.root? (r : Request) (s : Session) : Option Visit :=
  match r with
  | .value n => some ⟨n, s⟩
  | .entity name => (s.workspace.entity? Workspace.root name).map (⟨·, s⟩)
  | .record name => (s.workspace.entity? Workspace.root name).map (⟨·, s.reset⟩)
  | _ => none

lemma entity_snd_of_some {w : World} {s : Session} {name : String} {n : NodeRef}
    (h : s.workspace.entity? Workspace.root name = some n) :
    ((Eval.entity name).exec w s).2 = ((Eval.value n).exec w s).2 := by
  rw [exec_entity_some h]
  rcases (Eval.value n).exec w s with ⟨_ | _, _⟩ <;> rfl

lemma entity_snd_of_none {w : World} {s : Session} {name : String}
    (h : s.workspace.entity? Workspace.root name = none) :
    ((Eval.entity name).exec w s).2 = s := by
  obtain ⟨f, hf⟩ := exec_entity_none (w := w) h
  rw [hf]

/-- A request for a value does to the session what the request for the node does. -/
lemma Request.exec_snd_of_root {r : Request} {w : World} {s : Session} {a : Visit}
    (h : r.root? s = some a) : (r.exec w s).2 = (a.outcome Eval.value w).2 := by
  cases r with
  | value n =>
    obtain rfl := Option.some.inj h
    rw [exec, ended_snd, Visit.outcome]
  | entity name =>
    obtain ⟨n, hn, rfl⟩ := Option.map_eq_some_iff.mp h
    rw [exec, ended_snd, entity_snd_of_some hn, Visit.outcome]
  | record name =>
    obtain ⟨n, hn, rfl⟩ := Option.map_eq_some_iff.mp h
    have hn' : s.reset.workspace.entity? Workspace.root name = some n := hn
    rw [exec, ended_snd, exec_record, entity_snd_of_some hn', Visit.outcome]
  | _ => cases h

lemma exec_entity_error {w : World} {s : Session} {name : String} {n : NodeRef} {f : Failure}
    (h : s.workspace.entity? Workspace.root name = some n)
    (hf : ((Eval.value n).exec w s).1 = .error f) :
    ((Eval.entity name).exec w s).1 = .error f := by
  rw [exec_entity_some h]
  rcases hx : (Eval.value n).exec w s with ⟨f' | v, s'⟩ <;> rw [hx] at hf
  · exact congrArg Except.error (Except.error.inj hf)
  · cases hf

/-- A request fails where the request for the node fails. -/
lemma Request.exec_fst_of_root {r : Request} {w : World} {s : Session} {a : Visit} {f : Failure}
    (h : r.root? s = some a) (hf : (a.outcome Eval.value w).1 = .error f) :
    (r.exec w s).1 = some f := by
  cases r with
  | value n =>
    obtain rfl := Option.some.inj h
    exact ended_fst_of_error hf
  | entity name =>
    obtain ⟨n, hn, rfl⟩ := Option.map_eq_some_iff.mp h
    exact ended_fst_of_error (exec_entity_error hn hf)
  | record name =>
    obtain ⟨n, hn, rfl⟩ := Option.map_eq_some_iff.mp h
    rw [exec, exec_record]
    exact ended_fst_of_error (exec_entity_error (s := s.reset) hn hf)
  | _ => cases h

/-! ### Rows -/

namespace Request

variable {w : World} {s : Session} {r : Request}

/-- Within a row a request only adds to what a session knows. -/
theorem grows_exec (h : r.newRow = false) : Grows s (r.exec w s).2 := by
  have hrun : ∀ {α : Type} (x : Script α) (s : Session), Grows s ((x.run Eval.value).exec w s).2 :=
    fun x s => Script.run_rel Grows.passive x s fun b _ => grows_value w b.node b.session
  cases r with
  | value n => rw [exec, ended_snd]; exact grows_value w n s
  | entity name => rw [exec, ended_snd]; exact grows_entity w s name
  | create expected n c => rw [exec, ended_snd]; exact hrun _ s
  | step g =>
    rw [exec]
    rcases g.step s.source with _ | ⟨⟨plan, _⟩, src⟩
    · exact .refl s
    · dsimp only
      rw [ended_snd]
      exact (Grows.passive.source s src).trans (hrun _ _)
  | table p delimiter noHeader =>
    obtain ⟨t, k, ht⟩ := s.loadTable_state w.disk p delimiter noHeader
    rw [exec, ht]
    exact Grows.passive.tables s t k
  | source src => exact Grows.passive.source s src
  | record name => cases h
  | reset => cases h
  | clear => cases h
  | replace w => cases h

end Request

/-- The sessions that requests of one row lead to, in whatever worlds and however they end. -/
inductive Row : Session → Session → Prop
  | refl (s : Session) : Row s s
  | step {s s' : Session} (h : Row s s') (r : Request) (hr : r.newRow = false) (world : World) :
    Row s (r.exec world s').2

lemma Row.grows {s s' : Session} (h : Row s s') : Grows s s' := by
  induction h with
  | refl => exact .refl _
  | step _ r hr world ih => exact ih.trans (r.grows_exec hr)

/-! ### Reachable sessions -/

/-- The sessions of an engine between two requests. Nothing is asked of an engine after a request
that got stuck. -/
inductive Reachable : Session → Prop
  | start (ws : Workspace) (functions : List CallKind) (o : Options) (world : World) :
    Reachable (.start ws functions o world)
  | step {s : Session} (h : Reachable s) (r : Request) (world : World)
    (hr : (r.exec world s).1 ≠ some .stuck) : Reachable (r.exec world s).2

/-- **Between two requests** no node is being evaluated. -/
theorem Reachable.idle {s : Session} (h : Reachable s) : s.active = [] := by
  induction h with
  | start => rfl
  | @step s _ r world _ ih =>
    rcases hr : r.newRow with _ | _
    · exact (r.grows_exec hr).active.trans ih
    · cases r with
      | record name =>
        rw [Request.exec, ended_snd, exec_record]
        exact (grows_entity world s.reset name).active
      | reset => rfl
      | clear => rfl
      | replace ws => rfl
      | _ => cases hr

/-! ### Records -/

section

variable {w : World} {s : Session} {name : String}

lemma setting_record_snd (w : World) (s : Session) (name : String) :
    ((Eval.record name).exec w s).2.setting = s.setting := by
  have hk := (grows_entity w s.reset name).toKeeps
  rw [← exec_record] at hk
  exact hk.setting_eq rfl

lemma Reachable.record (h : Reachable s)
    (hv : ((Eval.record name).exec w s).1.toOption.isSome = true) :
    Reachable ((Eval.record name).exec w s).2 := by
  have hstep : ((Request.record name).exec w s).1 ≠ some .stuck := by
    rcases hx : (Eval.record name).exec w s with ⟨f | v, s'⟩ <;> rw [hx] at hv
    · cases hv
    · rw [Request.exec, hx]
      exact nofun
  have hreached := h.step (.record name) w hstep
  rwa [Request.exec, ended_snd] at hreached

end

end TestData.Engine
