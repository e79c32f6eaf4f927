import TestData.Proofs.Evaluation.Nested
import TestData.Proofs.Session.Request

/-!
Runs: rows one after another, with all functions.

A request of a run evaluates at most one node itself. It begins with the values of the row or, if
it is a record, without them. A run counts the rows that have asked for a node.
-/

namespace TestData.Engine

open Schema

variable {t : NodeRef} {s : Session} {w : World}

/-! ### The requests of a run -/

/-- The requests of a run: for values, for entities, for records in rows of their own, and for a
new row. -/
def Request.ofRun : Request → Bool
  | .value _ | .entity _ | .record _ | .reset => true
  | _ => false

/-- A request asks for a node, itself or at some depth. -/
def Request.AsksFor (r : Request) (w : World) (s : Session) (t : NodeRef) : Prop :=
  ∃ a b, r.root? s = some a ∧ a.Reaches w b ∧ (s.scope w).resolve b.node = .ok (.value t)

/-- The number of rows before that of a request, given those before the last row and whether the
last row asked. -/
def Request.rowsBefore (r : Request) (rows : Nat) (asked : Bool) : Nat :=
  if r.newRow then rows + asked.toNat else rows

namespace Request

variable {r : Request} {a : Visit}

/-- The session in which a request begins to evaluate. -/
def begun (r : Request) (s : Session) : Session := if r.newRow then s.reset else s

lemma scope_begun : (r.begun s).scope w = s.scope w := by
  unfold begun
  split <;> rfl

lemma workspace_begun : (r.begun s).workspace = s.workspace := by
  unfold begun
  split <;> rfl

lemma begun_idle (r : Request) (h : s.active = []) : (r.begun s).active = [] := by
  unfold begun
  split_ifs
  · rfl
  · exact h

lemma session_of_root (h : r.root? s = some a) (hr : r.ofRun = true) : a.session = r.begun s := by
  cases r with
  | value n =>
    obtain rfl := Option.some.inj h
    rfl
  | entity name =>
    obtain ⟨n, -, rfl⟩ := Option.map_eq_some_iff.mp h
    rfl
  | record name =>
    obtain ⟨n, -, rfl⟩ := Option.map_eq_some_iff.mp h
    rfl
  | reset => cases h
  | _ => cases hr

lemma scope_root (h : r.root? s = some a) (hr : r.ofRun = true) :
    a.session.scope w = s.scope w := by
  rw [session_of_root h hr, scope_begun]

lemma exec_snd_of_no_root (h : r.root? s = none) (hr : r.ofRun = true) :
    (r.exec w s).2 = r.begun s := by
  cases r with
  | value n => cases h
  | entity name =>
    rw [exec, ended_snd, entity_snd_of_none (Option.map_eq_none_iff.mp h)]
    rfl
  | record name =>
    have hn : s.reset.workspace.entity? Workspace.root name = none :=
      Option.map_eq_none_iff.mp h
    rw [exec, ended_snd, exec_record, entity_snd_of_none hn]
    rfl
  | reset => rfl
  | _ => cases hr

lemma grows_begun (hr : r.ofRun = true) (w : World) (s : Session) :
    Grows (r.begun s) (r.exec w s).2 := by
  rcases h : r.root? s with _ | a
  · rw [exec_snd_of_no_root h hr]
    exact .refl _
  · rw [exec_snd_of_root h, ← session_of_root h hr]
    exact grows_value w a.node a.session

lemma workspace_exec (hr : r.ofRun = true) (w : World) (s : Session) :
    (r.exec w s).2.workspace = s.workspace := by
  rw [(grows_begun hr w s).workspace, workspace_begun]

end Request

/-! ### The rows of a run -/

/-- The sessions of a run with all functions: how many rows before the last one asked for a node,
and whether the last one has. -/
inductive Run (t : NodeRef) : Session → Nat → Bool → Prop
  | start (ws : Workspace) (o : Options) (world : World) :
    Run t (.start ws CallKind.all o world) 0 false
  | step {s : Session} {rows : Nat} {asked : Bool} (h : Run t s rows asked) (r : Request)
    (hr : r.ofRun = true) (world : World) (hs : (r.exec world s).1 ≠ some .stuck) (now : Bool)
    (hnow : now = true ↔ r.AsksFor world s t) :
    Run t (r.exec world s).2 (r.rowsBefore rows asked) (now || (asked && !r.newRow))

end TestData.Engine
