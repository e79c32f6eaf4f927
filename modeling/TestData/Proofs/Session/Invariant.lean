import TestData.Proofs.Evaluation.Fit
import TestData.Proofs.Session.Request

/-!
Invariants between requests.

What outlasts the evaluation of nodes outlasts every request of a row. A new row keeps the
generators, and what forgets them leaves none: so what creation ensures of generators and steps
keep holds of the generators of every session that can be reached.
-/

namespace TestData.Engine

open Schema

variable {w : World} {s : Session} {I : Session → Prop}

lemma Lasting.entity (hI : Lasting w I) (hs : s.Guarded) (h : I s) (name : String) :
    I ((Eval.entity name).exec w s).2 := by
  rcases hn : s.workspace.entity? Workspace.root name with _ | n
  · rw [entity_snd_of_none hn]
    exact h
  · rw [entity_snd_of_some hn]
    exact hI.value hs h n

/-- An invariant outlasts the requests of a row. -/
lemma Lasting.exec (hI : Lasting w I) {r : Request} (hr : r.newRow = false) (hs : s.Guarded)
    (h : I s) : I (r.exec w s).2 := by
  cases r with
  | value n => rw [Request.exec, ended_snd]; exact hI.value hs h n
  | entity name => rw [Request.exec, ended_snd]; exact hI.entity hs h name
  | create expected n c => rw [Request.exec, ended_snd]; exact hI.run hs h _
  | step g =>
    rw [Request.exec]
    rcases g.step s.source with _ | ⟨⟨plan, _⟩, src⟩
    · exact h
    · dsimp only
      rw [ended_snd]
      exact hI.run (s := { s with source := src }) ⟨hs.nodup, hs.known⟩ (hI.source src h) _
  | table p delimiter noHeader =>
    obtain ⟨t, k, ht⟩ := s.loadTable_state w.disk p delimiter noHeader
    rw [Request.exec, ht]
    exact hI.tables t k h
  | source src => exact hI.source src h
  | record name => cases hr
  | reset => cases hr
  | clear => cases hr
  | replace w => cases hr

/-! ### Reachable sessions -/

/-- **What holds between requests**, for workspaces of some kind: what holds of a session that keeps
nothing, outlasts the evaluation of nodes and does not depend on the values of the row that ends. -/
theorem Reachable.invariant {P : Workspace → Prop}
    (hstart : ∀ {s : Session}, s.values = [] → s.generators = [] → I s)
    (hreset : ∀ {s : Session}, I s → I s.reset)
    (hlast : ∀ (w : World) (s₀ : Session), P s₀.workspace →
      Lasting w fun s => s.setting = s₀.setting ∧ I s)
    (h : Reachable s) (hP : P s.workspace) : I s := by
  induction h with
  | start => exact hstart rfl rfl
  | @step s hs r world _ ih =>
    rcases hr : r.newRow with _ | _
    · rw [(r.grows_exec hr).workspace] at hP
      exact ((hlast world s hP).exec hr (.of_idle hs.idle) ⟨rfl, ih hP⟩).2
    · cases r with
      | record name =>
        rw [Request.exec, ended_snd, exec_record] at hP ⊢
        rw [(grows_entity world s.reset name).workspace] at hP
        exact ((hlast world s.reset hP).entity (.of_idle rfl) ⟨rfl, hreset (ih hP)⟩ name).2
      | reset => exact hreset (ih hP)
      | clear => exact hstart rfl rfl
      | replace ws => exact hstart rfl rfl
      | _ => cases hr

/-- **What creation ensures and steps keep** holds of the generators of every session, whatever was
asked before. -/
theorem Reachable.holds {P : Workspace → NodeRef → Generator → Prop}
    (hnew : ∀ (st : Setting) n c, st.workspace.kind n = .call c →
      (Generator.ofCallAs c.kind n c).Ensures st (P st.workspace n))
    (hstep : ∀ {ws n g src plan g' src'}, P ws n g → g.step src = some ((plan, g'), src') →
      P ws n g')
    (h : Reachable s) : s.Holds (P s.workspace) := by
  refine h.invariant (P := fun ws => ws = s.workspace) (fun _ hg n g hl => ?_) (fun hs => hs)
    (fun w s₀ hws => ?_) rfl
  · rw [hg] at hl
    cases hl
  · rw [← hws]
    exact lasting_holds (fun n c hk => hnew (s₀.setting w) n c hk) hstep

end TestData.Engine
