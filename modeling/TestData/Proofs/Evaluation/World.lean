import TestData.Proofs.Evaluation.Confined
import TestData.Proofs.Evaluation.Depth
import TestData.Proofs.Session.Request

/-!
Worlds that evaluations cannot tell apart.

An evaluation sees of the world what names mean, what the clock shows and what is in the files of
tables. In two worlds that agree on this, requests end alike and leave the same session.
-/

namespace TestData.Engine

open Schema

/-- The evaluations of a session cannot tell two worlds apart. -/
structure Session.Indistinct (s : Session) (w w' : World) : Prop where
  alike : (s.setting w).Alike (s.setting w')
  tables : ∀ n source, s.workspace.kind n = .call (.table source) →
    ∀ s₁ : Session, s₁.workspace = s.workspace →
      (Eval.table n source).exec w' s₁ = (Eval.table n source).exec w s₁

variable {s₀ s : Session} {w w' : World} {n : NodeRef} {α : Type}

namespace Session.Indistinct

/-- Two worlds that cannot be told apart in a session cannot be told apart in any that has the same
setting. -/
lemma of_setting (h : s₀.Indistinct w w') (hs : s.setting = s₀.setting) : s.Indistinct w w' where
  alike := by rw [hs]; exact h.alike
  tables n source hk s₁ h₁ := by
    rw [workspace_of_setting hs] at hk h₁
    exact h.tables n source hk s₁ h₁

end Session.Indistinct

variable (hw : s₀.Indistinct w w')

include hw

/-! ### Scripts -/

section

variable {value : NodeRef → Eval (Option Value)}
  (hv : ∀ n (s : Session), s.setting = s₀.setting → (value n).exec w' s = (value n).exec w s)
  (hk : ∀ n (s : Session), Keeps s ((value n).exec w s).2)

include hv hk

/-- A script that asks for the tables of calls only ends alike in both worlds. -/
lemma Script.exec_world {x : Script α}
    (hx : x.Confined True fun n source => s₀.workspace.kind n = .call (.table source))
    (hs : s.setting = s₀.setting) : (x.run value).exec w' s = (x.run value).exec w s := by
  induction x generalizing s with
  | done a => rfl
  | fail e => rfl
  | look k ih =>
    have hlook : k (s.setting w') = k (s.setting w) := hx.1 _ _ (by rw [hs]; exact hw.alike)
    rw [exec_look, exec_look, hlook]
    exact ih _ (hx.2 _) hs
  | selected n k ih => exact ih _ (hx.2 _) hs
  | ask n k ih =>
    have hkeep := hk n s
    rw [exec_ask, exec_ask, hv n s hs]
    rcases hn : (value n).exec w s with ⟨_ | v, s₁⟩
    · rfl
    · rw [hn] at hkeep
      exact ih v (hx v) (hkeep.setting_eq hs)
  | table n source k ih =>
    have hkeep := keeps_table w n source s
    rw [exec_table, exec_table, hw.tables n source hx.1 s (workspace_of_setting hs)]
    rcases hn : (Eval.table n source).exec w s with ⟨_ | u, s₁⟩
    · rfl
    · rw [hn] at hkeep
      exact ih u (hx.2 u) (hkeep.setting_eq hs)

/-! ### Nodes -/

lemma generatorOf_world {c : Call} (hc : s₀.workspace.kind n = .call c)
    (hs : s.setting = s₀.setting) :
    (generatorOf value n c).exec w' s = (generatorOf value n c).exec w s := by
  rcases hg : s.generators.lookup n with _ | g
  · by_cases hf : c.kind ∈ s.functions
    · rw [generatorOf_new hg hf, generatorOf_new hg hf]
      exact Script.exec_world hw hv hk (confined_ofCallAs fun source h => h ▸ hc) hs
    · rw [generatorOf_unknown hg hf, generatorOf_unknown hg hf]
  · rw [generatorOf_kept hg, generatorOf_kept hg]

lemma callValue_world {c : Call} (hc : s₀.workspace.kind n = .call c)
    (hs : s.setting = s₀.setting) :
    (callValue value n c).exec w' s = (callValue value n c).exec w s := by
  have hkeep := generatorOf_rel (w := w) (n := n) (s := s) (c := c) Keeps.passive
    fun b _ => hk b.node b.session
  rw [exec_callValue, exec_callValue, generatorOf_world hw hv hk hc hs]
  rcases hg : (generatorOf value n c).exec w s with ⟨_ | g, s₁⟩
  · rfl
  · rw [hg] at hkeep
    dsimp only
    rcases g.step s₁.source with _ | ⟨⟨plan, g'⟩, source⟩
    · rfl
    · have hout : ({ s₁ with source }.withoutGenerator n).setting = s₀.setting :=
        hkeep.setting_eq hs
      dsimp only
      rw [Script.exec_world hw hv hk (confined_plan fun _ _ _ _ => trivial) hout]

lemma ownValue_world (hs : s.setting = s₀.setting) :
    (ownValue value n).exec w' s = (ownValue value n).exec w s := by
  have hws := workspace_of_setting hs
  rcases call_or_ne (s.workspace.kind n) with ⟨c, hc⟩ | hc'
  · rw [exec_ownValue_call hc, exec_ownValue_call hc]
    exact callValue_world hw hv hk (by rw [← hws, hc]) hs
  · rw [exec_ownValue_plain hc', exec_ownValue_plain hc']
    exact Script.exec_world hw hv hk (quiet_plainValue _ _).confined hs

lemma valueVia_world (hs : s.setting = s₀.setting) :
    (valueVia value n).exec w' s = (valueVia value n).exec w s := by
  have hres : (s.scope w').resolve = (s.scope w).resolve := (hw.of_setting hs).alike.resolve
  rcases hr : (s.scope w).resolve n with e | ⟨target⟩ | ⟨base, keys⟩
  · rw [valueVia_unresolved hr, valueVia_unresolved (by rw [hres, hr])]
  · have hr' : (s.scope w').resolve n = .ok (.value target) := by rw [hres, hr]
    rcases hl : s.values.lookup target with _ | v
    · by_cases ha : target ∈ s.active
      · rw [valueVia_active hr hl ha, valueVia_active hr' hl ha]
      · have henter : (s.enter target).setting = s₀.setting := hs
        rw [valueVia_own hr hl ha, valueVia_own hr' hl ha, ownValue_world hw hv hk henter]
    · rw [valueVia_cached hr hl, valueVia_cached hr' hl]
  · rw [valueVia_extract hr, valueVia_extract (by rw [hres, hr]), hv base s hs]

end

/-! ### Requests -/

lemma valueWithin_world (fuel : Nat) (n : NodeRef) (s : Session) (hs : s.setting = s₀.setting) :
    (valueWithin Eval.circular fuel n).exec w' s = (valueWithin Eval.circular fuel n).exec w s := by
  induction fuel generalizing n s with
  | zero => exact (exec_circular w' n s).trans (exec_circular w n s).symm
  | succ fuel ih => exact valueVia_world hw ih (keeps_valueWithin fuel) hs

lemma value_world (hs : s.setting = s₀.setting) :
    (Eval.value n).exec w' s = (Eval.value n).exec w s := by
  rw [exec_value, exec_value]
  exact valueWithin_world hw _ n s hs

/-- **Records do not depend on which of two worlds it is** that evaluations cannot tell apart. -/
theorem record_world (name : String) (hs : s.setting = s₀.setting) :
    (Eval.record name).exec w' s = (Eval.record name).exec w s := by
  have hreset : s.reset.setting = s₀.setting := hs
  rw [exec_record, exec_record]
  rcases hn : s.reset.workspace.entity? Workspace.root name with _ | n
  · rcases hroot : s.reset.workspace.hasRoot with _ | _ <;>
      simp [Eval.entity, Eval.exec_bind, hn, hroot]
  · rw [exec_entity_some hn, exec_entity_some hn, value_world hw hreset]

end TestData.Engine
