import TestData.Proofs.Evaluation.Confined
import TestData.Proofs.Session.Steady

/-!
Values that are made of others.

A dictionary, a template and a pipe draw nothing. Each of their steps plans the same, and what is
planned asks for the values of other nodes only. So in a row the value of such a node is what its
plan ends with for the values that the others have, whichever of them were evaluated first.
-/

namespace TestData.Engine

open Schema

variable {w : World} {s s' s₀ : Session} {t : NodeRef} {v : Option Value} {P : World → Prop}
  {resolve : NodeRef → Except EvalError Resolution}

/-! ### Plans that stay the same -/

namespace Generator

variable {g g' : Generator} {src src' : Random.Source} {plan p : Plan}

/-- What a generator plans at every step, if its values are made of those of other nodes. -/
def plan? : Generator → Option Plan
  | dict source entries => some (.look source entries)
  | template l t params names => some (.render l t params names)
  | pipe previous t => some (.transform previous t)
  | _ => none

lemma plan_of_step (h : g.step src = some ((plan, g'), src')) (hp : g'.plan? = some p) :
    plan = p := by
  rcases step_cases h with ⟨rfl, -⟩ | ⟨values, i, -, -, rfl⟩ | ⟨k, -, -, rfl⟩
  · cases g' with
    | dict | template | pipe =>
      rw [← Option.some.inj hp]
      exact (Prod.mk.inj (Prod.mk.inj (Option.some.inj h)).1).1.symm
    | _ => cases hp
  · cases hp
  · cases hp

/-- Such a plan asks for values only. -/
lemma quiet_of_plan? (h : g.plan? = some p) : p.script.Quiet := by
  have hconfined : p.script.Confined False fun _ _ => False :=
    confined_plan fun source selector targets hp => by
      subst hp
      cases g <;> cases h
  exact hconfined.quiet

end Generator

/-! ### What is kept of such values -/

section

variable (P resolve)

/-- The value of a call is what its plan ends with for what is known, in one of some worlds. -/
def Session.MadeOf (s : Session) (t : NodeRef) (v : Option Value) : Prop :=
  ∀ g plan, s.generators.lookup t = some g → g.plan? = some plan →
    ∃ w, P w ∧ plan.script.answer (s.setting w) (s.known resolve) = some v

/-- Every value of a call is what its plan ends with for what is known. -/
def Session.Made (s : Session) : Prop :=
  ∀ t v, s.values.lookup t = some v → (∃ c, s.workspace.kind t = .call c) → s.MadeOf P resolve t v

end

lemma Session.MadeOf.settles (h : s.MadeOf P resolve t v) (hs : Settles s s')
    (hg : s'.generators.lookup t = s.generators.lookup t) : s'.MadeOf P resolve t v := by
  intro g plan hl hp
  obtain ⟨w, hw, ha⟩ := h g plan (hg ▸ hl) hp
  refine ⟨w, hw, ?_⟩
  rw [hs.setting]
  exact Script.answer_mono (fun n u hn => hs.known hn) ha

lemma Session.Made.settles (h : s.Made P resolve) (hs : Settles s s')
    (hv : s'.values = s.values) : s'.Made P resolve := by
  intro t v hl hk
  rw [hv] at hl
  rw [hs.workspace] at hk
  exact (h t v hl hk).settles hs (hs.generators hl)

lemma Session.Made.settle {r : Except Failure (Option Value)} (h : s.Made P resolve)
    (hl : s.values.lookup t = none)
    (hr : ∀ v, r = .ok v → (∃ c, s.workspace.kind t = .call c) → s.MadeOf P resolve t v) :
    (s.settle t r).Made P resolve := by
  rcases r with f | v
  · exact h.settles (.leave s t) rfl
  · have hs : Settles s ((s.leave t).keep t v) := .evaluated hl v
    intro u x hx hk
    rw [Session.settle, Session.lookup_keep] at hx
    split_ifs at hx with hut
    · obtain rfl := Option.some.inj hx
      obtain rfl := hut
      exact (hr v rfl hk).settles hs rfl
    · exact (h u x hx hk).settles hs rfl

/-- What a plan that succeeds ends with is made of what is known afterwards. -/
lemma Session.madeOf_of_run {g g' : Generator} {plan : Plan} {src src' : Random.Source}
    (hP : P w) (hw : (s.scope w).resolve = resolve) (hst : g.step src = some ((plan, g'), src'))
    (hrun : (plan.script.run Eval.value).exec w s = (.ok v, s'))
    (hl : s'.values.lookup t = none) : (s'.withGenerator t g').MadeOf P resolve t v := by
  intro g'' p hl' hp
  obtain rfl : g' = g'' := by simpa using hl'
  obtain rfl := Generator.plan_of_step hst hp
  have hin : Settles s' (s'.withGenerator t g') := .insert hl g'
  have hkeeps := keeps_run w plan.script s
  have hans := answer_known (Generator.quiet_of_plan? hp) hrun
  rw [hw] at hans
  rw [hrun] at hkeeps
  refine ⟨w, hP, ?_⟩
  rw [hin.setting, hkeeps.setting]
  exact Script.answer_mono (fun n u hn => hin.known hn) hans

/-- Requests keep every such value what its plan ends with. -/
lemma lasting_made (hP : P w) (hw : (s₀.scope w).resolve = resolve) :
    Lasting w fun s => s.setting = s₀.setting ∧ s.Made P resolve where
  tables t r h := ⟨h.1, h.2.settles (Settles.passive.tables _ t r) rfl⟩
  source src h := ⟨h.1, h.2.settles (Settles.passive.source _ src) rfl⟩
  own := by
    intro s t hs h hl _ _ hv
    have hopen : (s.enter t).Open t := Session.open_enter hl
    have he : (s.enter t).setting = s₀.setting ∧ (s.enter t).Made P resolve :=
      ⟨h.1, h.2.settles (.enter s t) rfl⟩
    have hR : Passive (Preserves fun s => s.setting = s₀.setting ∧ s.Made P resolve) :=
      passive_preserves (fun t r h => ⟨h.1, h.2.settles (Settles.passive.tables _ t r) rfl⟩)
        fun src h => ⟨h.1, h.2.settles (Settles.passive.source _ src) rfl⟩
    have hout : ∀ {s : Session} src, s.Open t → s.setting = s₀.setting ∧ s.Made P resolve →
        ({ s with source := src }.withoutGenerator t).setting = s₀.setting ∧
          ({ s with source := src }.withoutGenerator t).Made P resolve := fun {s} src ho h =>
      ⟨h.1, h.2.settles ((Settles.passive.source s src).trans (Settles.without ho.2)) rfl⟩
    rcases hx : (ownValue Eval.value t).exec w (s.enter t) with ⟨r, s'⟩
    rcases call_or_ne ((s.enter t).workspace.kind t) with ⟨c, hk⟩ | hk'
    · rw [exec_ownValue_call hk] at hx
      cases callEnds hR hout hk hopen he hv hx with
      | creation _ hI ho => exact ⟨hI.1, hI.2.settle ho.2 nofun⟩
      | stuck _ _ hI ho => exact ⟨hI.1, hI.2.settle ho.2 nofun⟩
      | @plan g g' plan src s₁ s₂ r hg hst hrun _ hI₁ ho₁ _ hI₂ ho₂ =>
        have hin : Settles s₂ (s₂.withGenerator t g') := .insert ho₂.2 g'
        refine ⟨(Session.setting_settle _ t r).trans hI₂.1, ?_⟩
        refine (hI₂.2.settles hin rfl).settle ho₂.2 fun v hr _ => ?_
        subst hr
        exact Session.madeOf_of_run hP (resolve_of_setting hw (hout src ho₁ hI₁).1) hst hrun ho₂.2
    · rw [ownVisits_plain hk'] at hv
      rw [exec_ownValue_plain hk'] at hx
      have hI := Script.run_rel hR _ _ (fun b hb => (hv b hb).2) he
      have hkeeps := keeps_run w (plainValue t ((s.enter t).workspace.kind t)) (s.enter t)
      rw [hx] at hI hkeeps
      refine ⟨(Session.setting_settle _ t r).trans hI.1, hI.2.settle (hopen.keeps hkeeps).2 ?_⟩
      rintro v - ⟨c, hc⟩
      exact absurd hc (hkeeps.workspace ▸ hk' c)

/-! ### Rows -/

/-- In a steady row every such value is what its plan ends with. -/
theorem SteadyRow.made (h : SteadyRow resolve s₀ s) (hs : s₀.active = []) (hv : s₀.values = []) :
    s.Made (fun w => (s₀.scope w).resolve = resolve) resolve := by
  refine (h.keeps hs (fun w hw => lasting_made hw hw) ⟨rfl, fun t v hl => ?_⟩).2
  rw [hv] at hl
  cases hl

/-- The sessions that requests of one row lead to in a world, however they end. -/
inductive RowIn (w : World) : Session → Session → Prop
  | refl (s : Session) : RowIn w s s
  | step {s s' : Session} (h : RowIn w s s') (r : Request) (hr : r.newRow = false) :
    RowIn w s (r.exec w s').2

lemma RowIn.steady (h : RowIn w s₀ s) : SteadyRow (s₀.scope w).resolve s₀ s := by
  induction h with
  | refl => exact .refl _
  | step _ r hr ih => exact ih.step r hr w (by rw [ih.row.grows.scope])

/-- An invariant that outlasts requests in a world outlasts a row in it. -/
lemma RowIn.keeps {I : Session → Prop} (h : RowIn w s₀ s) (hs : s₀.active = [])
    (hI : Lasting w I) (hinit : I s₀) : I s := by
  induction h with
  | refl => exact hinit
  | step h r hr ih => exact hI.exec hr (h.steady.guarded hs) ih

lemma RowIn.made (h : RowIn w s₀ s) (hs : s₀.active = []) (hv : s₀.values = []) :
    s.Made (w = ·) (s₀.scope w).resolve := by
  have hlast : Lasting w fun s => s.setting = s₀.setting ∧
      s.Made (w = ·) (s₀.scope w).resolve := lasting_made rfl rfl
  refine (h.keeps hs hlast ⟨rfl, fun t v hl => ?_⟩).2
  rw [hv] at hl
  cases hl

end TestData.Engine
