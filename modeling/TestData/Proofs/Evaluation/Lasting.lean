import TestData.Proofs.Evaluation.Settled

/-!
Invariants that outlast evaluations.

An invariant of sessions outlasts every request if it outlasts the evaluation of one node that has
no value and is not being evaluated, given that it outlasts the requests that this makes. What
remains to be shown of an invariant is this one layer.
-/

namespace TestData.Engine

open Schema

variable {w : World} {s s' s₁ : Session} {t n : NodeRef} {c : Call} {I : Session → Prop}

/-! ### One layer of a call -/

section

variable {value : NodeRef → Eval (Option Value)}

lemma generatorOf_cases {g : Generator} (h : (generatorOf value n c).exec w s = (.ok g, s₁)) :
    (s.generators.lookup n = some g ∧ s₁ = s) ∨
      (s.generators.lookup n = none ∧ c.kind ∈ s.functions ∧
        ((Generator.ofCallAs c.kind n c).run value).exec w s = (.ok g, s₁)) := by
  rcases hg : s.generators.lookup n with _ | g₀
  · by_cases hf : c.kind ∈ s.functions
    · rw [generatorOf_new hg hf] at h
      exact .inr ⟨rfl, hf, h⟩
    · rw [generatorOf_unknown hg hf] at h
      cases (Prod.mk.inj h).1
  · rw [generatorOf_kept hg] at h
    obtain ⟨h₁, rfl⟩ := Prod.mk.inj h
    obtain rfl := Except.ok.inj h₁
    exact .inl ⟨rfl, rfl⟩

/-- A call ends without a generator, without a step, or with the run of a plan while its generator
is out. -/
lemma callValue_cases {r : Except Failure (Option Value)}
    (h : (callValue value n c).exec w s = (r, s')) :
    (∃ f, (generatorOf value n c).exec w s = (.error f, s') ∧ r = .error f) ∨
      (∃ g, (generatorOf value n c).exec w s = (.ok g, s') ∧ g.step s'.source = none ∧
        r = .error .stuck) ∨
      ∃ g s₁ plan g' src s₂, (generatorOf value n c).exec w s = (.ok g, s₁) ∧
        g.step s₁.source = some ((plan, g'), src) ∧
        planVisits value w n c s =
          plan.script.visits value w ({ s₁ with source := src }.withoutGenerator n) ∧
        (plan.script.run value).exec w ({ s₁ with source := src }.withoutGenerator n) = (r, s₂) ∧
        s' = s₂.withGenerator n g' := by
  rw [exec_callValue] at h
  unfold planVisits
  rcases hg : (generatorOf value n c).exec w s with ⟨f | g, s₁⟩ <;> rw [hg] at h
  · obtain ⟨rfl, rfl⟩ := Prod.mk.inj h
    exact .inl ⟨f, rfl, rfl⟩
  · dsimp only at h
    rcases hs : g.step s₁.source with _ | ⟨⟨plan, g'⟩, src⟩ <;> rw [hs] at h
    · obtain ⟨rfl, rfl⟩ := Prod.mk.inj h
      exact .inr (.inl ⟨g, rfl, hs, rfl⟩)
    · obtain ⟨rfl, rfl⟩ := Prod.mk.inj h
      refine .inr (.inr ⟨g, s₁, plan, g', src, _, rfl, hs, ?_, rfl, rfl⟩)
      dsimp only
      rw [hs]

end

/-! ### Invariants -/

/-- What becomes of a session when the evaluation of a node ends. -/
def Session.settle (s : Session) (t : NodeRef) : Except Failure (Option Value) → Session
  | .ok v => (s.leave t).keep t v
  | .error _ => s.leave t

lemma Session.setting_settle (s : Session) (t : NodeRef) (r : Except Failure (Option Value)) :
    (s.settle t r).setting = s.setting := by
  rcases r with _ | _ <;> rfl

lemma valueVia_settle {value : NodeRef → Eval (Option Value)}
    (hr : (s.scope w).resolve n = .ok (.value t))
    (hl : s.values.lookup t = none) (ha : t ∉ s.active) :
    ((valueVia value n).exec w s).2 =
      ((ownValue value t).exec w (s.enter t)).2.settle t
        ((ownValue value t).exec w (s.enter t)).1 := by
  rw [valueVia_own hr hl ha]
  rcases (ownValue value t).exec w (s.enter t) with ⟨_ | _, _⟩ <;> rfl

/-- An invariant is preserved from one session to another. -/
def Preserves (I : Session → Prop) (s s' : Session) : Prop := I s → I s'

/-- An invariant that outlasts one layer of an evaluation in a world. -/
structure Lasting (w : World) (I : Session → Prop) : Prop where
  tables : ∀ {s : Session} t r, I s → I { s with tables := t, requests := r }
  source : ∀ {s : Session} src, I s → I { s with source := src }
  own : ∀ {s : Session} {t : NodeRef}, s.Guarded → I s → s.values.lookup t = none →
    t ∉ s.active → (s.scope w).resolve t = .ok (.value t) →
    (∀ b ∈ ownVisits Eval.value w t (s.enter t),
      b.session.Guarded ∧ Preserves I b.session (b.outcome Eval.value w).2) →
    I (((ownValue Eval.value t).exec w (s.enter t)).2.settle t
      ((ownValue Eval.value t).exec w (s.enter t)).1)

lemma passive_preserves
    (htables : ∀ {s : Session} t r, I s → I { s with tables := t, requests := r })
    (hsource : ∀ {s : Session} src, I s → I { s with source := src }) : Passive (Preserves I) where
  refl _ := id
  trans h h' hs := h' (h hs)
  tables _ t r := htables t r
  source _ src := hsource src

/-- How the evaluation of a call ends for an invariant that its requests preserve: without a
generator, without a step, or with the run of a plan while its generator is out. The node of the
call stays open. -/
inductive CallEnds (w : World) (I : Session → Prop) (t : NodeRef) (c : Call) (s : Session) :
    Except Failure (Option Value) → Session → Prop
  | creation {f : Failure} {s' : Session}
      (hg : (generatorOf Eval.value t c).exec w s = (.error f, s')) (hI : I s') (ho : s'.Open t)
      (hk : Keeps s s') (hu : Untouched t s s') : CallEnds w I t c s (.error f) s'
  | stuck {g : Generator} {s' : Session}
      (hg : (generatorOf Eval.value t c).exec w s = (.ok g, s'))
      (hst : g.step s'.source = none) (hI : I s') (ho : s'.Open t) (hk : Keeps s s') :
      CallEnds w I t c s (.error .stuck) s'
  | plan {g g' : Generator} {plan : Plan} {src : Random.Source} {s₁ s₂ : Session}
      {r : Except Failure (Option Value)}
      (hg : (generatorOf Eval.value t c).exec w s = (.ok g, s₁))
      (hst : g.step s₁.source = some ((plan, g'), src))
      (hrun : (plan.script.run Eval.value).exec w ({ s₁ with source := src }.withoutGenerator t) =
        (r, s₂))
      (hv : ∀ b ∈ plan.script.visits Eval.value w ({ s₁ with source := src }.withoutGenerator t),
        b.session.Guarded)
      (hI₁ : I s₁) (ho₁ : s₁.Open t) (hk₁ : Keeps s s₁)
      (hI₂ : I s₂) (ho₂ : s₂.Open t) (hk₂ : Keeps s₁ s₂) :
      CallEnds w I t c s r (s₂.withGenerator t g')

lemma callEnds (hI : Passive (Preserves I))
    (hout : ∀ {s : Session} src, s.Open t → I s → I ({ s with source := src }.withoutGenerator t))
    (hk : s.workspace.kind t = .call c) (ho : s.Open t) (hs : I s)
    (hv : ∀ b ∈ ownVisits Eval.value w t s,
      b.session.Guarded ∧ Preserves I b.session (b.outcome Eval.value w).2)
    {r : Except Failure (Option Value)} (hx : (callValue Eval.value t c).exec w s = (r, s')) :
    CallEnds w I t c s r s' := by
  rw [ownVisits_call hk] at hv
  have hc := fun b hb => hv b (List.mem_append_left _ hb)
  have hp := fun b hb => hv b (List.mem_append_right _ hb)
  have hgen := generatorOf_rel hI (fun b hb => (hc b hb).2) hs
  have hkeep := keeps_generatorOf w t c s
  have hheld := (generatorOf_rel Held.passive (fun b hb => Visit.held (hc b hb).1 t)
    (.inr ho.1)).1
  rcases callValue_cases hx with ⟨f, hg, rfl⟩ | ⟨g, hg, hst, rfl⟩ |
    ⟨g, s₁, plan, g', src, s₂, hg, hst, hvis, hpr, rfl⟩ <;> rw [hg] at hgen hkeep hheld
  · exact .creation hg hgen (ho.keeps hkeep) hkeep hheld
  · exact .stuck hg hst hgen (ho.keeps hkeep) hkeep
  · rw [hvis] at hp
    have hopen : s₁.Open t := ho.keeps hkeep
    have hrun := Script.run_rel hI plan.script _ (fun b hb => (hp b hb).2) (hout src hopen hgen)
    have hkeep₂ : Keeps s₁ ((plan.script.run Eval.value).exec w
        ({ s₁ with source := src }.withoutGenerator t)).2 :=
      (Keeps.passive.source s₁ src).trans ((Keeps.without _ t).trans
        (keeps_run w plan.script _))
    rw [hpr] at hrun hkeep₂
    exact .plan hg hst hpr (fun b hb => (hp b hb).1) hgen hopen hkeep hrun (hopen.keeps hkeep₂)
      hkeep₂

namespace Lasting

/-- **An invariant outlasts requests** if it outlasts one layer. -/
lemma visit (hI : Lasting w I) {a : Visit} (ha : a.session.Guarded) (h : I a.session) :
    I (a.outcome Eval.value w).2 := by
  induction Visit.acc_asks (w := w) ha with
  | intro a _ ih =>
    have hin : ∀ b, a.Asks w b →
        b.session.Guarded ∧ Preserves I b.session (b.outcome Eval.value w).2 := fun b hab =>
      ⟨(hab.need_lt ha).1, fun hb => ih b hab (hab.need_lt ha).1 hb⟩
    unfold Visit.outcome
    rw [exec_value_eq_valueVia ha]
    rcases hr : (a.session.scope w).resolve a.node with e | ⟨t⟩ | ⟨base, keys⟩
    · rwa [valueVia_unresolved hr]
    · by_cases hsettled : a.session.values.lookup t ≠ none ∨ t ∈ a.session.active
      · rwa [valueVia_settled_snd hr hsettled]
      · obtain ⟨hl, hact⟩ := not_or.mp hsettled
        have hl := not_ne_iff.mp hl
        rw [valueVia_settle hr hl hact]
        refine hI.own ha h hl hact (Scope.resolve_self (Scope.resolve_final hr)) fun b hb => ?_
        exact hin b (by rw [Visit.Asks, valueVisits_own hr hl hact]; exact hb)
    · rw [valueVia_extract_snd hr]
      exact (hin ⟨base, a.session⟩ (by simp [Visit.Asks, valueVisits_extract hr])).2 h

lemma value (hI : Lasting w I) (hs : s.Guarded) (h : I s) (n : NodeRef) :
    I ((Eval.value n).exec w s).2 :=
  hI.visit (a := ⟨n, s⟩) hs h

/-- An invariant outlasts scripts. -/
lemma run (hI : Lasting w I) (hs : s.Guarded) (h : I s) {α : Type} (x : Script α) :
    I ((x.run Eval.value).exec w s).2 := by
  have hR : Passive (Preserves fun s => s.Guarded ∧ I s) :=
    passive_preserves (fun t r h => ⟨⟨h.1.nodup, h.1.known⟩, hI.tables t r h.2⟩)
      fun src h => ⟨⟨h.1.nodup, h.1.known⟩, hI.source src h.2⟩
  refine (Script.run_rel hR x s (fun b _ hb => ?_) ⟨hs, h⟩).2
  exact ⟨hb.1.keeps (keeps_value w b.node b.session), hI.visit hb.1 hb.2⟩

/-- An invariant may rest on another one. -/
lemma and {J : Session → Prop} (hI : Lasting w I)
    (htables : ∀ {s : Session} t r, J s → J { s with tables := t, requests := r })
    (hsource : ∀ {s : Session} src, J s → J { s with source := src })
    (hown : ∀ {s : Session} {t : NodeRef}, s.Guarded → I s → J s → s.values.lookup t = none →
      t ∉ s.active → (s.scope w).resolve t = .ok (.value t) →
      (∀ b ∈ ownVisits Eval.value w t (s.enter t), b.session.Guarded ∧
        Preserves (fun s => I s ∧ J s) b.session (b.outcome Eval.value w).2) →
      J (((ownValue Eval.value t).exec w (s.enter t)).2.settle t
        ((ownValue Eval.value t).exec w (s.enter t)).1)) :
    Lasting w fun s => I s ∧ J s where
  tables t r h := ⟨hI.tables t r h.1, htables t r h.2⟩
  source src h := ⟨hI.source src h.1, hsource src h.2⟩
  own hs h hl ha hr hv :=
    ⟨hI.own hs h.1 hl ha hr fun b hb => ⟨(hv b hb).1, hI.visit (hv b hb).1⟩,
      hown hs h.1 h.2 hl ha hr hv⟩

end Lasting

end TestData.Engine
