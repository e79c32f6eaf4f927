import TestData.Proofs.Evaluation.Nested

/-!
What has a value is settled.

Once a node has a value in a row, nothing is done at the node any more: its value stays, and so
does its generator, with whatever that has drawn. Nothing is done either, from inside, at a node
that is being evaluated.
-/

namespace TestData.Engine

open Schema

/-- What concerns a node stays as it is. -/
structure Untouched (t : NodeRef) (s s' : Session) : Prop where
  values : s'.values.lookup t = s.values.lookup t
  generators : s'.generators.lookup t = s.generators.lookup t

/-- What concerns a node stays as it is if the node has a value or is being evaluated. -/
def Held (t : NodeRef) (s s' : Session) : Prop :=
  s.values.lookup t ≠ none ∨ t ∈ s.active → Untouched t s s' ∧ (t ∈ s.active → t ∈ s'.active)

/-- What is known stays as it is, and means the same. -/
structure Settles (s s' : Session) : Prop where
  workspace : s'.workspace = s.workspace
  functions : s'.functions = s.functions
  options : s'.options = s.options
  held : ∀ t, s.values.lookup t ≠ none → Untouched t s s'

variable {t n : NodeRef} {s s' s₁ s₂ s₃ : Session} {w : World}

namespace Untouched

lemma passive : Passive (Untouched t) where
  refl _ := ⟨rfl, rfl⟩
  trans h h' := ⟨h'.values.trans h.values, h'.generators.trans h.generators⟩
  tables _ _ _ := ⟨rfl, rfl⟩
  source _ _ := ⟨rfl, rfl⟩

/-- What is done at another node does not concern a node. -/
lemma indifferent (h : n ≠ t) : Indifferent (Untouched t) n where
  without s := ⟨rfl, by simp [h.symm]⟩
  insert s g := ⟨rfl, by simp [h.symm]⟩
  enter _ := ⟨rfl, rfl⟩
  leave _ := ⟨rfl, rfl⟩
  keep s v := ⟨by simp [h.symm], rfl⟩

end Untouched

/-- Where no request is for a node, what concerns the node stays as it is. -/
lemma Visit.untouched {a : Visit} (ha : a.session.Guarded)
    (h : ∀ b, a.Reaches w b → (a.session.scope w).resolve b.node ≠ .ok (.value t)) :
    Untouched t a.session (a.outcome Eval.value w).2 := by
  induction acc_asks (w := w) ha with
  | intro a _ ih =>
    unfold outcome
    rw [exec_value_eq_valueVia ha]
    refine valueVia_rel Untouched.passive (fun u hu => ?_) fun b hb => ?_
    · have hne : u ≠ t := by
        rintro rfl
        exact h a .refl hu
      exact (Untouched.indifferent hne).bracketed Untouched.passive
    · have hab : a.Asks w b := hb
      refine ih b hab (hab.need_lt ha).1 fun c hc => ?_
      have hs : b.session.scope w = a.session.scope w := Reaches.scope (.single hab)
      rw [hs]
      exact h c (.head hab hc)

namespace Held

lemma passive : Passive (Held t) where
  refl s _ := ⟨Untouched.passive.refl s, id⟩
  trans h h' hs := by
    obtain ⟨hu, ha⟩ := h hs
    obtain ⟨hu', ha'⟩ := h' (hs.imp (by rw [hu.values]; exact id) ha)
    exact ⟨Untouched.passive.trans hu hu', ha' ∘ ha⟩
  tables s tables r _ := ⟨Untouched.passive.tables s tables r, id⟩
  source s src _ := ⟨Untouched.passive.source s src, id⟩

lemma indifferent (h : n ≠ t) : Indifferent (Held t) n where
  without s _ := ⟨(Untouched.indifferent h).without s, id⟩
  insert s g _ := ⟨(Untouched.indifferent h).insert s g, id⟩
  enter s _ := ⟨(Untouched.indifferent h).enter s, List.mem_cons_of_mem n⟩
  leave s _ := ⟨(Untouched.indifferent h).leave s, fun ht => (List.mem_erase_of_ne h.symm).mpr ht⟩
  keep s v _ := ⟨(Untouched.indifferent h).keep s v, id⟩

end Held

/-- A request does nothing at a node that has a value or is being evaluated. -/
lemma Visit.held {a : Visit} (ha : a.session.Guarded) (t : NodeRef) :
    Held t a.session (a.outcome Eval.value w).2 := by
  induction acc_asks (w := w) ha with
  | intro a _ ih =>
    unfold outcome
    rw [exec_value_eq_valueVia ha]
    by_cases hr : (a.session.scope w).resolve a.node = .ok (.value t)
    · intro hs
      rcases hv : a.session.values.lookup t with _ | v
      · have hact : t ∈ a.session.active := hs.resolve_left (by rw [hv]; simp)
        rw [valueVia_active hr hv hact]
        exact ⟨Untouched.passive.refl _, id⟩
      · rw [valueVia_cached hr hv]
        exact ⟨Untouched.passive.refl _, id⟩
    · refine valueVia_rel Held.passive (fun u hu => ?_) fun b hb => ?_
      · have hne : u ≠ t := by
          rintro rfl
          exact hr hu
        exact (Held.indifferent hne).bracketed Held.passive
      · have hab : a.Asks w b := hb
        exact ih b hab (hab.need_lt ha).1

namespace Settles

protected lemma refl (s : Session) : Settles s s :=
  ⟨rfl, rfl, rfl, fun _ _ => Untouched.passive.refl s⟩

protected lemma trans (h : Settles s₁ s₂) (h' : Settles s₂ s₃) : Settles s₁ s₃ where
  workspace := h'.workspace.trans h.workspace
  functions := h'.functions.trans h.functions
  options := h'.options.trans h.options
  held t ht := by
    have hu := h.held t ht
    exact Untouched.passive.trans hu (h'.held t (by rw [hu.values]; exact ht))

lemma passive : Passive Settles where
  refl := Settles.refl
  trans := Settles.trans
  tables s tables r := ⟨rfl, rfl, rfl, fun _ _ => Untouched.passive.tables s tables r⟩
  source s src := ⟨rfl, rfl, rfl, fun _ _ => Untouched.passive.source s src⟩

lemma enter (s : Session) (n : NodeRef) : Settles s (s.enter n) :=
  ⟨rfl, rfl, rfl, fun _ _ => ⟨rfl, rfl⟩⟩

lemma leave (s : Session) (n : NodeRef) : Settles s (s.leave n) :=
  ⟨rfl, rfl, rfl, fun _ _ => ⟨rfl, rfl⟩⟩

/-- What is done at a node without a value does not concern what is known. -/
lemma without (h : s.values.lookup n = none) : Settles s (s.withoutGenerator n) :=
  ⟨rfl, rfl, rfl, fun t ht => (Untouched.indifferent (by rintro rfl; exact ht h)).without s⟩

lemma insert (h : s.values.lookup n = none) (g : Generator) : Settles s (s.withGenerator n g) :=
  ⟨rfl, rfl, rfl, fun t ht => (Untouched.indifferent (by rintro rfl; exact ht h)).insert s g⟩

lemma keep (h : s.values.lookup n = none) (v : Option Value) : Settles s (s.keep n v) :=
  ⟨rfl, rfl, rfl, fun t ht => (Untouched.indifferent (by rintro rfl; exact ht h)).keep s v⟩

lemma lookup {v : Option Value} (h : Settles s s') (hv : s.values.lookup t = some v) :
    s'.values.lookup t = some v :=
  (h.held t (by rw [hv]; simp)).values.trans hv

lemma generators {v : Option Value} (h : Settles s s') (hv : s.values.lookup t = some v) :
    s'.generators.lookup t = s.generators.lookup t :=
  (h.held t (by rw [hv]; simp)).generators

lemma setting (h : Settles s s') (w : World) : s'.setting w = s.setting w := by
  simp only [Session.setting, h.workspace, h.functions, h.options]

lemma scope (h : Settles s s') (w : World) : s'.scope w = s.scope w := by
  rw [Session.scope, Session.scope, h.setting]

end Settles

/-- **What has a value is settled**: no request changes it or its generator. -/
theorem settles_value (hs : s.Guarded) (w : World) (n : NodeRef) :
    Settles s ((Eval.value n).exec w s).2 :=
  have h := keeps_value w n s
  ⟨h.workspace, h.functions, h.options, fun t ht => (Visit.held (a := ⟨n, s⟩) hs t (.inl ht)).1⟩

end TestData.Engine
