import Mathlib.Logic.Relation
import TestData.Proofs.Evaluation.Depth

/-!
Requests inside requests, at any depth.

An error of a request is the error of every request around it. While a node is evaluated it is
open: it is being evaluated and has no value, and every request inside finds it so. Hence a node
that is needed while it is evaluated ends everything in a circular error, and a node whose
evaluation fails gets no value.
-/

namespace TestData.Engine

open Schema

/-- A node is being evaluated and has no value. -/
def Session.Open (s : Session) (t : NodeRef) : Prop := t ∈ s.active ∧ s.values.lookup t = none

variable {s s' : Session} {t : NodeRef} {w : World}

lemma Session.Open.keeps (h : s.Open t) (hk : Keeps s s') : s'.Open t :=
  ⟨hk.active ▸ h.1, (hk.held t h.1).trans h.2⟩

lemma Session.Open.enter (h : s.Open t) (u : NodeRef) : (s.enter u).Open t :=
  ⟨List.mem_cons_of_mem u h.1, h.2⟩

lemma Session.open_enter (h : s.values.lookup t = none) : (s.enter t).Open t :=
  ⟨List.mem_cons_self, h⟩

namespace Visit

variable {a b c : Visit}

/-! ### One request inside another -/

lemma Asks.cases (h : a.Asks w b) :
    (∃ keys, (a.session.scope w).resolve a.node = .ok (.extract b.node keys) ∧
        b.session = a.session) ∨
      ∃ t, (a.session.scope w).resolve a.node = .ok (.value t) ∧
        a.session.values.lookup t = none ∧ t ∉ a.session.active ∧
        t ∈ a.session.workspace.refs ∧ Keeps (a.session.enter t) b.session :=
  valueVisits_cases (keeps_value w) h

lemma Asks.setting (h : a.Asks w b) : b.session.setting w = a.session.setting w := by
  rcases h.cases with ⟨-, -, hs⟩ | ⟨t, -, -, -, -, hk⟩
  · rw [hs]
  · exact hk.setting w

lemma Asks.workspace (h : a.Asks w b) : b.session.workspace = a.session.workspace :=
  congrArg Setting.workspace h.setting

lemma Asks.scope (h : a.Asks w b) : b.session.scope w = a.session.scope w :=
  congrArg Setting.scope h.setting

lemma Asks.open (h : a.Asks w b) (ho : a.session.Open t) : b.session.Open t := by
  rcases h.cases with ⟨-, -, hs⟩ | ⟨u, -, -, -, -, hk⟩
  · rwa [hs]
  · exact (ho.enter u).keeps hk

/-- The node that a request evaluates is open inside. -/
lemma Asks.open_own (h : a.Asks w b) (hr : (a.session.scope w).resolve a.node = .ok (.value t)) :
    b.session.Open t := by
  rcases h.cases with ⟨keys, hr', -⟩ | ⟨u, hr', hl, -, -, hk⟩
  · cases hr.symm.trans hr'
  · obtain rfl : t = u := by cases hr.symm.trans hr'; rfl
    exact (Session.open_enter hl).keeps hk

lemma Asks.error (h : a.Asks w b) (ha : a.session.Guarded) {f : Failure}
    (hf : b.outcome Eval.value w = (.error f, s')) :
    ∃ s'', a.outcome Eval.value w = (.error f, s'') ∧ s''.values = s'.values := by
  unfold outcome
  rw [exec_value_eq_valueVia ha]
  exact valueVia_error h hf

/-! ### At any depth -/

/-- A request, or one made inside it at any depth. -/
def Reaches (w : World) : Visit → Visit → Prop := Relation.ReflTransGen (Asks w)

/-- A request made inside another one, at any depth. -/
def Within (w : World) : Visit → Visit → Prop := Relation.TransGen (Asks w)

lemma Reaches.guarded (h : a.Reaches w b) (ha : a.session.Guarded) : b.session.Guarded := by
  induction h with
  | refl => exact ha
  | tail _ hb ih => exact (hb.need_lt ih).1

lemma Reaches.setting (h : a.Reaches w b) : b.session.setting w = a.session.setting w := by
  induction h with
  | refl => rfl
  | tail _ hb ih => exact hb.setting.trans ih

lemma Reaches.scope (h : a.Reaches w b) : b.session.scope w = a.session.scope w := by
  rw [Session.scope, Session.scope, h.setting]

lemma Reaches.workspace (h : a.Reaches w b) : b.session.workspace = a.session.workspace :=
  congrArg Setting.workspace h.setting

lemma Reaches.open (h : a.Reaches w b) (ho : a.session.Open t) : b.session.Open t := by
  induction h with
  | refl => exact ho
  | tail _ hb ih => exact hb.open ih

/-- An error of a request is the error of every request around it, and no value comes to be kept
on the way. -/
lemma Reaches.error (h : a.Reaches w b) (ha : a.session.Guarded) {f : Failure}
    (hf : b.outcome Eval.value w = (.error f, s')) :
    ∃ s'', a.outcome Eval.value w = (.error f, s'') ∧ s''.values = s'.values := by
  induction h using Relation.ReflTransGen.head_induction_on with
  | refl => exact ⟨s', hf, rfl⟩
  | head hb _ ih =>
    obtain ⟨s₁, h₁, hv₁⟩ := ih (hb.need_lt ha).1
    obtain ⟨s₂, h₂, hv₂⟩ := hb.error ha h₁
    exact ⟨s₂, h₂, hv₂.trans hv₁⟩

/-! ### Cycles and failures -/

lemma circular_of_open (hg : b.session.Guarded) (ho : b.session.Open t)
    (hr : (b.session.scope w).resolve b.node = .ok (.value t)) :
    b.outcome Eval.value w =
      (.error (.error (.circular (b.session.location t))), b.session) := by
  unfold outcome
  rw [exec_value_eq_valueVia hg, valueVia_active hr ho.2 ho.1]

/-- **A cycle is found**: a node that is needed while it is evaluated ends every request around it
in a circular error that names the node. -/
theorem circular_of_within (ha : a.session.Guarded) (hb : a.Reaches w b) (hc : b.Within w c)
    (hr : (a.session.scope w).resolve b.node = .ok (.value t))
    (hr' : (a.session.scope w).resolve c.node = .ok (.value t)) :
    ∃ s', a.outcome Eval.value w =
      (.error (.error (.circular (a.session.location t))), s') := by
  obtain ⟨d, hd, hdc⟩ := Relation.TransGen.head'_iff.mp hc
  have hac : a.Reaches w c := Relation.ReflTransGen.trans hb hc.to_reflTransGen
  -- the node stays open from the first request that its evaluation makes
  have ho : c.session.Open t :=
    Reaches.open hdc (hd.open_own (by rw [hb.scope]; exact hr))
  have hcirc := circular_of_open (w := w) (hac.guarded ha) ho (by rw [hac.scope]; exact hr')
  obtain ⟨s', hs', -⟩ := hac.error ha hcirc
  refine ⟨s', ?_⟩
  rw [hs', Session.location, Session.location, hac.workspace]

lemma lookup_of_error (hg : b.session.Guarded)
    (hr : (b.session.scope w).resolve b.node = .ok (.value t)) {f : Failure}
    (hf : b.outcome Eval.value w = (.error f, s')) : s'.values.lookup t = none := by
  unfold outcome at hf
  rw [exec_value_eq_valueVia hg] at hf
  rcases hl : b.session.values.lookup t with _ | v
  · by_cases ha : t ∈ b.session.active
    · rw [valueVia_active hr hl ha] at hf
      obtain ⟨-, rfl⟩ := Prod.mk.inj hf
      exact hl
    · have hk := grows_ownValue w t (b.session.enter t)
      rw [valueVia_own hr hl ha] at hf
      rcases ho : (ownValue Eval.value t).exec w (b.session.enter t) with ⟨_ | v, s₁⟩ <;>
        rw [ho] at hf hk
      · obtain ⟨-, rfl⟩ := Prod.mk.inj hf
        exact ((Session.open_enter hl).keeps hk.toKeeps).2
      · cases (Prod.mk.inj hf).1
  · rw [valueVia_cached hr hl] at hf
    cases (Prod.mk.inj hf).1

/-- **A failure keeps no value**: a node whose evaluation fails has no value afterwards. -/
theorem lookup_of_reaches_error (ha : a.session.Guarded) (hb : a.Reaches w b)
    (hr : (a.session.scope w).resolve b.node = .ok (.value t)) {f : Failure} {s₁ : Session}
    (hf : b.outcome Eval.value w = (.error f, s₁)) :
    (a.outcome Eval.value w).2.values.lookup t = none := by
  obtain ⟨s₂, h₂, hv⟩ := hb.error ha hf
  rw [h₂]
  show s₂.values.lookup t = none
  rw [hv]
  exact lookup_of_error (hb.guarded ha) (by rw [hb.scope]; exact hr) hf

end Visit

end TestData.Engine
