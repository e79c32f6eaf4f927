import TestData.Proofs.Evaluation.Uses
import TestData.Proofs.Session.Invariant

/-!
Nodes that do not depend on each other are kept apart.

Whatever was asked of an engine before, the generator of a node keeps to what the node owns. So a
request for a node leaves alone what the node does not depend on, values and generators alike, even
where it fails. A function node that owns nothing and reads no names leaves every other node alone,
one with the same call included.
-/

/-- A call that owns no nodes and reads no names. -/
def TestData.Schema.Call.Alone (c : TestData.Schema.Call) : Prop :=
  c.operands = [] ∧
    ∀ text params, c = .template text params → TestData.Template.names text = []

namespace TestData.Engine

open Schema

variable {s : Session} {w : World} {n t : NodeRef} {c : Call}

lemma Reachable.owned (h : Reachable s) : s.Holds (Generator.Owned s.workspace) :=
  h.holds (P := Generator.Owned) (fun st _ _ hk => Generator.owned_ofCallAs st hk)
    fun hg hst => hg.step hst

/-- A function node on its own depends on itself only. -/
lemma Scope.DependsOn.eq_of_alone {s : Scope} (h : s.DependsOn n t)
    (hk : s.workspace.kind n = .call c) (hc : c.Alone) : t = n := by
  induction h with
  | refl => rfl
  | tail _ hu ih =>
    subst ih
    cases hu with
    | child hid =>
      rw [hk, Kind.children, hc.1] at hid
      cases hid
    | target hr =>
      rw [Scope.resolve_call hk] at hr
      exact (Resolution.value.inj (Except.ok.inj hr)).symm
    | base hr =>
      rw [Scope.resolve_call hk] at hr
      cases hr
    | name hk' hn =>
      rw [hc.2 _ _ (Kind.call.inj (hk.symm.trans hk'))] at hn
      cases hn

/-- **An evaluation touches only what it depends on.** A request for a node, whatever was asked
before and however it ends, leaves the value and the generator of every node as they are that the
node does not depend on. A function node that owns no nodes and reads no names depends on no other
node, so nodes with the same such call leave each other alone. -/
theorem evaluation_touches_dependencies (hs : Reachable s) (w : World) (n : NodeRef) :
    (∀ t, ¬ (s.scope w).DependsOn n t →
      ((Eval.value n).exec w s).2.values.lookup t = s.values.lookup t ∧
        ((Eval.value n).exec w s).2.generators.lookup t = s.generators.lookup t) ∧
      ∀ c, s.workspace.kind n = .call c → c.Alone → ∀ t, t ≠ n →
        ((Eval.value n).exec w s).2.values.lookup t = s.values.lookup t ∧
          ((Eval.value n).exec w s).2.generators.lookup t = s.generators.lookup t := by
  have huntouched : ∀ t, ¬ (s.scope w).DependsOn n t →
      Untouched t s ((Eval.value n).exec w s).2 := fun t ht =>
    Visit.untouched_of_not_dependsOn (a := ⟨n, s⟩) (.of_idle hs.idle) hs.owned ht
  refine ⟨fun t ht => ?_, fun c hk hc t hne => ?_⟩
  · obtain ⟨hv, hg⟩ := huntouched t ht
    exact ⟨hv, hg⟩
  · obtain ⟨hv, hg⟩ := huntouched t fun h => hne (h.eq_of_alone (s := s.scope w) hk hc)
    exact ⟨hv, hg⟩

/-! ### Two counters -/

namespace Labelled

/-- An entity with two sequences that are alike and a label that shows the first of them. -/
def document : Document :=
  { path := "a.yaml", imports := [], entities := [7]
    nodes := #[{ kind := .call (.sequence 1), parent := some 1 },
      { kind := .property "id" 0, parent := some 6 },
      { kind := .call (.sequence 1), parent := some 3 },
      { kind := .property "other" 2, parent := some 6 },
      { kind := .call (.template "\x7b\x7bid\x7d\x7d" []), parent := some 5 },
      { kind := .property "label" 4, parent := some 6 },
      { kind := .object [1, 3, 5], parent := some 7 }, { kind := .entity "A" 6 }] }

/-- A world without files. -/
def world : World := { disk := .ofDirectory [], time := default, entropy := 0 }

/-- An engine for the document. -/
def session : Session := .start (.ofDocuments world.disk [document]) CallKind.all {} world

/-- The label, what its name means, and what that stands for. -/
def shown : List NodeRef := [⟨0, 4⟩, ⟨0, 1⟩, ⟨0, 0⟩]

lemma uses_shown {n m : NodeRef} (hn : n ∈ shown) (h : (session.scope world).Uses n m) :
    m ∈ shown := by
  have hnames : Template.names "\x7b\x7bid\x7d\x7d" = ["id"] ∧
      (session.scope world).lookup? ⟨0, 4⟩ "id" = some ⟨0, 1⟩ := ⟨rfl, rfl⟩
  have hstands : ∀ {n t u : NodeRef}, (session.scope world).resolve n = .ok (.value t) →
      (session.scope world).resolve n = .ok (.value u) → t = u := fun h h' =>
    Resolution.value.inj (Except.ok.inj (h.symm.trans h'))
  simp only [shown, List.mem_cons, List.not_mem_nil, or_false] at hn ⊢
  rcases hn with rfl | rfl | rfl
  · cases h with
    | child hid => cases hid
    | target hr => exact .inl (hstands hr rfl)
    | base hr => cases hr
    | name hk hn _ hl =>
      obtain ⟨rfl, -⟩ := Call.template.inj (Kind.call.inj hk)
      rw [hnames.1, List.mem_singleton] at hn
      rw [hn, hnames.2] at hl
      exact .inr (.inl (Option.some.inj hl).symm)
  · cases h with
    | child hid =>
      obtain rfl := List.mem_singleton.mp hid
      exact .inr (.inr rfl)
    | target hr => exact .inr (.inr (hstands hr rfl))
    | base hr => cases hr
    | name hk => cases hk
  · have halone : (Call.sequence 1).Alone := ⟨rfl, nofun⟩
    exact .inr (.inr (Scope.DependsOn.eq_of_alone (.single h) rfl halone))

lemma dependsOn_shown {n m : NodeRef} (hn : n ∈ shown)
    (h : (session.scope world).DependsOn n m) : m ∈ shown := by
  induction h with
  | refl => exact hn
  | tail _ hu ih => exact uses_shown ih hu

end Labelled

/-- A request for the label leaves the other sequence alone, although it is like the first one, and
a request for the first one does so too. -/
theorem like_sequence_untouched :
    ((Eval.value ⟨0, 4⟩).exec Labelled.world Labelled.session).2.generators.lookup ⟨0, 2⟩ =
        Labelled.session.generators.lookup ⟨0, 2⟩ ∧
      Labelled.session.workspace.kind ⟨0, 2⟩ = Labelled.session.workspace.kind ⟨0, 0⟩ ∧
      ((Eval.value ⟨0, 0⟩).exec Labelled.world Labelled.session).2.generators.lookup ⟨0, 2⟩ =
        Labelled.session.generators.lookup ⟨0, 2⟩ := by
  have hreach : Reachable Labelled.session := .start _ _ _ _
  have hapart : ¬ (Labelled.session.scope Labelled.world).DependsOn ⟨0, 4⟩ ⟨0, 2⟩ := by
    intro h
    have hmem := Labelled.dependsOn_shown (by simp [Labelled.shown]) h
    simp [Labelled.shown] at hmem
  refine ⟨((evaluation_touches_dependencies hreach Labelled.world ⟨0, 4⟩).1 _ hapart).2, rfl, ?_⟩
  exact ((evaluation_touches_dependencies hreach Labelled.world ⟨0, 0⟩).2 (.sequence 1) rfl
    ⟨rfl, nofun⟩ ⟨0, 2⟩ (by simp)).2

end TestData.Engine
