import TestData.Proofs.Session.Termination

/-!
A session stays usable.

However a request ends, no node counts as being evaluated any more, every generator is back where
it was taken from, and what was kept is kept; only what failed has no value.
-/

namespace TestData.Engine

open Schema

/-- **A session stays usable.** After a request for a value or for an entity, however it ends, no
node is being evaluated, every node that had a generator has one, every value that was kept is
kept, and no node whose evaluation failed on the way has a value. At any depth a request leaves the
nodes that are being evaluated as it found them. -/
theorem session_usable {s : Session} (hs : Reachable s) (w : World) (r : Request)
    (hr : (∃ n, r = .value n) ∨ ∃ name, r = .entity name) :
    (r.exec w s).2.active = [] ∧
      (∀ t, s.generators.lookup t ≠ none → (r.exec w s).2.generators.lookup t ≠ none) ∧
      (∀ t v, s.values.lookup t = some v → (r.exec w s).2.values.lookup t = some v) ∧
      (∀ a b t f s₁, r.root? s = some a → a.Reaches w b →
        (s.scope w).resolve b.node = .ok (.value t) →
        b.outcome Eval.value w = (.error f, s₁) → (r.exec w s).2.values.lookup t = none) ∧
      ∀ (n : NodeRef) (w₁ : World) (s₁ : Session),
        ((Eval.value n).exec w₁ s₁).2.active = s₁.active := by
  have hrow : r.newRow = false := by rcases hr with ⟨n, rfl⟩ | ⟨name, rfl⟩ <;> rfl
  have hg : Grows s (r.exec w s).2 := r.grows_exec hrow
  refine ⟨hg.active.trans hs.idle, hg.generators, hg.values, fun a b t f s₁ ha hb ht hf => ?_,
    fun n w₁ s₁ => (grows_value w₁ n s₁).active⟩
  have hsession : a.session = s := by
    rcases hr with ⟨n, rfl⟩ | ⟨name, rfl⟩
    · rw [← Option.some.inj ha]
    · obtain ⟨n, -, rfl⟩ := Option.map_eq_some_iff.mp ha
      rfl
  subst hsession
  rw [Request.exec_snd_of_root ha]
  exact Visit.lookup_of_reaches_error (.of_idle hs.idle) hb ht hf

/-- After a request for a list that holds itself, the list has no value and is not being
evaluated. -/
theorem session_usable_after_loop :
    ((Request.value ⟨0, 1⟩).exec Loop.world Loop.session).2.active = [] ∧
      ((Request.value ⟨0, 1⟩).exec Loop.world Loop.session).2.values.lookup ⟨0, 1⟩ = none := by
  have hs : Reachable Loop.session := .start _ _ _ _
  obtain ⟨hactive, -, -, hvalues, -⟩ :=
    session_usable hs Loop.world (.value ⟨0, 1⟩) (.inl ⟨_, rfl⟩)
  obtain ⟨s', hs'⟩ := Visit.circular_of_within (a := ⟨⟨0, 1⟩, Loop.session⟩) (.of_idle hs.idle)
    .refl (.single Loop.asks_item) Loop.resolve_list Loop.resolve_item
  exact ⟨hactive, hvalues _ _ _ _ _ rfl .refl Loop.resolve_list hs'⟩

end TestData.Engine
