import TestData.Proofs.Evaluation.Exec

/-!
Visits: the requests for values that a script makes.

A visit is a request together with the session in which it is made. The visits of a script are
listed in the order in which they happen, given how a visited node is evaluated. What a script
does to a session is put together from what its visits do, and an error of a visit is the error
of the script.
-/

namespace TestData.Engine

open Schema

/-- A request for the value of a node, with the session in which it is made. -/
structure Visit where
  node : NodeRef
  session : Session

/-- How a visit ends, given how a node is evaluated. -/
def Visit.outcome (value : NodeRef → Eval (Option Value)) (w : World) (b : Visit) :
    Except Failure (Option Value) × Session :=
  (value b.node).exec w b.session

/-- A relation that allows any change of the tables and of the random source. -/
structure Passive (R : Session → Session → Prop) : Prop where
  refl : ∀ s, R s s
  trans : ∀ {s₁ s₂ s₃}, R s₁ s₂ → R s₂ s₃ → R s₁ s₃
  tables : ∀ s t r, R s { s with tables := t, requests := r }
  source : ∀ s src, R s { s with source := src }

namespace Script

variable {α : Type} (value value' : NodeRef → Eval (Option Value)) (w : World)

/-- The visits of a script. -/
def visits : Script α → Session → List Visit
  | done _, _ | fail _, _ => []
  | look k, s => (k (s.setting w)).visits s
  | ask n k, s =>
    ⟨n, s⟩ ::
      match (value n).exec w s with
      | (.ok v, s') => (k v).visits s'
      | (.error _, _) => []
  | selected n k, s => (k (s.selected? n)).visits s
  | table n source k, s =>
    match (Eval.table n source).exec w s with
    | (.ok t, s') => (k t).visits s'
    | (.error _, _) => []

variable {value value' w} {R : Session → Session → Prop}

/-- A script is put together from its visits. -/
lemma run_rel (hR : Passive R) (x : Script α) (s : Session)
    (h : ∀ b ∈ x.visits value w s, R b.session (b.outcome value w).2) :
    R s ((x.run value).exec w s).2 := by
  induction x generalizing s with
  | done a => exact hR.refl s
  | fail e => exact hR.refl s
  | look k ih => exact ih _ s h
  | selected n k ih => exact ih _ s h
  | ask n k ih =>
    have h0 : R s ((value n).exec w s).2 := h ⟨n, s⟩ (by simp [visits])
    rw [exec_ask]
    rcases hv : (value n).exec w s with ⟨_ | v, s'⟩ <;> rw [hv] at h0
    · exact h0
    · exact hR.trans h0 (ih v s' fun b hb => h b (by simp [visits, hv, hb]))
  | table n source k ih =>
    obtain ⟨t, r, ht⟩ := Eval.exec_table w s n source
    have h0 : R s ((Eval.table n source).exec w s).2 := by rw [ht]; exact hR.tables s t r
    rw [exec_table]
    rcases hv : (Eval.table n source).exec w s with ⟨_ | t, s'⟩ <;> rw [hv] at h0
    · exact h0
    · exact hR.trans h0 (ih t s' fun b hb => h b (by simpa [visits, hv] using hb))

/-- What holds between a script's start and each of its visits, and between each visit's end and
the script's end. -/
lemma rel_visit (hR : Passive R) (x : Script α) (s : Session)
    (h : ∀ b ∈ x.visits value w s, R b.session (b.outcome value w).2) :
    ∀ b ∈ x.visits value w s,
      R s b.session ∧ R (b.outcome value w).2 ((x.run value).exec w s).2 := by
  induction x generalizing s with
  | done a => intro b hb; simp [visits] at hb
  | fail e => intro b hb; simp [visits] at hb
  | look k ih => exact ih _ s h
  | selected n k ih => exact ih _ s h
  | ask n k ih =>
    intro b hb
    have h0 : R s ((value n).exec w s).2 := h ⟨n, s⟩ (by simp [visits])
    rw [exec_ask]
    rcases hv : (value n).exec w s with ⟨_ | v, s'⟩ <;> rw [hv] at h0
    · obtain rfl : b = ⟨n, s⟩ := by simpa [visits, hv] using hb
      exact ⟨hR.refl s, by simpa [Visit.outcome, hv] using hR.refl s'⟩
    · have h' : ∀ b ∈ (k v).visits value w s', R b.session (b.outcome value w).2 :=
        fun b hb => h b (by simp [visits, hv, hb])
      rcases (by simpa [visits, hv] using hb : b = ⟨n, s⟩ ∨ b ∈ (k v).visits value w s')
        with rfl | hb
      · exact ⟨hR.refl s, by simpa [Visit.outcome, hv] using run_rel hR (k v) s' h'⟩
      · exact ⟨hR.trans h0 (ih v s' h' b hb).1, (ih v s' h' b hb).2⟩
  | table n source k ih =>
    intro b hb
    obtain ⟨t, r, ht⟩ := Eval.exec_table w s n source
    have h0 : R s ((Eval.table n source).exec w s).2 := by rw [ht]; exact hR.tables s t r
    rw [exec_table]
    rcases hv : (Eval.table n source).exec w s with ⟨_ | t, s'⟩ <;> rw [hv] at h0
    · simp [visits, hv] at hb
    · have h' : ∀ b ∈ (k t).visits value w s', R b.session (b.outcome value w).2 :=
        fun b hb => h b (by simpa [visits, hv] using hb)
      have hb' : b ∈ (k t).visits value w s' := by simpa [visits, hv] using hb
      exact ⟨hR.trans h0 (ih t s' h' b hb').1, (ih t s' h' b hb').2⟩

/-- A script depends on the evaluation of nodes at its visits only. -/
lemma run_congr (x : Script α) (s : Session)
    (h : ∀ b ∈ x.visits value w s, b.outcome value' w = b.outcome value w) :
    (x.run value').exec w s = (x.run value).exec w s ∧
      x.visits value' w s = x.visits value w s := by
  induction x generalizing s with
  | done a => exact ⟨rfl, rfl⟩
  | fail e => exact ⟨rfl, rfl⟩
  | look k ih => exact ih _ s h
  | selected n k ih => exact ih _ s h
  | ask n k ih =>
    have h0 : (value' n).exec w s = (value n).exec w s := h ⟨n, s⟩ (by simp [visits])
    rw [exec_ask, exec_ask, visits, visits, h0]
    rcases hv : (value n).exec w s with ⟨_ | v, s'⟩
    · exact ⟨rfl, rfl⟩
    · obtain ⟨h1, h2⟩ := ih v s' fun b hb => h b (by simp [visits, hv, hb])
      exact ⟨h1, by simp only [h2]⟩
  | table n source k ih =>
    rw [exec_table, exec_table, visits, visits]
    rcases hv : (Eval.table n source).exec w s with ⟨_ | t, s'⟩
    · exact ⟨rfl, rfl⟩
    · exact ih t s' fun b hb => h b (by simpa [visits, hv] using hb)

/-- A script ends where a visit fails. -/
lemma run_error (x : Script α) (s : Session) {b : Visit} (hb : b ∈ x.visits value w s)
    {f : Failure} {s' : Session} (hf : b.outcome value w = (.error f, s')) :
    (x.run value).exec w s = (.error f, s') := by
  induction x generalizing s with
  | done a => simp [visits] at hb
  | fail e => simp [visits] at hb
  | look k ih => exact ih _ s hb
  | selected n k ih => exact ih _ s hb
  | ask n k ih =>
    rw [exec_ask]
    rcases hv : (value n).exec w s with ⟨g | v, s₁⟩
    · obtain rfl : b = ⟨n, s⟩ := by simpa [visits, hv] using hb
      rw [Visit.outcome, hv] at hf
      obtain ⟨⟨⟩, rfl⟩ := Prod.mk.inj hf
      rfl
    · rcases (by simpa [visits, hv] using hb : b = ⟨n, s⟩ ∨ b ∈ (k v).visits value w s₁)
        with rfl | hb
      · rw [Visit.outcome, hv] at hf
        cases (Prod.mk.inj hf).1
      · exact ih v s₁ hb
  | table n source k ih =>
    rw [exec_table]
    rcases hv : (Eval.table n source).exec w s with ⟨_ | t, s₁⟩
    · simp [visits, hv] at hb
    · exact ih t s₁ (by simpa [visits, hv] using hb)

end Script

end TestData.Engine
