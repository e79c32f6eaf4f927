import TestData.Proofs.Evaluation.Fit

/-!
Where errors come from.

An error of a request comes from a request inside it, at any depth, that fails by itself: no request
that it makes does. What is invariant holds there as well. And what a script by itself may fail
with can be read off the script, whatever it is answered.
-/

namespace TestData.Engine

open Schema

/-! ### What a script blames -/

lemma Eval.blames_of_table {w : World} {s s' : Session} {n : NodeRef} {source : TableSource}
    {e : EvalError} {Q : Location → String → Span → Prop}
    (h : (Eval.table n source).exec w s = (.error (.error e), s')) : e.Blames Q := by
  unfold Eval.table at h
  simp only [exec_bind, exec_get, exec_read, exec_set] at h
  generalize s.loadTable w.disk _ source.delimiter source.noHeader = x at h
  obtain ⟨(_ | _ | _ | _) | t, s₁⟩ := x
  case ok => cases (Prod.mk.inj h).1
  all_goals
    obtain rfl := Failure.error.inj (Except.error.inj (Prod.mk.inj h).1)
    trivial

namespace Script

variable {α : Type} {c : Setting} {Q : Location → String → Span → Prop}

/-- Whatever a script is answered, an error about a name that it fails with by itself satisfies a
predicate. -/
def Blames (c : Setting) (Q : Location → String → Span → Prop) : Script α → Prop
  | done _ => True
  | fail e => e.Blames Q
  | look k => (k c).Blames c Q
  | ask _ k => ∀ v, (k v).Blames c Q
  | selected _ k => ∀ i, (k i).Blames c Q
  | table _ _ k => ∀ t, (k t).Blames c Q

/-- A script blames what it is bound to blame. -/
lemma Obeys.blames {T : Terms} {P : α → Prop} {x : Script α} (hx : x.Obeys T P)
    (h : ∀ e, T.fails e → e.Blames Q) : x.Blames T.setting Q := by
  induction x with
  | done a => trivial
  | fail e => exact h e hx
  | look k ih => exact ih _ hx
  | ask n k ih => exact fun v => ih v (hx.2 v)
  | selected n k ih => exact fun i => ih i (hx i)
  | table n source k ih => exact fun t => ih t (hx t)

/-- **A run that fails** with what the script does not answer for fails at a visit. -/
theorem Blames.run {value : NodeRef → Eval (Option Value)} {w : World} {x : Script α}
    {s s' : Session} {e : EvalError} (hx : x.Blames (s.setting w) Q)
    (hk : ∀ n s, Keeps s ((value n).exec w s).2)
    (h : (x.run value).exec w s = (.error (.error e), s')) :
    e.Blames Q ∨ ∃ b ∈ x.visits value w s, b.outcome value w = (.error (.error e), s') := by
  induction x generalizing s with
  | done a => cases (Prod.mk.inj h).1
  | fail e' =>
    obtain rfl := Failure.error.inj (Except.error.inj (Prod.mk.inj h).1)
    exact .inl hx
  | look k ih => exact ih _ hx h
  | selected n k ih => exact ih _ (hx _) h
  | ask n k ih =>
    have hs := hk n s
    rw [exec_ask] at h
    rcases hv : (value n).exec w s with ⟨f | v, s₁⟩ <;> rw [hv] at h hs
    · obtain ⟨h₁, rfl⟩ := Prod.mk.inj h
      obtain rfl := Except.error.inj h₁
      exact .inr ⟨⟨n, s⟩, by simp [visits], hv⟩
    · rcases ih v (by rw [hs.setting]; exact hx v) h with hQ | ⟨b, hb, hf⟩
      · exact .inl hQ
      · exact .inr ⟨b, by simp [visits, hv, hb], hf⟩
  | table n source k ih =>
    have hs := keeps_table w n source s
    rw [exec_table] at h
    rcases hv : (Eval.table n source).exec w s with ⟨f | t, s₁⟩ <;> rw [hv] at h hs
    · obtain ⟨h₁, rfl⟩ := Prod.mk.inj h
      obtain rfl := Except.error.inj h₁
      exact .inl (Eval.blames_of_table hv)
    · rcases ih t (by rw [hs.setting]; exact hx t) h with hQ | ⟨b, hb, hf⟩
      · exact .inl hQ
      · exact .inr ⟨b, by simpa [visits, hv] using hb, hf⟩

/-- A run whose visits succeed fails with what the script itself may fail with. -/
lemma Blames.run_ok {w : World} {x : Script α} {s s' : Session} {e : EvalError}
    (hx : x.Blames (s.setting w) Q)
    (hok : ∀ b ∈ x.visits Eval.value w s, ∃ v s₁, b.outcome Eval.value w = (.ok v, s₁))
    (h : (x.run Eval.value).exec w s = (.error (.error e), s')) : e.Blames Q := by
  rcases hx.run (keeps_value w) h with hQ | ⟨b, hb, hf⟩
  · exact hQ
  · obtain ⟨v, s₁, hv⟩ := hok b hb
    cases (Prod.mk.inj (hv.symm.trans hf)).1

end Script

/-! ### Invariants inside of evaluations -/

section

variable {value : NodeRef → Eval (Option Value)} {w : World} {R : Session → Session → Prop}
  {n : NodeRef} {s : Session}

/-- What holds between the start of the evaluation of a node and each of its visits, with its
generator out. -/
lemma ownVisits_before (hR : Passive R) (hw : ∀ s : Session, R s (s.withoutGenerator n))
    (h : ∀ b ∈ ownVisits value w n s, R b.session (b.outcome value w).2) :
    ∀ b ∈ ownVisits value w n s, R s b.session := by
  rcases call_or_ne (s.workspace.kind n) with ⟨c, hk⟩ | hk'
  · rw [ownVisits_call hk] at h ⊢
    have hc : ∀ b ∈ creationVisits value w n c s, R b.session (b.outcome value w).2 :=
      fun b hb => h b (List.mem_append_left _ hb)
    have hp : ∀ b ∈ planVisits value w n c s, R b.session (b.outcome value w).2 :=
      fun b hb => h b (List.mem_append_right _ hb)
    intro b hb
    rcases List.mem_append.mp hb with hb | hb
    · obtain ⟨hg, hf⟩ : s.generators.lookup n = none ∧ c.kind ∈ s.functions := by
        by_contra hx
        rw [creationVisits, if_neg hx] at hb
        cases hb
      rw [creationVisits_new hg hf] at hc hb
      exact (Script.rel_visit hR _ s hc b hb).1
    · have h0 := generatorOf_rel hR hc
      unfold planVisits at hp hb
      rcases hg : (generatorOf value n c).exec w s with ⟨_ | g, s₁⟩ <;> rw [hg] at h0 hp hb
      · cases hb
      · dsimp only at hp hb
        rcases hs : g.step s₁.source with _ | ⟨⟨plan, g'⟩, source⟩ <;> rw [hs] at hp hb
        · cases hb
        · have h1 : R s₁ { s₁ with source } := hR.source s₁ source
          exact hR.trans h0 (hR.trans h1 (hR.trans (hw _) (Script.rel_visit hR _ _ hp b hb).1))
  · rw [ownVisits_plain hk'] at h ⊢
    exact fun b hb => (Script.rel_visit hR _ s h b hb).1

end

/-- An invariant that does not mind which nodes are being evaluated, and which generators are
out. -/
structure Inward (I : Session → Prop) : Prop where
  enter : ∀ {s : Session} n, I s → I (s.enter n)
  without : ∀ {s : Session} n, I s → I (s.withoutGenerator n)

namespace Lasting

variable {w : World} {I : Session → Prop} {a b : Visit}

lemma asks (hI : Lasting w I) (hin : Inward I) (ha : a.session.Guarded) (hs : I a.session)
    (h : a.Asks w b) : I b.session := by
  have hvisit : ∀ c, a.Asks w c → Preserves I c.session (c.outcome Eval.value w).2 :=
    fun c hc => hI.visit (hc.need_lt ha).1
  rcases h.cases with ⟨keys, -, hb⟩ | ⟨t, hr, hl, hact, -⟩
  · rwa [hb]
  · have hR : Passive (Preserves I) := passive_preserves hI.tables hI.source
    have hw : ∀ s : Session, Preserves I s (s.withoutGenerator t) := fun _ hs => hin.without t hs
    unfold Visit.Asks at h hvisit
    rw [valueVisits_own hr hl hact] at h hvisit
    exact ownVisits_before hR hw hvisit b h (hin.enter t hs)

/-- **An invariant holds inside** of an evaluation, at any depth. -/
theorem reaches (hI : Lasting w I) (hin : Inward I) (ha : a.session.Guarded) (hs : I a.session)
    (h : a.Reaches w b) : I b.session := by
  induction h with
  | refl => exact hs
  | tail hab hb ih => exact hI.asks hin (Visit.Reaches.guarded hab ha) ih hb

end Lasting

/-! ### The origin of an error -/

namespace Visit

variable {w : World} {a b : Visit} {f : Failure} {s' : Session}

/-- A request fails, and no request that it makes does. -/
structure Fails (w : World) (a : Visit) (f : Failure) (s' : Session) : Prop where
  outcome : a.outcome Eval.value w = (.error f, s')
  asks : ∀ b, a.Asks w b → ∃ v s₁, b.outcome Eval.value w = (.ok v, s₁)

/-- **An error has an origin**: a request that fails by itself, with the same error and the same
values that are kept. -/
theorem exists_origin (ha : a.session.Guarded) (h : a.outcome Eval.value w = (.error f, s')) :
    ∃ b s₁, a.Reaches w b ∧ b.Fails w f s₁ ∧ s₁.values = s'.values := by
  induction acc_asks (w := w) ha generalizing f s' with
  | intro a _ ih =>
    by_cases hall : ∀ b, a.Asks w b → ∃ v s₁, b.outcome Eval.value w = (.ok v, s₁)
    · exact ⟨a, s', .refl, ⟨h, hall⟩, rfl⟩
    · push Not at hall
      obtain ⟨b, hab, hb⟩ := hall
      rcases ho : b.outcome Eval.value w with ⟨f₁ | v, s₁⟩
      · obtain ⟨s₂, h₂, hv₂⟩ := hab.error ha ho
        obtain ⟨h₃, rfl⟩ := Prod.mk.inj (h₂.symm.trans h)
        obtain rfl := Except.error.inj h₃
        obtain ⟨d, s₃, hbd, hd, hv₃⟩ := ih b hab (hab.need_lt ha).1 ho
        exact ⟨d, s₃, hbd.head hab, hd, hv₃.trans hv₂.symm⟩
      · exact absurd ho (hb v s₁)

end Visit

end TestData.Engine
