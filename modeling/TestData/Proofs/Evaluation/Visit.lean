import TestData.Proofs.Evaluation.Script

/-!
The visits of a node: the requests for values that its own evaluation makes.

As with scripts, the evaluation of a node is put together from its visits: a relation between
sessions that every visit keeps is kept by the whole, the visits alone decide how it ends, and
an error of a visit is the error of the whole.
-/

namespace TestData.Engine

open Schema

/-- A relation that holds for the evaluation of a node if it holds inside. -/
structure Bracketed (R : Session → Session → Prop) (n : NodeRef) : Prop where
  out : ∀ {s s' : Session} (g : Generator), R (s.withoutGenerator n) s' → R s (s'.withGenerator n g)
  leave : ∀ {s s' : Session}, R (s.enter n) s' → R s (s'.leave n)
  keep : ∀ {s s' : Session} (v : Option Value), s.values.lookup n = none → n ∉ s.active →
    R (s.enter n) s' → R s ((s'.leave n).keep n v)

/-- A relation that allows any change at a node. -/
structure Indifferent (R : Session → Session → Prop) (n : NodeRef) : Prop where
  without : ∀ s : Session, R s (s.withoutGenerator n)
  insert : ∀ (s : Session) (g : Generator), R s (s.withGenerator n g)
  enter : ∀ s : Session, R s (s.enter n)
  leave : ∀ s : Session, R s (s.leave n)
  keep : ∀ (s : Session) (v : Option Value), R s (s.keep n v)

lemma Indifferent.bracketed {R : Session → Session → Prop} {n : NodeRef} (hR : Passive R)
    (h : Indifferent R n) : Bracketed R n where
  out g h' := hR.trans (h.without _) (hR.trans h' (h.insert _ g))
  leave h' := hR.trans (h.enter _) (hR.trans h' (h.leave _))
  keep v _ _ h' := hR.trans (h.enter _) (hR.trans h' (hR.trans (h.leave _) (h.keep _ v)))

section

variable (value : NodeRef → Eval (Option Value)) (w : World)

/-- The visits of the creation of a generator, for a node that has none. -/
def creationVisits (n : NodeRef) (c : Call) (s : Session) : List Visit :=
  if s.generators.lookup n = none ∧ c.kind ∈ s.functions then
    (Generator.ofCallAs c.kind n c).visits value w s
  else []

/-- The visits of the step of a generator. -/
def planVisits (n : NodeRef) (c : Call) (s : Session) : List Visit :=
  match (generatorOf value n c).exec w s with
  | (.error _, _) => []
  | (.ok g, s') =>
    match g.step s'.source with
    | none => []
    | some ((plan, _), source) => plan.script.visits value w ({ s' with source }.withoutGenerator n)

/-- The visits of the evaluation of a node that has a value of its own. -/
def ownVisits (n : NodeRef) (s : Session) : List Visit :=
  match s.workspace.kind n with
  | .call c => creationVisits value w n c s ++ planVisits value w n c s
  | k => (plainValue n k).visits value w s

/-- The visits that a request for the value of a node makes. -/
def valueVisits (n : NodeRef) (s : Session) : List Visit :=
  match (s.scope w).resolve n with
  | .error _ => []
  | .ok (.extract base _) => [⟨base, s⟩]
  | .ok (.value target) =>
    if s.values.lookup target = none ∧ target ∉ s.active then
      ownVisits value w target (s.enter target)
    else []

end

variable {value value' : NodeRef → Eval (Option Value)} {w : World}
  {R : Session → Session → Prop} {n : NodeRef} {s : Session}

lemma ownVisits_call {c : Call} (hk : s.workspace.kind n = .call c) :
    ownVisits value w n s = creationVisits value w n c s ++ planVisits value w n c s := by
  simp only [ownVisits, hk]

lemma exec_ownValue_call {c : Call} (hk : s.workspace.kind n = .call c) :
    (ownValue value n).exec w s = (callValue value n c).exec w s := by
  rw [exec_ownValue, hk]

lemma ownVisits_plain (hk : ∀ c, s.workspace.kind n ≠ .call c) :
    ownVisits value w n s = (plainValue n (s.workspace.kind n)).visits value w s := by
  unfold ownVisits
  rcases h : s.workspace.kind n with _ | _ | _ | _ | _ | _ | c
  case call => exact absurd h (hk c)
  all_goals rfl

lemma exec_ownValue_plain (hk : ∀ c, s.workspace.kind n ≠ .call c) :
    (ownValue value n).exec w s = ((plainValue n (s.workspace.kind n)).run value).exec w s := by
  rw [exec_ownValue]
  rcases h : s.workspace.kind n with _ | _ | _ | _ | _ | _ | c
  case call => exact absurd h (hk c)
  all_goals rfl

lemma creationVisits_new {c : Call} (hg : s.generators.lookup n = none)
    (hf : c.kind ∈ s.functions) :
    creationVisits value w n c s = (Generator.ofCallAs c.kind n c).visits value w s := by
  simp only [creationVisits, hg, hf, and_self, if_true]

lemma creationVisits_kept {c : Call} {g : Generator} (hg : s.generators.lookup n = some g) :
    creationVisits value w n c s = [] := by
  simp only [creationVisits, hg, reduceCtorEq, false_and, if_false]

lemma creationVisits_unknown {c : Call} (hf : c.kind ∉ s.functions) :
    creationVisits value w n c s = [] := by
  simp only [creationVisits, hf, and_false, if_false]

lemma valueVisits_unresolved {e : EvalError} (hr : (s.scope w).resolve n = .error e) :
    valueVisits value w n s = [] := by
  rw [valueVisits, hr]

lemma valueVisits_extract {base : NodeRef} {keys : List String}
    (hr : (s.scope w).resolve n = .ok (.extract base keys)) :
    valueVisits value w n s = [⟨base, s⟩] := by
  rw [valueVisits, hr]

lemma valueVisits_own {target : NodeRef} (hr : (s.scope w).resolve n = .ok (.value target))
    (hl : s.values.lookup target = none) (ha : target ∉ s.active) :
    valueVisits value w n s = ownVisits value w target (s.enter target) := by
  simp only [valueVisits, hr, hl, ha, not_false_eq_true, and_self, if_true]

/-- What is known or being evaluated is not evaluated. -/
lemma valueVisits_settled {target : NodeRef} (hr : (s.scope w).resolve n = .ok (.value target))
    (h : s.values.lookup target ≠ none ∨ target ∈ s.active) : valueVisits value w n s = [] := by
  simp only [valueVisits, hr]
  exact if_neg fun h' => h.elim (fun hl => hl h'.1) fun ha => h'.2 ha

lemma generatorOf_rel (hR : Passive R) {c : Call}
    (h : ∀ b ∈ creationVisits value w n c s, R b.session (b.outcome value w).2) :
    R s ((generatorOf value n c).exec w s).2 := by
  rcases hg : s.generators.lookup n with _ | g
  · by_cases hf : c.kind ∈ s.functions
    · rw [creationVisits_new hg hf] at h
      rw [generatorOf_new hg hf]
      exact Script.run_rel hR _ s h
    · rw [generatorOf_unknown hg hf]
      exact hR.refl s
  · rw [generatorOf_kept hg]
    exact hR.refl s

lemma callValue_rel (hR : Passive R) (hn : Bracketed R n) {c : Call}
    (hc : ∀ b ∈ creationVisits value w n c s, R b.session (b.outcome value w).2)
    (hp : ∀ b ∈ planVisits value w n c s, R b.session (b.outcome value w).2) :
    R s ((callValue value n c).exec w s).2 := by
  have h0 := generatorOf_rel hR hc
  rw [exec_callValue]
  unfold planVisits at hp
  rcases hg : (generatorOf value n c).exec w s with ⟨_ | g, s₁⟩ <;> rw [hg] at h0 hp
  · exact h0
  · dsimp only at hp ⊢
    rcases hs : g.step s₁.source with _ | ⟨⟨plan, g'⟩, source⟩ <;> rw [hs] at hp
    · exact h0
    · have h1 : R s₁ { s₁ with source } := hR.source s₁ source
      exact hR.trans h0 (hR.trans h1 (hn.out g' (Script.run_rel hR _ _ hp)))

/-- The evaluation of a node is put together from its visits. -/
lemma ownValue_rel (hR : Passive R) (hn : Bracketed R n)
    (h : ∀ b ∈ ownVisits value w n s, R b.session (b.outcome value w).2) :
    R s ((ownValue value n).exec w s).2 := by
  rcases call_or_ne (s.workspace.kind n) with ⟨c, hk⟩ | hk'
  · rw [exec_ownValue_call hk]
    rw [ownVisits_call hk] at h
    exact callValue_rel hR hn (fun b hb => h b (List.mem_append_left _ hb))
      fun b hb => h b (List.mem_append_right _ hb)
  · rw [exec_ownValue_plain hk']
    rw [ownVisits_plain hk'] at h
    exact Script.run_rel hR _ s h

/-- A request is put together from its visits. -/
lemma valueVia_rel (hR : Passive R)
    (hn : ∀ target, (s.scope w).resolve n = .ok (.value target) → Bracketed R target)
    (h : ∀ b ∈ valueVisits value w n s, R b.session (b.outcome value w).2) :
    R s ((valueVia value n).exec w s).2 := by
  rcases hr : (s.scope w).resolve n with e | ⟨target⟩ | ⟨base, keys⟩
  · rw [valueVia_unresolved hr]
    exact hR.refl s
  · have hb := hn target hr
    rcases hl : s.values.lookup target with _ | v
    · by_cases ha : target ∈ s.active
      · rw [valueVia_active hr hl ha]
        exact hR.refl s
      · rw [valueVisits_own hr hl ha] at h
        have h1 := ownValue_rel hR hb h
        rw [valueVia_own hr hl ha]
        rcases ho : (ownValue value target).exec w (s.enter target) with ⟨_ | v, s'⟩ <;>
          rw [ho] at h1
        · exact hb.leave h1
        · exact hb.keep v hl ha h1
    · rw [valueVia_cached hr hl]
      exact hR.refl s
  · have h1 : R s ((value base).exec w s).2 := h ⟨base, s⟩ (by simp [valueVisits_extract hr])
    rw [valueVia_extract hr]
    rcases hv : (value base).exec w s with ⟨_ | _ | v, s'⟩ <;> rw [hv] at h1
    · exact h1
    · exact h1
    · dsimp only
      rcases keysIn v keys with _ | _ <;> exact h1

/-- **What every evaluation does**: a relation that holds of each layer holds of the whole. -/
theorem valueWithin_rel {beyond : NodeRef → Eval (Option Value)} (hR : Passive R)
    (hn : ∀ n, Bracketed R n) (hb : ∀ n s, R s ((beyond n).exec w s).2) (fuel : Nat)
    (n : NodeRef) (s : Session) : R s ((valueWithin beyond fuel n).exec w s).2 := by
  induction fuel generalizing n s with
  | zero => exact hb n s
  | succ fuel ih => exact valueVia_rel hR (fun target _ => hn target) fun b _ => ih b.node b.session

/-! ### Before and after a visit -/

lemma planVisits_rel_visit (hR : Passive R) (hw : ∀ s : Session, R s (s.withoutGenerator n))
    (hi : ∀ (s : Session) (g : Generator), R s (s.withGenerator n g)) {c : Call}
    (hc : ∀ b ∈ creationVisits value w n c s, R b.session (b.outcome value w).2)
    (hp : ∀ b ∈ planVisits value w n c s, R b.session (b.outcome value w).2) :
    ∀ b ∈ planVisits value w n c s,
      R s b.session ∧ R (b.outcome value w).2 ((callValue value n c).exec w s).2 := by
  intro b hb
  have h0 := generatorOf_rel hR hc
  rw [exec_callValue]
  unfold planVisits at hp hb
  rcases hg : (generatorOf value n c).exec w s with ⟨_ | g, s₁⟩ <;> rw [hg] at h0 hp hb
  · simp at hb
  · dsimp only at hp hb ⊢
    rcases hs : g.step s₁.source with _ | ⟨⟨plan, g'⟩, source⟩ <;> rw [hs] at hp hb
    · simp at hb
    · have h1 : R s₁ { s₁ with source } := hR.source s₁ source
      obtain ⟨h2, h3⟩ := Script.rel_visit hR _ _ hp b hb
      exact ⟨hR.trans h0 (hR.trans h1 (hR.trans (hw _) h2)), hR.trans h3 (hi _ g')⟩

lemma creationVisits_rel_visit (hR : Passive R) (hw : ∀ s : Session, R s (s.withoutGenerator n))
    (hi : ∀ (s : Session) (g : Generator), R s (s.withGenerator n g)) {c : Call}
    (hc : ∀ b ∈ creationVisits value w n c s, R b.session (b.outcome value w).2)
    (hp : ∀ b ∈ planVisits value w n c s, R b.session (b.outcome value w).2) :
    ∀ b ∈ creationVisits value w n c s,
      R s b.session ∧ R (b.outcome value w).2 ((callValue value n c).exec w s).2 := by
  intro b hb
  have h0 : R s b.session ∧ R (b.outcome value w).2 ((generatorOf value n c).exec w s).2 := by
    rcases hg : s.generators.lookup n with _ | g
    · by_cases hf : c.kind ∈ s.functions
      · rw [creationVisits_new hg hf] at hc hb
        rw [generatorOf_new hg hf]
        exact Script.rel_visit hR _ s hc b hb
      · simp [creationVisits_unknown hf] at hb
    · simp [creationVisits_kept hg] at hb
  refine ⟨h0.1, hR.trans h0.2 ?_⟩
  rw [exec_callValue]
  unfold planVisits at hp
  rcases hg : (generatorOf value n c).exec w s with ⟨_ | g, s₁⟩ <;> rw [hg] at hp
  · exact hR.refl s₁
  · dsimp only at hp ⊢
    rcases hs : g.step s₁.source with _ | ⟨⟨plan, g'⟩, source⟩ <;> rw [hs] at hp
    · exact hR.refl s₁
    · have h1 : R s₁ { s₁ with source } := hR.source s₁ source
      exact hR.trans h1 (hR.trans (hw _) (hR.trans (Script.run_rel hR _ _ hp) (hi _ g')))

lemma ownValue_rel_visit (hR : Passive R) (hw : ∀ s : Session, R s (s.withoutGenerator n))
    (hi : ∀ (s : Session) (g : Generator), R s (s.withGenerator n g))
    (h : ∀ b ∈ ownVisits value w n s, R b.session (b.outcome value w).2) :
    ∀ b ∈ ownVisits value w n s,
      R s b.session ∧ R (b.outcome value w).2 ((ownValue value n).exec w s).2 := by
  rcases call_or_ne (s.workspace.kind n) with ⟨c, hk⟩ | hk'
  · rw [ownVisits_call hk] at h ⊢
    rw [exec_ownValue_call hk]
    have hc : ∀ b ∈ creationVisits value w n c s, R b.session (b.outcome value w).2 :=
      fun b hb => h b (List.mem_append_left _ hb)
    have hp : ∀ b ∈ planVisits value w n c s, R b.session (b.outcome value w).2 :=
      fun b hb => h b (List.mem_append_right _ hb)
    intro b hb
    rcases List.mem_append.mp hb with hb | hb
    · exact creationVisits_rel_visit hR hw hi hc hp b hb
    · exact planVisits_rel_visit hR hw hi hc hp b hb
  · rw [ownVisits_plain hk'] at h ⊢
    rw [exec_ownValue_plain hk']
    exact Script.rel_visit hR _ s h

/-- What holds between a request and each of its visits, and between each visit's end and the
request's end. -/
lemma valueVia_rel_visit (hR : Passive R)
    (hn : ∀ target, (s.scope w).resolve n = .ok (.value target) → Indifferent R target)
    (h : ∀ b ∈ valueVisits value w n s, R b.session (b.outcome value w).2) :
    ∀ b ∈ valueVisits value w n s,
      R s b.session ∧ R (b.outcome value w).2 ((valueVia value n).exec w s).2 := by
  intro b hb
  rcases hr : (s.scope w).resolve n with e | ⟨target⟩ | ⟨base, keys⟩
  · simp [valueVisits_unresolved hr] at hb
  · by_cases hx : s.values.lookup target ≠ none ∨ target ∈ s.active
    · simp [valueVisits_settled hr hx] at hb
    · obtain ⟨hl, ha⟩ := not_or.mp hx
      rw [not_not] at hl
      have hi := hn target hr
      rw [valueVisits_own hr hl ha] at h hb
      obtain ⟨h1, h2⟩ := ownValue_rel_visit hR hi.without hi.insert h b hb
      rw [valueVia_own hr hl ha]
      refine ⟨hR.trans (hi.enter s) h1, hR.trans h2 ?_⟩
      rcases (ownValue value target).exec w (s.enter target) with ⟨_ | v, s'⟩
      · exact hi.leave s'
      · exact hR.trans (hi.leave s') (hi.keep _ v)
  · obtain rfl : b = ⟨base, s⟩ := by simpa [valueVisits_extract hr] using hb
    refine ⟨hR.refl s, ?_⟩
    rw [valueVia_extract hr, Visit.outcome]
    rcases (value base).exec w s with ⟨_ | _ | v, s'⟩
    · exact hR.refl s'
    · exact hR.refl s'
    · dsimp only
      rcases keysIn v keys with _ | _ <;> exact hR.refl s'

/-! ### Visits decide -/

lemma generatorOf_congr {c : Call}
    (h : ∀ b ∈ creationVisits value w n c s, b.outcome value' w = b.outcome value w) :
    (generatorOf value' n c).exec w s = (generatorOf value n c).exec w s ∧
      creationVisits value' w n c s = creationVisits value w n c s := by
  rcases hg : s.generators.lookup n with _ | g
  · by_cases hf : c.kind ∈ s.functions
    · rw [creationVisits_new hg hf] at h
      rw [generatorOf_new hg hf, generatorOf_new hg hf, creationVisits_new hg hf,
        creationVisits_new hg hf]
      exact Script.run_congr _ s h
    · rw [generatorOf_unknown hg hf, generatorOf_unknown hg hf, creationVisits_unknown hf,
        creationVisits_unknown hf]
      exact ⟨rfl, rfl⟩
  · rw [generatorOf_kept hg, generatorOf_kept hg, creationVisits_kept hg, creationVisits_kept hg]
    exact ⟨rfl, rfl⟩

lemma callValue_congr {c : Call}
    (hc : ∀ b ∈ creationVisits value w n c s, b.outcome value' w = b.outcome value w)
    (hp : ∀ b ∈ planVisits value w n c s, b.outcome value' w = b.outcome value w) :
    (callValue value' n c).exec w s = (callValue value n c).exec w s ∧
      planVisits value' w n c s = planVisits value w n c s := by
  rw [exec_callValue, exec_callValue]
  unfold planVisits at hp ⊢
  rw [(generatorOf_congr hc).1]
  rcases hg : (generatorOf value n c).exec w s with ⟨_ | g, s₁⟩
  · exact ⟨rfl, rfl⟩
  · rw [hg] at hp
    dsimp only at hp ⊢
    rcases hs : g.step s₁.source with _ | ⟨⟨plan, g'⟩, source⟩
    · exact ⟨rfl, rfl⟩
    · rw [hs] at hp
      obtain ⟨h1, h2⟩ := Script.run_congr _ _ hp
      dsimp only
      rw [h1, h2]
      exact ⟨rfl, rfl⟩

lemma ownValue_congr
    (h : ∀ b ∈ ownVisits value w n s, b.outcome value' w = b.outcome value w) :
    (ownValue value' n).exec w s = (ownValue value n).exec w s ∧
      ownVisits value' w n s = ownVisits value w n s := by
  rcases call_or_ne (s.workspace.kind n) with ⟨c, hk⟩ | hk'
  · rw [ownVisits_call hk] at h
    rw [ownVisits_call hk, ownVisits_call hk, exec_ownValue_call hk, exec_ownValue_call hk]
    have hc := fun b hb => h b (List.mem_append_left _ hb)
    obtain ⟨h1, h2⟩ := callValue_congr hc fun b hb => h b (List.mem_append_right _ hb)
    rw [h1, h2, (generatorOf_congr hc).2]
    exact ⟨rfl, rfl⟩
  · rw [ownVisits_plain hk'] at h
    rw [ownVisits_plain hk', ownVisits_plain hk', exec_ownValue_plain hk', exec_ownValue_plain hk']
    exact Script.run_congr _ s h

/-- A request depends on the evaluation of nodes at its visits only. -/
lemma valueVia_congr
    (h : ∀ b ∈ valueVisits value w n s, b.outcome value' w = b.outcome value w) :
    (valueVia value' n).exec w s = (valueVia value n).exec w s ∧
      valueVisits value' w n s = valueVisits value w n s := by
  rcases hr : (s.scope w).resolve n with e | ⟨target⟩ | ⟨base, keys⟩
  · rw [valueVia_unresolved hr, valueVia_unresolved hr, valueVisits_unresolved hr,
      valueVisits_unresolved hr]
    exact ⟨rfl, rfl⟩
  · rcases hl : s.values.lookup target with _ | v
    · by_cases ha : target ∈ s.active
      · rw [valueVia_active hr hl ha, valueVia_active hr hl ha, valueVisits_settled hr (.inr ha),
          valueVisits_settled hr (.inr ha)]
        exact ⟨rfl, rfl⟩
      · rw [valueVisits_own hr hl ha] at h
        obtain ⟨h1, h2⟩ := ownValue_congr h
        rw [valueVia_own hr hl ha, valueVia_own hr hl ha, h1, valueVisits_own hr hl ha,
          valueVisits_own hr hl ha, h2]
        exact ⟨rfl, rfl⟩
    · have hc : s.values.lookup target ≠ none := by rw [hl]; simp
      rw [valueVia_cached hr hl, valueVia_cached hr hl, valueVisits_settled hr (.inl hc),
        valueVisits_settled hr (.inl hc)]
      exact ⟨rfl, rfl⟩
  · have h1 : (value' base).exec w s = (value base).exec w s :=
      h ⟨base, s⟩ (by simp [valueVisits_extract hr])
    rw [valueVia_extract hr, valueVia_extract hr, h1, valueVisits_extract hr,
      valueVisits_extract hr]
    exact ⟨rfl, rfl⟩

/-! ### Errors -/

lemma generatorOf_error {c : Call} {b : Visit} (hb : b ∈ creationVisits value w n c s) {f : Failure}
    {s' : Session} (hf : b.outcome value w = (.error f, s')) :
    (generatorOf value n c).exec w s = (.error f, s') := by
  rcases hg : s.generators.lookup n with _ | g
  · by_cases hk : c.kind ∈ s.functions
    · rw [creationVisits_new hg hk] at hb
      rw [generatorOf_new hg hk]
      exact Script.run_error _ s hb hf
    · simp [creationVisits_unknown hk] at hb
  · simp [creationVisits_kept hg] at hb

lemma callValue_error {c : Call} {b : Visit} (hb : b ∈ planVisits value w n c s) {f : Failure}
    {s' : Session} (hf : b.outcome value w = (.error f, s')) :
    ∃ g, (callValue value n c).exec w s = (.error f, s'.withGenerator n g) := by
  rw [exec_callValue]
  unfold planVisits at hb
  rcases hg : (generatorOf value n c).exec w s with ⟨_ | g, s₁⟩ <;> rw [hg] at hb
  · simp at hb
  · dsimp only at hb ⊢
    rcases hs : g.step s₁.source with _ | ⟨⟨plan, g'⟩, source⟩ <;> rw [hs] at hb
    · simp at hb
    · refine ⟨g', ?_⟩
      dsimp only
      rw [Script.run_error _ _ hb hf]

lemma ownValue_error {b : Visit} (hb : b ∈ ownVisits value w n s) {f : Failure} {s' : Session}
    (hf : b.outcome value w = (.error f, s')) :
    ∃ s'', (ownValue value n).exec w s = (.error f, s'') ∧ s''.values = s'.values := by
  rcases call_or_ne (s.workspace.kind n) with ⟨c, hk⟩ | hk'
  · rw [ownVisits_call hk] at hb
    rw [exec_ownValue_call hk]
    rcases List.mem_append.mp hb with hb | hb
    · exact ⟨s', by rw [exec_callValue, generatorOf_error hb hf], rfl⟩
    · obtain ⟨g, hg⟩ := callValue_error hb hf
      exact ⟨_, hg, rfl⟩
  · rw [ownVisits_plain hk'] at hb
    rw [exec_ownValue_plain hk']
    exact ⟨s', Script.run_error _ s hb hf, rfl⟩

/-- A request ends where a visit fails, with the error of the visit. -/
lemma valueVia_error {b : Visit} (hb : b ∈ valueVisits value w n s) {f : Failure} {s' : Session}
    (hf : b.outcome value w = (.error f, s')) :
    ∃ s'', (valueVia value n).exec w s = (.error f, s'') ∧ s''.values = s'.values := by
  rcases hr : (s.scope w).resolve n with e | ⟨target⟩ | ⟨base, keys⟩
  · simp [valueVisits_unresolved hr] at hb
  · by_cases hx : s.values.lookup target ≠ none ∨ target ∈ s.active
    · simp [valueVisits_settled hr hx] at hb
    · obtain ⟨hl, ha⟩ := not_or.mp hx
      rw [not_not] at hl
      rw [valueVisits_own hr hl ha] at hb
      obtain ⟨s'', h1, h2⟩ := ownValue_error hb hf
      exact ⟨s''.leave target, by rw [valueVia_own hr hl ha, h1], h2⟩
  · obtain rfl : b = ⟨base, s⟩ := by simpa [valueVisits_extract hr] using hb
    rw [Visit.outcome] at hf
    exact ⟨s', by rw [valueVia_extract hr, hf], rfl⟩

end TestData.Engine
