import TestData.Proofs.Evaluation.Lasting

/-!
The generators that a request creates.

A node without a generator gets one where it is evaluated. While the generator runs it is out, but
then the node is being evaluated, and a request for it creates nothing. So a request creates at most
one generator for a node, none where the node has one, and what the node has afterwards has become
of that one by steps.
-/

namespace TestData.Engine

open Schema

/-- A generator becomes another one by steps. -/
def Generator.Becomes : Generator → Generator → Prop :=
  Relation.ReflTransGen fun g g' => ∃ src plan src', g.step src = some ((plan, g'), src')

/-- The generators that a node has got, and the one that it has: none at all, or what has become of
a single one. -/
inductive Raised : List Generator → Option Generator → Prop
  | none : Raised [] none
  | one {g g' : Generator} (h : g.Becomes g') : Raised [g] (some g')

lemma Raised.cases {gs : List Generator} {o : Option Generator} (h : Raised gs o) :
    gs = [] ∧ o = .none ∨ ∃ g g', gs = [g] ∧ o = some g' ∧ g.Becomes g' := by
  cases h with
  | none => exact .inl ⟨rfl, rfl⟩
  | one h => exact .inr ⟨_, _, rfl, rfl, h⟩

/-- From one session to another a node gets some generators. -/
def Raises (t : NodeRef) (s : Session) (gs : List Generator) (s' : Session) : Prop :=
  Raised ((s.generators.lookup t).toList ++ gs) (s'.generators.lookup t)

variable {t n : NodeRef} {s s' s₁ s₂ s₃ : Session} {gs gs' : List Generator} {w : World}

namespace Raises

lemma of_lookup (h : s'.generators.lookup t = s.generators.lookup t) : Raises t s [] s' := by
  unfold Raises
  rw [List.append_nil, h]
  rcases s.generators.lookup t with _ | g
  · exact .none
  · exact .one .refl

protected lemma refl (s : Session) : Raises t s [] s := of_lookup rfl

protected lemma trans (h : Raises t s₁ gs s₂) (h' : Raises t s₂ gs' s₃) :
    Raises t s₁ (gs ++ gs') s₃ := by
  unfold Raises at h h' ⊢
  rw [← List.append_assoc]
  revert h h'
  generalize (s₁.generators.lookup t).toList ++ gs = l, s₂.generators.lookup t = o,
    s₃.generators.lookup t = o'
  rintro (_ | hg) h'
  · exact h'
  · cases h' with
    | one hg' => exact .one (hg.trans hg')

end Raises

/-! ### What is created -/

namespace Visit

/-- The generator that a request itself creates for a node. -/
def created? (w : World) (t : NodeRef) (a : Visit) : Option Generator :=
  match (a.session.scope w).resolve a.node, a.session.workspace.kind t with
  | .ok (.value u), .call c =>
    if u = t ∧ a.session.values.lookup t = none ∧ t ∉ a.session.active ∧
        a.session.generators.lookup t = none then
      ((generatorOf Eval.value t c).exec w (a.session.enter t)).1.toOption
    else none
  | _, _ => none

/-- The generators that a request creates for a node, with those of the requests inside it down to
a depth. -/
def createdWithin (w : World) (t : NodeRef) : Nat → Visit → List Generator
  | 0, _ => []
  | depth + 1, a =>
    (valueVisits Eval.value w a.node a.session).flatMap (createdWithin w t depth) ++
      (a.created? w t).toList

/-- All generators that a request creates for a node. -/
def created (w : World) (t : NodeRef) (a : Visit) : List Generator :=
  a.createdWithin w t a.session.fuel

variable {a b : Visit}

/-- A node that has a value or is being evaluated has a value or is being evaluated inside. -/
lemma Asks.passes (h : a.Asks w b)
    (ht : a.session.values.lookup t ≠ none ∨ t ∈ a.session.active) :
    b.session.values.lookup t ≠ none ∨ t ∈ b.session.active := by
  rcases h.cases with ⟨-, -, hs⟩ | ⟨u, -, -, -, -, hk⟩
  · rwa [hs]
  · rcases ht with hv | hact
    · obtain ⟨v, hv⟩ := Option.ne_none_iff_exists'.mp hv
      exact .inl (by rw [hk.values t v hv]; simp)
    · exact .inr (hk.active ▸ List.mem_cons_of_mem u hact)

/-- Nothing is created for a node that has a value or is being evaluated. -/
lemma createdWithin_eq_nil (depth : Nat)
    (ht : a.session.values.lookup t ≠ none ∨ t ∈ a.session.active) :
    a.createdWithin w t depth = [] := by
  induction depth generalizing a with
  | zero => rfl
  | succ depth ih =>
    have hown : a.created? w t = none := by
      unfold created?
      split
      · exact if_neg fun h => ht.elim (fun hv => hv h.2.1) h.2.2.1
      · rfl
    rw [createdWithin, hown, Option.toList_none, List.append_nil, List.flatMap_eq_nil_iff]
    exact fun b hb => ih (Asks.passes hb ht)

end Visit

/-! ### Layers at other nodes -/

section

variable {value : NodeRef → Eval (Option Value)} {made : Visit → List Generator}

lemma Script.raises {α : Type} (x : Script α) (s : Session)
    (h : ∀ b ∈ x.visits value w s, Raises t b.session (made b) (b.outcome value w).2) :
    Raises t s ((x.visits value w s).flatMap made) ((x.run value).exec w s).2 := by
  induction x generalizing s with
  | done a => exact .refl s
  | fail e => exact .refl s
  | look k ih => exact ih _ s h
  | selected n k ih => exact ih _ s h
  | ask n k ih =>
    have h0 : Raises t s (made ⟨n, s⟩) ((value n).exec w s).2 := h ⟨n, s⟩ (by simp [visits])
    rw [exec_ask, visits, List.flatMap_cons]
    rcases hv : (value n).exec w s with ⟨_ | v, s'⟩ <;> rw [hv] at h0
    · simpa using h0
    · exact h0.trans (ih v s' fun b hb => h b (by simp [visits, hv, hb]))
  | table n source k ih =>
    obtain ⟨u, r, ht⟩ := Eval.exec_table w s n source
    have h0 : Raises t s [] ((Eval.table n source).exec w s).2 := by rw [ht]; exact .of_lookup rfl
    rw [exec_table, visits]
    rcases hv : (Eval.table n source).exec w s with ⟨_ | u, s'⟩ <;> rw [hv] at h0
    · exact h0
    · exact h0.trans (ih u s' fun b hb => h b (by simpa [visits, hv] using hb))

lemma generatorOf_raises {c : Call}
    (h : ∀ b ∈ creationVisits value w n c s,
      Raises t b.session (made b) (b.outcome value w).2) :
    Raises t s ((creationVisits value w n c s).flatMap made)
      ((generatorOf value n c).exec w s).2 := by
  rcases hg : s.generators.lookup n with _ | g
  · by_cases hf : c.kind ∈ s.functions
    · rw [creationVisits_new hg hf] at h ⊢
      rw [generatorOf_new hg hf]
      exact Script.raises _ s h
    · rw [generatorOf_unknown hg hf, creationVisits_unknown hf]
      exact .refl s
  · rw [generatorOf_kept hg, creationVisits_kept hg]
    exact .refl s

lemma callValue_raises (hn : n ≠ t) {c : Call}
    (hc : ∀ b ∈ creationVisits value w n c s,
      Raises t b.session (made b) (b.outcome value w).2)
    (hp : ∀ b ∈ planVisits value w n c s, Raises t b.session (made b) (b.outcome value w).2) :
    Raises t s ((creationVisits value w n c s ++ planVisits value w n c s).flatMap made)
      ((callValue value n c).exec w s).2 := by
  have h0 := generatorOf_raises hc
  rw [exec_callValue, List.flatMap_append]
  unfold planVisits at hp ⊢
  rcases hg : (generatorOf value n c).exec w s with ⟨_ | g, s₁⟩ <;> rw [hg] at h0 hp
  · exact h0.trans (.refl _)
  · dsimp only at hp ⊢
    rcases hs : g.step s₁.source with _ | ⟨⟨plan, g'⟩, source⟩ <;> rw [hs] at hp
    · exact h0.trans (.refl _)
    · have hout : Raises t s₁ [] ({ s₁ with source }.withoutGenerator n) :=
        .of_lookup (by simp [hn.symm])
      have hback : ∀ s₂ : Session, Raises t s₂ [] (s₂.withGenerator n g') :=
        fun s₂ => .of_lookup (by simp [hn.symm])
      have hrun := (hout.trans (Script.raises _ _ hp)).trans (hback _)
      rw [List.nil_append, List.append_nil] at hrun
      exact h0.trans hrun

/-- What the evaluation of another node creates is what its visits create. -/
lemma ownValue_raises (hn : n ≠ t)
    (h : ∀ b ∈ ownVisits value w n s, Raises t b.session (made b) (b.outcome value w).2) :
    Raises t s ((ownVisits value w n s).flatMap made) ((ownValue value n).exec w s).2 := by
  rcases call_or_ne (s.workspace.kind n) with ⟨c, hk⟩ | hk'
  · rw [exec_ownValue_call hk]
    rw [ownVisits_call hk] at h ⊢
    exact callValue_raises hn (fun b hb => h b (List.mem_append_left _ hb))
      fun b hb => h b (List.mem_append_right _ hb)
  · rw [exec_ownValue_plain hk']
    rw [ownVisits_plain hk'] at h ⊢
    exact Script.raises _ s h

end

/-! ### The layer at the node -/

lemma Session.generators_settle (s : Session) (n : NodeRef) (r : Except Failure (Option Value)) :
    (s.settle n r).generators = s.generators := by
  rcases r with _ | _ <;> rfl

section

variable {g : Generator} {c : Call}

/-- From inside, nothing is done to the generator of a node that is being evaluated. -/
lemma lookup_of_held (h : Held t s s') (ht : t ∈ s.active) :
    s'.generators.lookup t = s.generators.lookup t :=
  (h (.inr ht)).1.generators

/-- The evaluation of a call keeps the generator that was there or was created, after a step. -/
lemma raised_callValue (ht : t ∈ s.active) (hg : ∀ b ∈ creationVisits Eval.value w t c s,
      b.session.Guarded)
    (hst : ((callValue Eval.value t c).exec w s).1 ≠ .error .stuck) :
    Raised ((s.generators.lookup t).toList ++
        (if s.generators.lookup t = none then
          ((generatorOf Eval.value t c).exec w s).1.toOption else none).toList)
      (((callValue Eval.value t c).exec w s).2.generators.lookup t) := by
  rcases hx : (callValue Eval.value t c).exec w s with ⟨r, s'⟩
  rw [hx] at hst
  have hheld := generatorOf_rel Held.passive (fun b hb => Visit.held (hg b hb) t) (w := w) (n := t)
    (c := c) (s := s)
  rcases callValue_cases hx with ⟨f, hgen, rfl⟩ | ⟨g, hgen, hnone, rfl⟩ |
    ⟨g, s₁, plan, g', src, s₂, hgen, hstep, -, -, rfl⟩
  · rw [hgen] at hheld
    have hsame : Raises t s [] s' := .of_lookup (lookup_of_held hheld ht)
    rw [hgen]
    split_ifs <;> exact hsame
  · exact absurd rfl hst
  · have hbecomes : g.Becomes g' := .single ⟨_, _, _, hstep⟩
    have hlast : (s₂.withGenerator t g').generators.lookup t = some g' := by simp
    rw [hlast, hgen]
    rcases generatorOf_cases hgen with ⟨hl, -⟩ | ⟨hl, -, -⟩ <;> rw [hl]
    · exact .one hbecomes
    · exact .one hbecomes

end

namespace Visit

variable {a : Visit}

lemma created?_settled {u : NodeRef} (hr : (a.session.scope w).resolve a.node = .ok (.value u))
    (hx : a.session.values.lookup u ≠ none ∨ u ∈ a.session.active) :
    a.created? w t = none := by
  unfold created?
  split
  · next hr' _ =>
    have hu := Resolution.value.inj (Except.ok.inj (hr.symm.trans hr'))
    refine if_neg fun h => ?_
    obtain ⟨h, hl, hact, -⟩ := h
    rw [hu, h] at hx
    exact hx.elim (fun hv => hv hl) hact
  · rfl

lemma created?_elsewhere {u : NodeRef} (hr : (a.session.scope w).resolve a.node = .ok (.value u))
    (hut : u ≠ t) : a.created? w t = none := by
  unfold created?
  split
  · next hr' _ =>
    have hu := Resolution.value.inj (Except.ok.inj (hr.symm.trans hr'))
    exact if_neg fun h => hut (hu.trans h.1)
  · rfl

/-- A request that evaluates a node itself keeps the generator of the node, or the one that it
creates, after a step. -/
lemma raised_own (ha : a.session.Guarded)
    (hr : (a.session.scope w).resolve a.node = .ok (.value t))
    (hl : a.session.values.lookup t = none) (hact : t ∉ a.session.active)
    (hst : ((valueVia Eval.value a.node).exec w a.session).1 ≠ .error .stuck) :
    Raises t a.session (a.created? w t).toList
      ((valueVia Eval.value a.node).exec w a.session).2 := by
  have hguard : ∀ b ∈ ownVisits Eval.value w t (a.session.enter t), b.session.Guarded :=
    fun b hb => (Asks.need_lt ha (by rwa [Asks, valueVisits_own hr hl hact])).1
  have hmem : t ∈ (a.session.enter t).active := List.mem_cons_self
  unfold Raises
  rw [valueVia_settle hr hl hact, Session.generators_settle]
  rcases call_or_ne ((a.session.enter t).workspace.kind t) with ⟨c, hk⟩ | hk'
  · rw [ownVisits_call hk] at hguard
    have hown : a.created? w t = if a.session.generators.lookup t = none then
        ((generatorOf Eval.value t c).exec w (a.session.enter t)).1.toOption else none := by
      have hk' : a.session.workspace.kind t = .call c := hk
      simp only [created?, hr, hk', hl, hact, not_false_eq_true, true_and]
    have hstuck : ((callValue Eval.value t c).exec w (a.session.enter t)).1 ≠ .error .stuck := by
      intro hs
      rw [valueVia_own hr hl hact, exec_ownValue_call hk] at hst
      rcases hx : (callValue Eval.value t c).exec w (a.session.enter t) with ⟨_ | v, s'⟩ <;>
        rw [hx] at hs hst
      · exact hst hs
      · cases hs
    rw [hown, exec_ownValue_call hk]
    exact raised_callValue (s := a.session.enter t) hmem
      (fun b hb => hguard b (List.mem_append_left _ hb)) hstuck
  · have hown : a.created? w t = none := by
      unfold created?
      split
      · next hk => exact absurd hk (hk' _)
      · rfl
    rw [ownVisits_plain hk'] at hguard
    rw [hown, exec_ownValue_plain hk']
    exact Raises.of_lookup (s := a.session.enter t) (lookup_of_held
      (Script.run_rel Held.passive _ _ fun b hb => held (hguard b hb) t) hmem)

/-- A request that evaluates another node creates what the requests inside it create. -/
lemma raised_elsewhere {u : NodeRef} {made : Visit → List Generator}
    (hr : (a.session.scope w).resolve a.node = .ok (.value u))
    (hl : a.session.values.lookup u = none) (hact : u ∉ a.session.active) (hut : u ≠ t)
    (ht : t ∉ a.session.active)
    (hin : ∀ b, a.Asks w b → t ∉ b.session.active →
      Raises t b.session (made b) (b.outcome Eval.value w).2) :
    Raises t a.session ((valueVisits Eval.value w a.node a.session).flatMap made)
      ((valueVia Eval.value a.node).exec w a.session).2 := by
  rw [valueVia_settle hr hl hact, valueVisits_own hr hl hact]
  have hall : ∀ b ∈ ownVisits Eval.value w u (a.session.enter u),
      Raises t b.session (made b) (b.outcome Eval.value w).2 := by
    intro b hb
    have hk := ownVisits_keeps (keeps_value w) hb
    refine hin b (by rwa [Asks, valueVisits_own hr hl hact]) ?_
    rw [hk.active]
    exact fun hm => (List.mem_cons.mp hm).elim (fun h => hut h.symm) ht
  have hown : Raises t (a.session.enter u) _ _ := ownValue_raises hut hall
  unfold Raises at hown ⊢
  rwa [Session.generators_settle]

lemma outcome_ne_stuck {b : Visit} (ha : a.session.Guarded) (h : a.Asks w b)
    (hst : (a.outcome Eval.value w).1 ≠ .error .stuck) :
    (b.outcome Eval.value w).1 ≠ .error .stuck := by
  intro hb
  obtain ⟨s', h', -⟩ := h.error ha (Prod.ext hb rfl)
  exact hst (by rw [h'])

/-- **At most one generator is created** for a node by a request that does not get stuck, and none
if there is one; what the node has afterwards has become of it. -/
theorem raises_createdWithin (ha : a.session.Guarded) {depth : Nat}
    (hd : a.session.need a.node ≤ depth) (ht : t ∉ a.session.active)
    (hst : (a.outcome Eval.value w).1 ≠ .error .stuck) :
    Raises t a.session (a.createdWithin w t depth) (a.outcome Eval.value w).2 := by
  induction depth generalizing a with
  | zero =>
    have := a.session.le_need a.node
    omega
  | succ depth ih =>
    have hin : ∀ b, a.Asks w b → t ∉ b.session.active →
        Raises t b.session (b.createdWithin w t depth) (b.outcome Eval.value w).2 := by
      intro b hb hact
      obtain ⟨hg, hlt⟩ := hb.need_lt ha
      exact ih hg (by omega) hact (outcome_ne_stuck ha hb hst)
    have hlayer : a.outcome Eval.value w = (valueVia Eval.value a.node).exec w a.session :=
      exec_value_eq_valueVia ha
    rw [createdWithin, hlayer]
    rw [hlayer] at hst
    rcases hr : (a.session.scope w).resolve a.node with e | ⟨u⟩ | ⟨base, keys⟩
    · have hown : a.created? w t = none := by rw [created?, hr]
      rw [valueVia_unresolved hr, valueVisits_unresolved hr, hown]
      exact .refl _
    · by_cases hx : a.session.values.lookup u ≠ none ∨ u ∈ a.session.active
      · rw [valueVisits_settled hr hx, created?_settled hr hx, valueVia_settled_snd hr hx]
        exact .refl _
      obtain ⟨hl, hact⟩ := not_or.mp hx
      rw [not_not] at hl
      by_cases hut : u = t
      · obtain rfl := hut
        have hvisits : (valueVisits Eval.value w a.node a.session).flatMap
            (createdWithin w u depth) = [] :=
          List.flatMap_eq_nil_iff.mpr fun b (hb : a.Asks w b) =>
            createdWithin_eq_nil depth (.inr (hb.open_own hr).1)
        rw [hvisits, List.nil_append]
        exact raised_own ha hr hl hact hst
      · rw [created?_elsewhere hr hut, Option.toList_none, List.append_nil]
        exact raised_elsewhere hr hl hact hut ht hin
    · have hown : a.created? w t = none := by rw [created?, hr]
      have hbase := hin ⟨base, a.session⟩ (by simp [Asks, valueVisits_extract hr]) ht
      rw [valueVisits_extract hr, hown, List.flatMap_singleton, Option.toList_none,
        List.append_nil, valueVia_extract_snd hr]
      exact hbase

lemma raises_created (ha : a.session.Guarded) (ht : t ∉ a.session.active)
    (hst : (a.outcome Eval.value w).1 ≠ .error .stuck) :
    Raises t a.session (a.created w t) (a.outcome Eval.value w).2 :=
  raises_createdWithin ha (by have := a.session.need_le_fuel a.node; omega) ht hst

/-- What a request creates at any depth is among what is created. -/
lemma mem_created {b : Visit} {g : Generator} (ha : a.session.Guarded) (h : a.Reaches w b)
    (hg : b.created? w t = some g) : g ∈ a.created w t := by
  suffices ∀ depth, a.session.need a.node ≤ depth → g ∈ a.createdWithin w t depth from
    this _ (by have := a.session.need_le_fuel a.node; omega)
  induction h using Relation.ReflTransGen.head_induction_on with
  | refl =>
    intro depth hd
    obtain _ | depth := depth
    · have := b.session.le_need b.node
      omega
    · rw [createdWithin, hg]
      simp
  | @head a c hac _ ih =>
    intro depth hd
    obtain ⟨hc, hlt⟩ := hac.need_lt ha
    obtain _ | depth := depth
    · omega
    · rw [createdWithin]
      exact List.mem_append_left _ (List.mem_flatMap.mpr ⟨c, hac, ih hc depth (by omega)⟩)

end Visit

end TestData.Engine
