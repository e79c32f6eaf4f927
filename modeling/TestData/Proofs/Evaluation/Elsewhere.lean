import TestData.Proofs.Evaluation.Nested

/-!
Evaluations that do not need a node.

Whether a node is being evaluated, and whether its generator is there, matters only to a request
that needs the node. Where no request inside another one is for the node, the whole ends alike in
two sessions that differ at the node only, and leaves them alike but for it.
-/

namespace TestData.Engine

open Schema

/-- Two sessions that differ in whether a node is being evaluated and in its generator only. The
node has no value, and is not being evaluated in the first of them. -/
structure Session.AlikeBut (p : NodeRef) (s s' : Session) : Prop where
  same : s' = { s with active := s'.active, generators := s'.generators }
  active : ∀ t, t ≠ p → (t ∈ s'.active ↔ t ∈ s.active)
  generators : ∀ t, t ≠ p → s'.generators.lookup t = s.generators.lookup t
  selected : s'.selected? p = s.selected? p
  fresh : s.values.lookup p = none
  idle : p ∉ s.active
  nodup : s.active.Nodup
  nodup' : s'.active.Nodup
  known : ∀ t ∈ s.active, t ∈ s.workspace.refs
  known' : ∀ t ∈ s'.active, t ∈ s'.workspace.refs

/-- Two evaluations end alike, in sessions that are alike but for a node. -/
def Matches {α : Type} (p : NodeRef) (x x' : Except Failure α × Session) : Prop :=
  x'.1 = x.1 ∧ x.2.AlikeBut p x'.2

variable {p t n : NodeRef} {s s' : Session} {w : World}

namespace Session.AlikeBut

lemma guarded (h : s.AlikeBut p s') : s.Guarded := ⟨h.nodup, h.known⟩

lemma guarded' (h : s.AlikeBut p s') : s'.Guarded := ⟨h.nodup', h.known'⟩

lemma setting (h : s.AlikeBut p s') : s'.setting = s.setting := by
  rw [h.same]
  rfl

lemma workspace (h : s.AlikeBut p s') : s'.workspace = s.workspace :=
  workspace_of_setting h.setting

lemma functions (h : s.AlikeBut p s') : s'.functions = s.functions := by
  rw [h.same]

lemma scope (h : s.AlikeBut p s') (w : World) : s'.scope w = s.scope w :=
  congrArg Setting.scope (congrFun h.setting w)

lemma values (h : s.AlikeBut p s') : s'.values = s.values := by
  rw [h.same]

lemma source (h : s.AlikeBut p s') : s'.source = s.source := by
  rw [h.same]

lemma selected?_eq (h : s.AlikeBut p s') (t : NodeRef) : s'.selected? t = s.selected? t := by
  by_cases ht : t = p
  · rw [ht, h.selected]
  · rw [selected?, selected?, h.generators t ht]

/-! ### What is done elsewhere -/

lemma withSource (h : s.AlikeBut p s') (src : Random.Source) :
    ({ s with source := src } : Session).AlikeBut p { s' with source := src } :=
  { h with same := by rw [h.same] }

lemma withTables (h : s.AlikeBut p s') (tables : Table.Cache) (r : Nat) :
    ({ s with tables := tables, requests := r } : Session).AlikeBut p
      { s' with tables := tables, requests := r } :=
  { h with same := by rw [h.same] }

lemma leave (h : s.AlikeBut p s') (t : NodeRef) : (s.leave t).AlikeBut p (s'.leave t) :=
  { h with
    same := by rw [h.same]; rfl
    active := fun u hu => by
      show u ∈ s'.active.erase t ↔ u ∈ s.active.erase t
      rw [h.nodup.mem_erase_iff, h.nodup'.mem_erase_iff, h.active u hu]
    idle := fun hp => h.idle (List.mem_of_mem_erase hp)
    nodup := h.nodup.erase t
    nodup' := h.nodup'.erase t
    known := fun _ hu => h.known _ (List.mem_of_mem_erase hu)
    known' := fun _ hu => h.known' _ (List.mem_of_mem_erase hu) }

section

variable (h : s.AlikeBut p s') (ht : t ≠ p)

include h ht

lemma enter (ha : t ∉ s.active) (hw : t ∈ s.workspace.refs) :
    (s.enter t).AlikeBut p (s'.enter t) :=
  have hg := h.guarded.enter ha hw
  have hg' := h.guarded'.enter (fun ha' => ha ((h.active t ht).mp ha')) (by rwa [h.workspace])
  { h with
    same := by rw [h.same]; rfl
    active := fun u hu => by
      rw [Session.enter, Session.enter, List.mem_cons, List.mem_cons, h.active u hu]
    idle := fun hp => h.idle ((List.mem_cons.mp hp).resolve_left ht.symm)
    nodup := hg.nodup
    nodup' := hg'.nodup
    known := hg.known
    known' := hg'.known }

lemma keep (v : Option Value) : (s.keep t v).AlikeBut p (s'.keep t v) :=
  { h with
    same := by rw [h.same]; rfl
    fresh := by simp [ht.symm, h.fresh] }

lemma without : (s.withoutGenerator t).AlikeBut p (s'.withoutGenerator t) :=
  { h with
    same := by rw [h.same]; rfl
    generators := fun u hu => by simp [h.generators u hu]
    selected := by
      have hsel := h.selected
      unfold Session.selected? at hsel ⊢
      simpa [ht.symm] using hsel }

lemma insert (g : Generator) : (s.withGenerator t g).AlikeBut p (s'.withGenerator t g) :=
  { h with
    same := by rw [h.same]; rfl
    generators := fun u hu => by simp [h.generators u hu]
    selected := by
      have hsel := h.selected
      unfold Session.selected? at hsel ⊢
      simpa [ht.symm] using hsel }

end

end Session.AlikeBut

/-! ### Evaluations that match -/

/-- Tables are asked for alike, whatever is being evaluated and whichever generators are there. -/
lemma Eval.exec_table_with (active : List NodeRef) (generators : List (NodeRef × Generator))
    (n : NodeRef) (source : TableSource) :
    (Eval.table n source).exec w { s with active, generators } =
      (((Eval.table n source).exec w s).1,
        { ((Eval.table n source).exec w s).2 with active, generators }) := by
  have hload : ∀ (disk : Files.Disk) p delimiter noHeader,
      ({ s with active, generators } : Session).loadTable disk p delimiter noHeader =
        ((s.loadTable disk p delimiter noHeader).1,
          { (s.loadTable disk p delimiter noHeader).2 with active, generators }) := by
    intro disk p delimiter noHeader
    unfold Session.loadTable
    dsimp only
    rcases s.tables.get disk (s.requests + 1) p delimiter noHeader with _ | ⟨_, _⟩ <;> rfl
  simp only [Eval.table, Eval.exec_bind, Eval.exec_get, Eval.exec_read, Eval.exec_set, hload]
  rcases (s.loadTable w.disk _ source.delimiter source.noHeader).1 with (_ | _ | _ | _) | _ <;> rfl

namespace Matches

variable {α β : Type} {value : NodeRef → Eval (Option Value)}

lemma table (h : s.AlikeBut p s') (n : NodeRef) (source : TableSource) :
    Matches p ((Eval.table n source).exec w s) ((Eval.table n source).exec w s') := by
  obtain ⟨t, r, hs⟩ := Eval.exec_table w s n source
  have hx := Eval.exec_table_with (w := w) (s := s) s'.active s'.generators n source
  rw [← h.same] at hx
  rw [Matches, hx, hs]
  refine ⟨rfl, ?_⟩
  have hw := h.withTables t r
  rwa [h.same] at hw

/-- A script runs alike if its visits end alike. -/
lemma run (x : Script α) (h : s.AlikeBut p s')
    (hv : ∀ b ∈ x.visits value w s, ∀ s', b.session.AlikeBut p s' →
      Matches p (b.outcome value w) ((value b.node).exec w s')) :
    Matches p ((x.run value).exec w s) ((x.run value).exec w s') := by
  induction x generalizing s s' with
  | done a => exact ⟨rfl, h⟩
  | fail e => exact ⟨rfl, h⟩
  | look k ih =>
    rw [Script.exec_look, Script.exec_look, h.setting]
    exact ih _ h hv
  | selected n k ih =>
    rw [Script.exec_selected, Script.exec_selected, h.selected?_eq]
    exact ih _ h hv
  | ask n k ih =>
    obtain ⟨hr, hs⟩ := hv ⟨n, s⟩ (by simp [Script.visits]) s' h
    unfold Visit.outcome at hr hs
    rw [Script.exec_ask, Script.exec_ask]
    rcases hn : (value n).exec w s with ⟨f | v, s₁⟩ <;>
      rcases hn' : (value n).exec w s' with ⟨r', s₁'⟩ <;> rw [hn, hn'] at hr hs
    · obtain rfl : r' = .error f := hr
      exact ⟨rfl, hs⟩
    · obtain rfl : r' = .ok v := hr
      exact ih v hs fun b hb => hv b (by simp [Script.visits, hn, hb])
  | table n source k ih =>
    obtain ⟨hr, hs⟩ := table (w := w) h n source
    rw [Script.exec_table, Script.exec_table]
    rcases hn : (Eval.table n source).exec w s with ⟨f | t, s₁⟩ <;>
      rcases hn' : (Eval.table n source).exec w s' with ⟨r', s₁'⟩ <;> rw [hn, hn'] at hr hs
    · obtain rfl : r' = .error f := hr
      exact ⟨rfl, hs⟩
    · obtain rfl : r' = .ok t := hr
      exact ih t hs fun b hb => hv b (by simpa [Script.visits, hn] using hb)

section

variable (h : s.AlikeBut p s') (ht : t ≠ p)

include h ht

lemma generatorOf {c : Call}
    (hv : ∀ b ∈ creationVisits value w t c s, ∀ s', b.session.AlikeBut p s' →
      Matches p (b.outcome value w) ((value b.node).exec w s')) :
    Matches p ((generatorOf value t c).exec w s) ((generatorOf value t c).exec w s') := by
  have hg' := h.generators t ht
  rcases hg : s.generators.lookup t with _ | g <;> rw [hg] at hg'
  · by_cases hf : c.kind ∈ s.functions
    · rw [creationVisits_new hg hf] at hv
      rw [generatorOf_new hg hf, generatorOf_new hg' (h.functions ▸ hf)]
      exact run _ h hv
    · rw [generatorOf_unknown hg hf, generatorOf_unknown hg' (h.functions ▸ hf), Session.location,
        Session.location, h.workspace]
      exact ⟨rfl, h⟩
  · rw [generatorOf_kept hg, generatorOf_kept hg']
    exact ⟨rfl, h⟩

lemma callValue {c : Call}
    (hc : ∀ b ∈ creationVisits value w t c s, ∀ s', b.session.AlikeBut p s' →
      Matches p (b.outcome value w) ((value b.node).exec w s'))
    (hp : ∀ b ∈ planVisits value w t c s, ∀ s', b.session.AlikeBut p s' →
      Matches p (b.outcome value w) ((value b.node).exec w s')) :
    Matches p ((callValue value t c).exec w s) ((callValue value t c).exec w s') := by
  obtain ⟨hr, hs⟩ := generatorOf h ht hc
  unfold planVisits at hp
  rw [exec_callValue, exec_callValue]
  rcases hg : (Engine.generatorOf value t c).exec w s with ⟨f | g, s₁⟩ <;>
    rcases hg' : (Engine.generatorOf value t c).exec w s' with ⟨r', s₁'⟩ <;>
    rw [hg, hg'] at hr hs
  · obtain rfl : r' = .error f := hr
    exact ⟨rfl, hs⟩
  · obtain rfl : r' = .ok g := hr
    have hsource : s₁'.source = s₁.source := hs.source
    rw [hg] at hp
    dsimp only at hp ⊢
    rw [hsource]
    rcases hst : g.step s₁.source with _ | ⟨⟨plan, g'⟩, src⟩ <;> rw [hst] at hp
    · exact ⟨rfl, hs⟩
    · obtain ⟨hr, hs⟩ := run plan.script ((hs.withSource src).without ht) hp
      exact ⟨hr, hs.insert ht g'⟩

lemma ownValue
    (hv : ∀ b ∈ ownVisits value w t s, ∀ s', b.session.AlikeBut p s' →
      Matches p (b.outcome value w) ((value b.node).exec w s')) :
    Matches p ((ownValue value t).exec w s) ((ownValue value t).exec w s') := by
  rcases call_or_ne (s.workspace.kind t) with ⟨c, hk⟩ | hk'
  · rw [ownVisits_call hk] at hv
    rw [exec_ownValue_call hk, exec_ownValue_call (h.workspace ▸ hk)]
    exact callValue h ht (fun b hb => hv b (List.mem_append_left _ hb))
      fun b hb => hv b (List.mem_append_right _ hb)
  · rw [ownVisits_plain hk'] at hv
    rw [exec_ownValue_plain hk', exec_ownValue_plain (h.workspace ▸ hk'), h.workspace]
    exact run _ h hv

/-- A node is entered, evaluated and left. -/
lemma own (ha : t ∉ s.active)
    (hv : ∀ b ∈ ownVisits value w t (s.enter t), ∀ s', b.session.AlikeBut p s' →
      Matches p (b.outcome value w) ((value b.node).exec w s')) :
    ((Engine.ownValue value t).exec w (s'.enter t)).1 =
        ((Engine.ownValue value t).exec w (s.enter t)).1 ∧
      (((Engine.ownValue value t).exec w (s.enter t)).2.leave t).AlikeBut p
        (((Engine.ownValue value t).exec w (s'.enter t)).2.leave t) := by
  by_cases hw : t ∈ s.workspace.refs
  · obtain ⟨hx, hs⟩ := ownValue (h.enter ht ha hw) ht hv
    exact ⟨hx, hs.leave t⟩
  · -- what is no node of a document is null, and entering it does nothing
    have hnull : ∀ u : Session, u.workspace = s.workspace →
        (Engine.ownValue value t).exec w (u.enter t) = (.ok (some .null), u.enter t) := by
      intro u hu
      have hk : (u.enter t).workspace.kind t = .literal .null := by
        rw [show (u.enter t).workspace = s.workspace from hu, Workspace.kind_of_not_mem_refs hw]
      rw [exec_ownValue, hk]
      rfl
    have hback : ∀ u : Session, (u.enter t).leave t = u := fun u => by
      simp [Session.enter, Session.leave]
    rw [hnull s rfl, hnull s' h.workspace]
    dsimp only
    rw [hback, hback]
    exact ⟨rfl, h⟩

end

/-- One layer of a request for another node than the one that sessions differ at. -/
lemma valueVia (h : s.AlikeBut p s')
    (hn : (s.scope w).resolve n ≠ .ok (.value p))
    (hv : ∀ b ∈ valueVisits value w n s, ∀ s', b.session.AlikeBut p s' →
      Matches p (b.outcome value w) ((value b.node).exec w s')) :
    Matches p ((valueVia value n).exec w s) ((valueVia value n).exec w s') := by
  rcases hr : (s.scope w).resolve n with e | ⟨t⟩ | ⟨base, keys⟩
  · have hr' : (s'.scope w).resolve n = .error e := by rw [h.scope, hr]
    rw [valueVia_unresolved hr, valueVia_unresolved hr']
    exact ⟨rfl, h⟩
  · have hr' : (s'.scope w).resolve n = .ok (.value t) := by rw [h.scope, hr]
    have ht : t ≠ p := by
      rintro rfl
      exact hn hr
    rcases hl : s.values.lookup t with _ | v
    · have hl' : s'.values.lookup t = none := by rw [h.values, hl]
      by_cases ha : t ∈ s.active
      · rw [valueVia_active hr hl ha, valueVia_active hr' hl' ((h.active t ht).mpr ha),
          Session.location, Session.location, h.workspace]
        exact ⟨rfl, h⟩
      · rw [valueVia_own hr hl ha, valueVia_own hr' hl' fun ha' => ha ((h.active t ht).mp ha')]
        rw [valueVisits_own hr hl ha] at hv
        obtain ⟨hx, hs⟩ := own h ht ha hv
        rcases ho : (Engine.ownValue value t).exec w (s.enter t) with ⟨f | v, s₁⟩ <;>
          rcases ho' : (Engine.ownValue value t).exec w (s'.enter t) with ⟨r', s₁'⟩ <;>
          rw [ho, ho'] at hx hs
        · obtain rfl : r' = .error f := hx
          exact ⟨rfl, hs⟩
        · obtain rfl : r' = .ok v := hx
          exact ⟨rfl, hs.keep ht v⟩
    · rw [valueVia_cached hr hl, valueVia_cached hr' (h.values ▸ hl)]
      exact ⟨rfl, h⟩
  · have hr' : (s'.scope w).resolve n = .ok (.extract base keys) := by rw [h.scope, hr]
    obtain ⟨hx, hs⟩ := hv ⟨base, s⟩ (by simp [valueVisits_extract hr]) s' h
    unfold Visit.outcome at hx hs
    rw [valueVia_extract hr, valueVia_extract hr']
    rcases hb : (value base).exec w s with ⟨f | u, s₁⟩ <;>
      rcases hb' : (value base).exec w s' with ⟨r', s₁'⟩ <;> rw [hb, hb'] at hx hs
    · obtain rfl : r' = .error f := hx
      exact ⟨rfl, hs⟩
    · obtain rfl : r' = .ok u := hx
      rcases u with _ | v
      · exact ⟨rfl, hs⟩
      · dsimp only
        rcases keysIn v keys with key | v'
        · have hws : s₁'.workspace = s₁.workspace := hs.workspace
          have hkey : s₁'.noKey n key = s₁.noKey n key := by
            simp only [Session.noKey, Session.location, hws]
          exact ⟨congrArg Except.error hkey, hs⟩
        · exact ⟨rfl, hs⟩

end Matches

/-- **What does not need a node does not notice it.** If no request inside another one evaluates a
node, the request ends alike in two sessions that differ at the node only, and leaves them alike but
for it. -/
theorem Visit.matches {a : Visit} (h : a.session.AlikeBut p s')
    (hN : ∀ b, a.Reaches w b → b.session.values.lookup p = none → p ∉ b.session.active →
      (a.session.scope w).resolve b.node ≠ .ok (.value p)) :
    Matches p (a.outcome Eval.value w) ((Eval.value a.node).exec w s') := by
  induction acc_asks (w := w) h.guarded generalizing s' with
  | intro a _ ih =>
    unfold outcome
    rw [exec_value_eq_valueVia h.guarded, exec_value_eq_valueVia h.guarded']
    refine .valueVia h (hN a .refl h.fresh h.idle) fun b hb s₁ h₁ => ?_
    have hab : a.Asks w b := hb
    refine ih b hab h₁ fun c hc hl ha => ?_
    rw [hab.scope]
    exact hN c (.head hab hc) hl ha

/-- **A request that ends with a value does not need itself**: none inside it is for the same
node. -/
theorem Visit.Within.node_ne {a c : Visit} {v : Option Value} (h : a.Within w c)
    (ha : a.session.Guarded) (hv : a.outcome Eval.value w = (.ok v, s)) : c.node ≠ a.node := by
  intro hn
  rcases hr : (a.session.scope w).resolve a.node with e | ⟨t⟩ | ⟨base, keys⟩
  · unfold outcome at hv
    rw [exec_value_eq_valueVia ha, valueVia_unresolved hr] at hv
    cases (Prod.mk.inj hv).1
  · obtain ⟨s₁, h₁⟩ := circular_of_within ha .refl h hr (by rw [hn, hr])
    cases (Prod.mk.inj (hv.symm.trans h₁)).1
  · -- both requests are for names of one call, which is then needed for itself
    obtain ⟨⟨call, hcall⟩, -⟩ := Session.resolve_extract hr
    have hbase := Session.resolve_call (w := w) hcall
    obtain ⟨d, had, hdc⟩ := Relation.TransGen.head'_iff.mp h
    have hd : d.node = base := by
      rcases had.cases with ⟨_, hr', -⟩ | ⟨_, hr', -⟩
      · exact (Resolution.extract.inj (Except.ok.inj (hr.symm.trans hr'))).1.symm
      · cases hr.symm.trans hr'
    have hce : c.Asks w ⟨base, c.session⟩ := by
      unfold Asks
      rw [valueVisits_extract (by rw [Reaches.scope h.to_reflTransGen, hn, hr])]
      exact List.mem_singleton_self _
    obtain ⟨s₁, h₁⟩ := circular_of_within ha (.single had) (.tail' hdc hce)
      (by rw [hd, hbase]) hbase
    cases (Prod.mk.inj (hv.symm.trans h₁)).1

end TestData.Engine
