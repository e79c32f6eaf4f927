import TestData.Proofs.Evaluation.Contract
import TestData.Proofs.Evaluation.Lasting

/-!
Generators fit the calls that they are of.

What a generator is made from stays with it: a choice keeps the nodes that it chooses from, a map
its source and its targets. Creation ensures it and every step keeps it. As with other invariants of
generators, nothing has to be said about how evaluations are nested.
-/

namespace TestData.Engine

open Schema

/-! ### What a script ensures -/

namespace Script

variable {α β : Type} {c : Setting}

/-- Whatever a script is answered, a result of it satisfies a predicate. -/
def Ensures (c : Setting) : Script α → (α → Prop) → Prop
  | done a, Q => Q a
  | fail _, _ => True
  | look k, Q => (k c).Ensures c Q
  | ask _ k, Q => ∀ v, (k v).Ensures c Q
  | selected _ k, Q => ∀ i, (k i).Ensures c Q
  | table _ _ k, Q => ∀ t, (k t).Ensures c Q

variable {Q : α → Prop}

@[simp] lemma ensures_pure (a : α) : (pure a : Script α).Ensures c Q ↔ Q a := Iff.rfl
@[simp] lemma ensures_fail (e : EvalError) : (fail e : Script α).Ensures c Q ↔ True := Iff.rfl
@[simp] lemma ensures_setting {Q : Setting → Prop} : setting.Ensures c Q ↔ Q c := Iff.rfl
@[simp] lemma ensures_location {Q : Location → Prop} (n : NodeRef) :
    (location n).Ensures c Q ↔ Q (c.location n) := Iff.rfl
@[simp] lemma ensures_kind {Q : Kind → Prop} (n : NodeRef) :
    (kind n).Ensures c Q ↔ Q (c.workspace.kind n) := Iff.rfl
@[simp] lemma ensures_table (n : NodeRef) (source : TableSource) (k : Table → Script α) :
    (table n source k).Ensures c Q ↔ ∀ t, (k t).Ensures c Q := Iff.rfl

@[simp] lemma ensures_bind {Q : β → Prop} (x : Script α) (f : α → Script β) :
    (x >>= f).Ensures c Q ↔ x.Ensures c fun a => (f a).Ensures c Q := by
  show (x.bind f).Ensures c Q ↔ _
  induction x with
  | done a => rfl
  | fail e => rfl
  | look k ih => exact ih c
  | ask n k ih => exact forall_congr' ih
  | selected n k ih => exact forall_congr' ih
  | table n source k ih => exact forall_congr' ih

lemma ensures_of_forall (h : ∀ a, Q a) (x : Script α) : x.Ensures c Q := by
  induction x with
  | done a => exact h a
  | fail e => trivial
  | look k ih => exact ih c
  | ask n k ih => exact ih
  | selected n k ih => exact ih
  | table n source k ih => exact ih

lemma ensures_lift (x : Except EvalError α) :
    (lift x).Ensures c Q ↔ ∀ a, x = .ok a → Q a := by
  rcases x with e | a <;> simp [lift, Ensures]

@[simp] lemma ensures_resolve {Q : Resolution → Prop} (n : NodeRef) :
    (resolve n).Ensures c Q ↔ ∀ r, c.scope.resolve n = .ok r → Q r :=
  ensures_lift (c.scope.resolve n)

/-- A script ensures what it is bound to. -/
lemma Obeys.ensures {T : Terms} {x : Script α} (hx : x.Obeys T Q) : x.Ensures T.setting Q := by
  induction x with
  | done a => exact hx
  | fail e => trivial
  | look k ih => exact ih _ hx
  | ask n k ih => exact fun v => ih v (hx.2 v)
  | selected n k ih => exact fun i => ih i (hx i)
  | table n source k ih => exact fun t => ih t (hx t)

lemma Ensures.mono {Q' : α → Prop} (h : ∀ a, Q a → Q' a) {x : Script α} (hx : x.Ensures c Q) :
    x.Ensures c Q' := by
  induction x with
  | done a => exact h a hx
  | fail e => trivial
  | look k ih => exact ih c hx
  | ask n k ih => exact fun v => ih v (hx v)
  | selected n k ih => exact fun i => ih i (hx i)
  | table n source k ih => exact fun t => ih t (hx t)

lemma Ensures.and {Q' : α → Prop} {x : Script α} (hx : x.Ensures c Q) (hx' : x.Ensures c Q') :
    x.Ensures c fun a => Q a ∧ Q' a := by
  induction x with
  | done a => exact ⟨hx, hx'⟩
  | fail e => trivial
  | look k ih => exact ih c hx hx'
  | ask n k ih => exact fun v => ih v (hx v) (hx' v)
  | selected n k ih => exact fun i => ih i (hx i) (hx' i)
  | table n source k ih => exact fun t => ih t (hx t) (hx' t)

/-- What a script ensures holds of what a run of it ends with. -/
lemma Ensures.run {value : NodeRef → Eval (Option Value)} {w : World} {x : Script α}
    {s s' : Session} {a : α} (hx : x.Ensures (s.setting w) Q)
    (hk : ∀ n s, Keeps s ((value n).exec w s).2)
    (h : (x.run value).exec w s = (.ok a, s')) : Q a := by
  induction x generalizing s with
  | done b =>
    obtain rfl := Except.ok.inj (Prod.mk.inj h).1
    exact hx
  | fail e => cases (Prod.mk.inj h).1
  | look k ih => exact ih _ hx h
  | selected n k ih => exact ih _ (hx _) h
  | ask n k ih =>
    have hs := hk n s
    rw [exec_ask] at h
    rcases hv : (value n).exec w s with ⟨f | v, s₁⟩ <;> rw [hv] at h hs
    · cases (Prod.mk.inj h).1
    · exact ih v (by rw [hs.setting]; exact hx v) h
  | table n source k ih =>
    have hs := keeps_table w n source s
    rw [exec_table] at h
    rcases hv : (Eval.table n source).exec w s with ⟨f | v, s₁⟩ <;> rw [hv] at h hs
    · cases (Prod.mk.inj h).1
    · exact ih v (by rw [hs.setting]; exact hx v) h

end Script

/-! ### Invariants of generators -/

/-- Every generator of a session satisfies a predicate. -/
def Session.Holds (P : NodeRef → Generator → Prop) (s : Session) : Prop :=
  ∀ n g, s.generators.lookup n = some g → P n g

variable {P : NodeRef → Generator → Prop} {w : World} {s s' : Session}

namespace Session.Holds

lemma without (h : s.Holds P) (n : NodeRef) : (s.withoutGenerator n).Holds P := by
  intro m g hg
  rw [lookup_withoutGenerator] at hg
  split_ifs at hg
  exact h m g hg

lemma insert (h : s.Holds P) {n : NodeRef} {g : Generator} (hg : P n g) :
    (s.withGenerator n g).Holds P := by
  intro m g' hm
  rw [lookup_withGenerator] at hm
  split_ifs at hm with hmn
  · obtain rfl := Option.some.inj hm
    exact hmn ▸ hg
  · exact h m g' hm

lemma settle (h : s.Holds P) (t : NodeRef) (r : Except Failure (Option Value)) :
    (s.settle t r).Holds P := by
  rcases r with _ | _ <;> exact h

end Session.Holds

/-- **What creation ensures and steps keep** holds of every generator. -/
theorem lasting_holds {s₀ : Session}
    (hnew : ∀ n call, s₀.workspace.kind n = .call call →
      (Generator.ofCallAs call.kind n call).Ensures (s₀.setting w) (P n))
    (hstep : ∀ {n g src plan g' src'}, P n g → g.step src = some ((plan, g'), src') → P n g') :
    Lasting w fun s => s.setting = s₀.setting ∧ s.Holds P where
  tables _ _ h := h
  source _ h := h
  own := by
    intro s t hs h hl ha hr hv
    have hset : ((ownValue Eval.value t).exec w (s.enter t)).2.setting = s₀.setting :=
      (funext (grows_ownValue w t (s.enter t)).setting).trans h.1
    refine ⟨(Session.setting_settle _ t _).trans hset, ?_⟩
    have he : (s.enter t).setting = s₀.setting ∧ (s.enter t).Holds P := h
    have hR : Passive (Preserves fun s => s.setting = s₀.setting ∧ s.Holds P) :=
      passive_preserves (fun _ _ h => h) fun _ h => h
    refine Session.Holds.settle ?_ t _
    rcases call_or_ne ((s.enter t).workspace.kind t) with ⟨call, hk⟩ | hk'
    · rw [exec_ownValue_call hk]
      rcases hx : (callValue Eval.value t call).exec w (s.enter t) with ⟨r, s'⟩
      cases callEnds hR (fun _ _ h => ⟨h.1, Session.Holds.without h.2 t⟩) hk
        (Session.open_enter hl) he hv hx with
      | creation _ hI => exact hI.2
      | stuck _ _ hI => exact hI.2
      | @plan g g' plan src s₁ s₂ r hg hst _ _ hI₁ _ _ hI₂ =>
        have hPg : P t g := by
          rcases generatorOf_cases hg with ⟨hl, rfl⟩ | ⟨hl, hf, hnewg⟩
          · exact hI₁.2 t g hl
          · have hk' : s₀.workspace.kind t = .call call := by
              rw [← hk, workspace_of_setting he.1]
            have hens := hnew t call hk'
            rw [← he.1] at hens
            exact hens.run (keeps_value w) hnewg
        exact hI₂.2.insert (hstep hPg hst)
    · rw [ownVisits_plain hk'] at hv
      rw [exec_ownValue_plain hk']
      exact (Script.run_rel hR _ _ (fun b hb => (hv b hb).2) he).2

/-! ### Fitting -/

namespace Generator

/-- Which function a generator is of. -/
def kind : Generator → CallKind
  | range _ => .range
  | normal _ => .normal
  | choice _ _ => .choice
  | weighted _ _ => .weighted
  | table _ => .table
  | dict _ _ => .dict
  | map _ _ _ => .map
  | sequence _ => .sequence
  | uuid => .uuid
  | clock _ _ _ dateOnly => if dateOnly then .today else .now
  | regex _ => .regex
  | template _ _ _ _ => .template
  | pipe _ _ => .pipe

/-- A generator is of a call at a node. -/
structure Fits (n : NodeRef) (c : Call) (g : Generator) : Prop where
  kind : g.kind = c.kind
  choice : ∀ ids, c = .choice ids → ids ≠ [] ∧ ∃ i, g = .choice (ids.map n.at) i
  map : ∀ source targets, c = .map source targets →
    ∃ selector, g = .map (n.at source) selector (targets.map n.at)

/-- A generator that steps stays as it is, or it is a choice or a sequence. -/
lemma step_cases {g g' : Generator} {src src' : Random.Source} {plan : Plan}
    (h : g.step src = some ((plan, g'), src')) :
    (g' = g ∧ ∀ values i, g ≠ .choice values i) ∨
      (∃ values i, g = .choice values i ∧
        plan = .at values (src.index values.length).1 ∧
        g' = .choice values (some (src.index values.length).1)) ∨
      ∃ k, g = .sequence k ∧ plan = .value (some (.int k)) ∧
        g' = .sequence (Decimal.clampInteger (k + 1)) := by
  have hsame : ∀ {p : Plan} {r : Random.Source}, (∀ values i, g ≠ .choice values i) →
      some ((p, g), r) = some ((plan, g'), src') → g' = g ∧ ∀ values i, g ≠ .choice values i :=
    fun hne h => ⟨(Prod.mk.inj (Prod.mk.inj (Option.some.inj h)).1).2.symm, hne⟩
  rcases g with spec | bell | ⟨values, i⟩ | ⟨values, buckets⟩ | t | _ | _ | k | _ |
    ⟨l, base, offset, day⟩ | recipe | _ | _
  case choice =>
    simp only [step, Option.some.injEq, Prod.mk.injEq] at h
    obtain ⟨⟨rfl, rfl⟩, -⟩ := h
    exact .inr (.inl ⟨values, i, rfl, rfl, rfl⟩)
  case sequence =>
    obtain ⟨h₁, -⟩ := Prod.mk.inj (Option.some.inj h)
    obtain ⟨rfl, rfl⟩ := Prod.mk.inj h₁
    exact .inr (.inr ⟨k, rfl, rfl, rfl⟩)
  case range =>
    obtain ⟨⟨v, src₁⟩, -, h₁⟩ := Option.map_eq_some_iff.mp h
    exact .inl (hsame nofun (congrArg some h₁))
  case normal =>
    simp only [step, Option.some.injEq, Prod.mk.injEq] at h
    exact .inl ⟨h.1.2.symm, nofun⟩
  case weighted =>
    rw [step] at h
    rcases src.unit with ⟨u, src₁⟩
    exact .inl (hsame nofun h)
  case table =>
    simp only [step, Option.some.injEq, Prod.mk.injEq] at h
    exact .inl ⟨h.1.2.symm, nofun⟩
  case uuid =>
    rw [step] at h
    rcases src.identifier with ⟨text, src₁⟩
    exact .inl (hsame nofun h)
  case clock =>
    rw [step] at h
    rcases hs : offset.shift? base with _ | _ <;> rw [hs] at h <;> exact .inl (hsame nofun h)
  case regex =>
    rw [step] at h
    rcases recipe.sample src with ⟨text, src₁⟩
    exact .inl (hsame nofun h)
  all_goals exact .inl (hsame nofun h)

/-- The plans that the steps of a generator have. -/
inductive Offers : Generator → Plan → Prop
  | value (g : Generator) (v : Option Value) : Offers g (.value v)
  | overflow (l : Location) (base : Calendar.Timestamp) (offset : Calendar.Offset) (day : Bool) :
    Offers (.clock l base offset day) (.fault (.badArgument l .offset))
  | choice (values : List NodeRef) (selected : Option Nat) (i : Nat) :
    Offers (.choice values selected) (.at values i)
  | weighted (values : List NodeRef) (buckets : List Float) (i : Nat) :
    Offers (.weighted values buckets) (.at values i)
  | dict (source : NodeRef) (entries : List (Value × NodeRef)) :
    Offers (.dict source entries) (.look source entries)
  | map (source selector : NodeRef) (targets : List NodeRef) :
    Offers (.map source selector targets) (.replay source selector targets)
  | template (l : Location) (t : Template) (params : List (String × NodeRef))
    (names : List String) : Offers (.template l t params names) (.render l t params names)
  | pipe (previous : NodeRef) (t : Text.Transform) :
    Offers (.pipe previous t) (.transform previous t)

variable {n : NodeRef} {c : Call} {g g' : Generator} {src src' : Random.Source} {plan : Plan}

lemma step_offers (h : g.step src = some ((plan, g'), src')) : g.Offers plan := by
  have hplan : ∀ {p : Plan} {g₁ : Generator} {r : Random.Source}, g.Offers p →
      some ((p, g₁), r) = some ((plan, g'), src') → g.Offers plan := by
    intro p g₁ r hp h
    obtain rfl := (Prod.mk.inj (Prod.mk.inj (Option.some.inj h)).1).1
    exact hp
  rcases g with spec | bell | ⟨values, i⟩ | ⟨values, buckets⟩ | t | _ | _ | k | _ |
    ⟨l, base, offset, day⟩ | recipe | _ | _
  case range =>
    obtain ⟨⟨v, src₁⟩, -, h₁⟩ := Option.map_eq_some_iff.mp h
    exact hplan (.value _ _) (congrArg some h₁)
  case normal =>
    simp only [step, Option.some.injEq, Prod.mk.injEq] at h
    exact h.1.1 ▸ .value _ _
  case choice =>
    simp only [step, Option.some.injEq, Prod.mk.injEq] at h
    exact h.1.1 ▸ .choice _ _ _
  case weighted =>
    rw [step] at h
    rcases src.unit with ⟨u, src₁⟩
    exact hplan (.weighted _ _ _) h
  case table =>
    simp only [step, Option.some.injEq, Prod.mk.injEq] at h
    exact h.1.1 ▸ .value _ _
  case dict => exact hplan (.dict _ _) h
  case map => exact hplan (.map _ _ _) h
  case sequence => exact hplan (.value _ _) h
  case uuid =>
    rw [step] at h
    rcases src.identifier with ⟨text, src₁⟩
    exact hplan (.value _ _) h
  case clock =>
    rw [step] at h
    rcases hs : offset.shift? base with _ | t <;> rw [hs] at h
    · exact hplan (.overflow _ _ _ _) h
    · exact hplan (.value _ _) h
  case regex =>
    rw [step] at h
    rcases recipe.sample src with ⟨text, src₁⟩
    exact hplan (.value _ _) h
  case template => exact hplan (.template _ _ _ _) h
  case pipe => exact hplan (.pipe _ _) h

lemma Fits.step (h : g.Fits n c) (hs : g.step src = some ((plan, g'), src')) : g'.Fits n c := by
  rcases step_cases hs with ⟨rfl, -⟩ | ⟨values, i, rfl, -, rfl⟩ | ⟨k, rfl, -, rfl⟩
  · exact h
  · refine ⟨h.kind, fun ids hc => ?_, fun source targets hc => ?_⟩
    · obtain ⟨hne, j, hj⟩ := h.choice ids hc
      obtain ⟨rfl, -⟩ := Generator.choice.inj hj
      exact ⟨hne, _, rfl⟩
    · obtain ⟨selector, hm⟩ := h.map source targets hc
      cases hm
  · refine ⟨h.kind, fun ids hc => ?_, fun source targets hc => ?_⟩
    · obtain ⟨-, j, hj⟩ := h.choice ids hc
      cases hj
    · obtain ⟨selector, hm⟩ := h.map source targets hc
      cases hm

/-- A call to a choice or to a map. -/
def Selects : Call → Prop
  | .choice _ | .map _ _ => True
  | _ => False

/-- A generator of a call that is neither a choice nor a map fits it if it is of its function. -/
lemma Fits.of_kind (h : g.kind = c.kind) (hc : ¬Selects c) : g.Fits n c where
  kind := h
  choice ids hi := by
    subst hi
    exact absurd trivial hc
  map source targets hs := by
    subst hs
    exact absurd trivial hc

lemma fits_choice {ids : List NodeId} (h : ids ≠ []) :
    (choice (ids.map n.at) none).Fits n (.choice ids) where
  kind := rfl
  choice ids' hi := by
    cases hi
    exact ⟨h, none, rfl⟩
  map source targets hs := by cases hs

lemma fits_map (source : NodeId) (found : NodeRef × Nat) (targets : List NodeId) :
    (map (n.at source) found.1 (targets.map n.at)).Fits n (.map source targets) where
  kind := rfl
  choice ids hi := by cases hi
  map source' targets' hs := by
    cases hs
    exact ⟨found.1, rfl⟩

/-- The nodes that the steps of a generator ask for, but for names. -/
def nodes : Generator → List NodeRef
  | .choice values _ | .weighted values _ => values
  | .dict source entries => source :: entries.map (·.2)
  | .map source _ targets => source :: targets
  | .template _ _ params _ => params.map (·.2)
  | .pipe previous _ => [previous]
  | _ => []

/-- A generator fits a call, and its steps ask for operands of the call only. -/
structure MadeOf (n : NodeRef) (c : Call) (g : Generator) : Prop where
  fits : g.Fits n c
  nodes : ∀ m ∈ g.nodes, ∃ id ∈ c.operands, m = n.at id

lemma MadeOf.of_no_nodes (h : g.nodes = []) (hfits : g.Fits n c) : g.MadeOf n c :=
  ⟨hfits, by simp [h]⟩

lemma mem_operands_of_map (ids : List NodeId) (h : ids ⊆ c.operands) :
    ∀ m ∈ ids.map n.at, ∃ id ∈ c.operands, m = n.at id := by
  intro m hm
  obtain ⟨id, hid, rfl⟩ := List.mem_map.mp hm
  exact ⟨id, h hid, rfl⟩

lemma nameless_of_bell {l : Location} {a b m d : Number} {e : EvalError}
    (h : Bell.of l a b m d = .error e) : e.Nameless := by
  unfold Bell.of at h
  dsimp only at h
  split_ifs at h <;> (obtain rfl := Except.error.inj h; trivial)

/-- **The creation of a generator** asks for the operands of the call, fails by itself with no error
about a name, and ends with a generator that is made of the call. -/
theorem obeys_ofCall {T : Terms} (hT : T.Lenient) (hask : ∀ id ∈ c.operands, T.asks (n.at id)) :
    (ofCall n c).Obeys T (MadeOf n c) := by
  unfold ofCall
  simp only [Script.obeys_bind, Script.obeys_location]
  rcases c with ⟨a, b⟩ | ids | ⟨a, b, m, d⟩ | ⟨values, weights⟩ | source | ⟨source, pairs⟩ |
    ⟨source, targets⟩ | first | _ | offset | offset | pattern | ⟨text, params⟩ | ⟨previous, t⟩
  case range =>
    simp only [Script.obeys_bind]
    refine obeys_operandOf hT (hask a (by simp [Call.operands])) fun x => ?_
    refine obeys_operandOf hT (hask b (by simp [Call.operands])) fun y => ?_
    rcases RangeSpec.between x y with why | spec
    · exact hT.nameless trivial
    · exact .of_no_nodes rfl (.of_kind rfl not_false)
  case choice =>
    dsimp only
    split_ifs with he
    · exact hT.nameless trivial
    · exact ⟨fits_choice (by simpa using he), mem_operands_of_map ids (List.Subset.refl ids)⟩
  case normal =>
    simp only [Script.obeys_bind, Script.obeys_lift]
    refine obeys_numberOf hT (hask a (by simp [Call.operands])) fun x => ?_
    refine obeys_numberOf hT (hask b (by simp [Call.operands])) fun y => ?_
    refine obeys_numberOf hT (hask m (by simp [Call.operands])) fun z => ?_
    refine obeys_numberOf hT (hask d (by simp [Call.operands])) fun u => ?_
    exact ⟨fun e he => hT.nameless (nameless_of_bell he),
      fun bell _ => .of_no_nodes rfl (.of_kind rfl not_false)⟩
  case weighted =>
    dsimp only
    split_ifs
    · exact hT.nameless trivial
    · rcases bucketsOf values.length weights with why | buckets
      · exact hT.nameless trivial
      · exact ⟨.of_kind rfl not_false, mem_operands_of_map values (List.Subset.refl values)⟩
  case table => exact fun t => .of_no_nodes rfl (.of_kind rfl not_false)
  case dict =>
    simp only [Script.obeys_bind]
    refine obeys_keysOf (fun p hp => hask p.1 ?_) fun entries he =>
      ⟨.of_kind rfl not_false, ?_⟩
    · exact List.mem_cons_of_mem _ (List.mem_flatMap.mpr ⟨p, hp, List.mem_cons_self⟩)
    · have hnodes : (dict (n.at source) entries).nodes =
          (source :: pairs.map (·.2)).map n.at := by
        simp [nodes, he, Function.comp_def]
      rw [hnodes]
      refine mem_operands_of_map _ (List.cons_subset_cons _ fun id hid => ?_)
      obtain ⟨p, hp, rfl⟩ := List.mem_map.mp hid
      exact List.mem_flatMap.mpr ⟨p, hp, by simp⟩
  case map =>
    simp only [Script.obeys_bind]
    exact obeys_selectorOf hT _ fun found => ⟨fits_map source found targets,
      mem_operands_of_map (source :: targets) (List.Subset.refl _)⟩
  case regex =>
    simp only [Script.obeys_bind, Script.obeys_setting]
    rcases Pattern.compile? pattern T.setting.options.maxRepeat with _ | recipe
    · exact hT.nameless trivial
    · exact .of_no_nodes rfl (.of_kind rfl not_false)
  case template =>
    dsimp only
    rcases Template.parse? text with _ | t
    · exact hT.nameless trivial
    · refine ⟨.of_kind rfl not_false, fun m hm => ?_⟩
      obtain ⟨p, hp, rfl⟩ := List.mem_map.mp hm
      obtain ⟨q, hq, rfl⟩ := List.mem_map.mp hp
      exact ⟨q.2, List.mem_map.mpr ⟨q, hq, rfl⟩, rfl⟩
  case pipe =>
    exact ⟨.of_kind rfl not_false,
      mem_operands_of_map [previous] (List.Subset.refl _)⟩
  all_goals exact .of_no_nodes rfl (.of_kind rfl not_false)

lemma obeys_ofCallAs {T : Terms} (hT : T.Lenient) (expected : CallKind)
    (hask : ∀ id ∈ c.operands, T.asks (n.at id)) :
    (ofCallAs expected n c).Obeys T (MadeOf n c) := by
  unfold ofCallAs
  split_ifs
  · exact obeys_ofCall hT hask
  · exact hT.nameless trivial

/-- The generator that is made of a call. -/
lemma madeOf_ofCallAs (st : Setting) (expected : CallKind) (n : NodeRef) (c : Call) :
    (ofCallAs expected n c).Ensures st (MadeOf n c) :=
  (obeys_ofCallAs (Terms.asking_lenient st fun _ => True) expected fun _ _ => trivial).ensures

lemma fits_ofCallAs (st : Setting) (expected : CallKind) (n : NodeRef) (c : Call) :
    (ofCallAs expected n c).Ensures st (Fits n c) :=
  (madeOf_ofCallAs st expected n c).mono fun _ => MadeOf.fits

/-! ### What a map replays -/

/-- If a generator is a map, its source stands for the choice whose draws it replays. -/
def Aimed (resolve : NodeRef → Except EvalError Resolution) (g : Generator) : Prop :=
  ∀ source selector targets, g = .map source selector targets →
    resolve source = .ok (.value selector)

lemma Aimed.step {resolve : NodeRef → Except EvalError Resolution} (h : g.Aimed resolve)
    (hs : g.step src = some ((plan, g'), src')) : g'.Aimed resolve := by
  rcases step_cases hs with ⟨rfl, -⟩ | ⟨values, i, rfl, -, rfl⟩ | ⟨k, rfl, -, rfl⟩
  · exact h
  · exact nofun
  · exact nofun

/-- The choice of a new map is what its source stands for. -/
lemma aimed_ofCallAs (st : Setting) (expected : CallKind) (n : NodeRef) (c : Call) :
    (ofCallAs expected n c).Ensures st (Aimed st.scope.resolve) := by
  by_cases hm : ∃ source targets, c = .map source targets
  · obtain ⟨source, targets, rfl⟩ := hm
    unfold ofCallAs
    split_ifs
    · unfold ofCall selectorOf
      simp only [Script.ensures_bind, Script.ensures_location, Script.ensures_resolve]
      intro r hr
      rcases r with t | _
      · simp only [Script.ensures_bind, Script.ensures_kind]
        split
        · intro source' selector targets' h
          cases h
          exact hr
        · trivial
      · trivial
    · trivial
  · refine (fits_ofCallAs st expected n c).mono fun g hg source selector targets h => ?_
    have hk : c.kind = .map := by rw [← hg.kind, h]; rfl
    rcases c <;> first | exact absurd ⟨_, _, rfl⟩ hm | cases hk

/-- The generator of a template has the text and the parameters of the call, and looks up the names
of the text that are no parameters. -/
lemma template_ofCallAs (st : Setting) (n : NodeRef) (text : String)
    (params : List (String × NodeId)) :
    (ofCallAs .template n (.template text params)).Ensures st fun g =>
      ∃ t, Template.parse? text = some t ∧
        g = .template (st.location n) t (params.map fun p => (p.1, n.at p.2))
          ((Template.names text).filter fun name => !params.any (·.1 = name)) := by
  unfold ofCallAs ofCall
  simp only [Call.kind, if_true, Script.ensures_bind, Script.ensures_location]
  rcases hparse : Template.parse? text with _ | t
  · trivial
  · exact ⟨t, rfl, rfl⟩

end Generator

end TestData.Engine
