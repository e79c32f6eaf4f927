import TestData.Proofs.Evaluation.Spared
import TestData.Proofs.Session.Derived

/-!
The order of requests.

Where no function draws, a request for a node that a derivation reaches succeeds in every session
of the row, and evaluates no node that the derivation does not reach. So a request ends with the
same value whatever was asked before it in the row, and two requests that succeed leave the same
values and generators in either order.
-/

namespace TestData.Engine

open Schema

variable {w : World} {s₀ s s' s₁ s₂ : Session} {t n : NodeRef} {c : Call} {g : Generator}
  {v : Option Value} {found : List (NodeRef × Option Value)}

/-! ### Requests for what a derivation reaches -/

/-- An evaluation keeps values of nodes of a list only, and changes no generator of a node that it
leaves without a value. -/
structure Along (found : List (NodeRef × Option Value)) (s s' : Session) : Prop
    extends Keeps s s' where
  reached : ∀ t, s'.values.lookup t ≠ none →
    s.values.lookup t ≠ none ∨ found.lookup t ≠ none
  generators : ∀ t, s'.values.lookup t = none → t ∉ s.active →
    s'.generators.lookup t = s.generators.lookup t

namespace Along

lemma refl (found : List (NodeRef × Option Value)) (s : Session) : Along found s s :=
  ⟨.refl s, fun _ h => .inl h, fun _ _ _ => rfl⟩

lemma trans (h : Along found s s₁) (h' : Along found s₁ s₂) : Along found s s₂ where
  toKeeps := h.toKeeps.trans h'.toKeeps
  reached t ht := (h'.reached t ht).elim (h.reached t) .inr
  generators t ht ha := by
    have ht' : s₁.values.lookup t = none := by
      rcases hx : s₁.values.lookup t with _ | x
      · rfl
      · cases (h'.values t x hx).symm.trans ht
    exact (h'.generators t ht (by rwa [h.active])).trans (h.generators t ht' ha)

lemma out (ht : t ∈ s.active) (src : Random.Source) :
    Along found s ({ s with source := src }.withoutGenerator t) where
  toKeeps := (Keeps.passive.source s src).trans (.without _ t)
  reached _ h := .inl h
  generators u _ hu := by
    have hne : u ≠ t := by
      rintro rfl
      exact hu ht
    simp [hne]

lemma insert (ht : t ∈ s.active) (g : Generator) : Along found s (s.withGenerator t g) where
  toKeeps := .insert s t g
  reached _ h := .inl h
  generators u _ hu := by
    have hne : u ≠ t := by
      rintro rfl
      exact hu ht
    simp [hne]

lemma more (h : Along found s s') (t : NodeRef) (v : Option Value) :
    Along ((t, v) :: found) s s' where
  toKeeps := h.toKeeps
  reached u hu := (h.reached u hu).imp_right fun hl => by
    rw [lookup_cons_if]
    split_ifs
    · exact nofun
    · exact hl
  generators := h.generators

/-- A node that is evaluated inside may be one more than those of the list. -/
lemma evaluated (h : Along found (s.enter t) s') (hl : s.values.lookup t = none)
    (ha : t ∉ s.active) (v : Option Value) :
    Along ((t, v) :: found) s ((s'.leave t).keep t v) where
  toKeeps := h.toKeeps.keep v hl ha
  reached u hu := by
    rw [Session.lookup_keep] at hu
    rw [lookup_cons_if]
    split_ifs at hu ⊢ with hut
    · exact .inr hu
    · exact h.reached u hu
  generators u hu hact := by
    rw [Session.lookup_keep] at hu
    split_ifs at hu with hut
    have hact' : u ∉ (s.enter t).active := by
      rw [Session.enter, List.mem_cons, not_or]
      exact ⟨hut, hact⟩
    exact h.generators u hu hact'

end Along

/-- A derived session in which no node of a list of values is being evaluated. -/
structure Session.Ready (w : World) (s₀ : Session) (found : List (NodeRef × Option Value))
    (s : Session) : Prop where
  guarded : s.Guarded
  derived : s₀.Derived w s
  apart : ∀ t ∈ s.active, found.lookup t = none

/-- Requests for what is known by a list of values end with it and go no further. -/
def Session.Supplies (w : World) (s₀ : Session) (found : List (NodeRef × Option Value)) : Prop :=
  ∀ n v s, knownBy (s₀.scope w).resolve found n = some v → s₀.Ready w found s →
    ∃ s', (Eval.value n).exec w s = (.ok v, s') ∧ Along found s s'

lemma Session.Ready.rest (h : s₀.Ready w ((t, v) :: found) s) : s₀.Ready w found s where
  guarded := h.guarded
  derived := h.derived
  apart u hu := by
    have hu' := h.apart u hu
    rw [lookup_cons_if] at hu'
    split_ifs at hu'
    exact hu'

lemma Session.Ready.enter (h : s₀.Ready w found s) (ht : t ∉ s.active)
    (hw : t ∈ s.workspace.refs) (hl : s.values.lookup t = none) (hv : found.lookup t = none) :
    s₀.Ready w found (s.enter t) where
  guarded := h.guarded.enter ht hw
  derived := h.derived.enter hl
  apart u hu := by
    rcases List.mem_cons.mp hu with rfl | hu
    · exact hv
    · exact h.apart u hu

/-- What is no node of a document is null without any request. -/
lemma ownValue_of_not_mem_refs {og : Option Generator} {known : Knowledge}
    (hf : s₀.Follows w known t v og) (hs : s₀.Derived w s) (ht : t ∉ s.workspace.refs) :
    (ownValue Eval.value t).exec w s = (.ok v, s) := by
  have hk := Workspace.kind_of_not_mem_refs ht
  rw [exec_ownValue_plain (by rw [hk]; exact nofun), hk]
  rw [hs.workspace] at hk
  cases hf with
  | plain _ ha =>
    rw [hk] at ha
    obtain rfl := Option.some.inj ha
    rfl
  | call hc => cases hk.symm.trans hc

section

variable (hfit : s₀.Fitted) (hd : s₀.workspace.Drawless)

include hfit hd

/-- A script whose answer is known runs to it. -/
lemma run_along (hv : s₀.Supplies w found) {α : Type} {x : Script α} {a : α}
    (hx : x.answer (s₀.setting w) (knownBy (s₀.scope w).resolve found) = some a)
    (hs : s₀.Ready w found s) :
    ∃ s', (x.run Eval.value).exec w s = (.ok a, s') ∧ s₀.Ready w found s' ∧
      Along found s s' := by
  refine Script.run_of_answer (I := fun s' => s₀.Ready w found s' ∧ Along found s s')
    (fun h => congrFun h.1.derived.setting w) (fun {s₁ n v} h hn => ?_) hx ⟨hs, .refl found s⟩
  obtain ⟨s₂, h₂, halong⟩ := hv n v s₁ hn h.1
  have hder := (lasting_derived hfit hd (w := w)).value h.1.guarded h.1.derived n
  rw [h₂] at hder
  refine ⟨s₂, h₂, ⟨h.1.guarded.keeps halong.toKeeps, hder, fun t ht => ?_⟩, h.2.trans halong⟩
  exact h.1.apart t (halong.active ▸ ht)

/-- The generator that a call steps in a derivation is the one that it steps in a session. -/
lemma generatorOf_along (hv : s₀.Supplies w found) (hder : s₀.Derivation w found)
    (hk : s₀.workspace.kind t = .call c)
    (hg : s₀.Starts w (knownBy (s₀.scope w).resolve found) t c g) (hs : s₀.Ready w found s)
    (ht : s₀.Waits w s t) :
    ∃ s', (generatorOf Eval.value t c).exec w s = (.ok g, s') ∧ s₀.Ready w found s' ∧
      Along found s s' := by
  rcases hl : s.generators.lookup t with _ | g'
  · rcases hg with hg | ⟨-, hf, hnew⟩
    · cases (ht.none hl).symm.trans hg
    · rw [generatorOf_new hl (hs.derived.functions ▸ hf)]
      exact run_along hfit hd hv hnew hs
  · obtain rfl := hg.unique (knownBy_agree (hder.agree hs.derived.values)) (ht.starts hk hl)
    rw [generatorOf_kept hl]
    exact ⟨s, rfl, hs, .refl found s⟩

/-- The evaluation of a node whose value follows ends with it. -/
lemma ownValue_along (hv : s₀.Supplies w found) (hder : s₀.Derivation w found)
    {og : Option Generator} (hf : s₀.Follows w (knownBy (s₀.scope w).resolve found) t v og)
    (hs : s₀.Ready w found s) (ht : s₀.Waits w s t) (ho : s.Open t) :
    ∃ s', (ownValue Eval.value t).exec w s = (.ok v, s') ∧ Along found s s' := by
  cases hf with
  | plain hk ha =>
    rw [← hs.derived.workspace] at hk ha
    rw [exec_ownValue_plain hk]
    obtain ⟨s', h', -, halong⟩ := run_along hfit hd hv ha hs
    exact ⟨s', h', halong⟩
  | @call c g g' plan hk hg hstep ha =>
    obtain ⟨s₁, h₁, hs₁, halong₁⟩ := generatorOf_along hfit hd hv hder hk hg hs ht
    have ho₁ := ho.keeps halong₁.toKeeps
    have hout : s₀.Ready w found ({ s₁ with source := s₁.source }.withoutGenerator t) :=
      ⟨⟨hs₁.guarded.nodup, hs₁.guarded.known⟩, hs₁.derived.out ho₁ s₁.source, hs₁.apart⟩
    obtain ⟨s₂, h₂, -, halong₂⟩ := run_along hfit hd hv ha hout
    have ho₂ : t ∈ s₂.active := by
      rw [halong₂.active]
      exact ho₁.1
    rw [← hs.derived.workspace] at hk
    rw [exec_ownValue_call hk, exec_callValue, h₁]
    simp only [hstep, h₂]
    exact ⟨_, rfl, halong₁.trans ((Along.out ho₁.1 _).trans (halong₂.trans (.insert ho₂ g')))⟩

/-- A request for the node that a derivation ends with. -/
lemma value_along (hv : s₀.Supplies w found) (hder : s₀.Derivation w found)
    (hl : found.lookup t = none) {og : Option Generator}
    (hf : s₀.Follows w (knownBy (s₀.scope w).resolve found) t v og)
    (hr : (s₀.scope w).resolve n = .ok (.value t)) (hs : s₀.Ready w ((t, v) :: found) s) :
    ∃ s', (Eval.value n).exec w s = (.ok v, s') ∧ Along ((t, v) :: found) s s' := by
  have hlast : ((t, v) :: found).lookup t = some v := by simp
  have hr' : (s.scope w).resolve n = .ok (.value t) := by rw [hs.derived.scope, hr]
  rw [exec_value_eq_valueVia hs.guarded]
  rcases hu : s.values.lookup t with _ | u
  -- what was kept or failed at before may have left a generator, but the one that is derived
  · have ha : t ∉ s.active := fun hact => by cases hlast.symm.trans (hs.apart t hact)
    have hown : ∃ s', (ownValue Eval.value t).exec w (s.enter t) = (.ok v, s') ∧
        Along found (s.enter t) s' := by
      by_cases hw : t ∈ s.workspace.refs
      · exact ownValue_along hfit hd hv hder hf (hs.rest.enter ha hw hu hl)
          ((hs.derived.waits t hu ha).mono (fun _ _ h => h) rfl) (Session.open_enter hu)
      · exact ⟨_, ownValue_of_not_mem_refs hf (hs.derived.enter hu) hw, .refl found _⟩
    obtain ⟨s', h', halong⟩ := hown
    rw [valueVia_own hr' hu ha, h']
    exact ⟨_, rfl, halong.evaluated hu ha v⟩
  · obtain rfl := hs.derived.values.agree (.cons hder hl hf) t u v hu hlast
    exact ⟨s, valueVia_cached hr' hu, .refl _ s⟩

/-- **What a derivation reaches can be had**: a request for it succeeds in every session of the
row, whatever that has kept or failed at. -/
theorem Session.Derivation.supplies (h : s₀.Derivation w found) : s₀.Supplies w found := by
  -- what a node asks for stands behind it in the derivation, and while it is evaluated nothing
  -- behind it is: so no request comes back to a node that is being evaluated
  induction h with
  | nil =>
    intro n v s hn
    obtain ⟨r, -, hr⟩ := knownBy_eq_some.mp hn
    rcases r with t | ⟨base, keys⟩
    · cases hr
    · obtain ⟨u, hu, -⟩ := read_extract.mp hr
      cases hu
  | @cons rest t x og hrest hl hf ih =>
    have hval : ∀ m u y s, (s₀.scope w).resolve m = .ok (.value u) →
        ((t, x) :: rest).lookup u = some y → s₀.Ready w ((t, x) :: rest) s →
        ∃ s', (Eval.value m).exec w s = (.ok y, s') ∧ Along ((t, x) :: rest) s s' := by
      intro m u y s hr hu hs
      rw [lookup_cons_if] at hu
      split_ifs at hu with hut
      · obtain rfl := Option.some.inj hu
        subst hut
        exact value_along hfit hd ih hrest hl hf hr hs
      · obtain ⟨s', h', halong⟩ := ih m y s ((knownBy_of_ok hr).trans hu) hs.rest
        exact ⟨s', h', halong.more t x⟩
    intro n v s hn hs
    obtain ⟨r, hr, hread⟩ := knownBy_eq_some.mp hn
    rcases r with u | ⟨base, keys⟩
    · exact hval n u v s hr hread hs
    · obtain ⟨y, hy, hyv⟩ := read_extract.mp hread
      obtain ⟨⟨c, hc⟩, -⟩ := Session.resolve_extract hr
      obtain ⟨s', h', halong⟩ := hval base base y s (Session.resolve_call hc) hy hs
      refine ⟨s', ?_, halong⟩
      rw [exec_value_eq_valueVia hs.guarded]
      exact valueVia_extract_ok (by rw [hs.derived.scope, hr]) h' hyv

/-! ### Two requests -/

lemma Session.Derived.after (hs : s₀.Derived w s) (hi : s.active = [])
    {r : Except Failure (Option Value)} (h : (Eval.value n).exec w s = (r, s₁)) :
    s₀.Derived w s₁ ∧ s₁.active = [] := by
  have hder := (lasting_derived hfit hd (w := w)).value (.of_idle hi) hs n
  have hact := (grows_value w n s).active
  rw [h] at hder hact
  exact ⟨hder, hact.trans hi⟩

/-- A request that succeeds in one session of the row succeeds with the same value in another. -/
lemma value_again (hs : s₀.Derived w s) (hi : s.active = []) (hs' : s₀.Derived w s')
    (hi' : s'.active = []) (h : ((Eval.value n).exec w s).1 = .ok v) :
    ((Eval.value n).exec w s').1 = .ok v := by
  have hx : (Eval.value n).exec w s = (.ok v, ((Eval.value n).exec w s).2) := Prod.ext h rfl
  have hknown := known_of_value hx
  rw [hs.scope] at hknown
  obtain ⟨s₂, h₂, -⟩ := (hs.after hfit hd hi hx).1.values.supplies hfit hd n v s' hknown
    ⟨.of_idle hi', hs', by simp [hi']⟩
  rw [h₂]

/-- After two requests that succeed, the same requests in the other order succeed with the same
values, and go no further. -/
lemma swapped (hs : s₀.Derived w s₀) (hi : s₀.active = []) {a b : NodeRef} {u v : Option Value}
    (ha : (Eval.value a).exec w s₀ = (.ok u, s₁)) (hb : (Eval.value b).exec w s₁ = (.ok v, s₂)) :
    ∃ s₁' s₂', (Eval.value b).exec w s₀ = (.ok v, s₁') ∧
      (Eval.value a).exec w s₁' = (.ok u, s₂') ∧ s₀.Derived w s₂ ∧ s₀.Derived w s₂' ∧
      Along s₂.values s₀ s₂' := by
  obtain ⟨hder₁, hi₁⟩ := hs.after hfit hd hi ha
  obtain ⟨hder₂, -⟩ := hder₁.after hfit hd hi₁ hb
  have hknown_b : knownBy (s₀.scope w).resolve s₂.values b = some v := by
    rw [← hder₁.scope]
    exact known_of_value hb
  have hknown_a : knownBy (s₀.scope w).resolve s₂.values a = some u := by
    have hkeep := (grows_value w b s₁).values
    rw [hb] at hkeep
    exact knownBy_mono hkeep (known_of_value ha)
  have hsupplies := hder₂.values.supplies hfit hd
  obtain ⟨s₁', hb', halong₁⟩ := hsupplies b v s₀ hknown_b ⟨.of_idle hi, hs, by simp [hi]⟩
  obtain ⟨hder₁', hi₁'⟩ := hs.after hfit hd hi hb'
  obtain ⟨s₂', ha', halong₂⟩ :=
    hsupplies a u s₁' hknown_a ⟨.of_idle hi₁', hder₁', by simp [hi₁']⟩
  exact ⟨s₁', s₂', hb', ha', hder₂, (hder₁'.after hfit hd hi₁' ha').1, halong₁.trans halong₂⟩

end

/-- Sessions of a row of which neither goes further than the other keep the same. -/
lemma same_of_along (h₁ : s₀.Derived w s₁) (h₂ : s₀.Derived w s₂) (hi : s₀.active = [])
    (hv : s₀.values = []) (h : Along s₂.values s₀ s₁) (h' : Along s₁.values s₀ s₂)
    (t : NodeRef) :
    s₁.values.lookup t = s₂.values.lookup t ∧
      s₁.generators.lookup t = s₂.generators.lookup t := by
  have hempty : s₀.values.lookup t = none := by simp [hv]
  have hidle : t ∉ s₀.active := by simp [hi]
  have hagree := h₁.values.agree h₂.values
  rcases hl₁ : s₁.values.lookup t with _ | x
  · rcases hl₂ : s₂.values.lookup t with _ | y
    · exact ⟨rfl, (h.generators t hl₁ hidle).trans (h'.generators t hl₂ hidle).symm⟩
    · rcases h'.reached t (by rw [hl₂]; exact nofun) with hne | hne
      · exact absurd hempty hne
      · exact absurd hl₁ hne
  · rcases hl₂ : s₂.values.lookup t with _ | y
    · rcases h.reached t (by rw [hl₁]; exact nofun) with hne | hne
      · exact absurd hempty hne
      · exact absurd hl₂ hne
    · obtain ⟨rfl, hg⟩ :=
        (h₁.settled t x hl₁).unique (knownBy_agree hagree) (h₂.settled t y hl₂)
      exact ⟨rfl, hg⟩

/-- With a clock that stands still, evaluations that draw nothing see of the world the disk
only. -/
lemma indistinct_of_drawless {w' : World} (hnow : s.options.now.isSome)
    (hd : s.workspace.Drawless) (h : w'.disk = w.disk) : s.Indistinct w w' := by
  have hscope : s.scope w' = s.scope w := by
    simp only [Session.scope, Setting.scope, Session.setting, h]
  refine ⟨⟨rfl, rfl, rfl, congrArg Scope.resolve hscope, congrArg Scope.lookup? hscope, ?_⟩,
    fun n source hk => ?_⟩
  · obtain ⟨t, ht⟩ := Option.isSome_iff_exists.mp hnow
    simp [Setting.now, Session.setting, ht]
  · have hmem := hd n _ hk
    simp [Call.kind, drawless] at hmem

/-- **Requests in either order.** Where no function draws and the clock stands still, two requests
at the beginning of a row end with the same values, or without one, whichever comes first and
whenever they are made, as long as the disk stays the same. If both succeed, the same values and
the same generators are kept in the end. -/
theorem requests_in_either_order (hs : Reachable s) (hd : s.workspace.Drawless)
    (hnow : s.options.now.isSome) {w₁ w₂ w₃ w₄ : World} (h₂ : w₂.disk = w₁.disk)
    (h₃ : w₃.disk = w₁.disk) (h₄ : w₄.disk = w₁.disk) (a b : NodeRef) :
    let first := (Eval.value a).exec w₁ s.reset
    let second := (Eval.value b).exec w₂ first.2
    let first' := (Eval.value b).exec w₃ s.reset
    let second' := (Eval.value a).exec w₄ first'.2
    (∀ v, first.1 = .ok v ↔ second'.1 = .ok v) ∧ (∀ v, second.1 = .ok v ↔ first'.1 = .ok v) ∧
      ∀ u v, first.1 = .ok u → second.1 = .ok v → ∀ t,
        second.2.values.lookup t = second'.2.values.lookup t ∧
        second.2.generators.lookup t = second'.2.generators.lookup t := by
  have hfit : s.reset.Fitted := hs.fitted
  have hd' : s.reset.workspace.Drawless := hd
  have hset : ∀ n, ((Eval.value n).exec w₁ s.reset).2.setting = s.reset.setting := fun n =>
    funext (grows_value w₁ n s.reset).setting
  -- one world is enough
  have hworld : ∀ {w' : World}, w'.disk = w₁.disk → ∀ {s' : Session} (n : NodeRef),
      s'.setting = s.reset.setting →
      (Eval.value n).exec w' s' = (Eval.value n).exec w₁ s' := fun h _ n hs' =>
    value_world (indistinct_of_drawless (s := s.reset) hnow hd' h) hs'
  dsimp only
  rw [hworld h₂ b (hset a), hworld h₃ b rfl, hworld h₄ a (hset b)]
  have hder := Session.Derived.reset (w := w₁) s
  have hafter : ∀ n, s.reset.Derived w₁ ((Eval.value n).exec w₁ s.reset).2 ∧
      ((Eval.value n).exec w₁ s.reset).2.active = [] := fun n =>
    hder.after hfit hd' rfl (Prod.ext rfl rfl)
  have hiff : ∀ n m v, ((Eval.value n).exec w₁ s.reset).1 = .ok v ↔
      ((Eval.value n).exec w₁ ((Eval.value m).exec w₁ s.reset).2).1 = .ok v := fun n m v =>
    ⟨value_again hfit hd' hder rfl (hafter m).1 (hafter m).2,
      value_again hfit hd' (hafter m).1 (hafter m).2 hder rfl⟩
  refine ⟨hiff a b, fun v => (hiff b a v).symm, fun u v hu hv t => ?_⟩
  obtain ⟨s₁', s₂', hb', ha', hder₂, hder₂', halong⟩ := swapped hfit hd' hder rfl
    (Prod.ext hu rfl) (Prod.ext hv rfl)
  obtain ⟨s₁, s₂, ha, hb, -, -, halong'⟩ := swapped hfit hd' hder rfl hb' ha'
  rw [hb', ha']
  rw [ha, hb] at hder₂ halong ⊢
  exact same_of_along hder₂ hder₂' rfl rfl halong' halong t

/-! ### A dictionary and its key -/

namespace Counted

/-- A number that counts rows, the number as a text, and a dictionary in which the text is looked
up and is the only key. -/
def document : Document :=
  { path := "main.yaml", imports := [], entities := []
    nodes := #[{ kind := .call (.sequence 7), parent := none },
      { kind := .call (.pipe 0 .upper), parent := none },
      { kind := .literal (.string "seven"), parent := none },
      { kind := .call (.dict 1 [(1, 2)]), parent := none }] }

/-- A world without files, at two moments. -/
def world (entropy : UInt64) : World := { disk := .ofDirectory [], time := default, entropy }

/-- An engine for the document with a clock that stands still. -/
def session : Session :=
  .start (.ofDocuments (world 0).disk [document]) CallKind.all { now := some default } (world 0)

lemma value_dictionary :
    textOf ((Eval.value ⟨0, 3⟩).exec (world 0) session.reset).1 = some (some "seven") := by
  decide

lemma value_text :
    textOf ((Eval.value ⟨0, 1⟩).exec (world 0) session.reset).1 = some (some "7") := by
  decide

end Counted

/-- The dictionary and its key have their values in either order, and the same is kept. -/
theorem dictionary_and_key_in_either_order :
    let first := (Eval.value ⟨0, 3⟩).exec (Counted.world 0) Counted.session.reset
    let second := (Eval.value ⟨0, 1⟩).exec (Counted.world 1) first.2
    let first' := (Eval.value ⟨0, 1⟩).exec (Counted.world 0) Counted.session.reset
    let second' := (Eval.value ⟨0, 3⟩).exec (Counted.world 1) first'.2
    first.1 = .ok (some (.string "seven")) ∧ second.1 = .ok (some (.string "7")) ∧
      first'.1 = .ok (some (.string "7")) ∧ second'.1 = .ok (some (.string "seven")) ∧
      ∀ t, second.2.values.lookup t = second'.2.values.lookup t ∧
        second.2.generators.lookup t = second'.2.generators.lookup t := by
  have h := @requests_in_either_order Counted.session (.start _ _ _ _)
    (Workspace.drawless_of_all (by decide)) rfl (Counted.world 0) (Counted.world 1)
    (Counted.world 0) (Counted.world 1) rfl rfl rfl ⟨0, 3⟩ ⟨0, 1⟩
  have ha := congrArg Prod.fst (exec_of_textOf Counted.value_dictionary)
  have hb := congrArg Prod.fst (exec_of_textOf Counted.value_text)
  obtain ⟨h₁, h₂, h₃⟩ := h
  exact ⟨ha, (h₂ _).mpr hb, hb, (h₁ _).mp ha, h₃ _ _ ha ((h₂ _).mpr hb)⟩

end TestData.Engine
