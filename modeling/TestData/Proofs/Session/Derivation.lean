import TestData.Proofs.Evaluation.Confined
import TestData.Proofs.Session.Steady

/-!
Rows without chance, as derivations.

A function that draws nothing makes its value of its generator and of the values of other nodes.
Where all functions are such, the values of a row are a derivation: each follows from those that
were kept before it and from the generators that the row begins with. Nothing of how evaluations
are nested, of what they fail at or of their order is left in this, and two derivations agree on
every node that both of them reach.
-/

namespace TestData

open Schema

/-! ### Functions that draw nothing -/

/-- The functions that draw nothing. -/
def Engine.drawless : List CallKind := [.sequence, .now, .today, .dict, .template, .pipe]

/-- No function of a workspace draws. -/
def Schema.Workspace.Drawless (ws : Workspace) : Prop :=
  ∀ n c, ws.kind n = .call c → c.kind ∈ Engine.drawless

lemma Schema.Workspace.drawless_of_all {ws : Workspace}
    (h : (ws.refs.all fun n =>
      match ws.kind n with
      | .call c => Engine.drawless.contains c.kind
      | _ => true) = true) : ws.Drawless := by
  intro n c hk
  by_cases hn : n ∈ ws.refs
  · have hall := List.all_eq_true.mp h n hn
    rw [hk] at hall
    exact List.contains_iff_mem.mp hall
  · cases (Workspace.kind_of_not_mem_refs hn).symm.trans hk

namespace Engine

/-- A generator of a function that draws nothing steps alike from every random source, and leaves
the source as it is. What it plans asks for values only, and where that may fail the generator has
stayed the same. -/
lemma Generator.step_drawless {g : Generator} (h : g.kind ∈ drawless) :
    ∃ plan g', (∀ src, g.step src = some ((plan, g'), src)) ∧ plan.script.Quiet ∧
      (g' = g ∨ ∃ v, plan = .value v) := by
  have hquiet : ∀ {plan : Plan}, (∀ source selector targets,
      plan ≠ .replay source selector targets) → plan.script.Quiet := fun hne =>
    (confined_plan fun _ _ _ hp => (hne _ _ _ hp).elim).quiet
  cases g with
  | dict source entries => exact ⟨.look source entries, _, fun _ => rfl, hquiet (by simp), .inl rfl⟩
  | template l t params names =>
    exact ⟨.render l t params names, _, fun _ => rfl, hquiet (by simp), .inl rfl⟩
  | pipe previous t => exact ⟨.transform previous t, _, fun _ => rfl, hquiet (by simp), .inl rfl⟩
  | sequence k => exact ⟨.value (some (.int k)), _, fun _ => rfl, hquiet (by simp), .inr ⟨_, rfl⟩⟩
  | clock l base offset dateOnly =>
    rcases hs : offset.shift? base with _ | x
    · exact ⟨.fault _, _, fun src => by rw [step, hs], hquiet (by simp), .inl rfl⟩
    · exact ⟨.value _, _, fun src => by rw [step, hs], hquiet (by simp), .inl rfl⟩
  | _ => simp [kind, drawless] at h

/-- What makes the generator of such a function asks for values only. -/
lemma quiet_ofCallAs {c : Call} (h : c.kind ∈ drawless) (expected : CallKind) (n : NodeRef) :
    (Generator.ofCallAs expected n c).Quiet := by
  refine Script.Confined.quiet (confined_ofCallAs fun source hc => ?_)
  subst hc
  simp [Call.kind, drawless] at h

/-- What a script ensures holds of its answer. -/
lemma Script.Ensures.answer {α : Type} {c : Setting} {known : Knowledge} {Q : α → Prop}
    {x : Script α} {a : α} (h : x.Ensures c Q) (hx : x.answer c known = some a) : Q a := by
  induction x with
  | done b =>
    obtain rfl := Option.some.inj hx
    exact h
  | fail e => cases hx
  | look k ih => exact ih c h hx
  | ask n k ih =>
    obtain ⟨v, -, hk⟩ := Option.bind_eq_some_iff.mp hx
    exact ih v (h v) hk
  | selected n k ih => cases hx
  | table n source k ih => cases hx

/-! ### What follows from what is known -/

section

variable (w : World) (s₀ : Session)

/-- The generator that a call steps in a row: the one that the row begins with, or the one that is
made of what is known. -/
def Session.Starts (known : Knowledge) (t : NodeRef) (c : Call) (g : Generator) : Prop :=
  s₀.generators.lookup t = some g ∨
    (s₀.generators.lookup t = none ∧ c.kind ∈ s₀.functions ∧
      (Generator.ofCallAs c.kind t c).answer (s₀.setting w) known = some g)

/-- The value of a node follows from what is known, and with it the generator that the node has
afterwards. -/
inductive Session.Follows (known : Knowledge) (t : NodeRef) :
    Option Value → Option Generator → Prop
  | plain {v : Option Value} (hk : ∀ c, s₀.workspace.kind t ≠ .call c)
      (h : (plainValue t (s₀.workspace.kind t)).answer (s₀.setting w) known = some v) :
      Follows known t v (s₀.generators.lookup t)
  | call {v : Option Value} {c : Call} {g g' : Generator} {plan : Plan}
      (hk : s₀.workspace.kind t = .call c) (hg : s₀.Starts w known t c g)
      (hs : ∀ src, g.step src = some ((plan, g'), src))
      (h : plan.script.answer (s₀.setting w) known = some v) : Follows known t v (some g')

/-- Values each of which follows from those behind it. -/
inductive Session.Derivation : List (NodeRef × Option Value) → Prop
  | nil : Derivation []
  | cons {rest : List (NodeRef × Option Value)} {t : NodeRef} {v : Option Value}
      {g : Option Generator} (h : Derivation rest) (hl : rest.lookup t = none)
      (hv : s₀.Follows w (knownBy (s₀.scope w).resolve rest) t v g) : Derivation ((t, v) :: rest)

end

variable {w : World} {s₀ : Session} {known known' : Knowledge} {t n : NodeRef} {c : Call}
  {g g' : Generator} {u v : Option Value} {og og' : Option Generator}
  {values values' : List (NodeRef × Option Value)}
  {resolve : NodeRef → Except EvalError Resolution}

/-- The generator that a call steps is of the function of the call. -/
lemma Session.Starts.kind (h : s₀.Starts w known t c g) (hs : s₀.Fitted)
    (hk : s₀.workspace.kind t = .call c) : g.kind = c.kind := by
  rcases h with hg | ⟨-, -, hnew⟩
  · obtain ⟨c', hk', hfit⟩ := hs t g hg
    obtain rfl := Kind.call.inj (hk.symm.trans hk')
    exact hfit.kind
  · exact ((Generator.fits_ofCallAs (s₀.setting w) c.kind t c).answer hnew).kind

/-! ### More knowledge -/

section

variable (h : ∀ n v, known n = some v → known' n = some v)

include h

lemma Session.Starts.mono (hg : s₀.Starts w known t c g) : s₀.Starts w known' t c g :=
  hg.imp_right fun ⟨hl, hf, hnew⟩ => ⟨hl, hf, Script.answer_mono h hnew⟩

lemma Session.Follows.mono (hv : s₀.Follows w known t v og) : s₀.Follows w known' t v og := by
  cases hv with
  | plain hk ha => exact .plain hk (Script.answer_mono h ha)
  | call hk hg hs ha => exact .call hk (hg.mono h) hs (Script.answer_mono h ha)

end

/-! ### Knowledge that agrees -/

section

variable (h : ∀ n u v, known n = some u → known' n = some v → u = v)

include h

lemma Session.Starts.unique (hg : s₀.Starts w known t c g) (hg' : s₀.Starts w known' t c g') :
    g = g' := by
  rcases hg with hl | ⟨hl, -, hnew⟩ <;> rcases hg' with hl' | ⟨hl', -, hnew'⟩
  · exact Option.some.inj (hl.symm.trans hl')
  · cases hl.symm.trans hl'
  · cases hl.symm.trans hl'
  · exact Script.answer_agree h hnew hnew'

/-- What follows from knowledge that agrees is the same. -/
lemma Session.Follows.unique (hv : s₀.Follows w known t v og) (hu : s₀.Follows w known' t u og') :
    v = u ∧ og = og' := by
  cases hv with
  | plain hk ha =>
    cases hu with
    | plain _ ha' => exact ⟨Script.answer_agree h ha ha', rfl⟩
    | call hk' => exact absurd hk' (hk _)
  | call hk hg hs ha =>
    cases hu with
    | plain hk' => exact absurd hk (hk' _)
    | call hk' hg' hs' ha' =>
      obtain rfl := Kind.call.inj (hk.symm.trans hk')
      obtain rfl := hg.unique h hg'
      obtain ⟨rfl, rfl⟩ := Prod.mk.inj
        (Prod.mk.inj (Option.some.inj ((hs s₀.source).symm.trans (hs' s₀.source)))).1
      exact ⟨Script.answer_agree h ha ha', rfl⟩

end

lemma knownBy_agree
    (h : ∀ t u v, values.lookup t = some u → values'.lookup t = some v → u = v) (n : NodeRef)
    (u v : Option Value) (hu : knownBy resolve values n = some u)
    (hv : knownBy resolve values' n = some v) : u = v := by
  obtain ⟨r, hr, hru⟩ := knownBy_eq_some.mp hu
  obtain ⟨r', hr', hrv⟩ := knownBy_eq_some.mp hv
  obtain rfl := Except.ok.inj (hr.symm.trans hr')
  rcases r with t | ⟨base, keys⟩
  · exact h t u v hru hrv
  · obtain ⟨x, hx, hxu⟩ := read_extract.mp hru
    obtain ⟨y, hy, hyv⟩ := read_extract.mp hrv
    obtain rfl := h base x y hx hy
    exact Except.ok.inj (hxu.symm.trans hyv)

/-! ### Derivations -/

namespace Session.Derivation

lemma lookup_cons_of_fresh (v : Option Value) (hl : values.lookup t = none) (u : NodeRef)
    (x : Option Value) (hu : values.lookup u = some x) : ((t, v) :: values).lookup u = some x := by
  have hne : u ≠ t := by
    rintro rfl
    cases hl.symm.trans hu
  rw [lookup_cons_if, if_neg hne, hu]

/-- Each value of a derivation follows from the derivation. -/
lemma follows (h : s₀.Derivation w values) (ht : values.lookup t = some v) :
    ∃ og, s₀.Follows w (knownBy (s₀.scope w).resolve values) t v og := by
  induction h with
  | nil => cases ht
  | @cons rest t' v' og _ hl hv ih =>
    have hmore : ∀ n x, knownBy (s₀.scope w).resolve rest n = some x →
        knownBy (s₀.scope w).resolve ((t', v') :: rest) n = some x := fun n x =>
      knownBy_mono (lookup_cons_of_fresh v' hl)
    rw [lookup_cons_if] at ht
    split_ifs at ht with heq
    · obtain rfl := Option.some.inj ht
      subst heq
      exact ⟨og, hv.mono hmore⟩
    · obtain ⟨og', hv'⟩ := ih ht
      exact ⟨og', hv'.mono hmore⟩

/-- **Derivations agree** on every node that both of them reach. -/
theorem agree (h : s₀.Derivation w values) (h' : s₀.Derivation w values') (t : NodeRef)
    (u v : Option Value) (hu : values.lookup t = some u) (hv : values'.lookup t = some v) :
    u = v := by
  induction h generalizing t u v with
  | nil => cases hu
  | @cons rest t' v' og _ hl hf ih =>
    rw [lookup_cons_if] at hu
    split_ifs at hu with heq
    · obtain rfl := Option.some.inj hu
      subst heq
      obtain ⟨og', hf'⟩ := h'.follows hv
      exact (hf.unique (knownBy_agree ih) hf').1
    · exact ih t u v hu hv

end Session.Derivation

end Engine

end TestData
