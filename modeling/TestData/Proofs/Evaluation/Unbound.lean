import TestData.Proofs.Evaluation.Origin
import TestData.Proofs.Resolution.Dangling

/-!
Names of templates that mean nothing.

A template looks its names up each time it steps, not when it is made. So a name of a template that
is no parameter and means nothing is found only where the template has been evaluated; what else
has been evaluated, it leaves no trace there. Where references do not dangle, no other script
fails by itself with a name that means nothing.
-/

namespace TestData.Engine

open Schema

/-- A name in the text of a template that is no parameter of it and means nothing where it is. -/
structure Scope.Unbound (s : Scope) (t : NodeRef) (name : String) : Prop where
  call : ∃ text params, s.workspace.kind t = .call (.template text params) ∧
    name ∈ Template.names text ∧ ∀ p ∈ params, p.1 ≠ name
  lookup : s.lookup? t name = none

namespace Generator

variable {st : Setting} {n : NodeRef} {c : Call} {g g' : Generator} {src src' : Random.Source}
  {plan : Plan} {Q : Location → String → Span → Prop}

/-! ### What templates look up -/

/-- A template is at its node, and looks up the names of its text that are no parameters. -/
def Looks (ws : Workspace) (n : NodeRef) (g : Generator) : Prop :=
  ∀ l t params names, g = .template l t params names → l = .of ws n ∧
    ∃ text ps, ws.kind n = .call (.template text ps) ∧
      names = (Template.names text).filter fun name => !ps.any (·.1 = name)

lemma Looks.step {ws : Workspace} (h : g.Looks ws n)
    (hs : g.step src = some ((plan, g'), src')) : g'.Looks ws n := by
  rcases step_cases hs with ⟨rfl, -⟩ | ⟨values, i, rfl, -, rfl⟩ | ⟨k, rfl, -, rfl⟩
  · exact h
  · exact nofun
  · exact nofun

lemma looks_ofCallAs (st : Setting) (hk : st.workspace.kind n = .call c) :
    (ofCallAs c.kind n c).Ensures st (Looks st.workspace n) := by
  by_cases ht : ∃ text params, c = .template text params
  · obtain ⟨text, params, rfl⟩ := ht
    refine (template_ofCallAs st n text params).mono fun g hg l t ps names hgt => ?_
    obtain ⟨t', -, rfl⟩ := hg
    obtain ⟨rfl, -, -, rfl⟩ := Generator.template.inj hgt
    exact ⟨rfl, text, params, hk, rfl⟩
  · refine (fits_ofCallAs st c.kind n c).mono fun g hg l t params names hgt => ?_
    have hkind : c.kind = .template := by rw [← hg.kind, hgt]; rfl
    rcases c <;> first | exact absurd ⟨_, _, rfl⟩ ht | cases hkind

/-- A template looks up the names of its text that are no parameters. -/
def Renders (ws : Workspace) (n : NodeRef) (g : Generator) : Prop :=
  ∀ text params, ws.kind n = .call (.template text params) →
    ∃ t ps, g = .template (.of ws n) t ps
      ((Template.names text).filter fun name => !params.any (·.1 = name))

lemma Renders.step {ws : Workspace} (h : g.Renders ws n)
    (hs : g.step src = some ((plan, g'), src')) : g'.Renders ws n := by
  intro text params hk
  obtain ⟨t, ps, rfl⟩ := h text params hk
  obtain ⟨h', -⟩ := Prod.mk.inj (Option.some.inj hs)
  exact ⟨t, ps, (Prod.mk.inj h').2.symm⟩

lemma renders_ofCallAs (hk : st.workspace.kind n = .call c) :
    (ofCallAs c.kind n c).Ensures st (Renders st.workspace n) := by
  by_cases ht : ∃ text params, c = .template text params
  · obtain ⟨text, params, rfl⟩ := ht
    refine (template_ofCallAs st n text params).mono fun g hg text' params' hk' => ?_
    obtain ⟨rfl, rfl⟩ := Call.template.inj (Kind.call.inj (hk.symm.trans hk'))
    obtain ⟨t', -, rfl⟩ := hg
    exact ⟨t', _, rfl⟩
  · refine Script.ensures_of_forall (fun g text params hk' => ?_) _
    exact absurd ⟨text, params, Kind.call.inj (hk.symm.trans hk')⟩ ht

/-- A plan that is no rendering, and no fault but one of an offset. -/
def Sober : Plan → Prop
  | .fault e => ∃ l, e = .badArgument l .offset
  | .render _ _ _ _ => False
  | _ => True

lemma sober_at (values : List NodeRef) (i : Nat) : Sober (.at values i) := by
  unfold Plan.at
  rcases values[i]? with _ | n <;> trivial

/-- Only a template has its steps rendered, and only an offset can be at fault. -/
lemma step_sober (h : g.step src = some ((plan, g'), src')) :
    Sober plan ∨ ∃ l t params names, g = .template l t params names ∧
      plan = .render l t params names := by
  cases step_offers h with
  | value => exact .inl trivial
  | overflow l => exact .inl ⟨l, rfl⟩
  | choice => exact .inl (sober_at _ _)
  | weighted => exact .inl (sober_at _ _)
  | dict => exact .inl trivial
  | map => exact .inl trivial
  | template l t params names => exact .inr ⟨l, t, params, names, rfl, rfl⟩
  | pipe => exact .inl trivial

end Generator

/-! ### What else fails by itself -/

section

variable {st : Setting} {t : NodeRef} {l : Location} {name : String} {names : List String}

/-- An error about a name is about an unbound name of a template. -/
def BlamesUnbound (s : Scope) (t : NodeRef) : EvalError → Prop :=
  EvalError.Blames fun l name span =>
    s.Unbound t name ∧ l = s.location t ∧ span = (s.workspace.node t).span

/-- Terms that allow every error but one about a name that is no unbound name of a template. -/
def Terms.unbound (c : Setting) (t : NodeRef) : Terms where
  setting := c
  asks _ := True
  fails := BlamesUnbound c.scope t

/-- Where references do not dangle, a node stands for nothing only in a chain that is too long. -/
lemma Terms.unbound_lenient (hs : st.scope.Sturdy) : (Terms.unbound st t).Lenient where
  nameless := EvalError.Nameless.blames
  resolve he := by
    obtain ⟨l, rfl⟩ := hs.circular he
    trivial

/-- A name that means nothing is never bound. -/
lemma ensures_bindNames (hn : name ∈ names) (hl : st.scope.lookup? l.node name = none)
    (data : List (String × Json)) : (bindNames l names data).Ensures st fun _ => False := by
  induction names generalizing data with
  | nil => cases hn
  | cons first rest ih =>
    simp only [bindNames, Script.ensures_bind, Script.ensures_setting]
    rcases List.mem_cons.mp hn with rfl | hn
    · rw [hl]
      trivial
    · rcases st.scope.lookup? l.node first with _ | t
      · trivial
      · simp only [Script.ensures_bind]
        exact Script.ensures_of_forall (fun data => ih hn data) _

/-- A template has no value where one of its names means nothing. -/
lemma ensures_render (hn : name ∈ names) (hl : st.scope.lookup? l.node name = none)
    (t : Template) (params : List (String × NodeRef)) :
    (Plan.render l t params names).script.Ensures st fun _ => False := by
  refine (Script.ensures_bind _ _).mpr (Script.ensures_of_forall (fun data => ?_) _)
  exact (Script.ensures_bind _ _).mpr ((ensures_bindNames hn hl data).mono nofun)

end

/-! ### Templates with unbound names -/

/-- Nothing has been done at a node. -/
structure Session.Clear (s : Session) (t : NodeRef) : Prop where
  values : s.values.lookup t = none
  generators : s.generators.lookup t = none

/-- If nothing has been done at a node, nothing is. -/
def Avoids (t : NodeRef) (s s' : Session) : Prop := s.Clear t → Untouched t s s'

namespace Avoids

variable {t n : NodeRef} {s s' : Session}

lemma clear (h : Avoids t s s') (hs : s.Clear t) : s'.Clear t :=
  ⟨(h hs).values.trans hs.values, (h hs).generators.trans hs.generators⟩

lemma passive : Passive (Avoids t) where
  refl s _ := Untouched.passive.refl s
  trans h h' hs := Untouched.passive.trans (h hs) (h' (clear h hs))
  tables s tables r _ := Untouched.passive.tables s tables r
  source s src _ := Untouched.passive.source s src

lemma indifferent (h : n ≠ t) : Indifferent (Avoids t) n where
  without s _ := (Untouched.indifferent h).without s
  insert s g _ := (Untouched.indifferent h).insert s g
  enter s _ := (Untouched.indifferent h).enter s
  leave s _ := (Untouched.indifferent h).leave s
  keep s v _ := (Untouched.indifferent h).keep s v

end Avoids

namespace Scope.Unbound

variable {w : World} {s s' : Session} {t : NodeRef} {name : String} {v : Option Value}

/-- A template with an unbound name has no value. -/
lemma ownValue_ne_ok (h : (s.scope w).Unbound t name)
    (hrend : ∀ g, s.generators.lookup t = some g → g.Renders s.workspace t) :
    (ownValue Eval.value t).exec w s ≠ (.ok v, s') := by
  obtain ⟨text, params, hk, hn, hp⟩ := h.call
  have hk' : s.workspace.kind t = .call (.template text params) := hk
  rw [exec_ownValue_call hk']
  intro hx
  rcases callValue_cases hx with ⟨f, -, hr⟩ | ⟨g, -, -, hr⟩ |
    ⟨g, s₁, plan, g', src, s₂, hgen, hst, -, hrun, -⟩
  · cases hr
  · cases hr
  have hg : g.Renders s.workspace t := by
    rcases generatorOf_cases hgen with ⟨hg, -⟩ | ⟨-, -, hnew⟩
    · exact hrend g hg
    · have hk'' : (s.setting w).workspace.kind t = .call (.template text params) := hk
      exact (Generator.renders_ofCallAs hk'').run (keeps_value w) hnew
  obtain ⟨t', ps, rfl⟩ := hg text params hk'
  obtain ⟨h₁, -⟩ := Prod.mk.inj (Option.some.inj hst)
  obtain ⟨rfl, -⟩ := Prod.mk.inj h₁
  have hmem : name ∈ (Template.names text).filter fun name => !params.any (·.1 = name) := by
    refine List.mem_filter.mpr ⟨hn, ?_⟩
    simpa using hp
  have hkeep := keeps_generatorOf w t (.template text params) s
  rw [hgen] at hkeep
  have hset : ({ s₁ with source := src }.withoutGenerator t).setting w = s.setting w :=
    hkeep.setting w
  refine (ensures_render hmem ?_ t' ps).run (keeps_value w) hrun
  rw [hset]
  exact h.lookup

/-- **Where a request succeeds**, nothing has been done at a template with an unbound name. -/
theorem avoids {a : Visit} (ha : a.session.Guarded) (h : (a.session.scope w).Unbound t name)
    (hv : a.outcome Eval.value w = (.ok v, s')) : Avoids t a.session s' := by
  induction Visit.acc_asks (w := w) ha generalizing v s' with
  | intro a _ ih =>
    intro hclear
    have hva := hv
    unfold Visit.outcome at hva
    rw [exec_value_eq_valueVia ha] at hva
    by_cases hr : (a.session.scope w).resolve a.node = .ok (.value t)
    · by_cases hact : t ∈ a.session.active
      · rw [valueVia_active hr hclear.values hact] at hva
        cases (Prod.mk.inj hva).1
      · rw [valueVia_own hr hclear.values hact] at hva
        rcases ho : (ownValue Eval.value t).exec w (a.session.enter t) with ⟨f | u, s₁⟩ <;>
          rw [ho] at hva
        · cases (Prod.mk.inj hva).1
        · refine absurd ho (ownValue_ne_ok (s := a.session.enter t) h fun g hg => ?_)
          cases hclear.generators.symm.trans hg
    · have hrel : Avoids t a.session ((valueVia Eval.value a.node).exec w a.session).2 := by
        refine valueVia_rel Avoids.passive (fun u hu => ?_) fun b hb => ?_
        · have hne : u ≠ t := by
            rintro rfl
            exact hr hu
          exact (Avoids.indifferent hne).bracketed Avoids.passive
        · have hab : a.Asks w b := hb
          rcases hb' : b.outcome Eval.value w with ⟨f | u, s₁⟩
          · obtain ⟨s₂, h₂, -⟩ := hab.error ha hb'
            cases (Prod.mk.inj (h₂.symm.trans hv)).1
          · refine ih b hab (hab.need_lt ha).1 ?_ hb'
            rw [Session.scope, hab.setting]
            exact h
      rw [hva] at hrel
      exact hrel hclear

/-- Where a script succeeds, nothing has been done at a template with an unbound name. -/
lemma avoids_run {α : Type} {x : Script α} {r : α} (hs : s.Guarded)
    (h : (s.scope w).Unbound t name) (hx : (x.run Eval.value).exec w s = (.ok r, s')) :
    Avoids t s s' := by
  have hrel : Avoids t s ((x.run Eval.value).exec w s).2 := by
    refine Script.run_rel Avoids.passive x s fun b hb => ?_
    have hkeep : Keeps s b.session := (Script.rel_visit Keeps.passive x s
      (fun b _ => keeps_value w b.node b.session) b hb).1
    rcases hb' : b.outcome Eval.value w with ⟨f | u, s₁⟩
    · cases (Prod.mk.inj ((Script.run_error x s hb hb').symm.trans hx)).1
    · exact avoids (hs.keeps hkeep) (by rw [hkeep.scope]; exact h) hb'
  rwa [hx] at hrel

end Scope.Unbound

/-! ### What the evaluation of a node blames -/

section

variable {w : World} {s s' s₁ : Session} {t : NodeRef} {c : Call} {g : Generator} {e : EvalError}

/-- The generator of a call looks up the names of the call. -/
lemma looks_generatorOf (hlooks : s.Holds (Generator.Looks s.workspace))
    (hk : s.workspace.kind t = .call c) (h : (generatorOf Eval.value t c).exec w s = (.ok g, s₁)) :
    g.Looks s.workspace t := by
  rcases generatorOf_cases h with ⟨hg, -⟩ | ⟨-, -, hnew⟩
  · exact hlooks t g hg
  · exact (Generator.looks_ofCallAs (s.setting w) hk).run (keeps_value w) hnew

/-- A script that is bound to no error but about an unbound name ends with no other, where its
visits succeed. -/
lemma blames_run {α : Type} {x : Script α} {P : α → Prop}
    (hx : x.Obeys (.unbound (s.setting w) t) P)
    (hok : ∀ b ∈ x.visits Eval.value w s, ∃ v s₁, b.outcome Eval.value w = (.ok v, s₁))
    (h : (x.run Eval.value).exec w s = (.error (.error e), s')) : BlamesUnbound (s.scope w) t e :=
  (hx.blames fun _ h => h).run_ok hok h

lemma blames_generatorOf (hs : (s.scope w).Sturdy)
    (hok : ∀ b ∈ creationVisits Eval.value w t c s,
      ∃ v s₁, b.outcome Eval.value w = (.ok v, s₁))
    (h : (generatorOf Eval.value t c).exec w s = (.error (.error e), s')) :
    BlamesUnbound (s.scope w) t e := by
  rcases hg : s.generators.lookup t with _ | g
  · by_cases hf : c.kind ∈ s.functions
    · rw [creationVisits_new hg hf] at hok
      rw [generatorOf_new hg hf] at h
      exact blames_run
        (Generator.obeys_ofCallAs (Terms.unbound_lenient hs) c.kind fun _ _ => trivial) hok h
    · rw [generatorOf_unknown hg hf] at h
      obtain rfl := Failure.error.inj (Except.error.inj (Prod.mk.inj h).1)
      trivial
  · rw [generatorOf_kept hg] at h
    cases (Prod.mk.inj h).1

/-- The plan of a step fails by itself with an unbound name of its template. -/
lemma obeys_step (hs : (s.scope w).Sturdy) {g' : Generator} {plan : Plan}
    {src src' : Random.Source} (hg : g.Looks s.workspace t)
    (hst : g.step src = some ((plan, g'), src')) :
    plan.script.Obeys (.unbound (s.setting w) t) fun _ => True := by
  refine obeys_plan (Terms.unbound_lenient hs) (fun _ _ => trivial) ?_ ?_
  · rintro e rfl
    rcases Generator.step_sober hst with ⟨l, rfl⟩ | ⟨l, t', ps, names, -, hp⟩
    · trivial
    · cases hp
  · rintro l t' ps names rfl name hname
    rcases Generator.step_sober hst with hsober | ⟨l', t'', ps', names', rfl, hp⟩
    · exact hsober.elim
    obtain ⟨rfl, rfl, rfl, rfl⟩ := Plan.render.inj hp
    obtain ⟨rfl, text, params, hk, rfl⟩ := hg l t' ps names rfl
    obtain ⟨hmem, hparams⟩ := List.mem_filter.mp hname
    split
    · trivial
    · next hl => exact ⟨⟨⟨text, params, hk, hmem, by simpa using hparams⟩, hl⟩, rfl, rfl⟩

lemma blames_callValue (hs : (s.scope w).Sturdy)
    (hlooks : s.Holds (Generator.Looks s.workspace)) (hk : s.workspace.kind t = .call c)
    (hok : ∀ b ∈ ownVisits Eval.value w t s, ∃ v s₁, b.outcome Eval.value w = (.ok v, s₁))
    (h : (callValue Eval.value t c).exec w s = (.error (.error e), s')) :
    BlamesUnbound (s.scope w) t e := by
  rw [ownVisits_call hk] at hok
  rcases callValue_cases h with ⟨f, hgen, hr⟩ | ⟨g, -, -, hr⟩ |
    ⟨g, s₁, plan, g', src, s₂, hgen, hst, hvis, hrun, -⟩
  · obtain rfl := Except.error.inj hr
    exact blames_generatorOf hs (fun b hb => hok b (List.mem_append_left _ hb)) hgen
  · cases hr
  · have hkeep := keeps_generatorOf w t c s
    rw [hgen] at hkeep
    have hset : ({ s₁ with source := src }.withoutGenerator t).setting w = s.setting w :=
      hkeep.setting w
    have hobey := obeys_step hs (looks_generatorOf hlooks hk hgen) hst
    rw [← hset] at hobey
    have hblame := blames_run hobey (fun b hb => ?_) hrun
    · rwa [Session.scope, hset] at hblame
    · rw [← hvis] at hb
      exact hok b (List.mem_append_right _ hb)

/-- **An evaluation whose requests succeed** fails with a name only at a template with an unbound
name. -/
theorem blames_ownValue (hs : (s.scope w).Sturdy)
    (hlooks : s.Holds (Generator.Looks s.workspace))
    (hok : ∀ b ∈ ownVisits Eval.value w t s, ∃ v s₁, b.outcome Eval.value w = (.ok v, s₁))
    (h : (ownValue Eval.value t).exec w s = (.error (.error e), s')) :
    BlamesUnbound (s.scope w) t e := by
  rcases call_or_ne (s.workspace.kind t) with ⟨c, hk⟩ | hk'
  · rw [exec_ownValue_call hk] at h
    exact blames_callValue hs hlooks hk hok h
  · rw [exec_ownValue_plain hk'] at h
    rw [ownVisits_plain hk'] at hok
    exact blames_run (obeys_plainValue (Terms.unbound_lenient hs) fun _ _ => trivial) hok h

end

end TestData.Engine
