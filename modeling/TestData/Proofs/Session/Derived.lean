import TestData.Proofs.Session.Derivation

/-!
Sessions in a row without chance.

Where no function draws, the values that a session keeps in a row are a derivation at every
moment, also after requests that have failed. The generator of a node that has a value is the one
that its derivation leaves, and a node without a value still has the generator that the row begins
with, or one that was created and has not been used up.
-/

namespace TestData.Engine

open Schema

section

variable (w : World) (s₀ s : Session)

/-- A node without a value has the generator that the row begins with, or one that was made of
what is known. -/
def Session.Waits (t : NodeRef) : Prop :=
  s.generators.lookup t = s₀.generators.lookup t ∨
    ∃ c g, s₀.workspace.kind t = .call c ∧ s.generators.lookup t = some g ∧
      s₀.Starts w (s.known (s₀.scope w).resolve) t c g

/-- What a session keeps is derived from the session that the row begins with. -/
structure Session.Derived : Prop where
  setting : s.setting = s₀.setting
  values : s₀.Derivation w s.values
  settled : ∀ t v, s.values.lookup t = some v →
    s₀.Follows w (s.known (s₀.scope w).resolve) t v (s.generators.lookup t)
  waits : ∀ t, s.values.lookup t = none → t ∉ s.active → s₀.Waits w s t

end

variable {w : World} {s₀ s s' s₁ s₂ : Session} {t n : NodeRef} {c : Call} {g : Generator}
  {v : Option Value} {found : List (NodeRef × Option Value)}

lemma Session.Waits.mono (h : s₀.Waits w s t)
    (hv : ∀ u x, s.values.lookup u = some x → s'.values.lookup u = some x)
    (hg : s'.generators.lookup t = s.generators.lookup t) : s₀.Waits w s' t := by
  rcases h with h | ⟨c, g, hk, hl, hst⟩
  · exact .inl (hg.trans h)
  · exact .inr ⟨c, g, hk, hg.trans hl, hst.mono fun n x hn => knownBy_mono hv hn⟩

/-- The generator of a node that waits may be stepped. -/
lemma Session.Waits.starts (h : s₀.Waits w s t) (hk : s₀.workspace.kind t = .call c)
    (hl : s.generators.lookup t = some g) :
    s₀.Starts w (s.known (s₀.scope w).resolve) t c g := by
  rcases h with h₀ | ⟨c', g', hk', hl', hst⟩
  · exact .inl (h₀.symm.trans hl)
  · obtain rfl := Kind.call.inj (hk'.symm.trans hk)
    obtain rfl := Option.some.inj (hl'.symm.trans hl)
    exact hst

lemma Session.Waits.none (h : s₀.Waits w s t) (hl : s.generators.lookup t = none) :
    s₀.generators.lookup t = none := by
  rcases h with h₀ | ⟨c, g, -, hl', -⟩
  · exact h₀.symm.trans hl
  · cases hl.symm.trans hl'

/-! ### Sessions that are derived -/

namespace Session.Derived

/-- A row begins with a derived session. -/
lemma reset (s : Session) : s.reset.Derived w s.reset where
  setting := rfl
  values := .nil
  settled t v h := by cases h
  waits t _ _ := .inl rfl

lemma scope (h : s₀.Derived w s) : s.scope w = s₀.scope w :=
  congrArg Setting.scope (congrFun h.setting w)

lemma workspace (h : s₀.Derived w s) : s.workspace = s₀.workspace :=
  workspace_of_setting h.setting

lemma functions (h : s₀.Derived w s) : s.functions = s₀.functions :=
  congrArg Setting.functions (congrFun h.setting w)

/-- What changes at a node without a value matters only once the node is left. -/
lemma elsewhere (h : s₀.Derived w s) (hl : s.values.lookup t = none)
    (hset : s'.setting = s.setting) (hv : s'.values = s.values)
    (hg : ∀ u, u ≠ t → s'.generators.lookup u = s.generators.lookup u)
    (ha : ∀ u, u ≠ t → u ∉ s'.active → u ∉ s.active)
    (ht : t ∉ s'.active → s₀.Waits w s' t) : s₀.Derived w s' where
  setting := hset.trans h.setting
  values := by rw [hv]; exact h.values
  settled u x hu := by
    rw [hv] at hu
    have hne : u ≠ t := by
      rintro rfl
      cases hl.symm.trans hu
    rw [hg u hne, Session.known, hv]
    exact h.settled u x hu
  waits u hu hact := by
    by_cases hne : u = t
    · subst hne
      exact ht hact
    · rw [hv] at hu
      exact (h.waits u hu (ha u hne hact)).mono (fun _ _ hx => by rwa [hv]) (hg u hne)

lemma enter (h : s₀.Derived w s) (hl : s.values.lookup t = none) : s₀.Derived w (s.enter t) :=
  h.elsewhere hl rfl rfl (fun _ _ => rfl) (fun _ _ hu hmem => hu (List.mem_cons_of_mem t hmem))
    fun ht => absurd List.mem_cons_self ht

/-- The generator of a node that is being evaluated may be out. -/
lemma out (h : s₀.Derived w s) (ho : s.Open t) (src : Random.Source) :
    s₀.Derived w ({ s with source := src }.withoutGenerator t) :=
  h.elsewhere ho.2 rfl rfl (fun _ hne => by simp [hne]) (fun _ _ hu => hu)
    fun ht => absurd ho.1 ht

lemma insert (h : s₀.Derived w s) (ho : s.Open t) (g : Generator) :
    s₀.Derived w (s.withGenerator t g) :=
  h.elsewhere ho.2 rfl rfl (fun _ hne => by simp [hne]) (fun _ _ hu => hu)
    fun ht => absurd ho.1 ht

lemma leave (h : s₀.Derived w s) (hl : s.values.lookup t = none) (ht : s₀.Waits w s t) :
    s₀.Derived w (s.leave t) :=
  h.elsewhere hl rfl rfl (fun _ _ => rfl)
    (fun _ hne hu hmem => hu ((List.mem_erase_of_ne hne).mpr hmem))
    fun _ => ht.mono (fun _ _ hx => hx) rfl

/-- A value that follows from what is known may be kept. -/
lemma keep (h : s₀.Derived w s) (hl : s.values.lookup t = none)
    (hf : s₀.Follows w (s.known (s₀.scope w).resolve) t v (s.generators.lookup t)) :
    s₀.Derived w ((s.leave t).keep t v) where
  setting := h.setting
  values := .cons h.values hl hf
  settled u x hu := by
    have hmore : ∀ n y, s.known (s₀.scope w).resolve n = some y →
        ((s.leave t).keep t v).known (s₀.scope w).resolve n = some y := fun n y =>
      knownBy_mono (Session.Derivation.lookup_cons_of_fresh v hl)
    rw [Session.lookup_keep] at hu
    split_ifs at hu with hut
    · obtain rfl := Option.some.inj hu
      subst hut
      exact hf.mono hmore
    · exact (h.settled u x hu).mono hmore
  waits u hu hact := by
    rw [Session.lookup_keep] at hu
    split_ifs at hu with hut
    have hact' : u ∉ s.active := fun hmem => hact ((List.mem_erase_of_ne hut).mpr hmem)
    exact (h.waits u hu hact').mono (Session.Derivation.lookup_cons_of_fresh v hl) rfl

lemma settle {r : Except Failure (Option Value)} (h : s₀.Derived w s)
    (hl : s.values.lookup t = none) (herr : ∀ f, r = .error f → s₀.Waits w s t)
    (hok : ∀ v, r = .ok v →
      s₀.Follows w (s.known (s₀.scope w).resolve) t v (s.generators.lookup t)) :
    s₀.Derived w (s.settle t r) := by
  rcases r with f | v
  · exact h.leave hl (herr f rfl)
  · exact h.keep hl (hok v rfl)

end Session.Derived

/-! ### Evaluations keep sessions derived -/

/-- The generator that a call steps is the one that the row begins with, or it was made of what is
known. -/
lemma starts_of_generatorOf (hc : c.kind ∈ drawless) (hk : s₀.workspace.kind t = .call c)
    (hs : s₀.Derived w s) (ht : s₀.Waits w s t)
    (h : (generatorOf Eval.value t c).exec w s = (.ok g, s₁)) :
    s₀.Starts w (s₁.known (s₀.scope w).resolve) t c g := by
  rcases generatorOf_cases h with ⟨hl, rfl⟩ | ⟨hl, hf, hnew⟩
  · exact ht.starts hk hl
  · have hans := answer_known (quiet_ofCallAs hc c.kind t) hnew
    rw [hs.setting, hs.scope] at hans
    exact .inr ⟨ht.none hl, hs.functions ▸ hf, hans⟩

/-- The evaluation of a node that is no call keeps a session derived. -/
lemma derived_plainValue (hk : ∀ c, s.workspace.kind t ≠ .call c) (ho : s.Open t)
    (hs : s₀.Derived w s) (ht : s₀.Waits w s t)
    (hR : Passive (Preserves (s₀.Derived w)))
    (hv : ∀ b ∈ (plainValue t (s.workspace.kind t)).visits Eval.value w s, b.session.Guarded ∧
      Preserves (s₀.Derived w) b.session (b.outcome Eval.value w).2) :
    s₀.Derived w ((((plainValue t (s.workspace.kind t)).run Eval.value).exec w s).2.settle t
      (((plainValue t (s.workspace.kind t)).run Eval.value).exec w s).1) := by
  have hrun := Script.run_rel hR _ _ (fun b hb => (hv b hb).2) hs
  have hkeep := keeps_run w (plainValue t (s.workspace.kind t)) s
  have hheld := (Script.run_rel Held.passive _ _ (fun b hb => Visit.held (hv b hb).1 t)
    (.inr ho.1)).1
  rcases hx : ((plainValue t (s.workspace.kind t)).run Eval.value).exec w s with ⟨r, s'⟩
  rw [hx] at hrun hkeep hheld
  refine hrun.settle (ho.keeps hkeep).2
    (fun _ _ => ht.mono hkeep.values hheld.generators) fun v hr => ?_
  dsimp only at hr
  subst hr
  have hans := answer_known (quiet_plainValue t (s.workspace.kind t)) hx
  rw [hs.setting, hs.scope, hs.workspace] at hans
  rw [hs.workspace] at hk
  have hlast : s'.generators.lookup t = s₀.generators.lookup t := by
    rcases ht with h₀ | ⟨c, g, hc, -⟩
    · exact hheld.generators.trans h₀
    · exact absurd hc (hk c)
  rw [hlast]
  exact .plain hk hans

section

variable (hfit : s₀.Fitted) (hd : s₀.workspace.Drawless)

include hfit hd

/-- The evaluation of a call keeps a session derived. -/
lemma derived_callValue (hk : s₀.workspace.kind t = .call c) (ho : s.Open t)
    (hs : s₀.Derived w s) (ht : s₀.Waits w s t) (hR : Passive (Preserves (s₀.Derived w)))
    (hv : ∀ b ∈ ownVisits Eval.value w t s, b.session.Guarded ∧
      Preserves (s₀.Derived w) b.session (b.outcome Eval.value w).2) :
    s₀.Derived w (((callValue Eval.value t c).exec w s).2.settle t
      ((callValue Eval.value t c).exec w s).1) := by
  have hc := hd t c hk
  have hk' : s.workspace.kind t = .call c := by rw [hs.workspace, hk]
  rcases hx : (callValue Eval.value t c).exec w s with ⟨r, s'⟩
  cases callEnds hR (fun src ho h => h.out ho src) hk' ho hs hv hx with
  | creation _ hI ho' hkeep hheld =>
    exact hI.settle ho'.2 (fun _ _ => ht.mono hkeep.values hheld.generators) nofun
  | stuck hg hst =>
    have hkind := (starts_of_generatorOf hc hk hs ht hg).kind hfit hk
    obtain ⟨plan, g', hstep, -⟩ := Generator.step_drawless (hkind ▸ hc)
    cases (hstep _).symm.trans hst
  | @plan g g' plan src s₁ s₂ r hg hst hpr _ hI₁ ho₁ _ hI₂ ho₂ hkeep₂ =>
    have hstart := starts_of_generatorOf hc hk hs ht hg
    obtain ⟨plan', g'', hstep, hquiet, hsame⟩ :=
      Generator.step_drawless (hstart.kind hfit hk ▸ hc)
    obtain ⟨⟨rfl, rfl⟩, -⟩ : (plan' = plan ∧ g'' = g') ∧ s₁.source = src := by
      simpa using (hstep s₁.source).symm.trans hst
    have hlast : (s₂.withGenerator t g'').generators.lookup t = some g'' := by simp
    have hstart₂ : s₀.Starts w ((s₂.withGenerator t g'').known (s₀.scope w).resolve) t c g :=
      hstart.mono fun n x hn => knownBy_mono hkeep₂.values hn
    refine (hI₂.insert ho₂ g'').settle ho₂.2 (fun f hf => ?_) fun v hv => ?_
    · -- a plan that fails is no value, so the generator is what it was
      rcases hsame with rfl | ⟨x, rfl⟩
      · exact .inr ⟨c, g'', hk, hlast, hstart₂⟩
      · dsimp only at hf
        subst hf
        cases (Prod.mk.inj hpr).1
    · dsimp only at hv
      subst hv
      have hout := hI₁.out ho₁ src
      have hans := answer_known hquiet hpr
      rw [hout.setting, hout.scope] at hans
      rw [hlast]
      exact .call hk hstart₂ hstep hans

/-- **Every request keeps a session derived**, whether it succeeds or fails. -/
lemma lasting_derived : Lasting w (s₀.Derived w) where
  tables _ _ h := ⟨h.setting, h.values, h.settled, h.waits⟩
  source _ h := ⟨h.setting, h.values, h.settled, h.waits⟩
  own := by
    intro s t _ hs hl hact _ hv
    have hR : Passive (Preserves (s₀.Derived w)) :=
      passive_preserves (fun _ _ h => ⟨h.setting, h.values, h.settled, h.waits⟩)
        fun _ h => ⟨h.setting, h.values, h.settled, h.waits⟩
    have ho : (s.enter t).Open t := Session.open_enter hl
    have he : s₀.Derived w (s.enter t) := hs.enter hl
    have ht : s₀.Waits w (s.enter t) t := (hs.waits t hl hact).mono (fun _ _ h => h) rfl
    rcases call_or_ne ((s.enter t).workspace.kind t) with ⟨c, hk⟩ | hk'
    · rw [exec_ownValue_call hk]
      rw [he.workspace] at hk
      exact derived_callValue hfit hd hk ho he ht hR hv
    · rw [ownVisits_plain hk'] at hv
      rw [exec_ownValue_plain hk']
      exact derived_plainValue hk' ho he ht hR hv

end

end TestData.Engine
