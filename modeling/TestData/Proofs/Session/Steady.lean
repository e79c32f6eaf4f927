import TestData.Proofs.Evaluation.Fit
import TestData.Proofs.Evaluation.Settled
import TestData.Proofs.Random.Uniform
import TestData.Proofs.Session.Invariant
import TestData.Proofs.Session.Known

/-!
Steady rows.

The disk may change between two requests of a row, and with it what a node stands for. A row is
steady where nodes stand for the same at every request. In a steady row every value that is kept is
accounted for by others that are kept: a list by those of its items, an object by those of its
properties, a choice by that of the node that was drawn, and a map by that of the target at the
index that was drawn.
-/

namespace TestData.Engine

open Schema

variable {w : World} {s s' s₀ s₁ s₂ : Session} {I : Session → Prop}

/-- What is known outlasts every request. -/
lemma lasting_settles (w : World) (s₀ : Session) : Lasting w (Settles s₀) where
  tables t r h := h.trans (Settles.passive.tables _ t r)
  source src h := h.trans (Settles.passive.source _ src)
  own := by
    intro s t hs h hl ha hr _
    rw [← valueVia_settle hr hl ha, ← exec_value_eq_valueVia hs]
    exact h.trans (settles_value hs w t)

/-! ### Generators of reachable sessions -/

/-- Every generator fits the call at its node. -/
def Session.Fitted (s : Session) : Prop :=
  s.Holds fun n g => ∃ c, s.workspace.kind n = .call c ∧ g.Fits n c

lemma lasting_fitted (w : World) (s₀ : Session) : Lasting w fun s =>
    s.setting = s₀.setting ∧ s.Holds fun n g => ∃ c, s₀.workspace.kind n = .call c ∧ g.Fits n c :=
  lasting_holds
    (fun n c hk => (Generator.fits_ofCallAs _ _ n c).mono fun _ hg => ⟨c, hk, hg⟩)
    fun ⟨c, hk, hg⟩ hs => ⟨c, hk, hg.step hs⟩

/-- **Generators fit** the calls that they are of, whatever was asked before. -/
theorem Reachable.fitted (h : Reachable s) : s.Fitted :=
  h.holds (P := fun ws n g => ∃ c, ws.kind n = .call c ∧ g.Fits n c)
    (fun _ n c hk => (Generator.fits_ofCallAs _ _ n c).mono fun _ hg => ⟨c, hk, hg⟩)
    fun ⟨c, hk, hg⟩ hs => ⟨c, hk, hg.step hs⟩

/-! ### Steady rows -/

/-- The sessions that requests of one row lead to, in whatever worlds and however they end, as long
as nodes stand for the same at each of them. -/
inductive SteadyRow (resolve : NodeRef → Except EvalError Resolution) : Session → Session → Prop
  | refl (s : Session) : SteadyRow resolve s s
  | step {s s' : Session} (h : SteadyRow resolve s s') (r : Request) (hr : r.newRow = false)
    (world : World) (hw : (s'.scope world).resolve = resolve) :
    SteadyRow resolve s (r.exec world s').2

namespace SteadyRow

variable {resolve : NodeRef → Except EvalError Resolution}

lemma row (h : SteadyRow resolve s s') : Row s s' := by
  induction h with
  | refl => exact .refl _
  | step _ r hr world _ ih => exact ih.step r hr world

protected lemma trans (h : SteadyRow resolve s₁ s₂) (h' : SteadyRow resolve s₂ s) :
    SteadyRow resolve s₁ s := by
  induction h' with
  | refl => exact h
  | step _ r hr world hw ih => exact ih.step r hr world hw

lemma value {n : NodeRef} {v : Option Value} (hw : (s.scope w).resolve = resolve)
    (h : (Eval.value n).exec w s = (.ok v, s₁)) : SteadyRow resolve s s₁ := by
  have hrow : SteadyRow resolve s ((Request.value n).exec w s).2 := .step (.refl s) _ rfl w hw
  rwa [Request.exec, ended_snd, h] at hrow

lemma guarded (h : SteadyRow resolve s s') (hs : s.active = []) : s'.Guarded :=
  .of_idle (h.row.grows.active.trans hs)

/-- An invariant that outlasts requests in worlds where nodes stand for the same outlasts the
row. -/
lemma keeps (h : SteadyRow resolve s s') (hs : s.active = [])
    (hI : ∀ w, (s.scope w).resolve = resolve → Lasting w I) (hinit : I s) : I s' := by
  induction h with
  | refl => exact hinit
  | step h r hr world hw ih =>
    have hscope := h.row.grows.scope world
    exact (hI world (hscope ▸ hw)).exec hr (h.guarded hs) ih

lemma settles (h : SteadyRow resolve s s') (hs : s.active = []) : Settles s s' :=
  h.keeps hs (fun w _ => lasting_settles w s) (.refl s)

end SteadyRow

/-! ### What accounts for a value -/

section

variable (resolve : NodeRef → Except EvalError Resolution)

/-- What a session knows of nodes. -/
def Session.known (s : Session) : Knowledge := knownBy resolve s.values

/-- The generator of a call accounts for the value of the call: a choice by the node at the index
that was drawn, a map by the target at the index that its choice has drawn. -/
structure Drawn (s : Session) (g : Generator) (v : Option Value) : Prop where
  choice : ∀ values i, g = .choice values i →
    ∃ j n, i = some j ∧ values[j]? = some n ∧ s.known resolve n = some v
  map : ∀ source selector targets, g = .map source selector targets →
    resolve source = .ok (.value selector) →
    (∃ u, s.values.lookup selector = some u) ∧
      match (s.selected? selector).bind fun i => targets[i]? with
      | some n => s.known resolve n = some v
      | none => v = none

/-- What is kept accounts for the value of a node. -/
def Accounted (s : Session) (t : NodeRef) (v : Option Value) : Prop :=
  match s.workspace.kind t with
  | .call _ => ∃ g, s.generators.lookup t = some g ∧ Drawn resolve s g v
  | k => ∃ w, (plainValue t k).answer (s.setting w) (s.known resolve) = some v

/-- What is kept accounts for every value that is kept. -/
def Session.Accounts (s : Session) : Prop :=
  ∀ t v, s.values.lookup t = some v → Accounted resolve s t v

end

variable {resolve : NodeRef → Except EvalError Resolution} {t n : NodeRef} {v : Option Value}
  {g : Generator}

lemma accounted_call {c : Call} (hk : s.workspace.kind t = .call c) :
    Accounted resolve s t v ↔
      ∃ g, s.generators.lookup t = some g ∧ Drawn resolve s g v := by
  rw [Accounted, hk]

lemma accounted_plain (hk : ∀ c, s.workspace.kind t ≠ .call c) :
    Accounted resolve s t v ↔
      ∃ w, (plainValue t (s.workspace.kind t)).answer (s.setting w) (s.known resolve) =
        some v := by
  unfold Accounted
  split
  · exact absurd ‹_› (hk _)
  · rfl

lemma Settles.known (h : Settles s s') (hn : s.known resolve n = some v) :
    s'.known resolve n = some v :=
  knownBy_mono (fun _ _ hv => h.lookup hv) hn

lemma Settles.selected (h : Settles s s') {u : Option Value} (hu : s.values.lookup t = some u) :
    s'.selected? t = s.selected? t := by
  unfold Session.selected?
  rw [h.generators hu]

lemma Drawn.settles (h : Settles s s') (hg : Drawn resolve s g v) : Drawn resolve s' g v where
  choice values i hc := by
    obtain ⟨j, n, hi, hn, hv⟩ := hg.choice values i hc
    exact ⟨j, n, hi, hn, h.known hv⟩
  map source selector targets hm hr := by
    obtain ⟨⟨u, hu⟩, hv⟩ := hg.map source selector targets hm hr
    refine ⟨⟨u, h.lookup hu⟩, ?_⟩
    rw [h.selected hu]
    split at hv
    · exact h.known hv
    · exact hv

/-- What is settled stays accounted for. -/
lemma Accounted.settles (h : Settles s s') (hl : s.values.lookup t = some v)
    (ha : Accounted resolve s t v) : Accounted resolve s' t v := by
  rcases call_or_ne (s.workspace.kind t) with ⟨c, hk⟩ | hk'
  · obtain ⟨g, hg, hd⟩ := (accounted_call hk).mp ha
    rw [← h.workspace] at hk
    exact (accounted_call hk).mpr ⟨g, (h.generators hl).trans hg, hd.settles h⟩
  · obtain ⟨w, hw⟩ := (accounted_plain hk').mp ha
    rw [← h.workspace] at hk'
    refine (accounted_plain hk').mpr ⟨w, ?_⟩
    rw [h.workspace, h.setting]
    exact Script.answer_mono (fun n v hn => h.known hn) hw

lemma Session.Accounts.settles (ha : s.Accounts resolve) (h : Settles s s')
    (hv : s'.values = s.values) : s'.Accounts resolve := by
  intro t v hl
  rw [hv] at hl
  exact (ha t v hl).settles h hl

/-! ### What a step draws -/

/-- The step of a choice is at a node that it chooses from. -/
lemma Generator.Fits.drawn_choice {c : Call} {values : List NodeRef} {i : Option Nat}
    (hfit : (Generator.choice values i).Fits t c) (src : Random.Source) :
    ∃ n, values[(src.index values.length).1]? = some n := by
  have hc : ∃ ids, c = .choice ids := by
    have hk := hfit.kind
    rcases c <;> first | exact ⟨_, rfl⟩ | cases hk
  obtain ⟨ids, rfl⟩ := hc
  obtain ⟨hne, j, hj⟩ := hfit.choice ids rfl
  obtain ⟨rfl, -⟩ := Generator.choice.inj hj
  have hpos : 0 < (ids.map t.at).length := by
    rw [List.length_map]
    exact List.length_pos_iff.mpr hne
  exact ⟨_, List.getElem?_eq_getElem (src.index_lt hpos)⟩

/-- The value of a step of a choice is that of the node at the index that is drawn. -/
lemma known_of_run_choice {c : Call} {values : List NodeRef} {i : Option Nat} {plan : Plan}
    {src src' : Random.Source} (hfit : g.Fits t c)
    (hstep : g.step src = some ((plan, .choice values i), src'))
    (hw : (s.scope w).resolve = resolve)
    (h : (plan.script.run Eval.value).exec w s = (.ok v, s')) :
    ∃ j n, i = some j ∧ values[j]? = some n ∧ s'.known resolve n = some v := by
  rcases Generator.step_cases hstep with ⟨rfl, hne⟩ | ⟨values', i', rfl, rfl, hg⟩ | ⟨k, -, -, hg⟩
  · exact absurd rfl (hne values i)
  · obtain ⟨rfl, rfl⟩ := Generator.choice.inj hg
    obtain ⟨n, hn⟩ := hfit.drawn_choice src
    have hscript : (Plan.at values (src.index values.length).1).script = .value n := by
      rw [Plan.at, hn]
      rfl
    rw [hscript, Script.exec_value] at h
    have hk := known_of_value h
    rw [hw] at hk
    exact ⟨_, n, rfl, hn, hk⟩
  · cases hg

/-- The value of a map is that of the target at the index that its choice has drawn. -/
lemma known_of_run_replay {source selector : NodeRef} {targets : List NodeRef}
    (hres : resolve source = .ok (.value selector)) (hw : (s.scope w).resolve = resolve)
    (hv : ∀ b ∈ (Plan.replay source selector targets).script.visits Eval.value w s,
      b.session.Guarded)
    (h : ((Plan.replay source selector targets).script.run Eval.value).exec w s = (.ok v, s')) :
    (∃ u, s'.values.lookup selector = some u) ∧
      match (s'.selected? selector).bind fun i => targets[i]? with
      | some n => s'.known resolve n = some v
      | none => v = none := by
  have hscript : (Plan.replay source selector targets).script = .ask source fun _ =>
      .selected selector fun index =>
        match index.bind fun i => targets[i]? with
        | some n => .value n
        | none => return none := rfl
  rw [hscript] at h hv
  rw [Script.exec_ask] at h
  rcases hs : (Eval.value source).exec w s with ⟨_ | u, s₃⟩ <;> rw [hs] at h
  · cases (Prod.mk.inj h).1
  have hscope : (s₃.scope w).resolve = resolve := by
    have hk := keeps_value w source s
    rw [hs] at hk
    rw [hk.scope, hw]
  have hu : s₃.values.lookup selector = some u := by
    have hk := known_of_value hs
    rw [hw, knownBy_of_ok hres] at hk
    exact hk
  dsimp only at h
  rw [Script.exec_selected] at h
  rcases hi : (s₃.selected? selector).bind fun i => targets[i]? with _ | n
  · rw [hi] at h
    obtain ⟨h₁, rfl⟩ := Prod.mk.inj h
    obtain rfl := Except.ok.inj h₁
    exact ⟨⟨u, hu⟩, by rw [hi]⟩
  · rw [hi] at h
    dsimp only at h
    rw [Script.exec_value] at h
    have hk := known_of_value h
    rw [hscope] at hk
    have hg : s₃.Guarded := hv ⟨n, s₃⟩ (by simp [Script.visits, hs, hi, Script.value])
    have hsettles := settles_value hg w n
    rw [h] at hsettles
    refine ⟨⟨u, hsettles.lookup hu⟩, ?_⟩
    rw [hsettles.selected hu, hi]
    exact hk

/-- The value that a step makes is accounted for by the generator after the step. -/
lemma drawn_of_run {c : Call} {g' : Generator} {plan : Plan} {src src' : Random.Source}
    (hfit : g.Fits t c) (hstep : g.step src = some ((plan, g'), src'))
    (hw : (s.scope w).resolve = resolve)
    (hv : ∀ b ∈ plan.script.visits Eval.value w s, b.session.Guarded)
    (h : (plan.script.run Eval.value).exec w s = (.ok v, s')) : Drawn resolve s' g' v := by
  constructor
  · rintro values i rfl
    exact known_of_run_choice hfit hstep hw h
  · rintro source selector targets rfl hres
    have hplan : plan = .replay source selector targets := by
      rcases Generator.step_cases hstep with ⟨rfl, -⟩ | ⟨values', i', -, -, hg⟩ | ⟨k, -, -, hg⟩
      · exact (Prod.mk.inj (Prod.mk.inj (Option.some.inj hstep)).1).1.symm
      · cases hg
      · cases hg
    subst hplan
    exact known_of_run_replay hres hw hv h

/-! ### Steady rows are accounted for -/

lemma Settles.evaluated (hl : s.values.lookup t = none) (v : Option Value) :
    Settles s ((s.leave t).keep t v) :=
  (Settles.leave s t).trans (Settles.keep (s := s.leave t) hl v)

lemma Session.Accounts.settle {r : Except Failure (Option Value)} (ha : s.Accounts resolve)
    (hl : s.values.lookup t = none)
    (hr : ∀ v, r = .ok v → Accounted resolve ((s.leave t).keep t v) t v) :
    (s.settle t r).Accounts resolve := by
  rcases r with f | v
  · exact ha.settles (Settles.leave s t) rfl
  · intro u x hx
    have hx' : ((s.leave t).keep t v).values.lookup u = some x := hx
    rw [Session.lookup_keep] at hx'
    split_ifs at hx' with hut
    · obtain rfl := Option.some.inj hx'
      obtain rfl := hut
      exact hr v rfl
    · exact (ha u x hx').settles (Settles.evaluated hl v) hx'

/-- The generator that a call steps fits the call. -/
lemma fits_of_generatorOf {c : Call} (hk : s.workspace.kind t = .call c) (hs : s.Fitted)
    (h : (generatorOf Eval.value t c).exec w s = (.ok g, s₁)) : g.Fits t c := by
  rcases generatorOf_cases h with ⟨hl, rfl⟩ | ⟨-, -, hnew⟩
  · obtain ⟨c', hk', hg⟩ := hs t g hl
    obtain rfl := Kind.call.inj (hk.symm.trans hk')
    exact hg
  · exact (Generator.fits_ofCallAs (s.setting w) c.kind t c).run
      (keeps_value w) hnew

/-- What accounts need beside them: generators fit, and nothing else than values, generators and
what is being evaluated has changed. -/
def Session.Sound (s₀ s : Session) : Prop := s.setting = s₀.setting ∧ s.Fitted

lemma Session.Sound.out (h : s₀.Sound s) (src : Random.Source) (t : NodeRef) :
    s₀.Sound ({ s with source := src }.withoutGenerator t) := by
  have hfit : ({ s with source := src } : Session).Fitted := h.2
  exact ⟨h.1, Session.Holds.without hfit t⟩

lemma lasting_sound (w : World) (s₀ : Session) : Lasting w s₀.Sound := by
  have h := lasting_fitted w s₀
  have heq : s₀.Sound = fun s => s.setting = s₀.setting ∧
      s.Holds fun n g => ∃ c, s₀.workspace.kind n = .call c ∧ g.Fits n c := by
    funext s
    refine propext (and_congr_right fun hset => ?_)
    unfold Session.Fitted
    rw [workspace_of_setting hset]
  rw [heq]
  exact h

section

variable (hw : (s₀.scope w).resolve = resolve)

include hw

lemma resolve_of_setting (h : s.setting = s₀.setting) : (s.scope w).resolve = resolve := by
  rw [← hw]
  exact congrArg Scope.resolve (congrArg Setting.scope (congrFun h w))

/-- The evaluation of a call leaves every value accounted for, its own included. -/
lemma accounts_callValue {c : Call} (hk : s.workspace.kind t = .call c) (ho : s.Open t)
    (hs : s₀.Sound s ∧ s.Accounts resolve)
    (hR : Passive (Preserves fun s => s₀.Sound s ∧ s.Accounts resolve))
    (hv : ∀ b ∈ ownVisits Eval.value w t s, b.session.Guarded ∧
      Preserves (fun s => s₀.Sound s ∧ s.Accounts resolve) b.session (b.outcome Eval.value w).2) :
    (((callValue Eval.value t c).exec w s).2.settle t
      ((callValue Eval.value t c).exec w s).1).Accounts resolve := by
  have hout : ∀ {s : Session} src, s.Open t → s₀.Sound s ∧ s.Accounts resolve →
      s₀.Sound ({ s with source := src }.withoutGenerator t) ∧
        ({ s with source := src }.withoutGenerator t).Accounts resolve := fun {s} src ho h =>
    ⟨h.1.out src t,
      h.2.settles ((Settles.passive.source s src).trans (Settles.without ho.2)) rfl⟩
  rcases hx : (callValue Eval.value t c).exec w s with ⟨r, s'⟩
  cases callEnds hR hout hk ho hs hv hx with
  | creation _ hI ho' => exact hI.2.settle ho'.2 nofun
  | stuck _ _ hI ho' => exact hI.2.settle ho'.2 nofun
  | @plan g g' plan src s₁ s₂ r hg hst hpr hvis hI₁ ho₁ hk₁ hI₂ ho₂ =>
    have hin : Settles s₂ (s₂.withGenerator t g') := Settles.insert ho₂.2 g'
    refine (hI₂.2.settles hin rfl).settle ho₂.2 fun v hv => ?_
    dsimp only at hv
    subst hv
    have hk₂ : (((s₂.withGenerator t g').leave t).keep t v).workspace.kind t = .call c := by
      show s₂.workspace.kind t = .call c
      rw [workspace_of_setting (hI₂.1.1.trans hs.1.1.symm), hk]
    refine (accounted_call hk₂).mpr ⟨g', ?_, ?_⟩
    · show (s₂.withGenerator t g').generators.lookup t = some g'
      simp
    · have hfit := fits_of_generatorOf hk hs.1.2 hg
      have hd : Drawn resolve s₂ g' v := drawn_of_run hfit hst
        (resolve_of_setting hw (hI₁.1.out src t).1) hvis hpr
      have hlast : Settles (s₂.withGenerator t g') (((s₂.withGenerator t g').leave t).keep t v) :=
        Settles.evaluated (s := s₂.withGenerator t g') ho₂.2 v
      exact hd.settles (hin.trans hlast)

/-- The evaluation of a node that is no call leaves every value accounted for. -/
lemma accounts_plainValue (hk : ∀ c, s.workspace.kind t ≠ .call c) (ho : s.Open t)
    (hs : s₀.Sound s ∧ s.Accounts resolve)
    (hR : Passive (Preserves fun s => s₀.Sound s ∧ s.Accounts resolve))
    (hv : ∀ b ∈ (plainValue t (s.workspace.kind t)).visits Eval.value w s,
      Preserves (fun s => s₀.Sound s ∧ s.Accounts resolve) b.session (b.outcome Eval.value w).2) :
    ((((plainValue t (s.workspace.kind t)).run Eval.value).exec w s).2.settle t
      (((plainValue t (s.workspace.kind t)).run Eval.value).exec w s).1).Accounts resolve := by
  have hrun := Script.run_rel hR _ _ hv hs
  have hkeeps := keeps_run w (plainValue t (s.workspace.kind t)) s
  rcases hx : ((plainValue t (s.workspace.kind t)).run Eval.value).exec w s with ⟨r, s'⟩
  rw [hx] at hrun hkeeps
  have hopen := ho.keeps hkeeps
  refine hrun.2.settle hopen.2 fun v hr => ?_
  dsimp only at hr
  subst hr
  have hws : s'.workspace = s.workspace := hkeeps.workspace
  have hk' : ∀ c, ((s'.leave t).keep t v).workspace.kind t ≠ .call c := fun c hc =>
    hk c (by rw [← hws]; exact hc)
  have hset : Settles s' ((s'.leave t).keep t v) :=
    Settles.evaluated hopen.2 v
  refine (accounted_plain hk').mpr ⟨w, ?_⟩
  have hans := answer_known (quiet_plainValue t (s.workspace.kind t)) hx
  rw [resolve_of_setting hw hs.1.1] at hans
  rw [hset.workspace, hws, hset.setting, hkeeps.setting]
  exact Script.answer_mono (fun n v hn => hset.known hn) hans

/-- In worlds where nodes stand for the same, requests leave every value accounted for. -/
lemma lasting_accounts : Lasting w fun s => s₀.Sound s ∧ s.Accounts resolve := by
  refine (lasting_sound w s₀).and (fun t r ha => ha.settles (Settles.passive.tables _ t r) rfl)
    (fun src ha => ha.settles (Settles.passive.source _ src) rfl) ?_
  intro s t hs hsound ha hl hact _ hv
  have hopen : (s.enter t).Open t := Session.open_enter hl
  have hR : Passive (Preserves fun s => s₀.Sound s ∧ s.Accounts resolve) :=
    passive_preserves (fun t r h => ⟨h.1, h.2.settles (Settles.passive.tables _ t r) rfl⟩)
      fun src h => ⟨h.1, h.2.settles (Settles.passive.source _ src) rfl⟩
  have he : s₀.Sound (s.enter t) ∧ (s.enter t).Accounts resolve :=
    ⟨hsound, ha.settles (Settles.enter s t) rfl⟩
  rcases call_or_ne ((s.enter t).workspace.kind t) with ⟨c, hk⟩ | hk'
  · rw [exec_ownValue_call hk]
    exact accounts_callValue hw hk hopen he hR hv
  · rw [ownVisits_plain hk'] at hv
    rw [exec_ownValue_plain hk']
    exact accounts_plainValue hw hk' hopen he hR fun b hb => (hv b hb).2

end

/-- **A steady row is accounted for**: from a session without values on, what is kept accounts for
every value that is kept. -/
theorem SteadyRow.accounts (h : SteadyRow resolve s₀ s) (hs : Reachable s₀) (hv : s₀.values = []) :
    s₀.Sound s ∧ s.Accounts resolve := by
  refine h.keeps hs.idle (I := fun s => s₀.Sound s ∧ s.Accounts resolve)
    (fun w hw => lasting_accounts hw) ⟨⟨rfl, hs.fitted⟩, ?_⟩
  intro t v hl
  rw [hv] at hl
  cases hl

/-! ### A file that goes away -/

/-- A world with two files. -/
def twoFiles : World := Borrowed.world [(["a.yaml"], .file .empty), (["b.yaml"], .file .empty)]

/-- The world where the first of them is gone. -/
def oneFile : World := Borrowed.world [(["b.yaml"], .file .empty)]

end TestData.Engine
