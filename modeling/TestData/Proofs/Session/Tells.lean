import TestData.Proofs.Evaluation.Created
import TestData.Proofs.Session.Invariant
import TestData.Proofs.Session.Steady

/-!
Generators that make their values themselves.

The steps of some generators leave them as they are and need no other node: what such a generator
can show does not change as long as the node keeps it. So what is known of the generator when it is
created, and what it can show, tells all values of the node, in whatever row and through whatever
reference they are read.
-/

namespace TestData.Engine

open Schema

variable {t n : NodeRef} {s s' s₀ s₁ : Session} {w : World} {c : Call} {g g' : Generator}
  {v : Option Value} {P : List (NodeRef × Option Value) → Generator → Prop}
  {Q : Generator → Prop} {R : Generator → Option Value → Prop}

/-- The new generators of a call satisfy a predicate of the values of the row, and their steps leave
them as they are, with values that satisfy another one. -/
structure Makes (w : World) (s₀ : Session) (t : NodeRef) (c : Call)
    (P : List (NodeRef × Option Value) → Generator → Prop) (R : Generator → Option Value → Prop) :
    Prop where
  mono : ∀ {values values' : List (NodeRef × Option Value)} {g : Generator},
    (∀ n v, values.lookup n = some v → values'.lookup n = some v) → P values g → P values' g
  new : ∀ {s s' : Session} {g : Generator}, s.setting = s₀.setting →
    ((Generator.ofCallAs c.kind t c).run Eval.value).exec w s = (.ok g, s') → P s'.values g
  step : ∀ {values : List (NodeRef × Option Value)} {g g' : Generator} {src src' : Random.Source}
    {plan : Plan}, P values g → g.step src = some ((plan, g'), src') →
      g' = g ∧ ((∃ v, R g v ∧ plan = .value v) ∨ ∃ e, plan = .fault e)

/-- Steps leave a generator as it is. -/
lemma Makes.of_becomes (hm : Makes w s₀ t c P R) (values : List (NodeRef × Option Value))
    (hg : P values g) (h : g.Becomes g') : g' = g := by
  induction h with
  | refl => rfl
  | tail _ hs ih =>
    obtain ⟨src, plan, src', hs⟩ := hs
    rw [ih] at hs
    exact (hm.step hg hs).1

/-- The generator of a node satisfies a predicate, and a value that the node has is one that it
makes. -/
structure Session.Tells (P : List (NodeRef × Option Value) → Generator → Prop)
    (R : Generator → Option Value → Prop) (t : NodeRef) (s : Session) : Prop where
  generator : ∀ g, s.generators.lookup t = some g → P s.values g
  value : ∀ v, s.values.lookup t = some v → ∃ g, s.generators.lookup t = some g ∧ R g v

/-- An evaluation keeps what is known, and what the generator of a node tells. -/
def Telling (P : List (NodeRef × Option Value) → Generator → Prop)
    (R : Generator → Option Value → Prop) (t : NodeRef) (s s' : Session) : Prop :=
  Keeps s s' ∧ (s.Tells P R t → s'.Tells P R t)

namespace Telling

lemma passive : Passive (Telling P R t) where
  refl s := ⟨.refl s, id⟩
  trans h h' := ⟨h.1.trans h'.1, h'.2 ∘ h.2⟩
  tables s tables r := ⟨Keeps.passive.tables s tables r, fun h => ⟨h.generator, h.value⟩⟩
  source s src := ⟨Keeps.passive.source s src, fun h => ⟨h.generator, h.value⟩⟩

lemma bracketed (hm : Makes w s₀ t c P R) (hn : n ≠ t) : Bracketed (Telling P R t) n where
  out {s s'} g h := by
    refine ⟨(Keeps.without s n).trans (h.1.trans (.insert s' n g)), fun hs => ?_⟩
    have hs' := h.2 ⟨fun g hg => hs.generator g (by simpa [hn.symm] using hg), fun v hv => by
      simpa [hn.symm] using hs.value v hv⟩
    exact ⟨fun g hg => hs'.generator g (by simpa [hn.symm] using hg), fun v hv => by
      simpa [hn.symm] using hs'.value v hv⟩
  leave {s s'} h := by
    refine ⟨h.1.leave, fun hs => ?_⟩
    have hs' := h.2 ⟨hs.generator, hs.value⟩
    exact ⟨hs'.generator, hs'.value⟩
  keep {s s'} v hl ha h := by
    refine ⟨h.1.keep v hl ha, fun hs => ?_⟩
    have hs' := h.2 ⟨hs.generator, hs.value⟩
    have hnone : s'.values.lookup n = none := (h.1.held n List.mem_cons_self).trans hl
    refine ⟨fun g hg => hm.mono (fun m u hu => ?_) (hs'.generator g hg), fun u hu => ?_⟩
    · have hne : m ≠ n := by rintro rfl; rw [hnone] at hu; cases hu
      exact (Session.lookup_keep ..).trans ((if_neg hne).trans hu)
    · exact hs'.value u (((Session.lookup_keep ..).trans (if_neg hn.symm)).symm.trans hu)

end Telling

namespace Session.Tells

lemma of_none (hg : s.generators.lookup t = none) (hv : s.values.lookup t = none) :
    s.Tells P R t :=
  ⟨fun g h => (by rw [hg] at h; cases h), fun v h => (by rw [hv] at h; cases h)⟩

/-- In a new row no value is told of. -/
lemma reset (h : s.Tells (fun _ => Q) R t) : s.reset.Tells (fun _ => Q) R t :=
  ⟨h.generator, fun v hv => by cases hv⟩

lemma of_untouched (h : Untouched t s s') (hs : s.Tells (fun _ => Q) R t) :
    s'.Tells (fun _ => Q) R t where
  generator g hg := hs.generator g (h.generators ▸ hg)
  value v hv := by
    rw [h.generators]
    exact hs.value v (h.values ▸ hv)

lemma passive : Passive (Preserves (Session.Tells (fun _ => Q) R t)) :=
  passive_preserves (fun {s} tables r => of_untouched (Untouched.passive.tables s tables r))
    fun {s} src => of_untouched (Untouched.passive.source s src)

lemma indifferent (h : n ≠ t) : Indifferent (Preserves (Session.Tells (fun _ => Q) R t)) n where
  without s := of_untouched ((Untouched.indifferent h).without s)
  insert s g := of_untouched ((Untouched.indifferent h).insert s g)
  enter s := of_untouched ((Untouched.indifferent h).enter s)
  leave s := of_untouched ((Untouched.indifferent h).leave s)
  keep s v := of_untouched ((Untouched.indifferent h).keep s v)

end Session.Tells

/-! ### What evaluations tell -/

/-- The evaluation of a call tells what its generator makes. -/
lemma callValue_tells (hm : Makes w s₀ t c P R) (hset : s.setting = s₀.setting) (ho : s.Open t)
    (hs : s.Tells P R t)
    (hv : ∀ b ∈ creationVisits Eval.value w t c s, b.session.Guarded)
    {r : Except Failure (Option Value)} (h : (callValue Eval.value t c).exec w s = (r, s')) :
    s'.values.lookup t = none ∧ (∀ g, s'.generators.lookup t = some g → P s'.values g) ∧
      ∀ v, r = .ok v → ∃ g, s'.generators.lookup t = some g ∧ R g v := by
  have hkeep := keeps_generatorOf w t c s
  have hheld := (generatorOf_rel Held.passive (fun b hb => Visit.held (hv b hb) t) (.inr ho.1)).1
  have hkept : ∀ g, s.generators.lookup t = some g →
      P ((generatorOf Eval.value t c).exec w s).2.values g :=
    fun g hg => hm.mono hkeep.values (hs.generator g hg)
  rcases callValue_cases h with ⟨f, hg, rfl⟩ | ⟨g, hg, -, rfl⟩ |
    ⟨g, s₁, plan, g', src, s₂, hg, hst, -, hrun, rfl⟩ <;> rw [hg] at hkeep hheld hkept
  · exact ⟨(ho.keeps hkeep).2, fun g hg => hkept g (hheld.generators ▸ hg), nofun⟩
  · exact ⟨(ho.keeps hkeep).2, fun g hg => hkept g (hheld.generators ▸ hg), nofun⟩
  · have hmade : P s₁.values g := by
      rcases generatorOf_cases hg with ⟨hl, -⟩ | ⟨-, -, hnew⟩
      · exact hkept g hl
      · exact hm.new hset hnew
    obtain ⟨rfl, hplan⟩ := hm.step hmade hst
    have hlast : (s₂.withGenerator t g').generators.lookup t = some g' := by simp
    have hfree : s₂.values = s₁.values ∧ ∀ v, r = .ok v → R g' v := by
      rcases hplan with ⟨v, hR, rfl⟩ | ⟨e, rfl⟩ <;> obtain ⟨rfl, rfl⟩ := Prod.mk.inj hrun
      · exact ⟨rfl, fun u hu => Except.ok.inj hu ▸ hR⟩
      · exact ⟨rfl, nofun⟩
    have hvalues : (s₂.withGenerator t g').values = s₁.values := hfree.1
    refine ⟨?_, fun g hg => ?_, fun v hr => ⟨g', hlast, hfree.2 v hr⟩⟩
    · rw [hvalues]
      exact (ho.keeps hkeep).2
    · obtain rfl := Option.some.inj (hlast.symm.trans hg)
      rwa [hvalues]

/-- What a generator tells outlasts evaluations. -/
lemma lasting_tells (hk : s₀.workspace.kind t = .call c) (hm : Makes w s₀ t c P R) :
    Lasting w fun s => s.setting = s₀.setting ∧ s.Tells P R t where
  tables tables r h := ⟨h.1, (Telling.passive.tables _ tables r).2 h.2⟩
  source src h := ⟨h.1, (Telling.passive.source _ src).2 h.2⟩
  own := by
    intro s n hs h hl ha hr hv
    have hset := (grows_ownValue w n (s.enter n)).toKeeps.setting_eq h.1
    refine ⟨(Session.setting_settle _ n _).trans hset, ?_⟩
    have hent : (s.enter n).Tells P R t := ⟨h.2.generator, h.2.value⟩
    have hopen : (s.enter n).Open n := ⟨List.mem_cons_self, hl⟩
    by_cases hn : n = t
    · obtain rfl := hn
      have hk' : (s.enter n).workspace.kind n = .call c := by
        have hsame : (s.enter n).setting = s₀.setting := h.1
        rw [workspace_of_setting hsame, hk]
      rw [ownVisits_call hk'] at hv
      rw [exec_ownValue_call hk']
      rcases hx : (callValue Eval.value n c).exec w (s.enter n) with ⟨r, s'⟩
      obtain ⟨hnone, hgen, hmade⟩ := callValue_tells (s := s.enter n) hm h.1 hopen hent
        (fun b hb => (hv b (List.mem_append_left _ hb)).1) hx
      rcases r with f | v
      · exact ⟨hgen, fun v hv => by cases hnone.symm.trans hv⟩
      · refine ⟨fun g hg => hm.mono (fun m u hu => ?_) (hgen g hg), fun u hu => ?_⟩
        · have hne : m ≠ n := by rintro rfl; rw [hnone] at hu; cases hu
          exact (Session.lookup_keep ..).trans ((if_neg hne).trans hu)
        · have hu' : ((s'.leave n).keep n v).values.lookup n = some u := hu
          rw [Session.lookup_keep, if_pos rfl] at hu'
          exact hmade u (congrArg Except.ok (Option.some.inj hu'))
    · have hown : Telling P R t (s.enter n) ((ownValue Eval.value n).exec w (s.enter n)).2 := by
        refine ownValue_rel Telling.passive (Telling.bracketed hm hn) fun b hb => ?_
        have hkeep := ownVisits_keeps (keeps_value w) hb
        exact ⟨keeps_value w b.node b.session, fun hs =>
          ((hv b hb).2 ⟨hkeep.setting_eq h.1, hs⟩).2⟩
      rcases ((ownValue Eval.value n).exec w (s.enter n)).1 with _ | v
      · exact ((Telling.bracketed hm hn).leave hown).2 h.2
      · exact ((Telling.bracketed hm hn).keep v hl ha hown).2 h.2

/-- **A generator tells the value of its node** in every session that can be reached, if it tells
it in whatever workspace and world the node is. -/
theorem Reachable.tells (h : Reachable s) (hk : s.workspace.kind t = .call c)
    (hm : ∀ w s₀, Makes w s₀ t c (fun _ => Q) R) : s.Tells (fun _ => Q) R t :=
  h.invariant (P := fun ws => ws.kind t = .call c)
    (fun hv hg => .of_none (by rw [hg]; rfl) (by rw [hv]; rfl)) (fun hs => hs.reset)
    (fun w s₀ hk => lasting_tells hk (hm w s₀)) hk

namespace Visit

variable {a b : Visit}

lemma tells (ha : a.session.Guarded) (hk : a.session.workspace.kind t = .call c)
    (hm : Makes w a.session t c P R) :
    Preserves (Session.Tells P R t) a.session (a.outcome Eval.value w).2 :=
  fun hs => ((lasting_tells hk hm).visit ha ⟨rfl, hs⟩).2

/-- A request for a node that succeeds is inside the evaluation of no such node, so what is told
stays told up to it, and what it leaves of the node stays up to the end. -/
lemma Reaches.tells (h : a.Reaches w b) (ha : a.session.Guarded)
    (hk : a.session.workspace.kind t = .call c) (hm : ∀ s₀, Makes w s₀ t c (fun _ => Q) R)
    (hs : a.session.Tells (fun _ => Q) R t)
    (hr : (a.session.scope w).resolve b.node = .ok (.value t))
    (hv : b.outcome Eval.value w = (.ok v, s')) :
    b.session.Tells (fun _ => Q) R t ∧ Held t s' (a.outcome Eval.value w).2 := by
  induction h using Relation.ReflTransGen.head_induction_on with
  | refl => exact ⟨hs, by rw [hv]; exact Held.passive.refl s'⟩
  | @head a d had hdb ih =>
    have hdb : d.Reaches w b := hdb
    obtain ⟨hguard, -⟩ := had.need_lt ha
    have hrd : (d.session.scope w).resolve b.node = .ok (.value t) := by rwa [had.scope]
    have hne : ∀ u, (a.session.scope w).resolve a.node = .ok (.value u) → u ≠ t := by
      rintro u hu rfl
      have hopen : b.session.Open u := hdb.open (had.open_own hu)
      have hcirc := circular_of_open (w := w) (hdb.guarded hguard) hopen (by rwa [hdb.scope])
      cases (Prod.mk.inj (hcirc.symm.trans hv)).1
    have htells := valueVia_rel_visit Session.Tells.passive
      (fun u hu => Session.Tells.indifferent (hne u hu))
      (fun e (he : a.Asks w e) => Visit.tells (he.need_lt ha).1 (he.workspace ▸ hk) (hm _)) d had
    have hheld := valueVia_rel_visit Held.passive
      (fun u hu => Held.indifferent (hne u hu))
      (fun e (he : a.Asks w e) => Visit.held (he.need_lt ha).1 t) d had
    obtain ⟨hb, hd⟩ := ih hguard (had.workspace ▸ hk) (htells.1 hs) hrd
    rw [← exec_value_eq_valueVia ha] at hheld
    exact ⟨hb, Held.passive.trans hd hheld.2⟩

/-- What is read of a node is told in the end. -/
lemma Reaches.told (h : a.Reaches w b) (ha : a.session.Guarded)
    (hk : a.session.workspace.kind t = .call c) (hm : ∀ s₀, Makes w s₀ t c (fun _ => Q) R)
    (hs : a.session.Tells (fun _ => Q) R t)
    (hr : (a.session.scope w).resolve b.node = .ok (.value t))
    (hv : b.outcome Eval.value w = (.ok v, s')) :
    ∃ g, (a.outcome Eval.value w).2.generators.lookup t = some g ∧ R g v := by
  obtain ⟨hb, hheld⟩ := h.tells ha hk hm hs hr hv
  have hr' : (b.session.scope w).resolve b.node = .ok (.value t) := by rw [h.scope]; exact hr
  have hl : s'.values.lookup t = some v := knows_of_value hr' hv
  have htells : s'.Tells (fun _ => Q) R t := by
    have := Visit.tells (w := w) (h.guarded ha) (h.workspace ▸ hk) (hm _) hb
    rwa [hv] at this
  obtain ⟨g, hg, htold⟩ := htells.value v hl
  exact ⟨g, (hheld (.inl (by rw [hl]; simp))).1.generators.trans hg, htold⟩

end Visit

end TestData.Engine
