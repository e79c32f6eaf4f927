import TestData.Proofs.Evaluation.Created
import TestData.Proofs.Session.Run
import TestData.Proofs.Session.Tells

/-!
The life of a generator, and clocks that stand still.

As long as a session neither starts over nor gets another workspace, a node gets one generator at
most, when it is first evaluated, and keeps it. A clock is set when its generator is created, and
steps do not move it. So whatever the system's clock shows later, all values of the node are one.
-/

/-- A call is for a clock. -/
def TestData.Schema.Call.IsClock (c : Call) : Prop := c.kind = .now ∨ c.kind = .today

namespace TestData.Engine

open Schema

variable {t : NodeRef} {s s' s₀ s₁ : Session} {w : World} {c : Call} {g g' : Generator}
  {v : Option Value}

/-! ### Lives -/

/-- The generators that a request creates for a node. -/
def Request.created (r : Request) (w : World) (t : NodeRef) (s : Session) : List Generator :=
  (r.root? s).elim [] (Visit.created w t)

/-- In a request, itself or at some depth, a request for a node succeeds with a value. -/
def Request.Reads (r : Request) (w : World) (s : Session) (t : NodeRef) (v : Option Value) : Prop :=
  ∃ a b s', r.root? s = some a ∧ a.Reaches w b ∧ (s.scope w).resolve b.node = .ok (.value t) ∧
    b.outcome Eval.value w = (.ok v, s')

/-- What a run from a session on has come to: the generators that it has created for a node and
values of the node that were read in it, in whatever worlds and however the requests have ended. -/
inductive Life (t : NodeRef) (s₀ : Session) : Session → List Generator → List (Option Value) → Prop
  | begin : Life t s₀ s₀ [] []
  | step {s : Session} {made : List Generator} {read : List (Option Value)}
    (h : Life t s₀ s made read) (r : Request) (hr : r.ofRun = true) (w : World)
    (hs : (r.exec w s).1 ≠ some .stuck) (values : List (Option Value))
    (hv : ∀ v ∈ values, r.Reads w s t v) :
    Life t s₀ (r.exec w s).2 (made ++ r.created w t s) (read ++ values)

lemma Life.reachable {made : List Generator} {read : List (Option Value)}
    (h : Life t s₀ s made read) (hs : Reachable s₀) : Reachable s := by
  induction h with
  | begin => exact hs
  | step _ r _ w hst _ _ ih => exact ih.step r w hst

/-- A request of a run creates at most one generator for a node, and none if there is one. -/
lemma Request.raises {r : Request} (hi : s.active = []) (hr : r.ofRun = true)
    (hst : (r.exec w s).1 ≠ some .stuck) :
    Raises t s (r.created w t s) (r.exec w s).2 := by
  have hbegun : (r.begun s).generators = s.generators := by
    unfold begun
    split_ifs <;> rfl
  unfold created
  rcases h : r.root? s with _ | a
  · rw [exec_snd_of_no_root h hr]
    exact .of_lookup (by rw [hbegun])
  · have hidle : a.session.active = [] := by
      rw [session_of_root h hr]
      exact r.begun_idle hi
    rw [exec_snd_of_root h]
    have hraises := Visit.raises_created (w := w) (t := t) (.of_idle hidle) (by simp [hidle])
      fun hs => hst (exec_fst_of_root h hs)
    unfold Raises at hraises ⊢
    rwa [session_of_root h hr, hbegun] at hraises

lemma Life.raises {made : List Generator} {read : List (Option Value)}
    (h : Life t s₀ s made read) (hs : Reachable s₀) : Raises t s₀ made s := by
  induction h with
  | begin => exact .refl s₀
  | step h r hr w hst _ _ ih => exact ih.trans (r.raises (h.reachable hs).idle hr hst)

/-- What a request reads of a node is told by the generator after it. -/
lemma Request.Reads.told {Q : Generator → Prop} {R : Generator → Option Value → Prop} {r : Request}
    (h : r.Reads w s t v) (hs : Reachable s) (hr : r.ofRun = true)
    (hk : s.workspace.kind t = .call c) (hm : ∀ w s₀, Makes w s₀ t c (fun _ => Q) R) :
    ∃ g, (r.exec w s).2.generators.lookup t = some g ∧ Q g ∧ R g v := by
  obtain ⟨a, b, s', ha, hab, hres, hv⟩ := h
  have hidle : (r.begun s).active = [] := r.begun_idle hs.idle
  have htells := hs.tells hk hm
  have hbegun : (r.begun s).Tells (fun _ => Q) R t := by
    unfold begun
    split_ifs
    · exact htells.reset
    · exact htells
  have hsession := session_of_root ha hr
  rw [← hsession] at hidle hbegun
  have hk' : a.session.workspace.kind t = .call c := by rw [hsession, workspace_begun, hk]
  have hres' : (a.session.scope w).resolve b.node = .ok (.value t) := by
    rw [hsession, scope_begun, hres]
  rw [exec_snd_of_root ha]
  obtain ⟨g, hg, htold⟩ := hab.told (.of_idle hidle) hk' (hm w) hbegun hres' hv
  exact ⟨g, hg, (Visit.tells (.of_idle hidle) hk' (hm w _) hbegun).generator g hg, htold⟩

/-- What was read of a node whose generator stays as it is is told by it. -/
lemma Life.told {Q : Generator → Prop} {R : Generator → Option Value → Prop}
    {made : List Generator} {read : List (Option Value)} (h : Life t s₀ s made read)
    (hs : Reachable s₀) (hk : s₀.workspace.kind t = .call c)
    (hm : ∀ w s₀, Makes w s₀ t c (fun _ => Q) R) : s.workspace = s₀.workspace ∧
      ∀ v ∈ read, ∃ g, s.generators.lookup t = some g ∧ Q g ∧ R g v := by
  induction h with
  | begin => exact ⟨rfl, List.forall_mem_nil _⟩
  | @step s made read h r hr w hst values hvalues ih =>
    obtain ⟨hws, hread⟩ := ih
    refine ⟨(Request.workspace_exec hr w s).trans hws, fun v hv => ?_⟩
    rcases List.mem_append.mp hv with hv | hv
    · obtain ⟨g, hg, hQ, htold⟩ := hread v hv
      have hraises := r.raises (t := t) (h.reachable hs).idle hr hst
      rcases hraises.cases with ⟨hnil, -⟩ | ⟨g₁, g', hone, hg', hbecomes⟩
      · rw [hg] at hnil
        cases hnil
      · rw [hg] at hone
        obtain rfl := List.head_eq_of_cons_eq hone
        rw [(hm w s).of_becomes [] hQ hbecomes] at hg'
        exact ⟨g, hg', hQ, htold⟩
    · exact (hvalues v hv).told (h.reachable hs) hr (hws ▸ hk) hm

/-! ### Clocks -/

/-- A generator is a clock. -/
def Generator.IsClock (g : Generator) : Prop := ∃ l base offset day, g = .clock l base offset day

/-- The value of every step of a clock. -/
def Generator.shown? : Generator → Option (Option Value)
  | .clock _ base offset day =>
    (offset.shift? base).map fun t => some (if day then .date t.date else .timestamp t)
  | _ => none

lemma Generator.IsClock.of_fits (hc : c.IsClock) (h : g.Fits t c) : g.IsClock := by
  have hk : g.kind = .now ∨ g.kind = .today := by rwa [h.kind]
  rcases g with _ | _ | _ | _ | _ | _ | _ | _ | _ | ⟨l, base, offset, day⟩ | _ | _ | _
  case clock => exact ⟨l, base, offset, day, rfl⟩
  all_goals rcases hk with hk | hk <;> cases hk

/-- A clock steps to itself, with what it shows or an error. -/
lemma Generator.IsClock.step {src src' : Random.Source} {plan : Plan} (h : g.IsClock)
    (hs : g.step src = some ((plan, g'), src')) :
    g' = g ∧ ((∃ v, g.shown? = some v ∧ plan = .value v) ∨ ∃ e, plan = .fault e) := by
  obtain ⟨l, base, offset, day, rfl⟩ := h
  rw [Generator.step] at hs
  unfold Generator.shown?
  rcases hx : offset.shift? base with _ | x <;> rw [hx] at hs <;>
    obtain ⟨h₁, -⟩ := Prod.mk.inj (Option.some.inj hs) <;> obtain ⟨rfl, rfl⟩ := Prod.mk.inj h₁
  · exact ⟨rfl, .inr ⟨_, rfl⟩⟩
  · exact ⟨rfl, .inl ⟨_, congrArg (Option.map _) hx, rfl⟩⟩

/-- Clocks make what they show. -/
lemma makes_clock (hc : c.IsClock) :
    Makes w s₀ t c (fun _ => Generator.IsClock) fun g v => g.shown? = some v where
  mono _ h := h
  new {s _ _} _ h := .of_fits hc
    ((Generator.fits_ofCallAs (s.setting w) c.kind t c).run
      (keeps_value w) h)
  step h hs := h.step hs

/-- The generator of a node is a clock, and it shows the value that the node has. -/
structure Session.Shows (t : NodeRef) (s : Session) : Prop where
  clock : ∀ g, s.generators.lookup t = some g → g.IsClock
  value : ∀ v, s.values.lookup t = some v →
    ∃ g, s.generators.lookup t = some g ∧ g.shown? = some v

lemma Session.shows_iff_tells : s.Shows t ↔
    s.Tells (fun _ => Generator.IsClock) (fun g v => g.shown? = some v) t :=
  ⟨fun h => ⟨h.clock, h.value⟩, fun h => ⟨h.generator, h.value⟩⟩

/-- **A clock shows the value of its node** in every session that can be reached. -/
theorem Reachable.shows (h : Reachable s) (hk : s.workspace.kind t = .call c) (hc : c.IsClock) :
    s.Shows t :=
  Session.shows_iff_tells.mpr (h.tells hk fun _ _ => makes_clock hc)

/-- What was read of a clock is what it shows. -/
lemma Life.shown {made : List Generator} {read : List (Option Value)}
    (h : Life t s₀ s made read) (hs : Reachable s₀) (hk : s₀.workspace.kind t = .call c)
    (hc : c.IsClock) : s.workspace = s₀.workspace ∧
      ∀ v ∈ read, ∃ g, s.generators.lookup t = some g ∧ g.IsClock ∧ g.shown? = some v :=
  h.told hs hk fun _ _ => makes_clock hc

/-- **One generator for each node, and clocks that stand still.** In a run of requests for values,
entities, records and new rows, with whatever clock at each request and however the requests end, a
node gets at most one generator, at any depth, and none if it had one at first; it keeps that one,
and steps are all that happens to it. All values that are read of a node with the time or the date
are equal, in whatever rows and through whatever references. -/
theorem one_generator_and_one_time (hs : Reachable s₀) {made : List Generator}
    {read : List (Option Value)} (h : Life t s₀ s made read) :
    ((s₀.generators.lookup t).toList ++ made = [] ∧ s.generators.lookup t = none ∨
      ∃ g g', (s₀.generators.lookup t).toList ++ made = [g] ∧
        s.generators.lookup t = some g' ∧ g.Becomes g') ∧
      ∀ c, s₀.workspace.kind t = .call c → c.kind = .now ∨ c.kind = .today →
        ∀ u ∈ read, ∀ v ∈ read, u = v := by
  refine ⟨(h.raises hs).cases, fun c hk hc u hu v hv => ?_⟩
  obtain ⟨-, hread⟩ := h.shown hs hk hc
  obtain ⟨g, hg, -, hu⟩ := hread u hu
  obtain ⟨g', hg', -, hv⟩ := hread v hv
  obtain rfl := Option.some.inj (hg.symm.trans hg')
  exact Option.some.inj (hu.symm.trans hv)

/-! ### Two rows -/

/-- A node has a clock that shows a time as it is, or it will get one. -/
def Session.Timed (t : NodeRef) (s : Session) : Prop :=
  s.generators.lookup t = none ∨
    ∃ l base, s.generators.lookup t = some (.clock l base .none false)

/-- A request for a node with the time in a new row has a value. -/
lemma exec_now {n : NodeRef} (hs : s.Guarded) (hk : s.workspace.kind t = .call (.now .none))
    (hf : CallKind.now ∈ s.functions) (hr : (s.scope w).resolve n = .ok (.value t))
    (hl : s.values.lookup t = none) (ha : t ∉ s.active) (hg : s.Timed t) :
    ∃ v s', (Eval.value n).exec w s = (.ok v, s') ∧ s'.Timed t := by
  obtain ⟨l, base, hgen⟩ : ∃ l base, (generatorOf Eval.value t (.now .none)).exec w (s.enter t) =
      (.ok (.clock l base .none false), s.enter t) := by
    rcases hg with hg | ⟨l, base, hg⟩
    · exact ⟨s.location t, s.now w, generatorOf_new (s := s.enter t) hg hf⟩
    · exact ⟨l, base, generatorOf_kept (s := s.enter t) hg⟩
  have hk' : (s.enter t).workspace.kind t = .call (.now .none) := hk
  rw [exec_value_eq_valueVia hs, valueVia_own hr hl ha, exec_ownValue_call hk', exec_callValue,
    hgen]
  exact ⟨_, _, rfl, .inr ⟨l, base, (Session.lookup_withGenerator _ t t _).trans (if_pos rfl)⟩⟩

namespace Standing

/-- A world without files at a second of the day. -/
def world (second : Nat) : World :=
  { disk := .ofDirectory [], time := { date := default, seconds := second, nanos := 0 }
    entropy := 0 }

/-- An entity that is the time. -/
def document : Document :=
  { path := "a.yaml", imports := [], entities := [1]
    nodes := #[{ kind := .call (.now .none), parent := some 1 }, { kind := .entity "A" 0 }] }

/-- An engine for the document. -/
def session : Session := .start (.ofDocuments (world 0).disk [document]) CallKind.all {} (world 0)

end Standing

/-- A node with the time is read at two seconds of the day, the second time in another row and
through the entity that it is in, with one value. -/
theorem now_in_second_row :
    let row := ((Request.value ⟨0, 0⟩).exec (Standing.world 1) Standing.session).2.reset
    ∃ u v, (Request.value ⟨0, 0⟩).Reads (Standing.world 1) Standing.session ⟨0, 0⟩ u ∧
      (Request.value ⟨0, 1⟩).Reads (Standing.world 2) row ⟨0, 0⟩ v ∧ u = v := by
  have hreach : Reachable Standing.session := .start _ _ _ _
  have hfun : CallKind.now ∈ Standing.session.functions := by
    simp [Standing.session, Session.start, CallKind.all]
  obtain ⟨u, s₁, h₁, hg₁⟩ := exec_now (w := Standing.world 1) (s := Standing.session)
    (n := ⟨0, 0⟩) (t := ⟨0, 0⟩) (.of_idle rfl) rfl hfun rfl rfl List.not_mem_nil (.inl rfl)
  have hrow : ((Request.value ⟨0, 0⟩).exec (Standing.world 1) Standing.session).2 = s₁ := by
    rw [Request.exec, ended_snd, h₁]
  have hkeep := (grows_value (Standing.world 1) ⟨0, 0⟩ Standing.session).toKeeps
  rw [h₁] at hkeep
  have hresolve : (s₁.reset.scope (Standing.world 2)).resolve ⟨0, 1⟩ = .ok (.value ⟨0, 0⟩) :=
    (congrArg (Scope.resolve · ⟨0, 1⟩) (hkeep.scope (Standing.world 2))).trans rfl
  obtain ⟨v, s₂, h₂, -⟩ := exec_now (w := Standing.world 2) (s := s₁.reset) (n := ⟨0, 1⟩)
    (t := ⟨0, 0⟩) (.of_idle rfl) (congrArg (Workspace.kind · ⟨0, 0⟩) hkeep.workspace)
    (hkeep.functions ▸ hfun) hresolve rfl List.not_mem_nil hg₁
  have hread₁ : (Request.value ⟨0, 0⟩).Reads (Standing.world 1) Standing.session ⟨0, 0⟩ u :=
    ⟨⟨⟨0, 0⟩, Standing.session⟩, _, s₁, rfl, .refl, rfl, h₁⟩
  have hread₂ : (Request.value ⟨0, 1⟩).Reads (Standing.world 2) s₁.reset ⟨0, 0⟩ v :=
    ⟨⟨⟨0, 1⟩, s₁.reset⟩, _, s₂, rfl, .refl, hresolve, h₂⟩
  rw [hrow]
  refine ⟨u, v, hread₁, hread₂, ?_⟩
  have hfirst := Life.begin.step (.value ⟨0, 0⟩) rfl (Standing.world 1)
    (Request.value_ne_stuck h₁) [u] (by simpa using hread₁)
  rw [hrow] at hfirst
  have hsecond := hfirst.step .reset rfl (Standing.world 1) (by simp [Request.exec]) [] (by simp)
  have hlife := hsecond.step (.value ⟨0, 1⟩) rfl (Standing.world 2) (Request.value_ne_stuck h₂) [v]
    (fun _ hv => List.mem_singleton.mp hv ▸ hread₂)
  exact (one_generator_and_one_time hreach hlife).2 (.now .none) rfl (.inl rfl) u (by simp) v
    (by simp)

end TestData.Engine
