import TestData.Proofs.Evaluation.Unbound

/-!
What an evaluation may ask for.

Every script of a node asks for nodes that the node owns and, where it is a template, for what the
names in its text mean. A generator keeps to the operands of its call, whatever it has drawn; a map
looks at the generator of its choice, but asks for its source and its targets only. So every request
inside a request is for a node that the node of the request uses.
-/

namespace TestData.Engine

open Schema

/-- A node uses the nodes that it owns, the node that it stands for, the call that it reads names
from, and what the names in the text of a template mean where they are no parameters. -/
inductive Scope.Uses (s : Scope) : NodeRef → NodeRef → Prop
  | child {n : NodeRef} {id : NodeId} (h : id ∈ (s.workspace.kind n).children) : s.Uses n (n.at id)
  | target {n t : NodeRef} (h : s.resolve n = .ok (.value t)) : s.Uses n t
  | base {n b : NodeRef} {keys : List String} (h : s.resolve n = .ok (.extract b keys)) : s.Uses n b
  | name {n m : NodeRef} {text name : String} {params : List (String × NodeId)}
    (hk : s.workspace.kind n = .call (.template text params)) (hn : name ∈ Template.names text)
    (hp : ∀ p ∈ params, p.1 ≠ name) (hl : s.lookup? n name = some m) : s.Uses n m

/-- What a node depends on: the node itself, what it uses, what that uses, and so on. -/
def Scope.DependsOn (s : Scope) : NodeRef → NodeRef → Prop := Relation.ReflTransGen s.Uses

/-! ### What a script asks for -/

namespace Script

variable {α : Type} {c : Setting} {P : NodeRef → Prop}

/-- Whatever a script is answered, it asks for the values of nodes that satisfy a predicate only. -/
def AsksIn (c : Setting) (P : NodeRef → Prop) : Script α → Prop
  | done _ | fail _ => True
  | look k => (k c).AsksIn c P
  | ask n k => P n ∧ ∀ v, (k v).AsksIn c P
  | selected _ k => ∀ i, (k i).AsksIn c P
  | table _ _ k => ∀ t, (k t).AsksIn c P

/-- A script asks for what it is bound to ask for. -/
lemma Obeys.asksIn {T : Terms} {Q : α → Prop} {x : Script α} (hx : x.Obeys T Q) :
    x.AsksIn T.setting T.asks := by
  induction x with
  | done a => trivial
  | fail e => trivial
  | look k ih => exact ih _ hx
  | ask n k ih => exact ⟨hx.1, fun v => ih v (hx.2 v)⟩
  | selected n k ih => exact fun i => ih i (hx i)
  | table n source k ih => exact fun t => ih t (hx t)

/-- The visits of a run are for nodes that the script asks for. -/
lemma AsksIn.visits {value : NodeRef → Eval (Option Value)} {w : World} {x : Script α}
    {s : Session} (hx : x.AsksIn (s.setting w) P) (hk : ∀ n s, Keeps s ((value n).exec w s).2) :
    ∀ b ∈ x.visits value w s, P b.node := by
  induction x generalizing s with
  | done a => exact nofun
  | fail e => exact nofun
  | look k ih => exact ih _ hx
  | selected n k ih => exact ih _ (hx _)
  | ask n k ih =>
    have hs := hk n s
    intro b hb
    rw [Script.visits] at hb
    rcases List.mem_cons.mp hb with rfl | hb
    · exact hx.1
    · rcases hv : (value n).exec w s with ⟨f | v, s₁⟩ <;> rw [hv] at hb hs
      · cases hb
      · exact ih v (by rw [hs.setting]; exact hx.2 v) b hb
  | table n source k ih =>
    have hs := keeps_table w n source s
    intro b hb
    rw [Script.visits] at hb
    rcases hv : (Eval.table n source).exec w s with ⟨f | t, s₁⟩ <;> rw [hv] at hb hs
    · cases hb
    · exact ih t (by rw [hs.setting]; exact hx t) b hb

end Script

/-! ### Steps -/

lemma Plan.nodes_at {values : List NodeRef} {i : Nat} {m : NodeRef}
    (h : m ∈ (Plan.at values i).nodes) : m ∈ values := by
  unfold Plan.at at h
  rcases hv : values[i]? with _ | n <;> rw [hv] at h
  · cases h
  · obtain rfl := List.mem_singleton.mp h
    exact List.mem_of_getElem? hv

namespace Generator

variable {g g' : Generator} {plan : Plan} {src src' : Random.Source} {n : NodeRef} {c : Call}

lemma Offers.nodes (h : g.Offers plan) : ∀ m ∈ plan.nodes, m ∈ g.nodes := by
  cases h with
  | value => exact List.forall_mem_nil _
  | overflow => exact List.forall_mem_nil _
  | choice => exact fun m => Plan.nodes_at
  | weighted => exact fun m => Plan.nodes_at
  | dict => exact fun m hm => hm
  | map => exact fun m hm => hm
  | template => exact fun m hm => hm
  | pipe => exact fun m hm => hm

/-- A generator keeps to the nodes that its node owns, and to the names of its text. -/
structure Owned (ws : Workspace) (n : NodeRef) (g : Generator) : Prop where
  nodes : ∀ m ∈ g.nodes, ∃ id ∈ (ws.kind n).children, m = n.at id
  looks : g.Looks ws n

lemma Owned.step {ws : Workspace} (h : g.Owned ws n)
    (hs : g.step src = some ((plan, g'), src')) : g'.Owned ws n where
  looks := h.looks.step hs
  nodes := by
    rcases step_cases hs with ⟨rfl, -⟩ | ⟨values, i, rfl, -, rfl⟩ | ⟨k, rfl, -, rfl⟩
    · exact h.nodes
    · exact h.nodes
    · exact h.nodes

lemma owned_ofCallAs (st : Setting) (hk : st.workspace.kind n = .call c) :
    (ofCallAs c.kind n c).Ensures st (Owned st.workspace n) := by
  refine ((madeOf_ofCallAs st c.kind n c).and (looks_ofCallAs st hk)).mono fun g hg =>
    ⟨fun m hm => ?_, hg.2⟩
  rw [hk]
  exact hg.1.nodes m hm

end Generator

lemma uses_child {s : Scope} {n : NodeRef} {c : Call} {id : NodeId}
    (hk : s.workspace.kind n = .call c) (h : id ∈ c.operands) : s.Uses n (n.at id) :=
  .child (by rw [hk]; exact h)

/-- The step of a generator asks for what its node uses. -/
lemma Generator.Owned.asksIn {st : Setting} {n : NodeRef} {g g' : Generator} {plan : Plan}
    {src src' : Random.Source} (h : g.Owned st.workspace n)
    (hs : g.step src = some ((plan, g'), src')) : plan.script.AsksIn st (st.scope.Uses n) := by
  have hT : (Terms.asking st (st.scope.Uses n)).Lenient := Terms.asking_lenient _ _
  refine (obeys_plan hT (fun m hm => ?_) (fun _ _ => trivial)
    fun l t params names hplan name hn => ?_).asksIn
  · obtain ⟨id, hid, rfl⟩ := h.nodes m ((Generator.step_offers hs).nodes m hm)
    exact .child hid
  · rcases Generator.step_sober hs with hsober | ⟨l', t', ps, ns, hg, hplan'⟩
    · rw [hplan] at hsober
      exact hsober.elim
    · obtain ⟨rfl, rfl, rfl, rfl⟩ := Plan.render.inj (hplan.symm.trans hplan')
      obtain ⟨rfl, text, params, hk, rfl⟩ := h.looks l t _ names hg
      obtain ⟨hmem, hp⟩ := List.mem_filter.mp hn
      split
      · next m hl => exact .name hk hmem (by simpa using hp) hl
      · trivial

/-! ### Requests -/

section

variable {s s₀ : Session} {w : World} {t : NodeRef}

/-- The creation of a generator asks for what the node uses. -/
lemma uses_creationVisits {c : Call} (hk : s.workspace.kind t = .call c) :
    ∀ b ∈ creationVisits Eval.value w t c s, (s.scope w).Uses t b.node := by
  intro b hb
  rcases hg : s.generators.lookup t with _ | g
  · by_cases hf : c.kind ∈ s.functions
    · rw [creationVisits_new hg hf] at hb
      have hT : (Terms.asking (s.setting w) ((s.scope w).Uses t)).Lenient :=
        Terms.asking_lenient _ _
      have hx : (Generator.ofCallAs c.kind t c).AsksIn (s.setting w) ((s.scope w).Uses t) :=
        (Generator.obeys_ofCallAs hT c.kind fun id hid => uses_child hk hid).asksIn
      exact hx.visits (keeps_value w) b hb
    · rw [creationVisits_unknown hf] at hb
      cases hb
  · rw [creationVisits_kept hg] at hb
    cases hb

lemma owned_generatorOf {c : Call} {g : Generator} {s₁ : Session}
    (hs : s.Holds (Generator.Owned s.workspace)) (hk : s.workspace.kind t = .call c)
    (h : (generatorOf Eval.value t c).exec w s = (.ok g, s₁)) : g.Owned s.workspace t := by
  rcases generatorOf_cases h with ⟨hl, -⟩ | ⟨-, -, hnew⟩
  · exact hs t g hl
  · exact (Generator.owned_ofCallAs (s.setting w) hk).run (keeps_value w) hnew

/-- The step of a generator asks for what the node uses. -/
lemma uses_planVisits {c : Call} (hs : s.Holds (Generator.Owned s.workspace))
    (hk : s.workspace.kind t = .call c) :
    ∀ b ∈ planVisits Eval.value w t c s, (s.scope w).Uses t b.node := by
  intro b hb
  have hkeep := keeps_generatorOf w t c s
  unfold planVisits at hb
  rcases hg : (generatorOf Eval.value t c).exec w s with ⟨f | g, s₁⟩ <;> rw [hg] at hb hkeep
  · cases hb
  dsimp only at hb
  rcases hst : g.step s₁.source with _ | ⟨⟨plan, g'⟩, src⟩ <;> rw [hst] at hb
  · cases hb
  have hset : ({ s₁ with source := src }.withoutGenerator t).setting w = s.setting w :=
    hkeep.setting w
  have hx : plan.script.AsksIn (({ s₁ with source := src }.withoutGenerator t).setting w)
      ((s.scope w).Uses t) := by
    rw [hset]
    exact (owned_generatorOf hs hk hg).asksIn hst
  exact hx.visits (keeps_value w) b hb

/-- The evaluation of a node asks for what the node uses. -/
lemma uses_ownVisits (hs : s.Holds (Generator.Owned s.workspace)) :
    ∀ b ∈ ownVisits Eval.value w t s, (s.scope w).Uses t b.node := by
  intro b hb
  rcases call_or_ne (s.workspace.kind t) with ⟨c, hk⟩ | hk'
  · rw [ownVisits_call hk] at hb
    rcases List.mem_append.mp hb with hb | hb
    · exact uses_creationVisits hk b hb
    · exact uses_planVisits hs hk b hb
  · rw [ownVisits_plain hk'] at hb
    have hT : (Terms.asking (s.setting w) ((s.scope w).Uses t)).Lenient := Terms.asking_lenient _ _
    have hx : (plainValue t (s.workspace.kind t)).AsksIn (s.setting w) ((s.scope w).Uses t) :=
      (obeys_plainValue hT fun id hid => .child hid).asksIn
    exact hx.visits (keeps_value w) b hb

/-- Every generator keeps to the nodes that its node owns. -/
lemma lasting_owned (w : World) (s₀ : Session) : Lasting w fun s =>
    s.setting = s₀.setting ∧ s.Holds (Generator.Owned s₀.workspace) :=
  lasting_holds (fun _ _ hk => Generator.owned_ofCallAs _ hk) fun h hst => h.step hst

lemma inward_owned (s₀ : Session) : Inward fun s =>
    s.setting = s₀.setting ∧ s.Holds (Generator.Owned s₀.workspace) where
  enter _ h := h
  without n h := ⟨h.1, h.2.without n⟩

namespace Visit

variable {a b : Visit}

lemma Asks.dependsOn (h : a.Asks w b) (hs : a.session.Holds (Generator.Owned a.session.workspace)) :
    (a.session.scope w).DependsOn a.node b.node := by
  unfold Asks at h
  rcases hr : (a.session.scope w).resolve a.node with e | ⟨t⟩ | ⟨base, keys⟩
  · rw [valueVisits_unresolved hr] at h
    cases h
  · by_cases hx : a.session.values.lookup t ≠ none ∨ t ∈ a.session.active
    · rw [valueVisits_settled hr hx] at h
      cases h
    · obtain ⟨hl, hact⟩ := not_or.mp hx
      rw [not_not] at hl
      rw [valueVisits_own hr hl hact] at h
      exact .head (.target hr) (.single (uses_ownVisits (s := a.session.enter t) hs b h))
  · rw [valueVisits_extract hr] at h
    obtain rfl := List.mem_singleton.mp h
    exact .single (.base hr)

/-- A request inside a request is for a node that the node of the request depends on. -/
lemma Reaches.dependsOn (h : a.Reaches w b) (ha : a.session.Guarded)
    (hs : a.session.Holds (Generator.Owned a.session.workspace)) :
    (a.session.scope w).DependsOn a.node b.node := by
  induction h with
  | refl => exact .refl
  | @tail b d hab hbd ih =>
    have hab : a.Reaches w b := hab
    have hI := (lasting_owned w a.session).reaches (inward_owned a.session) ha ⟨rfl, hs⟩ hab
    have hstep := hbd.dependsOn (by rw [hab.workspace]; exact hI.2)
    rw [hab.scope] at hstep
    exact ih.trans hstep

/-- **A request touches only what its node depends on.** -/
theorem untouched_of_not_dependsOn (ha : a.session.Guarded)
    (hs : a.session.Holds (Generator.Owned a.session.workspace))
    (ht : ¬ (a.session.scope w).DependsOn a.node t) :
    Untouched t a.session (a.outcome Eval.value w).2 :=
  untouched ha fun _ hab hr => ht ((hab.dependsOn ha hs).tail (.target hr))

end Visit

end

end TestData.Engine
