import TestData.Proofs.Evaluation.Elsewhere
import TestData.Proofs.Evaluation.Origin
import TestData.Proofs.Schema.Stages
import TestData.Proofs.Session.Made

/-!
Pipes are left folds.

A link of a pipe asks for one value and makes its own of it. Nothing on the way to that value needs
the link, or the link would be needed for itself. So a request for the link ends as one for what is
before it does, with the transform applied; along the chain of links the transforms are applied one
after another.
-/

namespace TestData.Engine

open Schema
open Text (Transform)
open Yaml (Tree)

/-- What transforms make of a value: of its text the text that they lead to, one after another.
What is absent stays absent, and null stays null. Without transforms every value stays as it is. -/
def piped : List Transform → Option Value → Option Value
  | [], x => x
  | _, none => none
  | _, some .null => some .null
  | ks, some v => some (.string (ks.foldl (fun text k => k.apply text) v.text))

variable {w : World} {s s' s₀ : Session} {p : NodeRef} {id start : NodeId} {k : Transform}
  {ks : List Transform} {x y u : Option Value} {doc : Document} {i : DocumentId}
  {resolve : NodeRef → Except EvalError Resolution}

/-- Transforms are applied from the first on. -/
lemma piped_cons (k : Transform) (ks : List Transform) (x : Option Value) :
    piped (k :: ks) x = piped ks (piped [k] x) := by
  rcases x with _ | v
  · cases ks <;> rfl
  · cases v <;> cases ks <;> rfl

lemma answer_transform {c : Setting} {known : Knowledge} {q : NodeRef} :
    (Plan.transform q k).script.answer c known = (known q).map (piped [k]) := by
  rw [Plan.script, Script.answer_bind, Script.answer_value]
  rcases known q with _ | _ | v
  · rfl
  · rfl
  · cases v <;> rfl

/-! ### The generators of pipes -/

namespace Generator

variable {st : Setting} {c : Call} {g g' : Generator} {n : NodeRef} {src src' : Random.Source}
  {plan : Plan}

/-- A link of a pipe has the node and the transform of the call at its node. -/
def Pipes (ws : Workspace) (n : NodeRef) (g : Generator) : Prop :=
  ∀ previous k, ws.kind n = .call (.pipe previous k) → g = .pipe (n.at previous) k

lemma Pipes.step {ws : Workspace} (h : g.Pipes ws n) (hs : g.step src = some ((plan, g'), src')) :
    g'.Pipes ws n := by
  intro previous k hk
  obtain rfl := h previous k hk
  exact (Prod.mk.inj (Prod.mk.inj (Option.some.inj hs)).1).2.symm

lemma pipes_ofCallAs (hk : st.workspace.kind n = .call c) :
    (ofCallAs c.kind n c).Ensures st (Pipes st.workspace n) := by
  by_cases hp : ∃ previous k, c = .pipe previous k
  · obtain ⟨previous, k, rfl⟩ := hp
    unfold ofCallAs ofCall
    simp only [Call.kind, if_true, Script.ensures_bind, Script.ensures_location,
      Script.ensures_pure]
    intro previous' k' hk'
    obtain ⟨rfl, rfl⟩ := Call.pipe.inj (Kind.call.inj (hk.symm.trans hk'))
    rfl
  · refine Script.ensures_of_forall (fun g previous k hk' => ?_) _
    exact absurd ⟨previous, k, Kind.call.inj (hk.symm.trans hk')⟩ hp

end Generator

/-- Every link of a pipe that has a generator has the one of its call. -/
def Session.KeepsPipes (s₀ s : Session) : Prop :=
  s.setting = s₀.setting ∧ s.Holds (Generator.Pipes s₀.workspace)

lemma lasting_keepsPipes (w : World) (s₀ : Session) : Lasting w s₀.KeepsPipes :=
  lasting_holds (P := Generator.Pipes s₀.workspace) (fun _ _ hk => Generator.pipes_ofCallAs hk)
    fun h => h.step

lemma inward_keepsPipes (s₀ : Session) : Inward s₀.KeepsPipes where
  enter _ h := h
  without n h := ⟨h.1, h.2.without n⟩

lemma Reachable.keepsPipes (h : Reachable s) : s.KeepsPipes s :=
  ⟨rfl, h.holds (P := Generator.Pipes) (fun _ _ _ hk => Generator.pipes_ofCallAs hk)
    fun h => h.step⟩

section

variable (hs : s₀.KeepsPipes s) (hk : s.workspace.kind p = .call (.pipe id k))

include hs hk

lemma generator_pipe {g : Generator} (hg : s.generators.lookup p = some g) :
    g = .pipe (p.at id) k :=
  hs.2 p g hg id k (by rw [← hk, workspace_of_setting hs.1])

lemma generatorOf_pipe (hf : .pipe ∈ s.functions) :
    (generatorOf Eval.value p (.pipe id k)).exec w s = (.ok (.pipe (p.at id) k), s) := by
  rcases hg : s.generators.lookup p with _ | g
  · rw [generatorOf_new (c := .pipe id k) hg hf]
    rfl
  · rw [generatorOf_kept hg, generator_pipe hs hk hg]

/-- The visit of a link of a pipe. -/
lemma planVisits_pipe (hf : .pipe ∈ s.functions) :
    ⟨p.at id, s.withoutGenerator p⟩ ∈ planVisits Eval.value w p (.pipe id k) s := by
  have hvisit : ∀ s : Session, ⟨p.at id, s⟩ ∈
      (Plan.transform (p.at id) k).script.visits Eval.value w s := fun s => by
    change ⟨p.at id, s⟩ ∈ Script.visits Eval.value w (Script.ask (p.at id) _) s
    rw [Script.visits]
    exact List.mem_cons_self
  rw [planVisits, generatorOf_pipe hs hk hf]
  exact hvisit _

end

/-! ### One link -/

/-- A link that is evaluated asks for what is before it. -/
lemma Visit.asks_before {b : Visit} (hs : s₀.KeepsPipes b.session)
    (hk : b.session.workspace.kind p = .call (.pipe id k)) (hf : .pipe ∈ b.session.functions)
    (hr : (b.session.scope w).resolve b.node = .ok (.value p))
    (hl : b.session.values.lookup p = none) (ha : p ∉ b.session.active) :
    b.Asks w ⟨p.at id, (b.session.enter p).withoutGenerator p⟩ := by
  have hs' : s₀.KeepsPipes (b.session.enter p) := hs
  have hk' : (b.session.enter p).workspace.kind p = .call (.pipe id k) := hk
  unfold Asks
  rw [valueVisits_own hr hl ha, ownVisits_call hk']
  exact List.mem_append_right _ (planVisits_pipe hs' hk' hf)

/-- What is before a link does not need the link, if it has a value. -/
lemma Visit.not_needs_link {a b : Visit} {v : Option Value} (ha : a.session.Guarded)
    (hs : s₀.KeepsPipes a.session) (hk : a.session.workspace.kind p = .call (.pipe id k))
    (hf : .pipe ∈ a.session.functions) (hn : a.node = p.at id)
    (hv : a.outcome Eval.value w = (.ok v, s')) (hb : a.Reaches w b)
    (hl : b.session.values.lookup p = none) (hact : p ∉ b.session.active) :
    (a.session.scope w).resolve b.node ≠ .ok (.value p) := by
  intro hr
  have hfun : b.session.functions = a.session.functions := congrArg Setting.functions hb.setting
  have hlast := (lasting_keepsPipes w s₀).reaches (inward_keepsPipes s₀) ha hs hb
  -- the link would ask for what is before it while that is being evaluated
  have hbc := asks_before hlast (by rw [hb.workspace]; exact hk) (hfun ▸ hf)
    (by rw [hb.scope]; exact hr) hl hact
  exact Within.node_ne (.tail' hb hbc) ha hv hn.symm

lemma exec_transform {q : NodeRef} (h : (Eval.value q).exec w s = (.ok x, s')) :
    ((Plan.transform q k).script.run Eval.value).exec w s = (.ok (piped [k] x), s') := by
  change ((Script.ask q _).run Eval.value).exec w s = _
  rw [Script.exec_ask, h]
  rcases x with _ | v
  · rfl
  · cases v <;> rfl

/-- A session in which a link is being evaluated, with its generator out, is alike but for it. -/
lemma Session.alikeBut_link (hg : s.Guarded) (hs : s₀.KeepsPipes s)
    (hk : s.workspace.kind p = .call (.pipe id k)) (hl : s.values.lookup p = none)
    (ha : p ∉ s.active) : s.AlikeBut p ((s.enter p).withoutGenerator p) := by
  have hw : p ∈ s.workspace.refs := by
    by_contra hw
    rw [Workspace.kind_of_not_mem_refs hw] at hk
    cases hk
  have hg' := hg.enter ha hw
  refine ⟨rfl, fun t ht => ?_, fun t ht => ?_, ?_, hl, ha, hg.nodup, hg'.nodup, hg.known,
    hg'.known⟩
  · exact List.mem_cons.trans (or_iff_right ht)
  · rw [lookup_withoutGenerator, if_neg ht]
    rfl
  · unfold Session.selected?
    rw [lookup_withoutGenerator, if_pos rfl]
    rcases hgen : s.generators.lookup p with _ | g
    · rfl
    · rw [generator_pipe hs hk hgen]
      rfl

/-- **A request for a link** that has no value ends with what the transform makes of the value
before it. -/
lemma value_link (hg : s.Guarded) (hs : s₀.KeepsPipes s)
    (hk : s.workspace.kind p = .call (.pipe id k)) (hf : .pipe ∈ s.functions)
    (hl : s.values.lookup p = none) (ha : p ∉ s.active)
    (hv : (Eval.value (p.at id)).exec w s = (.ok x, s')) :
    ∃ s₁, (Eval.value p).exec w s = (.ok (piped [k] x), s₁) := by
  obtain ⟨hx, -⟩ := Visit.matches (a := ⟨p.at id, s⟩) (Session.alikeBut_link hg hs hk hl ha)
    fun b hb => Visit.not_needs_link hg hs hk hf rfl hv hb
  unfold Visit.outcome at hx
  rcases h₁ : (Eval.value (p.at id)).exec w ((s.enter p).withoutGenerator p) with ⟨r, s₁⟩
  rw [hv, h₁] at hx
  obtain rfl : r = .ok x := hx
  have hs' : s₀.KeepsPipes (s.enter p) := hs
  have hk' : (s.enter p).workspace.kind p = .call (.pipe id k) := hk
  have hown : (ownValue Eval.value p).exec w (s.enter p) =
      (.ok (piped [k] x), s₁.withGenerator p (.pipe (p.at id) k)) := by
    rw [exec_ownValue_call hk', exec_callValue, generatorOf_pipe hs' hk' hf]
    have hrun := exec_transform (k := k) h₁
    dsimp only [Generator.step]
    exact congrArg (fun r => (r.1, r.2.withGenerator p (.pipe (p.at id) k))) hrun
  rw [exec_value_eq_valueVia hg, valueVia_own (Session.resolve_call hk) hl ha, hown]
  exact ⟨_, rfl⟩

/-! ### Chains of links -/

section

variable (hrow : SteadyRow resolve s₀ s) (hs : Reachable s₀) (hv₀ : s₀.values = [])

include hrow hs

lemma SteadyRow.keepsPipes : s₀.KeepsPipes s :=
  hrow.keeps hs.idle (fun w _ => lasting_keepsPipes w s₀) hs.keepsPipes

include hv₀

/-- The value of a link is what the transform makes of the value before it. -/
lemma SteadyRow.known_link (hw : (s.scope w).resolve = resolve)
    (hk : s.workspace.kind p = .call (.pipe id k)) (hu : s.known resolve p = some u) :
    ∃ x, s.known resolve (p.at id) = some x ∧ u = piped [k] x := by
  have hr : resolve p = .ok (.value p) := by rw [← hw, Session.resolve_call hk]
  have hl : s.values.lookup p = some u := by
    rwa [Session.known, knownBy_of_ok hr] at hu
  obtain ⟨-, hacc⟩ := hrow.accounts hs hv₀
  obtain ⟨g, hg, -⟩ := (accounted_call hk).mp (hacc p u hl)
  obtain rfl := generator_pipe (hrow.keepsPipes hs) hk hg
  obtain ⟨w', -, hans⟩ := hrow.made hs.idle hv₀ p u hl ⟨_, hk⟩ _ _ hg rfl
  rw [answer_transform, Option.map_eq_some_iff] at hans
  obtain ⟨x, hx, rfl⟩ := hans
  exact ⟨x, hx, rfl⟩

lemma SteadyRow.known_chain (hw : (s.scope w).resolve = resolve)
    (hdoc : s.workspace.document i = doc) (h : doc.Linked start ks id)
    (hu : s.known resolve ⟨i, id⟩ = some u) :
    ∃ x, s.known resolve ⟨i, start⟩ = some x ∧ u = piped ks x := by
  induction ks generalizing start with
  | nil =>
    obtain rfl := h
    exact ⟨u, hu, rfl⟩
  | cons k ks ih =>
    obtain ⟨next, hnext, h⟩ := h
    obtain ⟨y, hy, rfl⟩ := ih h
    have hk : s.workspace.kind ⟨i, next⟩ = .call (.pipe start k) := by
      rw [← hnext, ← hdoc]
      rfl
    obtain ⟨x, hx, rfl⟩ := hrow.known_link hs hv₀ hw hk hy
    exact ⟨x, hx, (piped_cons k ks x).symm⟩

/-- A request for a link ends with what the transform makes of the value before it. -/
lemma SteadyRow.value_next (hw : (s.scope w).resolve = resolve)
    (hk : s.workspace.kind p = .call (.pipe id k)) (hf : .pipe ∈ s.functions)
    (hv : (Eval.value (p.at id)).exec w s = (.ok x, s')) :
    ∃ s₁, (Eval.value p).exec w s = (.ok (piped [k] x), s₁) := by
  rcases hl : s.values.lookup p with _ | u
  · have hidle : s.active = [] := hrow.row.grows.active.trans hs.idle
    exact value_link (hrow.guarded hs.idle) (hrow.keepsPipes hs) hk hf hl (by simp [hidle]) hv
  · have hr : resolve p = .ok (.value p) := by rw [← hw, Session.resolve_call hk]
    have hu : s.known resolve p = some u := by rwa [Session.known, knownBy_of_ok hr]
    obtain ⟨y, hy, rfl⟩ := hrow.known_link hs hv₀ hw hk hu
    have hval := value_of_known (w := w) (hw ▸ hy)
    obtain rfl : y = x := Except.ok.inj (Prod.mk.inj (hval.symm.trans hv)).1
    exact ⟨s, value_of_known (hw ▸ hu)⟩

lemma SteadyRow.value_chain (hw : (s.scope w).resolve = resolve)
    (hdoc : s.workspace.document i = doc) (hf : .pipe ∈ s.functions)
    (h : doc.Linked start ks id) (hv : (Eval.value ⟨i, start⟩).exec w s = (.ok x, s')) :
    ∃ s₁, (Eval.value ⟨i, id⟩).exec w s = (.ok (piped ks x), s₁) := by
  induction ks generalizing start x s' with
  | nil =>
    obtain rfl := h
    exact ⟨s', hv⟩
  | cons k ks ih =>
    obtain ⟨next, hnext, h⟩ := h
    have hk : s.workspace.kind ⟨i, next⟩ = .call (.pipe start k) := by
      rw [← hnext, ← hdoc]
      rfl
    obtain ⟨s₁, h₁⟩ := hrow.value_next hs hv₀ hw hk hf hv
    rw [piped_cons]
    exact ih h h₁

end

/-- **A pipe is a left fold.** A pipe in a document is the node of its value if it has no
transforms, and otherwise a node of its own. In a row of an engine that knows pipes it has a value
if, and only if, what goes through it has one: absent if that is absent, null if that is null, and
otherwise the string that the transforms make of the text of it, one after another in their
order. -/
theorem pipe_is_left_fold {tag : String} {pairs : Pairs} {v : Tree} {names : List String}
    (htag : tagName tag = "pipe") (hvalue : Tree.lookup pairs "value" = some v)
    (hnames : Tree.lookup pairs "transforms" = some (.sequence (names.map .string)))
    (hks : List.Forall₂ (fun name k => Transform.read name = .ok k) names ks)
    (h : doc.Stands (.tagged tag (.mapping pairs)) id) :
    ∃ start, doc.Stands v start ∧ (ks = [] → id = start) ∧
      ∀ resolve s₀ s i w, Reachable s₀ → s₀.values = [] → SteadyRow resolve s₀ s →
        (s.scope w).resolve = resolve → s.workspace.document i = doc →
        (∀ u s', (Eval.value ⟨i, id⟩).exec w s = (.ok u, s') →
          ∃ x, (Eval.value ⟨i, start⟩).exec w s' = (.ok x, s') ∧ u = piped ks x) ∧
        ∀ x s', CallKind.pipe ∈ s.functions → (Eval.value ⟨i, start⟩).exec w s = (.ok x, s') →
          ∃ s₁, (Eval.value ⟨i, id⟩).exec w s = (.ok (piped ks x), s₁) := by
  obtain ⟨start, hstart, hlinked⟩ := h.pipe htag hvalue hnames hks
  refine ⟨start, hstart, ?_, fun resolve s₀ s i w hs hv₀ hrow hw hdoc =>
    ⟨fun u s' hu => ?_, fun x s' hf hx => hrow.value_chain hs hv₀ hw hdoc hf hlinked hx⟩⟩
  · rintro rfl
    exact hlinked
  · have hrow' := hrow.trans (SteadyRow.value hw hu)
    have hgrows := grows_value w ⟨i, id⟩ s
    rw [hu] at hgrows
    have hw' : (s'.scope w).resolve = resolve := by rw [hgrows.scope, hw]
    have hknown := known_of_value hu
    rw [hw] at hknown
    obtain ⟨x, hx, rfl⟩ := hrow'.known_chain hs hv₀ hw'
      (by rw [hgrows.workspace, hdoc]) hlinked hknown
    exact ⟨x, value_of_known (hw' ▸ hx), rfl⟩

namespace Folded

/-- Two transforms that do not commute. -/
def names : List String := ["lower", "capitalize"]

/-- What a pipe through them is given. -/
def arguments : Pairs :=
  [(.string "value", .string "aB"), (.string "transforms", .sequence (names.map .string))]

/-- The pipe. -/
def value : Tree := .tagged "!pipe" (.mapping arguments)

/-- The properties of an entity with that value. -/
def properties : Pairs := [(.string "x", value)]

/-- The entity. -/
def entities : Pairs := [(.string "E", .mapping properties)]

/-- A description of a document with the entity. -/
def tree : Tree := .mapping [(.string "entities", .mapping entities)]

/-- The document. -/
def document : Document := (Document.ofTree "a.yaml" tree).toOption.getD default

/-- A world without files. -/
def world : World := { disk := .ofDirectory [], time := default, entropy := 0 }

/-- An engine for the document. -/
def session : Session := .start (.ofDocuments world.disk [document]) CallKind.all {} world

/-- The value of the only property is the last link, which ends with a text. -/
lemma facts :
    (Document.ofTree "a.yaml" tree).toOption.isSome = true ∧
      (document.nodes.all fun n => match n.kind with
        | .property _ id => id = 2
        | _ => true) = true ∧
      textOf ((Eval.value ⟨0, 2⟩).exec world session).1 = some (some "Ab") := by
  decide +kernel

lemma ofTree_tree : Document.ofTree "a.yaml" tree = .ok document := by
  rcases hd : Document.ofTree "a.yaml" tree with e | d
  · have hsome := facts.1
    rw [hd] at hsome
    cases hsome
  · rw [document, hd]
    rfl

lemma stands_value : document.Stands value 2 := by
  have houtline : outline? tree = some ([], entities) := rfl
  have hentity : (Tree.string "E", Tree.mapping properties) ∈ entities := List.mem_singleton_self _
  have hproperty : (Tree.string "x", value) ∈ properties := List.mem_singleton_self _
  obtain ⟨name, id, pid, -, hpid, hstands⟩ :=
    Document.stands_ofTree ofTree_tree houtline hentity hproperty
  have hid : id = 2 := by
    rw [Document.kind, Document.node] at hpid
    rcases hn : document.nodes[pid]? with _ | n <;> rw [hn] at hpid
    · cases hpid
    · have hall := Array.all_eq_true'.mp facts.2.1 n (Array.mem_of_getElem? hn)
      rw [show n.kind = .property name id from hpid] at hall
      exact of_decide_eq_true hall
  rwa [hid] at hstands

end Folded

open Folded in
/-- The text is made small before its first letter is made large. -/
theorem pipe_lowers_then_capitalizes :
    ∃ start x s, document.Stands (.string "aB") start ∧
      (Eval.value ⟨0, 2⟩).exec world session = (.ok (some (.string "Ab")), s) ∧
      (Eval.value ⟨0, start⟩).exec world s = (.ok x, s) ∧
      some (.string "Ab") = piped [.lower, .capitalize] x := by
  have hnames : Tree.lookup arguments "transforms" = some (.sequence (names.map .string)) := rfl
  have hks : List.Forall₂ (fun name k => Transform.read name = .ok k) names
      [.lower, .capitalize] := .cons (by rfl) (.cons (by rfl) .nil)
  obtain ⟨start, hstart, -, hvalues⟩ := pipe_is_left_fold (by decide) rfl hnames hks stands_value
  obtain ⟨hends, -⟩ := hvalues _ session session 0 world (.start _ _ _ _) rfl (.refl session)
    rfl rfl
  have hu := exec_of_textOf facts.2.2
  obtain ⟨x, hx, hux⟩ := hends _ _ hu
  exact ⟨start, x, _, hstart, hu, hx, hux⟩

end TestData.Engine
