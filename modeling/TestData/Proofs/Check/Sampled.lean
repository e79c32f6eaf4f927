import TestData.Proofs.Check.Report
import TestData.Proofs.Evaluation.Unbound

/-!
What a check without errors has seen.

A check resolves every reference of a document, creates every call and evaluates every entity once.
Where it finds no error, all of that has succeeded: so references do not dangle, and no template
with an unbound name has been evaluated. What a check does not see is what the values of later rows
lead to.
-/

namespace TestData.Engine

open Schema

variable {w : World} {s s₀ s' : Session} {n t : NodeRef} {d : DocumentId} {name : String}
  {found : List Issue}

/-- The session of a check of a document when it ends. -/
def Session.sampled (s : Session) (w : World) (d : DocumentId) : Session :=
  ((Check.documentIssues d).exec w (s.fresh w)).2

/-- A session of a check without errors: it is idle, and nothing has been done at a template with
an unbound name. -/
structure Session.Sampling (s₀ : Session) (w : World) (s : Session) : Prop where
  setting : s.setting = s₀.setting
  idle : s.active = []
  clear : ∀ t name, (s₀.scope w).Unbound t name → s.Clear t

namespace Session

variable (ws : Workspace) (functions : List CallKind) (o : Options)

lemma setting_start (w w' : World) :
    (start ws functions o w).setting w' =
      { workspace := ws, functions, options := o, world := w' } :=
  rfl

lemma active_start (w : World) : (start ws functions o w).active = [] := rfl

lemma clear_start (w : World) (t : NodeRef) : (start ws functions o w).Clear t := ⟨rfl, rfl⟩

end Session

namespace Session.Sampling

lemma fresh (s₀ : Session) (w : World) : s₀.Sampling w (s₀.fresh w) where
  setting := funext fun w' => setting_start s₀.workspace s₀.functions s₀.options w w'
  idle := active_start _ _ _ _
  clear t _ _ := clear_start _ _ _ _ t

lemma reset (h : s₀.Sampling w s) : s₀.Sampling w s.reset :=
  ⟨h.setting, rfl, fun t name hu => ⟨rfl, (h.clear t name hu).generators⟩⟩

lemma scope (h : s₀.Sampling w s) : s.scope w = s₀.scope w := by
  rw [Session.scope, Session.scope, h.setting]

/-- A script that succeeds is no trouble. -/
lemma run {α : Type} {x : Script α} {r : α} (h : s₀.Sampling w s)
    (hx : (x.run Eval.value).exec w s = (.ok r, s')) : s₀.Sampling w s' := by
  have hkeep := keeps_run w x s
  rw [hx] at hkeep
  refine ⟨hkeep.setting_eq h.setting, hkeep.active.trans h.idle, fun t name hu => ?_⟩
  have hu' : (s.scope w).Unbound t name := by rwa [h.scope]
  exact (hu'.avoids_run (.of_idle h.idle) hx).clear (h.clear t name hu)

end Session.Sampling

namespace Check

open Issue

/-- Where a call is checked without an error, a script has succeeded. -/
lemma script_of_callIssues {c : Call} (h : (callIssues c.kind n c).exec w s = (.ok found, s'))
    (hfound : ∀ i ∈ found, i.Lenient) :
    ∃ (α : Type) (x : Script α) (r : α), (x.run Eval.value).exec w s = (.ok r, s') := by
  rcases c with _ | _ | _ | _ | _ | _ | ⟨source, targets⟩ | _ | _ | _ | _ | _ | _ | _
  case map =>
    rw [Call.kind, exec_callIssues_map] at h
    rcases hx : ((selectorOf n (n.at source)).run Eval.value).exec w s with
      ⟨(e | _) | ⟨m, choices⟩, s₁⟩ <;> rw [hx] at h
    · obtain rfl := Except.ok.inj (Prod.mk.inj h).1
      exact absurd (hfound _ List.mem_cons_self) (not_lenient_ofError _ e)
    · cases (Prod.mk.inj h).1
    · obtain ⟨-, rfl⟩ := Prod.mk.inj h
      exact ⟨_, _, _, hx⟩
  all_goals
    obtain ⟨g, hx⟩ := ok_of_issuesOf h hfound
    exact ⟨_, _, g, hx⟩

/-- Where a node is checked without an error, a script has succeeded. -/
lemma script_of_nodeIssues (h : (nodeIssues n).exec w s = (.ok found, s'))
    (hfound : ∀ i ∈ found, i.Lenient) :
    ∃ (α : Type) (x : Script α) (r : α), (x.run Eval.value).exec w s = (.ok r, s') := by
  by_cases hr : ∃ segments, s.workspace.kind n = .reference segments
  · obtain ⟨segments, hk⟩ := hr
    rw [exec_nodeIssues_reference hk] at h
    obtain ⟨r, hx⟩ := ok_of_issuesOf h hfound
    rw [Eval.exec_resolve] at hx
    rcases hr : (s.scope w).resolve n with e | r' <;> rw [hr] at hx
    · cases (Prod.mk.inj hx).1
    · obtain ⟨-, rfl⟩ := Prod.mk.inj hx
      exact ⟨Unit, .done (), (), rfl⟩
  · by_cases hc : ∃ c, s.workspace.kind n = .call c ∧ c.kind ∈ s.functions
    · obtain ⟨c, hk, hf⟩ := hc
      rw [exec_nodeIssues_call hk hf] at h
      exact script_of_callIssues h hfound
    · obtain ⟨errors, hx, -⟩ := exec_nodeIssues_other (w := w) (n := n)
        (fun segments hk => hr ⟨segments, hk⟩) fun c hk hf => hc ⟨c, hk, hf⟩
      obtain ⟨-, rfl⟩ := Prod.mk.inj (hx.symm.trans h)
      exact ⟨Unit, .done (), (), rfl⟩

/-- Every node of a workspace is checked with its document. -/
lemma mem_nodesOf_of_refs {ws : Workspace} (h : n ∈ ws.refs) :
    n.document < ws.documents.size ∧ n ∈ nodesOf ws n.document := by
  obtain ⟨⟨doc, i⟩, hdoc, hn⟩ := List.mem_flatMap.mp h
  obtain ⟨id, hid, rfl⟩ := List.mem_map.mp hn
  have hget : ws.documents[i]? = some doc := by
    rw [List.mem_zipIdx_iff_getElem?] at hdoc
    simpa using hdoc
  obtain ⟨hlt, -⟩ := Array.getElem?_eq_some_iff.mp hget
  have hws : ws.document i = doc := by simp [Workspace.document, hget]
  refine ⟨hlt, List.mem_map.mpr ⟨id, ?_, rfl⟩⟩
  rwa [hws]

/-- The nodes of a document that are checked without an error. -/
lemma gather_nodes {nodes : List NodeRef} (hs : s₀.Sampling w s)
    (h : (gather nodeIssues nodes).exec w s = (.ok found, s'))
    (hfound : ∀ i ∈ found, i.Lenient) :
    s₀.Sampling w s' ∧ ∀ n segments, n ∈ nodes → s₀.workspace.kind n = .reference segments →
      ∃ r, (s₀.scope w).resolve n = .ok r := by
  obtain ⟨hs', hall⟩ := gather_ok (I := s₀.Sampling w) (fun hs hx hfirst => by
    obtain ⟨α, x, r, hrun⟩ := script_of_nodeIssues hx hfirst
    exact hs.run hrun) hs h hfound
  refine ⟨hs', fun n segments hn hk => ?_⟩
  obtain ⟨s₁, first, s₂, hs₁, hx, hfirst⟩ := hall n hn
  rw [← workspace_of_setting hs₁.setting] at hk
  rw [exec_nodeIssues_reference hk] at hx
  obtain ⟨r, hr⟩ := ok_of_issuesOf hx hfirst
  rw [Eval.exec_resolve, hs₁.scope] at hr
  rcases hres : (s₀.scope w).resolve n with e | r' <;> rw [hres] at hr
  · cases (Prod.mk.inj hr).1
  · exact ⟨r', rfl⟩

/-- The entities of a document that are checked without an error. -/
lemma gather_values {entities : List NodeRef} (hs : s₀.Sampling w s)
    (h : (gather valueIssues entities).exec w s = (.ok found, s'))
    (hfound : ∀ i ∈ found, i.Lenient) : s₀.Sampling w s' := by
  refine (gather_ok (I := s₀.Sampling w) (fun {n s first s₁} hs hx hfirst => ?_) hs h hfound).1
  rw [exec_valueIssues] at hx
  obtain ⟨v, hv⟩ := ok_of_issuesOf hx hfirst
  refine hs.reset.run (x := Script.value n) (r := v) ?_
  rw [Script.value, Script.exec_ask, hv]
  rfl

end Check

namespace Session

/-- **A check without errors** has resolved every reference of the document, and ends in a session
in which nothing has been done at a template with an unbound name. -/
theorem CleanAt.sampling (h : s.CleanAt w d) :
    s.Sampling w (s.sampled w d) ∧ ∀ n segments, n ∈ Check.nodesOf s.workspace d →
      s.workspace.kind n = .reference segments → ∃ r, (s.scope w).resolve n = .ok r := by
  obtain ⟨issues, hcheck, hclean⟩ := h
  rw [Session.check] at hcheck
  rcases hx : (Check.documentIssues d).exec w (s.fresh w) with ⟨r, s'⟩
  rw [hx] at hcheck
  obtain rfl : r = .ok issues := hcheck
  obtain ⟨nodes, s₁, values, hnodes, hvalues, hn, hv⟩ := Check.gatherings_of_clean hx hclean
  rw [Check.workspace_fresh] at hnodes
  obtain ⟨hs₁, hrefs⟩ := Check.gather_nodes (.fresh s w) hnodes hn
  rw [sampled, hx]
  exact ⟨Check.gather_values hs₁ hvalues hv, hrefs⟩

/-- **Where no check finds an error**, references do not dangle. -/
theorem Clean.sturdy (h : s.Clean w) : (s.scope w).Sturdy := by
  intro n segments hk
  have hmem : n ∈ s.workspace.refs := by
    by_contra hn
    cases (Workspace.kind_of_not_mem_refs hn).symm.trans hk
  obtain ⟨hd, hn⟩ := Check.mem_nodesOf_of_refs hmem
  exact (h n.document hd).sampling.2 n segments hn hk

end Session

end TestData.Engine
