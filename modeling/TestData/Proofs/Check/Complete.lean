import Mathlib.Data.List.Induction
import TestData.Proofs.Check.Report
import TestData.Proofs.Evaluation.Frame

/-!
A report of a check is complete.

The passes of a check find issues one after the other, in a session that keeps what earlier
evaluations have left. What is found becomes a report by leaving out each issue that repeats an
earlier one. So a report has the firsts of what was found, in the order in which they were found,
and every error that is met on the way has an issue with its code and its node.
-/

namespace TestData.Engine

open Schema

variable {w : World} {s s' : Session} {d : DocumentId} {n : NodeRef} {i j m : Issue}
  {l found : List Issue}

/-! ### The firsts of a list of issues -/

namespace Issue

/-- The issues of a list that repeat no earlier one. -/
def firsts (l : List Issue) : List Issue :=
  (l.zipIdx.filter fun (i, k) => !(l.take k).any i.repeats).map (·.1)

lemma repeats_iff : i.repeats j = true ↔ i.node.isSome ∧ i.code = j.code ∧ i.node = j.node := by
  simp [repeats, and_assoc]

lemma repeats_trans (h : i.repeats j = true) (h' : j.repeats m = true) : i.repeats m = true := by
  rw [repeats_iff] at h h' ⊢
  exact ⟨h.1, h.2.1.trans h'.2.1, h.2.2.trans h'.2.2⟩

lemma firsts_append_singleton (l : List Issue) (i : Issue) :
    firsts (l ++ [i]) = firsts l ++ if l.any i.repeats then [] else [i] := by
  have hfront : (l.zipIdx.filter fun (j, k) => !((l ++ [i]).take k).any j.repeats) =
      l.zipIdx.filter fun (j, k) => !(l.take k).any j.repeats := by
    refine List.filter_congr fun ⟨j, k⟩ hmem => ?_
    have hk : k ≤ l.length := Nat.le_of_lt (List.snd_lt_of_mem_zipIdx hmem)
    dsimp only
    rw [List.take_append_of_le_length hk]
  rw [firsts, List.zipIdx_append, List.filter_append, List.map_append, hfront, ← firsts]
  by_cases h : l.any i.repeats <;> simp [h]

/-- What repeats an issue of a list repeats one of its firsts. -/
lemma any_firsts (l : List Issue) (i : Issue) : (firsts l).any i.repeats = l.any i.repeats := by
  induction l using List.reverseRecOn with
  | nil => rfl
  | append_singleton l j ih =>
    rw [firsts_append_singleton, List.any_append, List.any_append, ih]
    by_cases hj : l.any j.repeats
    · by_cases hi : i.repeats j
      · obtain ⟨m, hm, hr⟩ := List.any_eq_true.mp hj
        have hany : l.any i.repeats = true := List.any_eq_true.mpr ⟨m, hm, repeats_trans hi hr⟩
        simp [hany]
      · simp [hj, hi]
    · simp [hj]

/-- **Adding issues one after the other** gives the firsts of them. -/
theorem foldl_add_eq_firsts (l : List Issue) : l.foldl add [] = firsts l := by
  induction l using List.reverseRecOn with
  | nil => rfl
  | append_singleton l i ih =>
    rw [List.foldl_append, List.foldl_cons, List.foldl_nil, ih, firsts_append_singleton, add,
      any_firsts]
    split_ifs <;> simp

lemma firsts_sublist (l : List Issue) : (firsts l).Sublist l := by
  have h := (List.filter_sublist (l := l.zipIdx)
    (p := fun (i, k) => !(l.take k).any i.repeats)).map (·.1)
  rwa [List.zipIdx_map_fst] at h

/-- No two of the firsts that have a node have the same code and the same node. -/
lemma pairwise_firsts (l : List Issue) :
    (firsts l).Pairwise fun i j => i.node.isSome → ¬ (i.code = j.code ∧ i.node = j.node) := by
  induction l using List.reverseRecOn with
  | nil => exact .nil
  | append_singleton l j ih =>
    rw [firsts_append_singleton]
    split_ifs with hj
    · simpa using ih
    · refine List.pairwise_append.mpr ⟨ih, List.pairwise_singleton _ _, fun i hi m hm hnode => ?_⟩
      obtain rfl := List.mem_singleton.mp hm
      rintro ⟨hcode, hsame⟩
      refine hj (List.any_eq_true.mpr ⟨i, (firsts_sublist l).subset hi, ?_⟩)
      exact repeats_iff.mpr ⟨hsame ▸ hnode, hcode.symm, hsame.symm⟩

/-- Issues without a node are all among the firsts. -/
lemma filter_firsts (l : List Issue) :
    (firsts l).filter (·.node.isNone) = l.filter (·.node.isNone) := by
  induction l using List.reverseRecOn with
  | nil => rfl
  | append_singleton l i ih =>
    rw [firsts_append_singleton, List.filter_append, List.filter_append, ih]
    split_ifs with hi
    · obtain ⟨j, -, hr⟩ := List.any_eq_true.mp hi
      have hnode : i.node.isNone = false := by simpa using (repeats_iff.mp hr).1
      simp [hnode]
    · rfl

/-- Every issue has one of the firsts with its code and its node. -/
lemma exists_firsts (h : i ∈ l) : ∃ j ∈ firsts l, j.code = i.code ∧ j.node = i.node := by
  induction l using List.reverseRecOn with
  | nil => cases h
  | append_singleton l j ih =>
    rw [firsts_append_singleton]
    rcases List.mem_append.mp h with h | h
    · obtain ⟨m, hm, hsame⟩ := ih h
      exact ⟨m, List.mem_append_left _ hm, hsame⟩
    · obtain rfl := List.mem_singleton.mp h
      split_ifs with hi
      · rw [← any_firsts] at hi
        obtain ⟨m, hm, hr⟩ := List.any_eq_true.mp hi
        obtain ⟨-, hcode, hnode⟩ := repeats_iff.mp hr
        exact ⟨m, List.mem_append_left _ hm, hcode.symm, hnode.symm⟩
      · exact ⟨i, List.mem_append_right _ List.mem_cons_self, rfl, rfl⟩

end Issue

namespace Check

open Issue

/-! ### The passes -/

section

variable {α β : Type} {x : Eval α} {issues : β → Eval (List Issue)} {f : Failure}

/-- An attempt that ends with an error has an issue for it. -/
lemma exec_issuesOf_error {e : EvalError} (h : x.exec w s = (.error (.error e), s')) :
    (issuesOf x).exec w s = (.ok [.ofError s'.workspace e], s') := by
  rw [exec_issuesOf, h]

lemma stuck_of_issuesOf (h : (issuesOf x).exec w s = (.error f, s')) : f = .stuck := by
  rw [exec_issuesOf] at h
  rcases hx : x.exec w s with ⟨(e | _) | a, s₁⟩ <;> rw [hx] at h <;> cases (Prod.mk.inj h).1
  rfl

lemma issuesOf_snd (x : Eval α) : ((issuesOf x).exec w s).2 = (x.exec w s).2 := by
  rw [exec_issuesOf]
  rcases x.exec w s with ⟨(e | _) | a, s₁⟩ <;> rfl

/-- What a gathering does at one of its items, and before and after it. -/
lemma gather_split {pre post : List β} {a : β}
    (h : (gather issues (pre ++ a :: post)).exec w s = (.ok found, s')) :
    ∃ before s₁ here s₂ after, (gather issues pre).exec w s = (.ok before, s₁) ∧
      (issues a).exec w s₁ = (.ok here, s₂) ∧
      (gather issues post).exec w s₂ = (.ok after, s') ∧ found = before ++ here ++ after := by
  induction pre generalizing s found with
  | nil =>
    obtain ⟨here, s₂, after, ha, hpost, rfl⟩ := gather_cons_ok h
    exact ⟨[], s, here, s₂, after, rfl, ha, hpost, rfl⟩
  | cons b pre ih =>
    obtain ⟨first, s₁, more, hb, hmore, rfl⟩ := gather_cons_ok h
    obtain ⟨before, s₂, here, s₃, after, hpre, ha, hpost, rfl⟩ := ih hmore
    refine ⟨first ++ before, s₂, here, s₃, after, ?_, ha, hpost, by simp⟩
    rw [exec_gather_cons, hb]
    dsimp only
    rw [hpre]

lemma stuck_of_gather {items : List β}
    (hissues : ∀ {a s s' f}, (issues a).exec w s = (.error f, s') → f = .stuck)
    (h : (gather issues items).exec w s = (.error f, s')) : f = .stuck := by
  induction items generalizing s s' f with
  | nil => cases (Prod.mk.inj h).1
  | cons a rest ih =>
    rw [exec_gather_cons] at h
    rcases ha : (issues a).exec w s with ⟨f' | first, s₁⟩ <;> rw [ha] at h
    · obtain rfl := Except.error.inj (Prod.mk.inj h).1
      exact hissues ha
    · dsimp only at h
      rcases hrest : (gather issues rest).exec w s₁ with ⟨f' | more, s₂⟩ <;> rw [hrest] at h
      · obtain rfl := Except.error.inj (Prod.mk.inj h).1
        exact ih hrest
      · cases (Prod.mk.inj h).1

end

lemma stuck_of_valueIssues {f : Failure} (h : (valueIssues n).exec w s = (.error f, s')) :
    f = .stuck := by
  rw [exec_valueIssues] at h
  exact stuck_of_issuesOf h

/-! ### Nodes -/

/-- A map is checked by asking for the choice behind its source, every other call by creating its
generator; and where the choice cannot be had, neither can the generator. -/
lemma exec_create_map {source : NodeId} {targets : List NodeId} {e : EvalError} :
    (∃ s', (Generator.create Eval.value .map n (.map source targets)).exec w s =
        (.error (.error e), s')) ↔
      ∃ s', ((selectorOf n (n.at source)).run Eval.value).exec w s = (.error (.error e), s') := by
  have hkind : (Call.map source targets).kind = .map := rfl
  rw [Generator.create, Generator.ofCallAs, if_pos hkind, Generator.ofCall, Script.exec_bind,
    Script.exec_location]
  dsimp only
  rw [Script.exec_bind]
  rcases ((selectorOf n (n.at source)).run Eval.value).exec w s with ⟨f | ⟨t, k⟩, s₁⟩
  · constructor <;> rintro ⟨s', h⟩ <;> obtain ⟨hf, rfl⟩ := Prod.mk.inj h <;>
      obtain rfl := Except.error.inj hf <;> exact ⟨_, rfl⟩
  · constructor <;> rintro ⟨s', h⟩ <;> cases (Prod.mk.inj h).1

lemma callIssues_eq {c : Call} (hc : ∀ source targets, c ≠ .map source targets) :
    callIssues c.kind n c = issuesOf (Generator.create Eval.value c.kind n c) := by
  rcases c with _ | _ | _ | _ | _ | _ | ⟨source, targets⟩ | _ | _ | _ | _ | _ | _ | _
  case map => exact absurd rfl (hc source targets)
  all_goals rfl

/-- Where the generator of a call cannot be created, there is an issue for the error. -/
lemma callIssues_of_error {c : Call} {e : EvalError}
    (h : (Generator.create Eval.value c.kind n c).exec w s = (.error (.error e), s')) :
    ∃ s₁, (callIssues c.kind n c).exec w s = (.ok [.ofError s₁.workspace e], s₁) := by
  by_cases hc : ∃ source targets, c = .map source targets
  · obtain ⟨source, targets, rfl⟩ := hc
    obtain ⟨s₁, hs₁⟩ := exec_create_map.mp ⟨s', h⟩
    refine ⟨s₁, ?_⟩
    rw [Call.kind, exec_callIssues_map, hs₁]
  · rw [callIssues_eq fun source targets h => hc ⟨source, targets, h⟩]
    exact ⟨s', exec_issuesOf_error h⟩

lemma keeps_callIssues (c : Call) : Keeps s ((callIssues c.kind n c).exec w s).2 := by
  by_cases hc : ∃ source targets, c = .map source targets
  · obtain ⟨source, targets, rfl⟩ := hc
    have hkeeps := keeps_run w (selectorOf n (n.at source)) s
    rw [Call.kind, exec_callIssues_map]
    rcases hx : ((selectorOf n (n.at source)).run Eval.value).exec w s with
      ⟨(e | _) | ⟨m, choices⟩, s₁⟩ <;> rw [hx] at hkeeps <;> exact hkeeps
  · rw [callIssues_eq fun source targets h => hc ⟨source, targets, h⟩, issuesOf_snd]
    exact keeps_run w _ s

lemma stuck_of_callIssues {c : Call} {f : Failure}
    (h : (callIssues c.kind n c).exec w s = (.error f, s')) : f = .stuck := by
  by_cases hc : ∃ source targets, c = .map source targets
  · obtain ⟨source, targets, rfl⟩ := hc
    rw [Call.kind, exec_callIssues_map] at h
    rcases hx : ((selectorOf n (n.at source)).run Eval.value).exec w s with
      ⟨(e | _) | ⟨m, choices⟩, s₁⟩ <;> rw [hx] at h <;> cases (Prod.mk.inj h).1
    rfl
  · rw [callIssues_eq fun source targets h => hc ⟨source, targets, h⟩] at h
    exact stuck_of_issuesOf h

/-- A node is a reference, a call that can be evaluated, or neither. -/
lemma node_cases (s : Session) (n : NodeRef) :
    (∃ segments, s.workspace.kind n = .reference segments) ∨
      (∃ c, s.workspace.kind n = .call c ∧ c.kind ∈ s.functions) ∨
      (∀ segments, s.workspace.kind n ≠ .reference segments) ∧
        ∀ c, s.workspace.kind n = .call c → c.kind ∉ s.functions := by
  by_cases hr : ∃ segments, s.workspace.kind n = .reference segments
  · exact .inl hr
  · by_cases hc : ∃ c, s.workspace.kind n = .call c ∧ c.kind ∈ s.functions
    · exact .inr (.inl hc)
    · exact .inr (.inr ⟨fun segments h => hr ⟨segments, h⟩, fun c h hf => hc ⟨c, h, hf⟩⟩)

lemma resolve_snd : ((Eval.resolve n).exec w s).2 = s := by
  rw [Eval.exec_resolve]
  rcases (s.scope w).resolve n with e | r <;> rfl

/-- The check of a node keeps what it was given. -/
lemma keeps_nodeIssues (n : NodeRef) : Keeps s ((nodeIssues n).exec w s).2 := by
  rcases node_cases s n with ⟨segments, hk⟩ | ⟨c, hk, hf⟩ | ⟨hr, hc⟩
  · rw [exec_nodeIssues_reference hk, issuesOf_snd, resolve_snd]
    exact .refl s
  · rw [exec_nodeIssues_call hk hf]
    exact keeps_callIssues c
  · obtain ⟨errors, hx, -⟩ := exec_nodeIssues_other (w := w) hr hc
    rw [hx]
    exact .refl s

lemma stuck_of_nodeIssues {f : Failure} (h : (nodeIssues n).exec w s = (.error f, s')) :
    f = .stuck := by
  rcases node_cases s n with ⟨segments, hk⟩ | ⟨c, hk, hf⟩ | ⟨hr, hc⟩
  · rw [exec_nodeIssues_reference hk] at h
    exact stuck_of_issuesOf h
  · rw [exec_nodeIssues_call hk hf] at h
    exact stuck_of_callIssues h
  · obtain ⟨errors, hx, -⟩ := exec_nodeIssues_other (w := w) hr hc
    cases (Prod.mk.inj (hx.symm.trans h)).1

lemma setting_gather {nodes : List NodeRef}
    (h : (gather nodeIssues nodes).exec w s = (.ok found, s')) :
    s'.setting = s.setting :=
  (gather_ok (I := fun s' => s'.setting = s.setting) (P := fun _ => True)
    (fun {n s₁ first s₂} hs hx _ => by
      have hkeeps := keeps_nodeIssues (w := w) (s := s₁) n
      rw [hx] at hkeeps
      exact hkeeps.setting_eq hs) rfl h fun _ _ => trivial).1

/-! ### Errors that are met -/

/-- An error that the check of a document in a session meets: where a reference cannot be resolved,
where the generator of a call cannot be created, or where an entity has no value. Each is met in
the session as what was checked before has left it. -/
inductive Meets (w : World) (s : Session) (d : DocumentId) : EvalError → Prop
  | reference {n : NodeRef} {segments : List Segment} {e : EvalError}
      (hn : n ∈ nodesOf s.workspace d) (hk : s.workspace.kind n = .reference segments)
      (he : (s.scope w).resolve n = .error e) : Meets w s d e
  | call {n : NodeRef} {pre post : List NodeRef} {c : Call} {e : EvalError} {s' : Session}
      (hn : nodesOf s.workspace d = pre ++ n :: post) (hk : s.workspace.kind n = .call c)
      (hf : c.kind ∈ s.functions)
      (he : (Generator.create Eval.value c.kind n c).exec w
        ((gather nodeIssues pre).exec w s).2 = (.error (.error e), s')) : Meets w s d e
  | map {n : NodeRef} {pre post : List NodeRef} {source : NodeId} {targets : List NodeId}
      {e : EvalError} {s' : Session} (hn : nodesOf s.workspace d = pre ++ n :: post)
      (hk : s.workspace.kind n = .call (.map source targets)) (hf : .map ∈ s.functions)
      (he : ((selectorOf n (n.at source)).run Eval.value).exec w
        ((gather nodeIssues pre).exec w s).2 = (.error (.error e), s')) : Meets w s d e
  | value {n : NodeRef} {pre post : List NodeRef} {e : EvalError} {s' : Session}
      (hn : entitiesOf s.workspace d = pre ++ n :: post)
      (he : (Eval.value n).exec w ((gather valueIssues pre).exec w
        ((gather nodeIssues (nodesOf s.workspace d)).exec w s).2).2.reset =
          (.error (.error e), s')) : Meets w s d e

/-- What the check of a document in a session finds, in the order in which it is found: what is
declared, then what is found node by node, then what is found entity by entity. -/
def Finds (w : World) (s : Session) (d : DocumentId) (found : List Issue) : Prop :=
  ∃ nodes s₁ values s₂,
    (gather nodeIssues (nodesOf s.workspace d)).exec w s = (.ok nodes, s₁) ∧
    (gather valueIssues (entitiesOf s.workspace d)).exec w s₁ = (.ok values, s₂) ∧
    found = declared s w d ++ nodes ++ values

/-- A report is the firsts of what was found. -/
lemma finds_of_ok {issues : List Issue} (h : (documentIssues d).exec w s = (.ok issues, s')) :
    ∃ found, Finds w s d found ∧ issues = firsts found := by
  rw [exec_documentIssues] at h
  rcases h₁ : (gather nodeIssues (nodesOf s.workspace d)).exec w s with ⟨f | nodes, s₁⟩ <;>
    rw [h₁] at h
  · cases (Prod.mk.inj h).1
  · dsimp only at h
    rcases h₂ : (gather valueIssues (entitiesOf s.workspace d)).exec w s₁ with ⟨f | values, s₂⟩ <;>
      rw [h₂] at h
    · cases (Prod.mk.inj h).1
    · obtain rfl := Except.ok.inj (Prod.mk.inj h).1
      exact ⟨_, ⟨nodes, s₁, values, s₂, h₁, h₂, rfl⟩, foldl_add_eq_firsts _⟩

/-- The check of a document fails with no error. -/
lemma stuck_of_documentIssues {f : Failure}
    (h : (documentIssues d).exec w s = (.error f, s')) : f = .stuck := by
  rw [exec_documentIssues] at h
  rcases h₁ : (gather nodeIssues (nodesOf s.workspace d)).exec w s with ⟨f' | nodes, s₁⟩ <;>
    rw [h₁] at h
  · obtain rfl := Except.error.inj (Prod.mk.inj h).1
    exact stuck_of_gather (fun h => stuck_of_nodeIssues h) h₁
  · dsimp only at h
    rcases h₂ : (gather valueIssues (entitiesOf s.workspace d)).exec w s₁ with ⟨f' | values, s₂⟩ <;>
      rw [h₂] at h
    · obtain rfl := Except.error.inj (Prod.mk.inj h).1
      exact stuck_of_gather (fun h => stuck_of_valueIssues h) h₂
    · cases (Prod.mk.inj h).1

/-- What the check of a node of the document finds is found. -/
lemma Finds.node {pre post : List NodeRef} (h : Finds w s d found)
    (hn : nodesOf s.workspace d = pre ++ n :: post) :
    ∃ s₁ here s₂, ((gather nodeIssues pre).exec w s).2 = s₁ ∧ s₁.setting = s.setting ∧
      (nodeIssues n).exec w s₁ = (.ok here, s₂) ∧ here ⊆ found := by
  obtain ⟨nodes, s₁, values, s₂, hnodes, -, rfl⟩ := h
  rw [hn] at hnodes
  obtain ⟨before, s₃, here, s₄, after, hpre, hhere, -, rfl⟩ := gather_split hnodes
  refine ⟨s₃, here, s₄, by rw [hpre], setting_gather hpre, hhere, fun i hi => ?_⟩
  simp [hi]

/-- The error of a call that cannot be created is found. -/
lemma Finds.of_create {pre post : List NodeRef} {c : Call} {e : EvalError} (h : Finds w s d found)
    (hn : nodesOf s.workspace d = pre ++ n :: post) (hk : s.workspace.kind n = .call c)
    (hf : c.kind ∈ s.functions)
    (he : (Generator.create Eval.value c.kind n c).exec w ((gather nodeIssues pre).exec w s).2 =
      (.error (.error e), s')) :
    ∃ i ∈ found, i.code = e.code ∧ i.node = e.node? := by
  obtain ⟨s₁, here, s₂, rfl, hset, hhere, hsub⟩ := h.node hn
  obtain ⟨s₃, hissues⟩ := callIssues_of_error he
  have hfunctions : ((gather nodeIssues pre).exec w s).2.functions = s.functions :=
    congrArg Setting.functions (congrFun hset w)
  rw [← workspace_of_setting hset] at hk
  rw [exec_nodeIssues_call hk (hfunctions ▸ hf), hissues] at hhere
  obtain rfl := Except.ok.inj (Prod.mk.inj hhere).1
  exact ⟨_, hsub List.mem_cons_self, rfl, rfl⟩

/-- **Every error that is met is found**: there is an issue with its code and its node. -/
theorem Finds.of_meets {e : EvalError} (h : Finds w s d found) (he : Meets w s d e) :
    ∃ i ∈ found, i.code = e.code ∧ i.node = e.node? := by
  cases he with
  | @reference n segments e hmem hk he =>
    obtain ⟨pre, post, hn⟩ := List.append_of_mem hmem
    obtain ⟨s₁, here, s₂, -, hset, hhere, hsub⟩ := h.node hn
    have herror : (Eval.resolve n).exec w s₁ = (.error (.error e), s₁) := by
      rw [Eval.exec_resolve, Session.scope, hset, ← Session.scope, he]
    rw [← workspace_of_setting hset] at hk
    rw [exec_nodeIssues_reference hk, exec_issuesOf_error herror] at hhere
    obtain rfl := Except.ok.inj (Prod.mk.inj hhere).1
    exact ⟨_, hsub List.mem_cons_self, rfl, rfl⟩
  | call hn hk hf he => exact h.of_create hn hk hf he
  | map hn hk hf he =>
    obtain ⟨s₁, hcreate⟩ := exec_create_map.mpr ⟨_, he⟩
    exact h.of_create hn hk hf hcreate
  | @value n pre post e s' hn he =>
    obtain ⟨nodes, s₁, values, s₂, hnodes, hvalues, rfl⟩ := h
    rw [hnodes] at he
    rw [hn] at hvalues
    obtain ⟨before, s₃, here, s₄, after, hpre, hhere, -, rfl⟩ := gather_split hvalues
    dsimp only at he
    rw [hpre] at he
    rw [exec_valueIssues, exec_issuesOf_error he] at hhere
    obtain rfl := Except.ok.inj (Prod.mk.inj hhere).1
    exact ⟨.ofError s'.workspace e, by simp, rfl, rfl⟩

end Check

/-- **A check loses and repeats nothing.** It fails with no error, and a list that it gives is what
was found without the repeats, each issue where it was first found: no two issues that have a node
have the same code and the same node, the issues without a node are all there, and for every error
that is met on the way there is an issue with its code and its node. -/
theorem check_loses_and_repeats_nothing (s : Session) (w : World) (d : DocumentId) :
    (∀ e, s.check w d ≠ .error (.error e)) ∧
    ∀ issues, s.check w d = .ok issues →
      (issues.Pairwise fun i j => i.node.isSome → ¬ (i.code = j.code ∧ i.node = j.node)) ∧
      (∃ found, Check.Finds w (s.fresh w) d found ∧ issues = Issue.firsts found ∧
        issues.Sublist found ∧
        issues.filter (·.node.isNone) = found.filter (·.node.isNone) ∧
        ∀ i ∈ found, ∃ j ∈ issues, j.code = i.code ∧ j.node = i.node) ∧
      ∀ e, Check.Meets w (s.fresh w) d e → ∃ i ∈ issues, i.code = e.code ∧ i.node = e.node? := by
  unfold Session.check
  rcases hx : (Check.documentIssues d).exec w (s.fresh w) with ⟨f | issues, s'⟩
  · obtain rfl := Check.stuck_of_documentIssues hx
    exact ⟨nofun, nofun⟩
  · obtain ⟨found, hfound, rfl⟩ := Check.finds_of_ok hx
    refine ⟨nofun, fun issues h => ?_⟩
    obtain rfl := Except.ok.inj h
    refine ⟨Issue.pairwise_firsts found, ⟨found, hfound, rfl, Issue.firsts_sublist found,
      Issue.filter_firsts found, fun i hi => Issue.exists_firsts hi⟩, fun e he => ?_⟩
    obtain ⟨i, hi, hcode, hnode⟩ := hfound.of_meets he
    obtain ⟨j, hj, hcode', hnode'⟩ := Issue.exists_firsts hi
    exact ⟨j, hj, hcode'.trans hcode, hnode'.trans hnode⟩

namespace Twice

/-- A world without files. -/
def world : World := { disk := .ofDirectory [], time := default, entropy := 0 }

/-- An entity without a name that has a choice of nothing, and two imports of a document that is not
there. -/
def document : Document :=
  { path := "a.yaml", entities := [3]
    imports := [{ path := "b.yaml", entities := [] }, { path := "b.yaml", entities := [] }]
    nodes := #[{ kind := .call (.choice []), parent := some 1 },
      { kind := .property "a" 0, parent := some 2 }, { kind := .object [1], parent := some 3 },
      { kind := .entity "" 2 }] }

/-- An engine for the document. -/
def session : Session := .start (.ofDocuments world.disk [document]) CallKind.all {} world

/-- The code and the node of every issue of a check. -/
def keys : List (Code × Option NodeRef) :=
  ((session.check world Workspace.root).toOption.getD []).map fun i => (i.code, i.node)

lemma facts : (session.check world Workspace.root).toOption.isSome = true ∧
    keys = [(.entityNameCase, some ⟨0, 3⟩), (.importNotFound, none), (.importNotFound, none),
      (.emptyList, some ⟨0, 0⟩)] := by
  decide +kernel

lemma create_fails (w : World) (s : Session) (n : NodeRef) :
    (Generator.create Eval.value .choice n (.choice [])).exec w s =
      (.error (.error (.emptyList (s.location n))), s) :=
  rfl

end Twice

open Twice in
/-- The choice of nothing is met where it is created and where the entity is evaluated, and has one
issue. Both imports have theirs. -/
theorem check_reports_choice_once :
    ∃ issues, session.check world Workspace.root = .ok issues ∧
      (issues.map fun i => (i.code, i.node)) =
        [(.entityNameCase, some ⟨0, 3⟩), (.importNotFound, none), (.importNotFound, none),
          (.emptyList, some ⟨0, 0⟩)] ∧
      ∃ i ∈ issues, i.code = .emptyList ∧ i.node = some ⟨0, 0⟩ := by
  obtain ⟨hsome, hkeys⟩ := facts
  obtain ⟨issues, hissues⟩ := Option.isSome_iff_exists.mp hsome
  have hcheck := ok_of_toOption hissues
  refine ⟨issues, hcheck, ?_, ?_⟩
  · rw [← hkeys, keys, hissues, Option.getD_some]
  · have hmet : Check.Meets world (session.fresh world) Workspace.root
        (.emptyList ((session.fresh world).location ⟨0, 0⟩)) := by
      have hnodes : Check.nodesOf (session.fresh world).workspace Workspace.root =
        [] ++ ⟨0, 0⟩ :: [⟨0, 1⟩, ⟨0, 2⟩, ⟨0, 3⟩] := rfl
      have hkind : (session.fresh world).workspace.kind ⟨0, 0⟩ = .call (.choice []) := rfl
      exact .call hnodes hkind (by decide) (create_fails world _ _)
    obtain ⟨-, -, hmeets⟩ :=
      (check_loses_and_repeats_nothing session world Workspace.root).2 issues hcheck
    exact hmeets _ hmet

end TestData.Engine
