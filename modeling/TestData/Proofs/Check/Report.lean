import TestData.Engine.Check
import TestData.Proofs.Evaluation.Exec

/-!
What a report of a check says of what was found.

A report leaves out what repeats an issue of the same code at the same node. The only warnings are
those about the case of a name and about the length of a map, and no error of an evaluation has
their codes. So a report without errors has come from findings without errors, and every attempt
that the check has made has succeeded.
-/

namespace TestData.Engine

open Schema

variable {w : World} {s s' s₁ : Session} {d : DocumentId} {i j : Issue} {l acc found : List Issue}

/-! ### Issues -/

namespace Issue

/-- An issue with a code that warnings have. -/
def Lenient (i : Issue) : Prop := i.code = .entityNameCase ∨ i.code = .mapLengthMismatch

/-- An issue is an error, or its code is one that warnings have. -/
def Graded (i : Issue) : Prop := i.severity = .error ∨ i.Lenient

lemma not_lenient_ofError (ws : Workspace) (e : EvalError) : ¬ (ofError ws e).Lenient := by
  unfold Lenient ofError
  cases e <;> simp [EvalError.code]

/-! ### Leaving out what repeats -/

lemma mem_add : j ∈ add l i → j ∈ l ∨ j = i := by
  unfold add
  split_ifs
  · exact .inl
  · intro h
    rcases List.mem_append.mp h with h | h
    · exact .inl h
    · exact .inr (List.mem_singleton.mp h)

lemma subset_add : l ⊆ add l i := by
  unfold add
  split_ifs
  · exact List.Subset.refl l
  · exact List.subset_append_left l [i]

/-- What is added is there afterwards, or something of its code is. -/
lemma exists_code_add : ∃ j ∈ add l i, j.code = i.code := by
  unfold add
  split_ifs with h
  · obtain ⟨j, hj, hr⟩ := List.any_eq_true.mp h
    simp only [repeats, Bool.and_eq_true, decide_eq_true_eq] at hr
    exact ⟨j, hj, hr.1.2.symm⟩
  · exact ⟨i, by simp, rfl⟩

lemma mem_foldl_add (h : j ∈ l.foldl add acc) : j ∈ acc ∨ j ∈ l := by
  induction l generalizing acc with
  | nil => exact .inl h
  | cons i rest ih =>
    rcases ih h with h | h
    · rcases mem_add h with h | rfl
      · exact .inl h
      · exact .inr List.mem_cons_self
    · exact .inr (List.mem_cons_of_mem _ h)

lemma subset_foldl_add : acc ⊆ l.foldl add acc := by
  induction l generalizing acc with
  | nil => exact List.Subset.refl acc
  | cons i rest ih => exact List.Subset.trans subset_add ih

lemma exists_code_foldl_add (h : i ∈ l) : ∃ j ∈ l.foldl add acc, j.code = i.code := by
  induction l generalizing acc with
  | nil => cases h
  | cons k rest ih =>
    rcases List.mem_cons.mp h with rfl | h
    · obtain ⟨j, hj, hcode⟩ := exists_code_add (l := acc) (i := i)
      have hsub : add acc i ⊆ (i :: rest).foldl add acc := subset_foldl_add
      exact ⟨j, hsub hj, hcode⟩
    · exact ih h

/-- Where a report has no errors, all that was found has codes that warnings have. -/
lemma lenient_of_clean (hl : ∀ i ∈ l, i.Graded) (h : ∀ i ∈ l.foldl add [], i.severity ≠ .error)
    (hi : i ∈ l) : i.Lenient := by
  obtain ⟨j, hj, hcode⟩ : ∃ j ∈ l.foldl add [], j.code = i.code := exists_code_foldl_add hi
  have hmem : j ∈ l := (mem_foldl_add hj).resolve_left (by simp)
  rcases hl j hmem with herr | hlenient
  · exact absurd herr (h j hj)
  · unfold Lenient at hlenient ⊢
    rwa [← hcode]

end Issue

namespace Check

open Issue

/-! ### Names -/

lemma graded_entityIssues (ws : Workspace) (h : i ∈ entityIssues ws d) : i.Graded := by
  obtain ⟨⟨⟨name, id⟩, again⟩, -, hi⟩ := List.mem_flatMap.mp h
  dsimp only at hi
  rcases List.mem_append.mp hi with hi | hi
  · split_ifs at hi
    · obtain rfl := List.mem_singleton.mp hi
      exact .inl rfl
    · cases hi
  · split_ifs at hi
    · cases hi
    · obtain rfl := List.mem_singleton.mp hi
      exact .inr (.inl rfl)

lemma error_nameIssue {ws : Workspace} {target : DocumentId} {path name : String}
    {known : List String} (h : (nameIssue ws d target path known name).1 = some i) :
    i.severity = .error := by
  unfold nameIssue at h
  split_ifs at h <;> cases h <;> rfl

lemma error_nameIssues {ws : Workspace} {target : DocumentId} {path : String}
    {known names : List String} (h : i ∈ (nameIssues ws d target path known names).1) :
    i.severity = .error := by
  induction names generalizing known with
  | nil => cases h
  | cons name rest ih =>
    unfold nameIssues at h
    rcases List.mem_append.mp h with h | h
    · exact error_nameIssue (Option.mem_toList.mp h)
    · exact ih h

lemma error_importIssues {ws : Workspace} {disk : Files.Disk} {known : List String}
    {imports : List Import} (h : i ∈ importIssues ws disk d known imports) :
    i.severity = .error := by
  induction imports generalizing known with
  | nil => cases h
  | cons first rest ih =>
    unfold importIssues at h
    split at h
    · rcases List.mem_cons.mp h with rfl | h
      · rfl
      · exact ih h
    · rcases List.mem_append.mp h with h | h
      · exact error_nameIssues h
      · exact ih h

lemma error_propertyIssues {ws : Workspace} {owner : NodeRef} {properties : List NodeId}
    (h : i ∈ propertyIssues ws owner properties) : i.severity = .error := by
  obtain ⟨⟨⟨name, id⟩, again⟩, -, hi⟩ := List.mem_filterMap.mp h
  dsimp only at hi
  split_ifs at hi
  obtain rfl := Option.some.inj hi
  rfl

end Check

/-! ### Attempts -/

lemma Eval.exec_attempt {α : Type} (x : Eval α) :
    x.attempt.exec w s =
      match x.exec w s with
      | (.ok a, s') => (.ok (.ok a), s')
      | (.error (.error e), s') => (.ok (.error e), s')
      | (.error .stuck, s') => (.error .stuck, s') := rfl

namespace Check

open Issue

variable {α : Type} {x : Eval α} {issues : α → Eval (List Issue)} {n : NodeRef}

lemma exec_issuesOf (x : Eval α) :
    (issuesOf x).exec w s =
      match x.exec w s with
      | (.ok _, s') => (.ok [], s')
      | (.error (.error e), s') => (.ok [.ofError s'.workspace e], s')
      | (.error .stuck, s') => (.error .stuck, s') := by
  unfold issuesOf
  rw [Eval.exec_bind, Eval.exec_attempt]
  rcases x.exec w s with ⟨(e | _) | a, s'⟩ <;> rfl

/-- An attempt without an error has succeeded. -/
lemma ok_of_issuesOf (h : (issuesOf x).exec w s = (.ok found, s'))
    (hfound : ∀ i ∈ found, i.Lenient) : ∃ a, x.exec w s = (.ok a, s') := by
  rw [exec_issuesOf] at h
  rcases hx : x.exec w s with ⟨(e | _) | a, s₁⟩ <;> rw [hx] at h
  · obtain ⟨h₁, -⟩ := Prod.mk.inj h
    obtain rfl := Except.ok.inj h₁
    exact absurd (hfound _ List.mem_cons_self) (not_lenient_ofError _ e)
  · cases (Prod.mk.inj h).1
  · obtain ⟨-, rfl⟩ := Prod.mk.inj h
    exact ⟨a, rfl⟩

lemma graded_issuesOf (h : (issuesOf x).exec w s = (.ok found, s')) : ∀ i ∈ found, i.Graded := by
  rw [exec_issuesOf] at h
  rcases hx : x.exec w s with ⟨(e | _) | a, s₁⟩ <;> rw [hx] at h
  · obtain rfl := Except.ok.inj (Prod.mk.inj h).1
    intro i hi
    obtain rfl := List.mem_singleton.mp hi
    exact .inl rfl
  · cases (Prod.mk.inj h).1
  · obtain rfl := Except.ok.inj (Prod.mk.inj h).1
    simp

/-! ### Gathering -/

lemma exec_gather_cons (issues : α → Eval (List Issue)) (a : α) (rest : List α) :
    (gather issues (a :: rest)).exec w s =
      match (issues a).exec w s with
      | (.error f, s₁) => (.error f, s₁)
      | (.ok first, s₁) =>
        match (gather issues rest).exec w s₁ with
        | (.error f, s₂) => (.error f, s₂)
        | (.ok more, s₂) => (.ok (first ++ more), s₂) := by
  rw [gather, Eval.exec_bind]
  rcases (issues a).exec w s with ⟨f | first, s₁⟩
  · rfl
  · dsimp only
    rw [Eval.exec_bind]
    rcases (gather issues rest).exec w s₁ with ⟨f | more, s₂⟩ <;> rfl

lemma gather_cons_ok {a : α} {rest : List α}
    (h : (gather issues (a :: rest)).exec w s = (.ok found, s')) :
    ∃ first s₁ more, (issues a).exec w s = (.ok first, s₁) ∧
      (gather issues rest).exec w s₁ = (.ok more, s') ∧ found = first ++ more := by
  rw [exec_gather_cons] at h
  rcases h₁ : (issues a).exec w s with ⟨f | first, s₁⟩ <;> rw [h₁] at h
  · cases (Prod.mk.inj h).1
  · dsimp only at h
    rcases h₂ : (gather issues rest).exec w s₁ with ⟨f | more, s₂⟩ <;> rw [h₂] at h
    · cases (Prod.mk.inj h).1
    · obtain ⟨h₃, rfl⟩ := Prod.mk.inj h
      exact ⟨first, s₁, more, rfl, h₂, (Except.ok.inj h₃).symm⟩

/-- **A gathering** in which what is found satisfies a predicate keeps what every item keeps, and
has gone through every item. -/
theorem gather_ok {I : Session → Prop} {P : Issue → Prop} {items : List α}
    (hI : ∀ {a s first s₁}, I s → (issues a).exec w s = (.ok first, s₁) → (∀ i ∈ first, P i) →
      I s₁)
    (hs : I s) (h : (gather issues items).exec w s = (.ok found, s')) (hfound : ∀ i ∈ found, P i) :
    I s' ∧ ∀ a ∈ items, ∃ s₁ first s₂, I s₁ ∧ (issues a).exec w s₁ = (.ok first, s₂) ∧
      ∀ i ∈ first, P i := by
  induction items generalizing s found with
  | nil =>
    obtain ⟨-, rfl⟩ := Prod.mk.inj h
    exact ⟨hs, by simp⟩
  | cons a rest ih =>
    obtain ⟨first, s₁, more, ha, hrest, rfl⟩ := gather_cons_ok h
    have hfirst : ∀ i ∈ first, P i := fun i hi => hfound i (List.mem_append_left _ hi)
    obtain ⟨hs', hall⟩ := ih (hI hs ha hfirst) hrest
      fun i hi => hfound i (List.mem_append_right _ hi)
    refine ⟨hs', fun b hb => ?_⟩
    rcases List.mem_cons.mp hb with rfl | hb
    · exact ⟨s, first, s₁, hs, ha, hfirst⟩
    · exact hall b hb

/-- What is found at every item is found by the gathering. -/
lemma gather_all {P : Issue → Prop} {items : List α}
    (hP : ∀ {a s first s₁}, (issues a).exec w s = (.ok first, s₁) → ∀ i ∈ first, P i)
    (h : (gather issues items).exec w s = (.ok found, s')) : ∀ i ∈ found, P i := by
  induction items generalizing s found with
  | nil =>
    obtain rfl := Except.ok.inj (Prod.mk.inj h).1
    simp
  | cons a rest ih =>
    obtain ⟨first, s₁, more, ha, hrest, rfl⟩ := gather_cons_ok h
    intro i hi
    rcases List.mem_append.mp hi with hi | hi
    · exact hP ha i hi
    · exact ih hrest i hi

/-! ### Nodes -/

/-- A map is checked by the choice behind its source. -/
lemma exec_callIssues_map {source : NodeId} {targets : List NodeId} :
    (callIssues .map n (.map source targets)).exec w s =
      match ((selectorOf n (n.at source)).run Eval.value).exec w s with
      | (.ok (_, choices), s') =>
        (.ok (if choices = targets.length then [] else
          [{ Issue.atNode s'.workspace n .mapLengthMismatch
              ("map at '" ++ s'.workspace.displayPath n ++ "' has " ++ toString targets.length ++
                " values but its source chooses from " ++ toString choices)
             with severity := .warning }]), s')
      | (.error (.error e), s') => (.ok [.ofError s'.workspace e], s')
      | (.error .stuck, s') => (.error .stuck, s') := by
  unfold callIssues
  rw [Eval.exec_bind, Eval.exec_attempt]
  rcases ((selectorOf n (n.at source)).run Eval.value).exec w s with ⟨(e | _) | ⟨m, choices⟩, s'⟩
  · rfl
  · rfl
  · dsimp only
    split_ifs <;> rfl

lemma graded_callIssues {c : Call}
    (h : (callIssues c.kind n c).exec w s = (.ok found, s')) : ∀ i ∈ found, i.Graded := by
  rcases c with _ | _ | _ | _ | _ | _ | ⟨source, targets⟩ | _ | _ | _ | _ | _ | _ | _
  case map =>
    rw [Call.kind, exec_callIssues_map] at h
    rcases hx : ((selectorOf n (n.at source)).run Eval.value).exec w s with
      ⟨(e | _) | ⟨m, choices⟩, s₁⟩ <;> rw [hx] at h
    · obtain rfl := Except.ok.inj (Prod.mk.inj h).1
      intro i hi
      obtain rfl := List.mem_singleton.mp hi
      exact .inl rfl
    · cases (Prod.mk.inj h).1
    · obtain rfl := Except.ok.inj (Prod.mk.inj h).1
      intro i hi
      split_ifs at hi
      · cases hi
      · obtain rfl := List.mem_singleton.mp hi
        exact .inr (.inr rfl)
  all_goals exact graded_issuesOf h

lemma exec_nodeIssues_reference {segments : List Segment}
    (hk : s.workspace.kind n = .reference segments) :
    (nodeIssues n).exec w s = (issuesOf (Eval.resolve n)).exec w s := by
  simp only [nodeIssues, Eval.exec_bind, Eval.exec_get, hk]

lemma exec_nodeIssues_call {c : Call} (hk : s.workspace.kind n = .call c)
    (hf : c.kind ∈ s.functions) :
    (nodeIssues n).exec w s = (callIssues c.kind n c).exec w s := by
  simp only [nodeIssues, Eval.exec_bind, Eval.exec_get, hk, List.contains_iff_mem, hf, if_true]

/-- What is found at other nodes is an error and changes nothing. -/
lemma exec_nodeIssues_other (hr : ∀ segments, s.workspace.kind n ≠ .reference segments)
    (hc : ∀ c, s.workspace.kind n = .call c → c.kind ∉ s.functions) :
    ∃ found, (nodeIssues n).exec w s = (.ok found, s) ∧ ∀ i ∈ found, i.severity = .error := by
  simp only [nodeIssues, Eval.exec_bind, Eval.exec_get]
  rcases hk : s.workspace.kind n with _ | _ | _ | _ | _ | _ | _
  case object => exact ⟨_, rfl, fun i hi => error_propertyIssues hi⟩
  case reference segments => exact absurd hk (hr segments)
  case call c =>
    simp only [List.contains_iff_mem, hc c hk, if_false]
    exact ⟨_, rfl, by simp [atNode]⟩
  case literal l =>
    rcases l with _ | _ | _ | _ | _ | _ | _ | _
    case file path =>
      simp only [Eval.exec_bind, Eval.exec_read]
      split_ifs
      · exact ⟨[], rfl, by simp⟩
      · exact ⟨_, rfl, by simp [atNode]⟩
    case pattern =>
      dsimp only
      split_ifs
      · exact ⟨[], rfl, by simp⟩
      · exact ⟨_, rfl, by simp [atNode]⟩
    all_goals exact ⟨[], rfl, by simp⟩
  all_goals exact ⟨[], rfl, by simp⟩

lemma graded_nodeIssues (h : (nodeIssues n).exec w s = (.ok found, s')) :
    ∀ i ∈ found, i.Graded := by
  by_cases hr : ∃ segments, s.workspace.kind n = .reference segments
  · obtain ⟨segments, hk⟩ := hr
    rw [exec_nodeIssues_reference hk] at h
    exact graded_issuesOf h
  · by_cases hc : ∃ c, s.workspace.kind n = .call c ∧ c.kind ∈ s.functions
    · obtain ⟨c, hk, hf⟩ := hc
      rw [exec_nodeIssues_call hk hf] at h
      exact graded_callIssues h
    · obtain ⟨errors, hx, herr⟩ := exec_nodeIssues_other (w := w) (n := n)
        (fun segments hk => hr ⟨segments, hk⟩) fun c hk hf => hc ⟨c, hk, hf⟩
      rw [hx] at h
      obtain rfl := Except.ok.inj (Prod.mk.inj h).1
      exact fun i hi => .inl (herr i hi)

/-- An entity is checked by its value in a row of its own. -/
lemma exec_valueIssues (n : NodeRef) :
    (valueIssues n).exec w s = (issuesOf (Eval.value n)).exec w s.reset := by
  rw [valueIssues, Eval.exec_bind, Eval.exec_modify]

lemma graded_valueIssues (h : (valueIssues n).exec w s = (.ok found, s')) :
    ∀ i ∈ found, i.Graded := by
  rw [exec_valueIssues] at h
  exact graded_issuesOf h

/-! ### Documents -/

/-- The nodes that are checked in a document. -/
def nodesOf (ws : Workspace) (d : DocumentId) : List NodeRef :=
  (List.range (ws.document d).nodes.size).map fun id => ⟨d, id⟩

/-- The entities that are evaluated in a document. -/
def entitiesOf (ws : Workspace) (d : DocumentId) : List NodeRef :=
  (ws.document d).namedEntities.map fun (_, id) => ⟨d, id⟩

/-- What is found without evaluating anything. -/
def declared (s : Session) (w : World) (d : DocumentId) : List Issue :=
  entityIssues s.workspace d ++
    importIssues s.workspace w.disk d [] (s.workspace.document d).imports

lemma exec_documentIssues :
    (documentIssues d).exec w s =
      match (gather nodeIssues (nodesOf s.workspace d)).exec w s with
      | (.error f, s₁) => (.error f, s₁)
      | (.ok nodes, s₁) =>
        match (gather valueIssues (entitiesOf s.workspace d)).exec w s₁ with
        | (.error f, s₂) => (.error f, s₂)
        | (.ok values, s₂) =>
          (.ok ((declared s w d ++ nodes ++ values).foldl add []), s₂) := by
  unfold documentIssues nodesOf entitiesOf declared
  simp only [Eval.exec_bind, Eval.exec_get, Eval.exec_read]
  rcases (gather nodeIssues _).exec w s with ⟨f | nodes, s₁⟩
  · rfl
  · dsimp only
    rcases (gather valueIssues _).exec w s₁ with ⟨f | values, s₂⟩ <;> rfl

/-- A report without errors has come from two gatherings in which all that was found has codes that
warnings have. -/
theorem gatherings_of_clean {issues : List Issue}
    (h : (documentIssues d).exec w s = (.ok issues, s'))
    (hclean : ∀ i ∈ issues, i.severity ≠ .error) :
    ∃ nodes s₁ values,
      (gather nodeIssues (nodesOf s.workspace d)).exec w s = (.ok nodes, s₁) ∧
      (gather valueIssues (entitiesOf s.workspace d)).exec w s₁ = (.ok values, s') ∧
      (∀ i ∈ nodes, i.Lenient) ∧ ∀ i ∈ values, i.Lenient := by
  rw [exec_documentIssues] at h
  rcases h₁ : (gather nodeIssues (nodesOf s.workspace d)).exec w s with ⟨f | nodes, s₁⟩ <;>
    rw [h₁] at h
  · cases (Prod.mk.inj h).1
  dsimp only at h
  rcases h₂ : (gather valueIssues (entitiesOf s.workspace d)).exec w s₁ with ⟨f | values, s₂⟩ <;>
    rw [h₂] at h
  · cases (Prod.mk.inj h).1
  obtain ⟨h₃, rfl⟩ := Prod.mk.inj h
  obtain rfl := Except.ok.inj h₃
  have hgraded : ∀ i ∈ declared s w d ++ nodes ++ values, i.Graded := by
    intro i hi
    rcases List.mem_append.mp hi with hi | hi
    · rcases List.mem_append.mp hi with hi | hi
      · rcases List.mem_append.mp hi with hi | hi
        · exact graded_entityIssues _ hi
        · exact .inl (error_importIssues hi)
      · exact gather_all (fun h => graded_nodeIssues h) h₁ i hi
    · exact gather_all (fun h => graded_valueIssues h) h₂ i hi
  refine ⟨nodes, s₁, values, rfl, h₂, fun i hi => ?_, fun i hi => ?_⟩
  · exact lenient_of_clean hgraded hclean (by simp [hi])
  · exact lenient_of_clean hgraded hclean (by simp [hi])

end Check

/-- The check of a document finds no errors. -/
def Session.CleanAt (s : Session) (w : World) (d : DocumentId) : Prop :=
  ∃ issues, s.check w d = .ok issues ∧ ∀ i ∈ issues, i.severity ≠ .error

/-- The checks of all documents find no errors. -/
def Session.Clean (s : Session) (w : World) : Prop :=
  ∀ d < s.workspace.documents.size, s.CleanAt w d

/-! ### Documents without findings -/

namespace Check

/-- No name of an entity of a document is declared twice. -/
def distinctNames (ws : Workspace) (d : DocumentId) : Bool :=
  (markRepeats (·.1) [] (ws.document d).namedEntities).all (!·.2)

/-- Nothing is found at the nodes and the entities of a document. -/
def findsNothing (s : Session) (w : World) (d : DocumentId) : Bool :=
  match (gather nodeIssues (nodesOf s.workspace d)).exec w s with
  | (.ok [], s₁) =>
    match (gather valueIssues (entitiesOf s.workspace d)).exec w s₁ with
    | (.ok [], _) => true
    | _ => false
  | _ => false

lemma warning_entityIssues {ws : Workspace} (hnames : distinctNames ws d = true)
    (h : i ∈ entityIssues ws d) : i.severity = .warning := by
  obtain ⟨⟨⟨name, id⟩, again⟩, hmem, hi⟩ := List.mem_flatMap.mp h
  have hagain : again = false := by simpa using List.all_eq_true.mp hnames _ hmem
  simp only [hagain, Bool.false_eq_true, if_false, List.nil_append] at hi
  split_ifs at hi
  · cases hi
  · obtain rfl := List.mem_singleton.mp hi
    rfl

lemma workspace_start (ws : Workspace) (functions : List CallKind) (o : Options) :
    (Session.start ws functions o w).workspace = ws := rfl

lemma workspace_fresh : (s.fresh w).workspace = s.workspace := workspace_start _ _ _

lemma declared_fresh (himports : (s.workspace.document d).imports = []) :
    declared (s.fresh w) w d = entityIssues s.workspace d := by
  rw [declared, workspace_fresh, himports, importIssues, List.append_nil]

/-- Where names are distinct, nothing is imported and nothing else is found, there are only
warnings. -/
theorem cleanAt_of_findsNothing (hnames : distinctNames s.workspace d = true)
    (himports : (s.workspace.document d).imports = [])
    (h : findsNothing (s.fresh w) w d = true) : s.CleanAt w d := by
  unfold findsNothing at h
  split at h
  · split at h
    · rename_i s₁ hnodes _ s₂ hvalues
      have hx : (documentIssues d).exec w (s.fresh w) =
          (.ok ((entityIssues s.workspace d).foldl Issue.add []), s₂) := by
        rw [exec_documentIssues, hnodes]
        dsimp only
        rw [hvalues]
        dsimp only
        rw [declared_fresh himports, List.append_nil, List.append_nil]
      have hcheck : s.check w d = .ok ((entityIssues s.workspace d).foldl Issue.add []) := by
        rw [Session.check, hx]
      refine ⟨_, hcheck, fun i hi => ?_⟩
      have hmem := (Issue.mem_foldl_add hi).resolve_left (by simp)
      rw [warning_entityIssues hnames hmem]
      decide
    · cases h
  · cases h

/-- A workspace of one document in which nothing is found. -/
theorem clean_of_findsNothing {disk : Files.Disk} {doc : Document}
    (hws : s.workspace = .ofDocuments disk [doc])
    (hnames : distinctNames (.ofDocuments disk [doc]) Workspace.root = true)
    (himports : doc.imports.length = 0)
    (h : findsNothing (s.fresh w) w Workspace.root = true) : s.Clean w := by
  intro d hd
  obtain rfl : d = Workspace.root := by
    simpa [hws, Workspace.ofDocuments, Workspace.root] using hd
  refine cleanAt_of_findsNothing (by rwa [hws]) ?_ h
  simpa [hws, Workspace.ofDocuments, Workspace.document, Workspace.root] using himports

end Check

end TestData.Engine
