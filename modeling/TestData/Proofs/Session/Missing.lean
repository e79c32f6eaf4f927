import TestData.Proofs.Check.Sampled
import TestData.Proofs.Schema.Forest
import TestData.Proofs.Session.Invariant
import TestData.Proofs.Session.Row

/-!
Names that mean nothing in a row.

A check resolves all references, but of what is looked up when rows are made it sees a sample: the
names of the templates and the keys of the values that it came by. So after checks without errors a
row can still end with a name that means nothing, in two ways, and in these two only.
-/

namespace TestData.Engine

open Schema

variable {w w' : World} {s s' : Session} {l : Location} {name : String} {span : Span}

/-- Why a name means nothing although no reference dangles, for the values that a row has kept. -/
inductive Missing (c : Scope) (values : List (NodeRef × Option Value)) :
    Location → String → Span → Prop
  /-- The name stands in a template. -/
  | identifier {t : NodeRef} {name : String} (h : c.Unbound t name) :
    Missing c values (c.location t) name (c.workspace.node t).span
  /-- The name is a key that a node reads from a value that does not have it. -/
  | key {n base : NodeRef} {keys : List String} {name : String} {v : Value}
    (hr : c.resolve n = .ok (.extract base keys)) (hv : values.lookup base = some (some v))
    (hk : keysIn v keys = .error name) :
    Missing c values (c.location n) name (c.workspace.node n).span

/-- A node that reads a name from a value that is there misses the name in the value. -/
lemma missing_of_extract {n base : NodeRef} {keys : List String} {u : Option Value} {s₁ : Session}
    (hr : (s.scope w).resolve n = .ok (.extract base keys))
    (hu : (Eval.value base).exec w s = (.ok u, s₁))
    (hx : (valueVia Eval.value n).exec w s = (.error (.error (.unresolved l name span)), s')) :
    Missing (s.scope w) s'.values l name span := by
  obtain ⟨⟨c, hc⟩, -⟩ := Session.resolve_extract hr
  have hkept : s₁.values.lookup base = some u := knows_of_value (Session.resolve_call hc) hu
  have hws : s₁.workspace = s.workspace := by
    have hg := grows_value w base s
    rw [hu] at hg
    exact hg.workspace
  rw [valueVia_extract hr, hu] at hx
  rcases u with _ | v
  · cases (Prod.mk.inj hx).1
  dsimp only at hx
  rcases hk : keysIn v keys with key | v' <;> rw [hk] at hx
  · obtain ⟨h₁, rfl⟩ := Prod.mk.inj hx
    rw [Session.noKey, Session.location, hws] at h₁
    obtain ⟨rfl, rfl, rfl⟩ := EvalError.unresolved.inj (Failure.error.inj (Except.error.inj h₁))
    exact .key hr hkept hk
  · cases (Prod.mk.inj hx).1

/-- A request that fails by itself with a name has it in a template, or reads it as a key. -/
lemma Visit.Fails.missing {a : Visit} (ha : a.session.Guarded)
    (hs : (a.session.scope w).Sturdy)
    (hlooks : a.session.Holds (Generator.Looks a.session.workspace))
    (h : a.Fails w (.error (.unresolved l name span)) s') :
    Missing (a.session.scope w) s'.values l name span := by
  have hx := h.outcome
  have hok := h.asks
  unfold Visit.outcome at hx
  unfold Visit.Asks at hok
  rw [exec_value_eq_valueVia ha] at hx
  rcases hr : (a.session.scope w).resolve a.node with e | ⟨t⟩ | ⟨base, keys⟩
  · rw [valueVia_unresolved hr] at hx
    obtain rfl := Failure.error.inj (Except.error.inj (Prod.mk.inj hx).1)
    obtain ⟨l', hl'⟩ := hs.circular hr
    cases hl'
  · rcases hl : a.session.values.lookup t with _ | v
    · by_cases hact : t ∈ a.session.active
      · rw [valueVia_active hr hl hact] at hx
        cases (Prod.mk.inj hx).1
      · rw [valueVia_own hr hl hact] at hx
        rw [valueVisits_own hr hl hact] at hok
        rcases ho : (ownValue Eval.value t).exec w (a.session.enter t) with ⟨f | v, s₁⟩ <;>
          rw [ho] at hx
        · obtain ⟨h₁, rfl⟩ := Prod.mk.inj hx
          obtain rfl := Except.error.inj h₁
          obtain ⟨hu, rfl, rfl⟩ := blames_ownValue (s := a.session.enter t) hs hlooks hok ho
          exact .identifier hu
        · cases (Prod.mk.inj hx).1
    · rw [valueVia_cached hr hl] at hx
      cases (Prod.mk.inj hx).1
  · obtain ⟨u, s₁, hu⟩ := hok ⟨base, a.session⟩ (by simp [valueVisits_extract hr])
    exact missing_of_extract hr hu hx

/-! ### Rows -/

lemma inward_looks (s₀ : Session) : Inward fun s =>
    s.setting = s₀.setting ∧ s.Holds (Generator.Looks s₀.workspace) where
  enter _ h := h
  without n h := ⟨h.1, h.2.without n⟩

lemma lasting_looks (w : World) (s₀ : Session) : Lasting w fun s =>
    s.setting = s₀.setting ∧ s.Holds (Generator.Looks s₀.workspace) :=
  lasting_holds (fun _ _ hk => Generator.looks_ofCallAs _ hk) fun h hst => h.step hst

lemma Reachable.looks (h : Reachable s) : s.Holds (Generator.Looks s.workspace) :=
  h.holds (P := Generator.Looks) (fun st _ _ hk => Generator.looks_ofCallAs st hk)
    fun hg hst => hg.step hst

/-- A record that ends with a name that means nothing, where references do not dangle. -/
lemma missing_of_record {entity : String} (hs : Reachable s) (hsturdy : (s.scope w).Sturdy)
    (h : (Eval.record entity).exec w s = (.error (.error (.unresolved l name span)), s')) :
    Missing (s.scope w) s'.values l name span := by
  rw [exec_record] at h
  rcases hn : s.reset.workspace.entity? Workspace.root entity with _ | n
  · unfold Eval.entity at h
    simp only [Eval.exec_bind, Eval.exec_get] at h
    rcases hroot : s.reset.workspace.hasRoot with _ | _
    · simp only [hroot] at h
      cases (Prod.mk.inj h).1
    · simp only [hroot, hn] at h
      cases (Prod.mk.inj h).1
  · rw [exec_entity_some hn] at h
    have hg : s.reset.Guarded := .of_idle rfl
    rcases hv : (Eval.value n).exec w s.reset with ⟨f | v, s₁⟩ <;> rw [hv] at h
    · obtain ⟨h₁, rfl⟩ := Prod.mk.inj h
      obtain rfl := Except.error.inj h₁
      obtain ⟨b, s₂, hb, hfails, hvalues⟩ := Visit.exists_origin (a := ⟨n, s.reset⟩) hg hv
      have hI := (lasting_looks w s).reaches (inward_looks s) hg ⟨rfl, hs.looks⟩ hb
      have hscope : b.session.scope w = s.scope w := hb.scope
      have hmiss := hfails.missing (hb.guarded hg) (by rw [hscope]; exact hsturdy)
        (by rw [hb.workspace]; exact hI.2)
      rwa [hscope, hvalues] at hmiss
    · cases (Prod.mk.inj h).1

/-- **What checks without errors leave open.** Let no check of a document end with an error. Then
every reference stands for something, and the checks have evaluated no template with an unbound
name. Where an engine for the same documents and options, whatever was asked of it before, ends a
row with a name that means nothing, the name is an unbound name of a template, or it is a key that a
node reads from a value that does not have it. Of the world, only the disk need be the same. -/
theorem names_missing_after_clean_checks (hs : Reachable s) (hclean : s.Clean w)
    (hdisk : w'.disk = w.disk) :
    (s.scope w').Sturdy ∧
    (∀ t name, (s.scope w').Unbound t name → ∀ d < s.workspace.documents.size,
      (s.sampled w d).generators.lookup t = none) ∧
    ∀ entity l name span s',
      (Eval.record entity).exec w' s = (.error (.error (.unresolved l name span)), s') →
        Missing (s.scope w') s'.values l name span := by
  have hscope : s.scope w' = s.scope w := by
    simp only [Session.scope, Setting.scope, Session.setting, hdisk]
  have hsturdy : (s.scope w').Sturdy := by
    rw [hscope]
    exact hclean.sturdy
  refine ⟨hsturdy, fun t name hu d hd => ?_, fun entity l name span s' h => ?_⟩
  · rw [hscope] at hu
    exact ((hclean d hd).sampling.1.clear t name hu).generators
  · exact missing_of_record hs hsturdy h

lemma fresh_of_setting (h : s'.setting = s.setting) : s'.fresh w = s.fresh w := by
  have hset := congrFun h w
  rw [Session.fresh, Session.fresh, workspace_of_setting h,
    show s'.functions = s.functions from congrArg Setting.functions hset,
    show s'.options = s.options from congrArg Setting.options hset]

namespace Unseen

/-- A schema of an entity that looks up its row. The second row has a template, and the third a
value without the key that is read. -/
def text : String :=
  "entities:\n E:\n  x: !dict\n   source: !pipe\n    value: !sequence\n    transforms: lower\n" ++
    "   pairs:\n    '1': \x7bk: a\x7d\n    '2': !template '\x7b\x7bg\x7d\x7d'\n    '3': \x7b\x7d\n" ++
    "  y: !ref x.k"

/-- The document of the schema. -/
def document : Document := (Document.ofInline text).toOption.getD default

/-- A world without files. -/
def world : World := { disk := .ofDirectory [], time := default, entropy := 0 }

/-- The workspace of the schema. -/
def workspace : Workspace := .ofDocuments world.disk [document]

/-- A new engine for the schema. -/
def session : Session := .start workspace CallKind.all {} world

/-- An engine after a row. -/
def after (s : Session) : Session := ((Eval.record "E").exec world s).2

/-- The name that an evaluation ends with as it means nothing. -/
def unresolved? : Except Failure Value → Option String
  | .error (.error (.unresolved _ name _)) => some name
  | _ => none

lemma error_of_unresolved {x : Except Failure Value} (h : unresolved? x = some name) :
    ∃ l span, x = .error (.error (.unresolved l name span)) := by
  unfold unresolved? at h
  split at h
  · obtain rfl := Option.some.inj h
    exact ⟨_, _, rfl⟩
  · cases h

/-- The names that rows end with as they mean nothing. -/
def unresolvedNames (x : Except Failure (List (Except EvalError Value))) : List (Option String) :=
  (x.toOption.getD []).map fun r => unresolved? (r.mapError .error)

lemma row_of_unresolved {rows : List (Except EvalError Value)} {i : Nat}
    (h : (unresolvedNames (.ok rows))[i]? = some (some name)) :
    ∃ l span, rows[i]? = some (.error (.unresolved l name span)) := by
  obtain ⟨r, hr, hname⟩ := Option.map_eq_some_iff.mp ((List.getElem?_map ..).symm.trans h)
  obtain ⟨l, span, he⟩ := error_of_unresolved hname
  rcases r with e | v
  · obtain rfl := Failure.error.inj (Except.error.inj he)
    exact ⟨l, span, hr⟩
  · cases he

/-- Nothing is found where the schema is checked. The second and the third row of an engine end
with names. -/
lemma facts :
    (Document.ofInline text).toOption.isSome = true ∧
      document.imports.length = 0 ∧
      Check.distinctNames workspace Workspace.root = true ∧
      Check.findsNothing (session.fresh world) world Workspace.root = true ∧
      unresolvedNames ((Eval.rows "E" 3).exec world session).1 = [none, some "g", some "k"] ∧
      ((Eval.record "E").exec world session).1.toOption.isSome = true ∧
      unresolved? ((Eval.record "E").exec world (after session)).1 = some "g" := by
  decide +kernel

lemma ofInline_text : Document.ofInline text = .ok document :=
  Document.ofText_of_isSome facts.1

/-- No engine with the documents and the options of the new one finds an error in them. -/
lemma clean_of_setting {s : Session} (h : s.setting = session.setting) : s.Clean world := by
  obtain ⟨-, himports, hnames, hnothing, -⟩ := facts
  refine Check.clean_of_findsNothing (workspace_of_setting h) hnames himports ?_
  rw [fresh_of_setting h]
  exact hnothing

lemma reachable_after {s : Session} (h : Reachable s)
    (hv : ((Eval.record "E").exec world s).1.toOption.isSome = true) : Reachable (after s) :=
  h.record hv

lemma setting_after (s : Session) : (after s).setting = s.setting :=
  setting_record_snd world s "E"

end Unseen

open Unseen in
/-- The template of the second row is not evaluated by the check, and the row ends with its name. -/
theorem names_missing_in_second_row :
    ∃ l span s',
      (Eval.record "E").exec world (after session) =
        (.error (.error (.unresolved l "g" span)), s') ∧
      Missing ((after session).scope world) s'.values l "g" span := by
  have hs : Reachable (after session) :=
    reachable_after (.start workspace _ _ _) facts.2.2.2.2.2.1
  obtain ⟨-, -, hmiss⟩ := names_missing_after_clean_checks hs
    (clean_of_setting (setting_after session)) (rfl : world.disk = world.disk)
  obtain ⟨l, span, h⟩ := error_of_unresolved facts.2.2.2.2.2.2
  rcases hrow : (Eval.record "E").exec world (after session) with ⟨r, s'⟩
  rw [hrow] at h
  obtain rfl := h
  exact ⟨l, span, s', rfl, hmiss _ _ _ _ _ hrow⟩

open Unseen in
/-- No error is found in the schema, and of three rows of a new engine two end with names: the
second with that of a template, the third with a key. -/
theorem names_missing_in_unseen_rows :
    Workspace.ofInline world.disk text = .ok workspace ∧ session.Clean world ∧
      ∃ rows, ((Eval.rows "E" 3).exec world session).1 = .ok rows ∧
        (∃ l span, rows[1]? = some (.error (.unresolved l "g" span))) ∧
        ∃ l span, rows[2]? = some (.error (.unresolved l "k" span)) := by
  refine ⟨?_, clean_of_setting rfl, ?_⟩
  · rw [Workspace.ofInline, ofInline_text]
    rfl
  · have hnames := facts.2.2.2.2.1
    rcases hrows : ((Eval.rows "E" 3).exec world session).1 with f | rows <;> rw [hrows] at hnames
    · cases hnames
    · refine ⟨rows, rfl, row_of_unresolved ?_, row_of_unresolved ?_⟩ <;> rw [hnames] <;> rfl

end TestData.Engine
