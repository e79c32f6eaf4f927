import TestData.Proofs.Session.Built
import TestData.Proofs.Session.Made

/-!
What templates see of the values of a row.

A template renders data in which its names are bound to the values of nodes. As all of these are
built, the data under a name is the document that a record shows for the same value, up to the order
of the members of objects.
-/

namespace TestData.Engine

open Schema

variable {w : World} {s : Session} {n t : NodeRef}

/-! ### Data of templates -/

/-- Data is bound under names for nodes, all of which are known: under each name for a node that has
a value, and beside what is there before only for these. -/
structure Binds (names : String → NodeRef → Prop) (known : Knowledge)
    (data data' : List (String × Json)) : Prop where
  sorted : (data.map (·.1)).Pairwise (· < ·) → (data'.map (·.1)).Pairwise (· < ·)
  sound : ∀ name j, (name, j) ∈ data' → (name, j) ∈ data ∨
    ∃ n v, names name n ∧ known n = some (some v) ∧ j = v.toData
  kept : ∀ name ∈ data.map (·.1), name ∈ data'.map (·.1)
  complete : ∀ name n, names name n → ∃ v, known n = some v ∧
    (v.isSome → name ∈ data'.map (·.1))

section

variable {names names' : String → NodeRef → Prop} {known : Knowledge} {name : String}
  {data data' data'' : List (String × Json)} {c : Setting}

lemma Binds.trans (h : Binds names known data data') (h' : Binds names' known data' data'') :
    Binds (fun name n => names name n ∨ names' name n) known data data'' where
  sorted := h'.sorted ∘ h.sorted
  sound name j hj := by
    rcases h'.sound name j hj with hj | ⟨n, v, hn, hv⟩
    · exact (h.sound name j hj).imp_right fun ⟨n, v, hn, hv⟩ => ⟨n, v, .inl hn, hv⟩
    · exact .inr ⟨n, v, .inr hn, hv⟩
  kept name hname := h'.kept name (h.kept name hname)
  complete name n hn := by
    rcases hn with hn | hn
    · obtain ⟨v, hv, hname⟩ := h.complete name n hn
      exact ⟨v, hv, fun hsome => h'.kept name (hname hsome)⟩
    · exact h'.complete name n hn

lemma Binds.congr (h : Binds names known data data') (hn : ∀ name n, names' name n ↔ names name n) :
    Binds names' known data data' := by
  obtain rfl : names' = names := funext fun name => funext fun n => propext (hn name n)
  exact h

lemma Binds.none (hnames : ∀ name n, ¬names name n) : Binds names known data data :=
  ⟨id, fun _ _ hj => .inl hj, fun _ h => h, fun name n hn => absurd hn (hnames name n)⟩

lemma mem_putSorted {p : String × Json} {j : Json} (h : p ∈ Json.putSorted name j data) :
    p = (name, j) ∨ p ∈ data := by
  induction data with
  | nil => exact .inl (List.mem_singleton.mp h)
  | cons q data ih =>
    obtain ⟨m, k⟩ := q
    rw [Json.putSorted] at h
    split_ifs at h with hm
    · rcases List.mem_cons.mp h with rfl | h
      · exact .inl (by rw [hm])
      · exact .inr (List.mem_cons_of_mem _ h)
    · exact List.mem_cons.mp h
    · rcases List.mem_cons.mp h with rfl | h
      · exact .inr List.mem_cons_self
      · exact (ih h).imp_right (List.mem_cons_of_mem _)

lemma names_putSorted {m : String} {j : Json} :
    m ∈ (Json.putSorted name j data).map (·.1) ↔ m = name ∨ m ∈ data.map (·.1) := by
  induction data with
  | nil => simp [Json.putSorted]
  | cons q data ih =>
    obtain ⟨m', k⟩ := q
    rw [Json.putSorted]
    split_ifs with hm
    · simp [hm]
    · simp
    · rw [List.map_cons, List.mem_cons, ih, List.map_cons, List.mem_cons]
      exact or_left_comm

lemma sorted_putSorted {j : Json} (h : (data.map (·.1)).Pairwise (· < ·)) :
    ((Json.putSorted name j data).map (·.1)).Pairwise (· < ·) := by
  induction data with
  | nil => exact List.pairwise_singleton _ _
  | cons q data ih =>
    obtain ⟨m, k⟩ := q
    obtain ⟨hm, hrest⟩ := List.pairwise_cons.mp h
    rw [Json.putSorted]
    split_ifs with hname hlt
    · exact h
    · refine List.pairwise_cons.mpr ⟨fun a ha => ?_, h⟩
      rcases List.mem_cons.mp ha with rfl | ha
      · exact hlt
      · exact String.lt_trans hlt (hm a ha)
    · refine List.pairwise_cons.mpr ⟨fun a ha => ?_, ih hrest⟩
      rcases names_putSorted.mp ha with rfl | ha
      · by_contra hnot
        exact hname (String.le_antisymm (String.not_lt.mp hnot) (String.not_lt.mp hlt))
      · exact hm a ha

/-- The data that values are bound to. -/
lemma binds_bindAll {l : List (String × NodeRef)}
    (h : (bindAll l data).answer c known = some data') :
    Binds (fun name n => (name, n) ∈ l) known data data' := by
  induction l generalizing data with
  | nil =>
    obtain rfl := Option.some.inj h
    exact .none fun _ _ h => by cases h
  | cons p rest ih =>
    obtain ⟨name, n⟩ := p
    rw [bindAll, Script.answer_bind, Script.answer_value, Option.bind_eq_some_iff] at h
    obtain ⟨v, hv, h⟩ := h
    have hhead : ∃ data₁, (bindAll rest data₁).answer c known = some data' ∧
        Binds (fun m k => m = name ∧ k = n) known data data₁ := by
      rcases v with _ | v
      · refine ⟨data, h, id, fun _ _ hj => .inl hj, fun _ h => h, ?_⟩
        rintro m k ⟨rfl, rfl⟩
        exact ⟨none, hv, fun h => by cases h⟩
      · refine ⟨_, h, sorted_putSorted, fun m j hj => ?_,
          fun m hm => names_putSorted.mpr (.inr hm), ?_⟩
        · rcases mem_putSorted hj with hj | hj
          · obtain ⟨rfl, rfl⟩ := Prod.mk.inj hj
            exact .inr ⟨n, v, ⟨rfl, rfl⟩, hv, rfl⟩
          · exact .inl hj
        · rintro m k ⟨rfl, rfl⟩
          exact ⟨some v, hv, fun _ => names_putSorted.mpr (.inl rfl)⟩
    obtain ⟨data₁, hrest, hbinds⟩ := hhead
    exact (hbinds.trans (ih hrest)).congr fun m k => by simp [Prod.ext_iff]

lemma binds_bindNames {l : Location} {l' : List String}
    (h : (bindNames l l' data).answer c known = some data') :
    Binds (fun name n => name ∈ l' ∧ c.scope.lookup? l.node name = some n) known data data' := by
  induction l' generalizing data with
  | nil =>
    obtain rfl := Option.some.inj h
    exact .none fun _ _ h => by cases h.1
  | cons name rest ih =>
    rw [bindNames, Script.answer_bind, Script.answer_setting, Option.bind_some] at h
    rcases hl : c.scope.lookup? l.node name with _ | n <;> rw [hl] at h
    · cases h
    · rw [Script.answer_bind, Option.bind_eq_some_iff] at h
      obtain ⟨data₁, hhead, hrest⟩ := h
      refine ((binds_bindAll hhead).trans (ih hrest)).congr fun m k => ?_
      rw [List.mem_cons, List.mem_singleton, Prod.mk.injEq]
      constructor
      · rintro ⟨rfl | hm, hk⟩
        · exact .inl ⟨rfl, Option.some.inj (hk.symm.trans hl)⟩
        · exact .inr ⟨hm, hk⟩
      · rintro (⟨rfl, rfl⟩ | ⟨hm, hk⟩)
        · exact ⟨.inl rfl, hl⟩
        · exact ⟨.inr hm, hk⟩

end

/-! ### Templates -/

/-- What a name of a template is bound to: a parameter of that name, or what the name means where
the template is. -/
def Scope.TemplateName (s : Scope) (t : NodeRef) (text : String) (params : List (String × NodeId))
    (name : String) (n : NodeRef) : Prop :=
  (∃ id, (name, id) ∈ params ∧ t.at id = n) ∨
    name ∈ Template.names text ∧ (∀ p ∈ params, p.1 ≠ name) ∧ s.lookup? t name = some n

namespace Generator

variable {st : Setting} {c : Call} {g g' : Generator} {src src' : Random.Source} {plan : Plan}

/-- A template at a node has the text and the parameters of the call there. -/
def Writes (ws : Workspace) (n : NodeRef) (g : Generator) : Prop :=
  ∀ text params, ws.kind n = .call (.template text params) →
    ∃ t, Template.parse? text = some t ∧
      g = .template (.of ws n) t (params.map fun p => (p.1, n.at p.2))
        ((Template.names text).filter fun name => !params.any (·.1 = name))

lemma Writes.step {ws : Workspace} (h : g.Writes ws n)
    (hs : g.step src = some ((plan, g'), src')) : g'.Writes ws n := by
  intro text params hk
  obtain ⟨t, ht, rfl⟩ := h text params hk
  obtain ⟨h', -⟩ := Prod.mk.inj (Option.some.inj hs)
  exact ⟨t, ht, (Prod.mk.inj h').2.symm⟩

lemma writes_ofCallAs (hk : st.workspace.kind n = .call c) :
    (ofCallAs c.kind n c).Ensures st (Writes st.workspace n) := by
  by_cases ht : ∃ text params, c = .template text params
  · obtain ⟨text, params, rfl⟩ := ht
    refine (template_ofCallAs st n text params).mono fun g hg text' params' hk' => ?_
    obtain ⟨rfl, rfl⟩ := Call.template.inj (Kind.call.inj (hk.symm.trans hk'))
    exact hg
  · refine Script.ensures_of_forall (fun g text params hk' => ?_) _
    exact absurd ⟨text, params, Kind.call.inj (hk.symm.trans hk')⟩ ht

end Generator

/-- What a rendering ends with is the text of data that is bound for the names of a template. -/
lemma render_of_answer {c : Setting} {known : Knowledge} {l : Location} {tm : Template}
    {ps : List (String × NodeRef)} {names : List String} {v : Option Value}
    (h : (Plan.render l tm ps names).script.answer c known = some v) :
    ∃ data out, tm.render? (.object data) = some out ∧ v = some (.string out) ∧
      Binds (fun name n => (name, n) ∈ ps ∨
        name ∈ names ∧ c.scope.lookup? l.node name = some n) known [] data := by
  rw [Plan.script, Script.answer_bind, Option.bind_eq_some_iff] at h
  obtain ⟨data₁, hall, h⟩ := h
  rw [Script.answer_bind, Option.bind_eq_some_iff] at h
  obtain ⟨data, hnames, hrender⟩ := h
  rcases hr : tm.render? (.object data) with _ | out <;> rw [hr] at hrender
  · cases hrender
  · exact ⟨data, out, hr, (Option.some.inj hrender).symm,
      (binds_bindAll hall).trans (binds_bindNames hnames)⟩

lemma Reachable.writes (h : Reachable s) : s.Holds (Generator.Writes s.workspace) :=
  h.holds (P := Generator.Writes) (fun _ _ _ hk => Generator.writes_ofCallAs hk) fun h => h.step

/-- The value of a template in a row is the text of data that is bound for its names. -/
lemma RowIn.rendered {s₀ : Session} {text : String} {params : List (String × NodeId)}
    {v : Option Value} (h : RowIn w s₀ s) (hs : Reachable s₀) (hv₀ : s₀.values = [])
    (hk : s.workspace.kind t = .call (.template text params)) (hv : s.values.lookup t = some v) :
    ∃ tm data out, Template.parse? text = some tm ∧ tm.render? (.object data) = some out ∧
      v = some (.string out) ∧
      Binds ((s.scope w).TemplateName t text params) (knownBy (s.scope w).resolve s.values) []
        data := by
  have hscope : s.scope w = s₀.scope w := h.steady.row.grows.scope w
  have hws : s.workspace = s₀.workspace := h.steady.row.grows.workspace
  -- the generator of a node that has a value is kept
  obtain ⟨hsound, ha⟩ := h.steady.accounts hs hv₀
  obtain ⟨g, hg, -⟩ := (accounted_call hk).mp (ha t v hv)
  have hwrites := h.keeps hs.idle (lasting_holds (P := Generator.Writes s₀.workspace)
    (fun _ _ hk => Generator.writes_ofCallAs hk) fun h => h.step) ⟨rfl, hs.writes⟩
  obtain ⟨tm, htm, rfl⟩ := hwrites.2 t g hg text params (hws ▸ hk)
  obtain ⟨_, rfl, hans⟩ := h.made hs.idle hv₀ t v hv ⟨_, hk⟩ _ _ hg rfl
  rw [← hscope] at hans
  obtain ⟨data, out, hr, hout, hb⟩ := render_of_answer hans
  refine ⟨tm, data, out, htm, hr, hout, hb.congr fun name n => or_congr ?_ ?_⟩
  · simp
  · rw [List.mem_filter]
    simp [and_assoc, Session.scope, Location.of]

/-- **One document, and templates see it.** The two ways of writing a value as JSON give the same
document up to the order of members, for every value whose objects are made by inserting, and every
value of a row is such a value. The text of a template in a row is what it renders from data that
has, under each of its names that has a value in the row, once, the document of this value, up to
the order of members; and nothing else. -/
theorem templates_see_the_record :
    (∀ v : Value, v.Built → v.toJson.Alike v.toData) ∧
    ∀ (s₀ s : Session) (w : World), Reachable s₀ → s₀.values = [] → RowIn w s₀ s →
      (∀ n x s', (Eval.value n).exec w s = (.ok (some x), s') → x.Built) ∧
      ∀ t text params v, s.workspace.kind t = .call (.template text params) →
        s.values.lookup t = some v →
        ∃ tm data out, Template.parse? text = some tm ∧ tm.render? (.object data) = some out ∧
          v = some (.string out) ∧ (data.map (·.1)).Nodup ∧
          (∀ name j, (name, j) ∈ data → ∃ m x, (s.scope w).TemplateName t text params name m ∧
            (Eval.value m).exec w s = (.ok (some x), s) ∧ x.toJson.Alike j) ∧
          ∀ name m, (s.scope w).TemplateName t text params name m →
            ∃ u, (Eval.value m).exec w s = (.ok u, s) ∧ (u.isSome → name ∈ data.map (·.1)) := by
  refine ⟨fun v hv => hv.alike, fun s₀ s w hs hv₀ hrow => ?_⟩
  have hkept : s.setting = s₀.setting ∧ s.KeepsBuilt :=
    hrow.keeps hs.idle (lasting_keepsBuilt w s₀) ⟨rfl, hs.keepsBuilt⟩
  refine ⟨fun n x s' hx => ?_, fun t text params v hk hv => ?_⟩
  · have hlast := (lasting_keepsBuilt w s₀).value (hrow.steady.guarded hs.idle) hkept n
    rw [hx] at hlast
    exact hlast.2.value hx x rfl
  · obtain ⟨tm, data, out, htm, hr, hout, hb⟩ := hrow.rendered hs hv₀ hk hv
    have hdistinct : (data.map (·.1)).Nodup := by
      refine (hb.sorted .nil).imp fun {a b} hlt => ?_
      rintro rfl
      exact String.lt_irrefl a hlt
    refine ⟨tm, data, out, htm, hr, hout, hdistinct, fun name j hj => ?_, fun name m hm => ?_⟩
    · rcases hb.sound name j hj with hj | ⟨m, x, hm, hx, rfl⟩
      · cases hj
      · have hval := value_of_known hx
        exact ⟨m, x, hm, hval, (hkept.2.value hval x rfl).alike⟩
    · obtain ⟨u, hu, hname⟩ := hb.complete name m hm
      exact ⟨u, value_of_known hu, hname⟩

namespace Shown

/-- Two fields that are not in the order of their names. -/
def value : Value := .object (.ofList [("b", .int 2), ("a", .string "y")])

/-- A text that shows both fields, one by a parameter and one by name. -/
def text : String := "\x7b\x7bx.a\x7d\x7d\x7b\x7bo.b\x7d\x7d"

/-- An entity with a record of such fields and a template of that text. -/
def document : Document :=
  { path := "a.yaml", imports := [], entities := [10]
    nodes := #[{ kind := .literal (.number ⟨2, "2"⟩), parent := some 1 },
      { kind := .property "b" 0, parent := some 4 },
      { kind := .literal (.string "y"), parent := some 3 },
      { kind := .property "a" 2, parent := some 4 }, { kind := .object [1, 3], parent := some 5 },
      { kind := .property "o" 4, parent := some 9 },
      { kind := .reference [{ name := "o" }], parent := some 7 },
      { kind := .call (.template text [("x", 6)]), parent := some 8 },
      { kind := .property "t" 7, parent := some 9 }, { kind := .object [5, 8], parent := some 10 },
      { kind := .entity "E" 9 }] }

/-- A world without files. -/
def world : World := { disk := .ofDirectory [], time := default, entropy := 0 }

/-- An engine for the document. -/
def session : Session := .start (.ofDocuments world.disk [document]) CallKind.all {} world

/-- The engine after a request for the template. -/
def after : Session := ((Request.value ⟨0, 8⟩).exec world session).2

lemma rowIn_after : RowIn world session after := .step (.refl session) (.value ⟨0, 8⟩) rfl

lemma kind_template : after.workspace.kind ⟨0, 7⟩ = .call (.template text [("x", 6)]) := by
  rw [rowIn_after.steady.row.grows.workspace]
  rfl

lemma facts :
    (after.values.lookup ⟨0, 7⟩).isSome = true ∧
      (after.scope world).lookup? ⟨0, 7⟩ "o" = some ⟨0, 5⟩ ∧
      Template.names text = ["x", "o"] ∧
      ((Eval.value ⟨0, 5⟩).exec world after).1.toOption.any Option.isSome = true := by
  decide +kernel

end Shown

open Shown in
/-- The template is given the record as its data. -/
theorem template_sees_nested_record :
    value.toJson.Alike value.toData ∧
      ∃ j m x, (after.scope world).TemplateName ⟨0, 7⟩ text [("x", 6)] "o" m ∧
        (Eval.value m).exec world after = (.ok (some x), after) ∧ x.toJson.Alike j := by
  obtain ⟨hshown, hlookup, hnames, hsome⟩ := facts
  obtain ⟨halike, hrow⟩ := templates_see_the_record
  obtain ⟨v, hv⟩ := Option.isSome_iff_exists.mp hshown
  obtain ⟨-, htemplate⟩ := hrow session after world (.start _ _ _ _) rfl rowIn_after
  obtain ⟨tm, data, out, -, -, -, -, hsound, hcomplete⟩ := htemplate ⟨0, 7⟩ _ _ v kind_template hv
  have ho : (after.scope world).TemplateName ⟨0, 7⟩ text [("x", 6)] "o" ⟨0, 5⟩ :=
    .inr ⟨by rw [hnames]; simp, by simp, hlookup⟩
  obtain ⟨u, hu, hin⟩ := hcomplete "o" _ ho
  rw [hu] at hsome
  obtain ⟨⟨name, j⟩, hj, rfl⟩ := List.mem_map.mp (hin hsome)
  obtain ⟨m, x, hm, hx, hxj⟩ := hsound _ j hj
  refine ⟨halike value (.object ?_), j, m, x, hm, hx, hxj⟩
  simp only [List.forall_mem_cons, List.not_mem_nil, false_imp_iff, implies_true, and_true]
  exact ⟨.scalar rfl, .scalar rfl⟩

end TestData.Engine
