import TestData.Proofs.Evaluation.Answer
import TestData.Proofs.Session.Row
import TestData.Proofs.Value.Fields

/-!
What the values that a session keeps tell of nodes.

A request that ends with a value leaves the value known, and a request for what is known ends with
it. So what the evaluation of a node was answered can be read off the values that are kept
afterwards: a list shows its items, and an object its properties.
-/

namespace TestData.Engine

open Schema

/-- What the values that are kept make of what a node stands for. -/
def Resolution.read (values : List (NodeRef × Option Value)) : Resolution → Option (Option Value)
  | .value t => values.lookup t
  | .extract base keys => (values.lookup base).bind fun u => (readFrom keys u).toOption

/-- What the values that are kept tell of nodes, given what the nodes stand for. -/
def knownBy (resolve : NodeRef → Except EvalError Resolution)
    (values : List (NodeRef × Option Value)) : Knowledge :=
  fun n => (resolve n).toOption.bind (Resolution.read values)

variable {resolve : NodeRef → Except EvalError Resolution}
  {values values' : List (NodeRef × Option Value)} {r : Resolution} {n t base : NodeRef}
  {keys : List String} {v : Option Value} {w : World} {s s' s₁ : Session}

lemma read_extract : (Resolution.extract base keys).read values = some v ↔
    ∃ u, values.lookup base = some u ∧ readFrom keys u = .ok v := by
  unfold Resolution.read
  rw [Option.bind_eq_some_iff]
  refine exists_congr fun u => and_congr_right fun _ => ⟨ok_of_toOption, fun h => ?_⟩
  rw [h]
  rfl

lemma read_iff_knows : r.read s.values = some v ↔ s.Knows r v := by
  rcases r with t | ⟨base, keys⟩
  · rfl
  · exact read_extract

lemma read_mono (h : ∀ t v, values.lookup t = some v → values'.lookup t = some v)
    (hr : r.read values = some v) : r.read values' = some v := by
  rcases r with t | ⟨base, keys⟩
  · exact h t v hr
  · obtain ⟨u, hu, hk⟩ := read_extract.mp hr
    exact read_extract.mpr ⟨u, h base u hu, hk⟩

lemma knownBy_of_ok (hr : resolve n = .ok r) : knownBy resolve values n = r.read values := by
  unfold knownBy
  rw [hr]
  rfl

lemma knownBy_eq_some : knownBy resolve values n = some v ↔
    ∃ r, resolve n = .ok r ∧ r.read values = some v := by
  unfold knownBy
  rw [Option.bind_eq_some_iff]
  refine exists_congr fun r => and_congr_left fun _ => ⟨ok_of_toOption, fun h => ?_⟩
  rw [h]
  rfl

lemma knownBy_mono (h : ∀ t v, values.lookup t = some v → values'.lookup t = some v)
    (hn : knownBy resolve values n = some v) : knownBy resolve values' n = some v := by
  obtain ⟨r, hr, hv⟩ := knownBy_eq_some.mp hn
  exact knownBy_eq_some.mpr ⟨r, hr, read_mono h hv⟩

/-- A request that ends with a value leaves it known. -/
lemma known_of_value (h : (Eval.value n).exec w s = (.ok v, s₁)) :
    knownBy (s.scope w).resolve s₁.values n = some v := by
  obtain ⟨r, hr⟩ := resolve_of_value h
  exact knownBy_eq_some.mpr ⟨r, hr, read_iff_knows.mpr (knows_of_value hr h)⟩

/-- A request for what is known ends with it and changes nothing. -/
lemma value_of_known (h : knownBy (s.scope w).resolve s.values n = some v) :
    (Eval.value n).exec w s = (.ok v, s) := by
  obtain ⟨r, hr, hv⟩ := knownBy_eq_some.mp h
  exact value_of_knows hr (read_iff_knows.mp hv)

lemma Script.exec_value (value : NodeRef → Eval (Option Value)) (n : NodeRef) :
    ((Script.value n).run value).exec w s = (value n).exec w s := by
  unfold Script.value
  rw [exec_ask]
  rcases (value n).exec w s with ⟨_ | _, _⟩ <;> rfl

/-- What a script was answered is known when it ends. -/
theorem answer_known {α : Type} {x : Script α} {a : α} (hx : x.Quiet)
    (h : (x.run Eval.value).exec w s = (.ok a, s')) :
    x.answer (s.setting w) (knownBy (s.scope w).resolve s'.values) = some a := by
  have hk : ∀ b ∈ x.visits Eval.value w s, Keeps b.session (b.outcome Eval.value w).2 :=
    fun b _ => keeps_value w b.node b.session
  refine Script.answer_of_run hx hk (fun b hb v s₁ hv => ?_) h
  obtain ⟨hbefore, hafter⟩ := Script.rel_visit Keeps.passive x s hk b hb
  rw [hv, h] at hafter
  rw [← hbefore.scope w]
  exact knownBy_mono hafter.values (known_of_value hv)

/-! ### What lists and objects show -/

section

variable {c : Setting} {known : Knowledge} {owner : NodeRef} {ids : List NodeId}

/-- The items of a list are known, and the list shows them. -/
lemma items_of_answer {vs : List Value} (h : (itemValues owner ids).answer c known = some vs) :
    vs.length = ids.length ∧ ∀ (j : Nat) (id : NodeId), ids[j]? = some id →
      ∃ u : Option Value, known (owner.at id) = some u ∧ vs[j]? = some (u.getD .null) := by
  induction ids generalizing vs with
  | nil =>
    obtain rfl := Option.some.inj h
    exact ⟨rfl, fun j id hj => by cases hj⟩
  | cons id rest ih =>
    simp only [itemValues, Script.answer_bind, Script.answer_value, Script.answer_pure,
      Option.bind_eq_some_iff] at h
    obtain ⟨u, hu, us, hus, hvs⟩ := h
    obtain rfl := Option.some.inj hvs
    obtain ⟨hlen, hrest⟩ := ih hus
    refine ⟨by simp [hlen], fun j id' hj => ?_⟩
    rcases j with _ | j
    · obtain rfl := Option.some.inj hj
      exact ⟨u, hu, rfl⟩
    · exact hrest j id' hj

/-- The names of the properties among nodes of a document. -/
def propertyNames (ws : Workspace) (owner : NodeRef) (ids : List NodeId) : List String :=
  ids.filterMap fun id =>
    match ws.kind (owner.at id) with
    | .property name _ => some name
    | _ => none

lemma propertyNames_cons_property {ws : Workspace} {id x : NodeId} {name : String}
    (hk : ws.kind (owner.at id) = .property name x) :
    propertyNames ws owner (id :: ids) = name :: propertyNames ws owner ids := by
  simp [propertyNames, hk]

lemma propertyNames_cons_other {ws : Workspace} {id : NodeId}
    (hk : ∀ name x, ws.kind (owner.at id) ≠ .property name x) :
    propertyNames ws owner (id :: ids) = propertyNames ws owner ids := by
  unfold propertyNames
  rw [List.filterMap_cons]
  rcases h : ws.kind (owner.at id) with _ | _ | ⟨name, x⟩ | _ | _ | _ | _
  case property => exact absurd h (hk name x)
  all_goals rfl

/-- The fields of an object after the value of a property. -/
def extended (f : Fields Value) (name : String) : Option Value → Fields Value
  | some v => f.insert name v
  | none => f

lemma answer_fieldValues_property {f : Fields Value} {id x : NodeId} {name : String}
    (hk : c.workspace.kind (owner.at id) = .property name x) :
    (fieldValues owner f (id :: ids)).answer c known =
      (known (owner.at id)).bind fun u =>
        (fieldValues owner (extended f name u) ids).answer c known := by
  simp only [fieldValues, Script.answer_bind, Script.answer_kind, hk, Option.bind_some,
    Script.answer_value]
  rcases known (owner.at id) with _ | _ | _ <;> rfl

lemma answer_fieldValues_other {f : Fields Value} {id : NodeId}
    (hk : ∀ name x, c.workspace.kind (owner.at id) ≠ .property name x) :
    (fieldValues owner f (id :: ids)).answer c known =
      (fieldValues owner f ids).answer c known := by
  simp only [fieldValues, Script.answer_bind, Script.answer_kind, Option.bind_some]

lemma get?_extended (f : Fields Value) (name m : String) (u : Option Value) :
    (extended f name u).get? m = if m = name then u.or (f.get? m) else f.get? m := by
  rcases u with _ | v
  · simp [extended]
  · exact Fields.get?_insert f name m v

/-- What an object has under a name that is not the name of one of the properties is left. -/
lemma get?_of_answer {f g : Fields Value} {name : String}
    (h : (fieldValues owner f ids).answer c known = some g)
    (hn : name ∉ propertyNames c.workspace owner ids) : g.get? name = f.get? name := by
  induction ids generalizing f with
  | nil =>
    obtain rfl := Option.some.inj h
    rfl
  | cons id rest ih =>
    by_cases hk : ∃ m x, c.workspace.kind (owner.at id) = .property m x
    · obtain ⟨m, x, hk⟩ := hk
      rw [answer_fieldValues_property hk] at h
      rw [propertyNames_cons_property hk, List.mem_cons, not_or] at hn
      obtain ⟨u, -, hu⟩ := Option.bind_eq_some_iff.mp h
      rw [ih hu hn.2, get?_extended, if_neg hn.1]
    · have hk' : ∀ m x, c.workspace.kind (owner.at id) ≠ .property m x :=
        fun m x hm => hk ⟨m, x, hm⟩
      rw [answer_fieldValues_other hk'] at h
      rw [propertyNames_cons_other hk'] at hn
      exact ih h hn

/-- The properties of an object are known, and the object shows them under their names. -/
lemma fields_of_answer {f g : Fields Value} {id x : NodeId} {name : String}
    (h : (fieldValues owner f ids).answer c known = some g)
    (hd : (propertyNames c.workspace owner ids).Nodup) (hid : id ∈ ids)
    (hk : c.workspace.kind (owner.at id) = .property name x) (hf : f.get? name = none) :
    ∃ u : Option Value, known (owner.at id) = some u ∧ g.get? name = u := by
  induction ids generalizing f with
  | nil => cases hid
  | cons id' rest ih =>
    by_cases hk' : ∃ m x, c.workspace.kind (owner.at id') = .property m x
    · obtain ⟨m, x', hk'⟩ := hk'
      rw [answer_fieldValues_property hk'] at h
      rw [propertyNames_cons_property hk', List.nodup_cons] at hd
      obtain ⟨u, hu, hrest⟩ := Option.bind_eq_some_iff.mp h
      rcases List.mem_cons.mp hid with rfl | hid
      · obtain ⟨rfl, rfl⟩ := Kind.property.inj (hk'.symm.trans hk)
        refine ⟨u, hu, ?_⟩
        rw [get?_of_answer hrest hd.1, get?_extended, if_pos rfl, hf, Option.or_none]
      · have hmem : name ∈ propertyNames c.workspace owner rest :=
          List.mem_filterMap.mpr ⟨id, hid, by rw [hk]⟩
        have hne : name ≠ m := by
          rintro rfl
          exact hd.1 hmem
        exact ih hrest hd.2 hid (by rw [get?_extended, if_neg hne, hf])
    · have hk'' : ∀ m x, c.workspace.kind (owner.at id') ≠ .property m x :=
        fun m x hm => hk' ⟨m, x, hm⟩
      rw [answer_fieldValues_other hk''] at h
      rw [propertyNames_cons_other hk''] at hd
      rcases List.mem_cons.mp hid with rfl | hid
      · exact absurd hk (hk'' name x)
      · exact ih h hd hid hf

end

/-! ### What a request shows -/

/-- The text that an evaluation ends with, or that it ends with nothing. -/
def textOf : Except Failure (Option Value) → Option (Option String)
  | .ok none => some none
  | .ok (some (.string text)) => some (some text)
  | _ => none

lemma exec_of_textOf {x : Except Failure (Option Value) × Session} {text : Option String}
    (h : textOf x.1 = some text) : x = (.ok (text.map .string), x.2) := by
  obtain ⟨r, s⟩ := x
  rcases r with _ | _ | v
  · cases h
  · obtain rfl := Option.some.inj h
    rfl
  · rcases v <;> cases h
    rfl

/-- A request ends with an error. -/
def isError : Option Failure → Bool
  | some (.error _) => true
  | _ => false

lemma ne_stuck_of_isError {f : Option Failure} (h : isError f = true) : f ≠ some .stuck := by
  rintro rfl
  cases h

/-- The text that an evaluation ends with under a name of a record. -/
def textUnder (name : String) : Except Failure (Option Value) → Option String
  | .ok (some (.object f)) =>
    match f.get? name with
    | some (.string text) => some text
    | _ => none
  | _ => none

lemma exec_of_textUnder {x : Except Failure (Option Value) × Session} {name text : String}
    (h : textUnder name x.1 = some text) :
    ∃ f, x = (.ok (some (.object f)), x.2) ∧ f.get? name = some (.string text) := by
  obtain ⟨r, s⟩ := x
  unfold textUnder at h
  split at h
  · rename_i f hr
    obtain rfl : r = _ := hr
    split at h
    · rename_i hf
      obtain rfl := Option.some.inj h
      exact ⟨f, rfl, hf⟩
    · cases h
  · cases h

end TestData.Engine
