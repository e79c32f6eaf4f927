import TestData.Proofs.Resolution.Dotted
import TestData.Proofs.Session.Steady

/-!
A dotted path reads what the record shows.

A record is put together from the values of its properties, and a path into it leads to the same
properties, or to a call from whose value the rest of the path is read. So a path with one more name
gives what the record at the shorter path has under that name, in whatever order the two are
evaluated; and a list or a record that has a value shows what its parts give.
-/

namespace TestData.Engine

open Schema

variable {resolve : NodeRef → Except EvalError Resolution} {w : World} {s s₀ : Session}
  {n t : NodeRef} {v : Option Value}

/-- The properties of every object have different names. -/
def DistinctNames (ws : Workspace) : Prop :=
  ∀ t properties, ws.kind t = .object properties → (propertyNames ws t properties).Nodup

/-- Names are told apart node by node. -/
lemma distinctNames_of_all {ws : Workspace} (h : (ws.refs.all fun t =>
    match ws.kind t with
    | .object properties => decide (propertyNames ws t properties).Nodup
    | _ => true) = true) : DistinctNames ws := by
  intro t properties hk
  by_cases ht : t ∈ ws.refs
  · have hn := List.all_eq_true.mp h t ht
    rw [hk] at hn
    exact of_decide_eq_true hn
  · cases (Workspace.kind_of_not_mem_refs ht).symm.trans hk

/-- A request of a steady row for a node has ended with a value. -/
def Gave (resolve : NodeRef → Except EvalError Resolution) (s₀ s : Session) (n : NodeRef)
    (v : Option Value) : Prop :=
  ∃ s₁ s₂ w, SteadyRow resolve s₀ s₁ ∧ (s₁.scope w).resolve = resolve ∧
    (Eval.value n).exec w s₁ = (.ok v, s₂) ∧ SteadyRow resolve s₂ s

/-- What a request of the row has ended with is known for the rest of it. -/
lemma Gave.known (h : Gave resolve s₀ s n v) (hs : s₀.active = []) :
    s.known resolve n = some v := by
  obtain ⟨s₁, s₂, w, h₁, hw, hv, h₂⟩ := h
  have hidle : s₂.active = [] := (h₁.trans (.value hw hv)).row.grows.active.trans hs
  have hk := known_of_value hv
  rw [hw] at hk
  exact (h₂.settles hidle).known hk

/-! ### Keys -/

lemma keysIn_append (v : Value) (keys keys' : List String) :
    keysIn v (keys ++ keys') =
      match keysIn v keys with
      | .ok u => keysIn u keys'
      | .error key => .error key := by
  induction keys generalizing v with
  | nil =>
    rw [List.nil_append]
    rcases v <;> rfl
  | cons key rest ih =>
    rcases v with _ | _ | _ | _ | _ | _ | _ | _ | f
    case object =>
      rw [List.cons_append, keysIn, keysIn]
      rcases f.get? key with _ | u
      · rfl
      · exact ih u
    all_goals rfl

lemma keysIn_object {f : Fields Value} {name : String} {y : Value}
    (h : keysIn (.object f) [name] = .ok y) : f.get? name = some y := by
  rw [keysIn] at h
  rcases hf : f.get? name with _ | u <;> rw [hf] at h
  · cases h
  · rcases u <;> exact congrArg some (Except.ok.inj h)

/-- What is read with one more name is what the record that is read without it has under the
name. -/
lemma readFrom_snoc {u x : Option Value} {keys : List String} {name : String} {f : Fields Value}
    (hf : readFrom keys u = .ok (some (.object f)))
    (hx : readFrom (keys ++ [name]) u = .ok x) : x = f.get? name := by
  rcases u with _ | u
  · cases hf
  · rw [readFrom] at hf hx
    rcases hk : keysIn u keys with _ | y <;> rw [hk] at hf
    · cases hf
    · obtain rfl := Option.some.inj (Except.ok.inj hf)
      rw [keysIn_append, hk] at hx
      dsimp only at hx
      rcases hy : keysIn (.object f) [name] with _ | z <;> rw [hy] at hx
      · cases hx
      · obtain rfl := Except.ok.inj hx
        exact (keysIn_object hy).symm

/-! ### Parts -/

/-- A list with a value shows its items, which are known. -/
lemma items_of_accounts (ha : s.Accounts resolve) {items : List NodeId}
    (hk : s.workspace.kind t = .list items) (hv : s.values.lookup t = some v) :
    ∃ vs, v = some (.array vs) ∧ vs.length = items.length ∧
      ∀ (j : Nat) (id : NodeId), items[j]? = some id →
        ∃ u : Option Value, s.known resolve (t.at id) = some u ∧ vs[j]? = some (u.getD .null) := by
  obtain ⟨w, hw⟩ := (accounted_plain (by simp [hk])).mp (ha t v hv)
  rw [hk, plainValue, Script.answer_bind, Option.bind_eq_some_iff] at hw
  obtain ⟨vs, hvs, hv⟩ := hw
  obtain ⟨hlen, hitems⟩ := items_of_answer hvs
  exact ⟨vs, (Option.some.inj hv).symm, hlen, hitems⟩

/-- An object with a value shows its properties, which are known, and nothing else. -/
lemma fields_of_accounts (ha : s.Accounts resolve) {properties : List NodeId}
    (hk : s.workspace.kind t = .object properties) (hv : s.values.lookup t = some v) :
    ∃ f, v = some (.object f) ∧
      (∀ name, name ∉ propertyNames s.workspace t properties → f.get? name = none) ∧
      ((propertyNames s.workspace t properties).Nodup → ∀ id ∈ properties, ∀ name x,
        s.workspace.kind (t.at id) = .property name x →
        s.known resolve (t.at id) = some (f.get? name)) := by
  obtain ⟨w, hw⟩ := (accounted_plain (by simp [hk])).mp (ha t v hv)
  rw [hk, plainValue, Script.answer_bind, Option.bind_eq_some_iff] at hw
  obtain ⟨f, hf, hv⟩ := hw
  refine ⟨f, (Option.some.inj hv).symm, fun name hn => get?_of_answer hf hn,
    fun hd id hid name x hx => ?_⟩
  obtain ⟨u, hu, hfu⟩ := fields_of_answer hf hd hid hx rfl
  rw [hu, hfu]

lemma property_of_some {sc : Scope} {name : String} {next : NodeRef}
    (h : sc.property? t name = some next) :
    ∃ properties id x, sc.workspace.kind t = .object properties ∧ id ∈ properties ∧
      next = t.at id ∧ sc.workspace.kind next = .property name x := by
  obtain ⟨properties, hk⟩ := Scope.object_of_property h
  unfold Scope.property? at h
  rw [hk] at h
  obtain ⟨id, hid, rfl⟩ := Option.map_eq_some_iff.mp h
  have hp := List.find?_some hid
  have hx : ∃ x, sc.workspace.kind (t.at id) = .property name x := by
    show ∃ x, (sc.workspace.document t.document).kind id = .property name x
    revert hp
    rcases (sc.workspace.document t.document).kind id with _ | _ | ⟨m, x⟩ | _ | _ | _ | _ <;> simp
  obtain ⟨x, hx⟩ := hx
  exact ⟨properties, id, x, hk, List.mem_of_find?_eq_some hid, rfl, hx⟩

/-! ### Paths -/

/-- What is known of a path with one more name is what the record that is known of the path without
it has under the name. -/
lemma known_longer (ha : s.Accounts resolve) (hd : DistinctNames s.workspace)
    (hw : (s.scope w).resolve = resolve) {n n' : NodeRef} {segments : List Segment} {k : Segment}
    {f : Fields Value} {x : Option Value} (hk : s.workspace.kind n = .reference segments)
    (hk' : s.workspace.kind n' = .reference (segments ++ [k]))
    (hl : ∀ name, (s.scope w).lookup? n' name = (s.scope w).lookup? n name)
    (hn : s.known resolve n = some (some (.object f))) (hn' : s.known resolve n' = some x) :
    x = f.get? k.name := by
  obtain ⟨r, hr, hrf⟩ := knownBy_eq_some.mp hn
  obtain ⟨r', hr', hrx⟩ := knownBy_eq_some.mp hn'
  rw [← hw] at hr hr'
  rcases Scope.resolve_longer (s := s.scope w) hk hk' hl hr hr' with
    ⟨v, next, rfl, hp, hnext⟩ | ⟨base, c, rfl, -, rfl⟩ | ⟨base, keys, rfl, rfl⟩
  -- the record is put together from its properties, one of which the longer path leads to
  · obtain ⟨properties, id, y, hobj, hid, rfl, hy⟩ := property_of_some hp
    have hobj' : s.workspace.kind v = .object properties := hobj
    have hv : s.values.lookup v = some (some (.object f)) := hrf
    obtain ⟨f', hf', -, hall⟩ := fields_of_accounts ha hobj' hv
    obtain rfl : f' = f := Value.object.inj (Option.some.inj hf'.symm)
    have hprop := hall (hd v properties hobj') id hid _ y hy
    have hx : s.known resolve (v.at id) = some x :=
      knownBy_eq_some.mpr ⟨r', by rw [← hw]; exact hnext, hrx⟩
    exact Option.some.inj (hx.symm.trans hprop)
  -- the record is the value of a call, from which the longer path reads
  · have hb : s.values.lookup base = some (some (.object f)) := hrf
    obtain ⟨u, hu, hx⟩ := read_extract.mp hrx
    obtain rfl := Option.some.inj (hb.symm.trans hu)
    have hf : readFrom [] (some (.object f)) = .ok (some (.object f)) := rfl
    exact readFrom_snoc hf hx
  -- both are read from the value of a call
  · obtain ⟨u, hu, hf⟩ := read_extract.mp hrf
    obtain ⟨u', hu', hx⟩ := read_extract.mp hrx
    obtain rfl := Option.some.inj (hu.symm.trans hu')
    exact readFrom_snoc hf hx

/-! ### A file that goes away -/

namespace Mistaken

/-- References to an entity of one of two other documents and to what it has under a name. -/
def reader : Document :=
  { path := "main.yaml"
    imports := [{ path := "a.yaml", entities := ["X"] }, { path := "b.yaml", entities := ["X"] }]
    entities := [5]
    nodes := #[{ kind := .reference [{ name := "X" }], parent := some 2 },
      { kind := .reference [{ name := "X" }, { name := "k" }], parent := some 3 },
      { kind := .property "r" 0, parent := some 4 }, { kind := .property "q" 1, parent := some 4 },
      { kind := .object [2, 3], parent := some 5 }, { kind := .entity "M" 4 }] }

/-- An entity with a text under a name. -/
def written (path : Files.Path) (text : String) : Document :=
  { path, imports := [], entities := [3]
    nodes := #[{ kind := .literal (.string text), parent := some 1 },
      { kind := .property "k" 0, parent := some 2 }, { kind := .object [1], parent := some 3 },
      { kind := .entity "X" 2 }] }

/-- An engine for the three documents. -/
def session : Session :=
  .start (.ofDocuments twoFiles.disk [reader, written "a.yaml" "one", written "b.yaml" "two"])
    CallKind.all {} twoFiles

/-- The session after a request for the record. -/
def shown : Session := ((Eval.value ⟨0, 0⟩).exec twoFiles session).2

lemma distinctNames : DistinctNames session.workspace := distinctNames_of_all (by decide)

/-- The references stand in the same objects. -/
lemma lookup_eq (w : World) (name : String) :
    (session.scope w).lookup? ⟨0, 1⟩ name = (session.scope w).lookup? ⟨0, 0⟩ name :=
  Scope.lookup_of_objectsAround rfl rfl name

lemma exec_record : ∃ f,
    (Eval.value ⟨0, 0⟩).exec twoFiles session = (.ok (some (.object f)), shown) ∧
      f.get? "k" = some (.string "one") := by
  have h : textUnder "k" ((Eval.value ⟨0, 0⟩).exec twoFiles session).1 = some "one" := by
    decide
  exact exec_of_textUnder h

end Mistaken

/-! ### Records and paths -/

/-- **A dotted path reads what the record shows.** In a row in which nodes stand for the same at
every request, let objects have properties of different names. If a reference gives a record, a
reference with one more name, written where names mean the same, gives what the record has under
that name, and nothing where the record has nothing. And once a list or an object has a value,
requests for its parts end with what it shows of them: an item that is absent is null in the list,
a property that is absent is left out. -/
theorem path_reads_record (h₀ : Reachable s₀) (hv₀ : s₀.values = [])
    (hd : DistinctNames s₀.workspace) (hs : SteadyRow resolve s₀ s)
    (hw : (s.scope w).resolve = resolve) :
    (∀ r r' segments k f x, s₀.workspace.kind r = .reference segments →
        s₀.workspace.kind r' = .reference (segments ++ [k]) →
        (∀ name, (s₀.scope w).lookup? r' name = (s₀.scope w).lookup? r name) →
        Gave resolve s₀ s r (some (.object f)) → Gave resolve s₀ s r' x → x = f.get? k.name) ∧
      (∀ t items v, s₀.workspace.kind t = .list items → s.values.lookup t = some v →
        ∃ vs, v = some (.array vs) ∧ vs.length = items.length ∧
          ∀ (j : Nat) (id : NodeId), items[j]? = some id →
            ∃ u : Option Value, (Eval.value (t.at id)).exec w s = (.ok u, s) ∧
              vs[j]? = some (u.getD .null)) ∧
      ∀ t properties v, s₀.workspace.kind t = .object properties → s.values.lookup t = some v →
        ∃ f, v = some (.object f) ∧
          (∀ name, name ∉ propertyNames s₀.workspace t properties → f.get? name = none) ∧
          ∀ id ∈ properties, ∀ name x, s₀.workspace.kind (t.at id) = .property name x →
            (Eval.value (t.at id)).exec w s = (.ok (f.get? name), s) := by
  obtain ⟨hsound, ha⟩ := hs.accounts h₀ hv₀
  have hws : s.workspace = s₀.workspace := workspace_of_setting hsound.1
  have hexec : ∀ {n v}, s.known resolve n = some v → (Eval.value n).exec w s = (.ok v, s) :=
    fun hn => value_of_known (by rw [hw]; exact hn)
  rw [← hws] at hd ⊢
  refine ⟨fun r r' segments k f x hk hk' hl hr hr' => ?_, fun t items v hk hv => ?_,
    fun t properties v hk hv => ?_⟩
  · rw [← hs.row.grows.scope] at hl
    exact known_longer ha hd hw hk hk' hl (hr.known h₀.idle) (hr'.known h₀.idle)
  · obtain ⟨vs, hvs, hlen, hitems⟩ := items_of_accounts ha hk hv
    refine ⟨vs, hvs, hlen, fun j id hj => ?_⟩
    obtain ⟨u, hu, hj⟩ := hitems j id hj
    exact ⟨u, hexec hu, hj⟩
  · obtain ⟨f, hf, hrest, hall⟩ := fields_of_accounts ha hk hv
    exact ⟨f, hf, hrest, fun id hid name x hx => hexec (hall (hd t properties hk) id hid name x hx)⟩

/-- In a row without a change of files a record shows a text, and the path to the text, evaluated
after it, reads the same. -/
theorem path_reads_shown_text :
    ∃ f, (Eval.value ⟨0, 0⟩).exec twoFiles Mistaken.session =
        (.ok (some (.object f)), Mistaken.shown) ∧
      ((Eval.value ⟨0, 1⟩).exec twoFiles Mistaken.shown).1 = .ok (f.get? "k") := by
  obtain ⟨f, hf, -⟩ := Mistaken.exec_record
  have htext : textOf ((Eval.value ⟨0, 1⟩).exec twoFiles Mistaken.shown).1 = some (some "one") := by
    decide
  have hx := exec_of_textOf htext
  have h₁ : SteadyRow (Mistaken.session.scope twoFiles).resolve Mistaken.session Mistaken.shown :=
    .value rfl hf
  have hw₁ : (Mistaken.shown.scope twoFiles).resolve =
      (Mistaken.session.scope twoFiles).resolve := by
    rw [h₁.row.grows.scope]
  have h₂ := SteadyRow.value hw₁ hx
  obtain ⟨h, -⟩ := path_reads_record (.start _ _ _ _) rfl Mistaken.distinctNames (h₁.trans h₂)
    (by rw [(h₁.trans h₂).row.grows.scope])
  have hread := h ⟨0, 0⟩ ⟨0, 1⟩ [{ name := "X" }] { name := "k" } f _ rfl rfl
    (Mistaken.lookup_eq twoFiles) ⟨_, _, twoFiles, .refl _, rfl, hf, h₂⟩
    ⟨_, _, twoFiles, h₁, hw₁, hx, .refl _⟩
  refine ⟨f, hf, ?_⟩
  rw [hx, hread]

/-- When the file of a record is gone after the record was shown, a path into it reads from another
record, which the shorter path does not show in this row. -/
theorem path_reads_other_record :
    Reachable Mistaken.session ∧ DistinctNames Mistaken.session.workspace ∧
      Mistaken.session.workspace.kind ⟨0, 0⟩ = .reference [{ name := "X" }] ∧
      Mistaken.session.workspace.kind ⟨0, 1⟩ = .reference [{ name := "X" }, { name := "k" }] ∧
      (∀ w name, (Mistaken.session.scope w).lookup? ⟨0, 1⟩ name =
        (Mistaken.session.scope w).lookup? ⟨0, 0⟩ name) ∧
      ∃ f, (Eval.value ⟨0, 0⟩).exec twoFiles Mistaken.session =
          (.ok (some (.object f)), Mistaken.shown) ∧
        f.get? "k" = some (.string "one") ∧
        ((Eval.value ⟨0, 1⟩).exec oneFile Mistaken.shown).1 = .ok (some (.string "two")) := by
  obtain ⟨f, hf, hk⟩ := Mistaken.exec_record
  have htext : textOf ((Eval.value ⟨0, 1⟩).exec oneFile Mistaken.shown).1 = some (some "two") := by
    decide
  refine ⟨.start _ _ _ _, Mistaken.distinctNames, rfl, rfl, Mistaken.lookup_eq, f, hf, hk, ?_⟩
  rw [exec_of_textOf htext]
  rfl

end TestData.Engine
