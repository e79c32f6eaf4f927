import TestData.Proofs.Value.Fields

/-!
One document, written in two ways.

A value is written as JSON with the fields of its objects in order, and given to templates as data
with the members of its objects sorted. Both are the same document up to the order of members, as
the names of the fields of an object are distinct: inserting under a name that is there replaces
its value.
-/

namespace TestData

/-- Two documents are the same up to the order of the members of their objects: the same scalars,
the items of arrays in order, and objects with the same names, each once, for the same members. -/
inductive Json.Alike : Json → Json → Prop
  | null : Alike .null .null
  | bool (b : Bool) : Alike (.bool b) (.bool b)
  | int (n : Int) : Alike (.int n) (.int n)
  | float (x : Float) : Alike (.float x) (.float x)
  | string (s : String) : Alike (.string s) (.string s)
  | array {items items' : List Json} (length : items.length = items'.length)
      (items_alike : ∀ (i : Nat) (j k : Json), items[i]? = some j → items'[i]? = some k →
        Alike j k) :
      Alike (.array items) (.array items')
  | object {members members' : List (String × Json)} (distinct : (members.map (·.1)).Nodup)
      (names : (members.map (·.1)).Perm (members'.map (·.1)))
      (members_alike : ∀ (n : String) (j k : Json), (n, j) ∈ members → (n, k) ∈ members' →
        Alike j k) :
      Alike (.object members) (.object members')

/-- A value whose objects, however deep, are made of no fields by inserting one after the other. -/
inductive Value.Built : Value → Prop
  | scalar {v : Value} : v.isComposite = false → Built v
  | array {items : List Value} : (∀ v ∈ items, Built v) → Built (.array items)
  | object {l : List (String × Value)} : (∀ p ∈ l, Built p.2) → Built (.object (.ofList l))

namespace Value

/-- What is inserted into an object that is built is built. -/
lemma Built.insert {f : Fields Value} {v : Value} (name : String) (hf : (Value.object f).Built)
    (hv : v.Built) : (Value.object (f.insert name v)).Built := by
  generalize hw : Value.object f = w at hf
  cases hf with
  | scalar h =>
    subst hw
    cases h
  | array _ => cases hw
  | @object l hl =>
    obtain rfl := Value.object.inj hw
    rw [← Fields.ofList_snoc]
    refine .object fun p hp => ?_
    rcases List.mem_append.mp hp with hp | hp
    · exact hl p hp
    · rw [List.mem_singleton.mp hp]
      exact hv

/-- What an object that is built has under a name is built. -/
lemma Built.get? {f : Fields Value} {v : Value} {name : String} (hf : (Value.object f).Built)
    (hv : f.get? name = some v) : v.Built := by
  generalize hw : Value.object f = w at hf
  cases hf with
  | scalar h =>
    subst hw
    cases h
  | array _ => cases hw
  | @object l hl =>
    obtain rfl := Value.object.inj hw
    obtain ⟨front, back, hentries, -⟩ := List.lookup_eq_some_iff.mp hv
    exact hl (name, v) (Fields.mem_of_mem_ofList (by rw [hentries]; simp))

/-! ### Members -/

lemma itemsJson_eq (items : List Value) : itemsJson items = items.map toJson := by
  induction items with
  | nil => rfl
  | cons v items ih => rw [itemsJson, ih, List.map_cons]

lemma itemsData_eq (items : List Value) : itemsData items = items.map toData := by
  induction items with
  | nil => rfl
  | cons v items ih => rw [itemsData, ih, List.map_cons]

lemma entriesJson_eq (entries : List (String × Value)) :
    entriesJson entries = entries.map fun p => (p.1, p.2.toJson) := by
  induction entries with
  | nil => rfl
  | cons p entries ih => rw [entriesJson, ih, List.map_cons]

/-- A new member is added somewhere. -/
lemma putSorted_perm {name : String} {j : Json} {members : List (String × Json)}
    (h : name ∉ members.map (·.1)) :
    (Json.putSorted name j members).Perm ((name, j) :: members) := by
  induction members with
  | nil => exact .refl _
  | cons m members ih =>
    obtain ⟨n, k⟩ := m
    obtain ⟨hne, hnot⟩ := not_or.mp (mt List.mem_cons.mpr h)
    rw [Json.putSorted, if_neg hne]
    split_ifs
    · exact .refl _
    · exact ((ih hnot).cons _).trans (.swap _ _ _)

/-- Fields with distinct names become members in another order. -/
lemma entriesData_perm {entries : List (String × Value)} {members : List (String × Json)}
    (h : ((members.map (·.1)) ++ entries.map (·.1)).Nodup) :
    (entriesData entries members).Perm (members ++ entries.map fun p => (p.1, p.2.toData)) := by
  induction entries generalizing members with
  | nil => simp [entriesData]
  | cons p entries ih =>
    obtain ⟨n, v⟩ := p
    have hn : n ∉ members.map (·.1) := by
      intro hmem
      exact (List.nodup_append.mp h).2.2 n hmem n List.mem_cons_self rfl
    have hput := putSorted_perm (j := v.toData) hn
    have hnodup : ((Json.putSorted n v.toData members).map (·.1) ++ entries.map (·.1)).Nodup := by
      refine (List.Perm.nodup_iff ?_).mpr h
      exact ((hput.map _).append_right _).trans List.perm_middle.symm
    rw [entriesData, List.map_cons]
    exact (ih hnodup).trans ((hput.append_right _).trans List.perm_middle.symm)

/-- **A value is one document, written in two ways**: with the fields of its objects in order, and
with their members sorted. -/
lemma Built.alike {v : Value} (h : v.Built) : v.toJson.Alike v.toData := by
  induction h with
  | @scalar v h =>
    rcases v with _ | b | n | x | s | d | t | items | fields
    case null => exact .null
    case bool => exact .bool b
    case int => exact .int n
    case float =>
      show (floatJson x).Alike (floatJson x)
      unfold floatJson
      split_ifs
      · exact .float x
      · exact .null
    case string => exact .string s
    case date => exact .string d.text
    case timestamp => exact .string t.text
    case array => cases h
    case object => cases h
  | @array items _ ih =>
    rw [toJson, toData, itemsJson_eq, itemsData_eq]
    refine .array (by simp) fun i j k hj hk => ?_
    rw [List.getElem?_map, Option.map_eq_some_iff] at hj hk
    obtain ⟨v, hv, rfl⟩ := hj
    obtain ⟨v', hv', rfl⟩ := hk
    obtain rfl := Option.some.inj (hv.symm.trans hv')
    exact ih v (List.mem_of_getElem? hv)
  | @object l _ ih =>
    have hnodup : ((Fields.ofList l).entries.map (·.1)).Nodup := (Fields.ofList_follows l).nodup
    have hmem : ∀ p ∈ (Fields.ofList l).entries, p ∈ l := fun p => Fields.mem_of_mem_ofList
    generalize Fields.ofList l = f at hnodup hmem ⊢
    obtain ⟨entries⟩ := f
    have hperm : (entriesData entries []).Perm (entries.map fun p => (p.1, p.2.toData)) :=
      entriesData_perm (by simpa using hnodup)
    have hnames (f : Value → Json) :
        (entries.map fun p => (p.1, f p.2)).map (·.1) = entries.map (·.1) := by
      rw [List.map_map]
      rfl
    rw [toJson, toData, entriesJson_eq]
    refine .object (by rw [hnames]; exact hnodup) ?_ fun n j k hj hk => ?_
    · rw [hnames, ← hnames toData]
      exact (hperm.map _).symm
    · obtain ⟨⟨n, v⟩, hv, hj⟩ := List.mem_map.mp hj
      obtain ⟨rfl, rfl⟩ := Prod.mk.inj hj
      obtain ⟨⟨n', v'⟩, hv', hk⟩ := List.mem_map.mp (hperm.mem_iff.mp hk)
      obtain ⟨rfl, rfl⟩ := Prod.mk.inj hk
      have heq : (n', v) = (n', v') := List.inj_on_of_nodup_map hnodup hv hv' rfl
      rw [← (Prod.mk.inj heq).2]
      exact ih (n', v) (hmem _ hv)

end Value

end TestData
