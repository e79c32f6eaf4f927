import TestData.Proofs.Resolution.Limit

/-!
One more name at the end of a reference.

A reference with one more name stands for the property of that name in the object that the reference
without it stands for; or, where that is a call or names read from a call, for the same with the
name read after the others. Where the references are written does not matter as long as names mean
the same there.
-/

namespace TestData.Engine

open Schema

namespace Scope

variable {s : Scope} {origin origin' n n' t : NodeRef} {rest : List Segment} {k : Segment}
  {h h' : Nat} {o o' : Target}

/-- What a node stands for is found in one way. -/
lemma Ends.target_eq (hn : s.Ends (.deref n) h (.ok o)) (hn' : s.Ends (.deref n) h' (.ok o')) :
    o = o' := by
  have hc := hn.found_within (Nat.le_max_left h h')
  rw [hn'.found_within (Nat.le_max_right h h')] at hc
  have hres : o'.resolution = o.resolution := (Prod.mk.inj (Except.ok.inj hc)).1
  rcases o with _ | _ <;> rcases o' with _ | _ <;> cases hres <;> rfl

/-- Where a walk ends does not depend on where the reference is written. -/
lemma Ends.walk_unique (hw : s.Ends (.walk origin t rest) h (.ok o))
    (hw' : s.Ends (.walk origin' t rest) h' (.ok o')) : o = o' := by
  induction rest generalizing t h h' with
  | nil =>
    cases hw
    cases hw'
    rfl
  | cons seg rest ih =>
    cases hw with
    | down hd hp hw =>
      cases hw' with
      | down hd' hp' hw' =>
        obtain rfl := Target.node.inj (hd.target_eq hd')
        obtain rfl := Option.some.inj (hp.symm.trans hp')
        exact ih hw hw'
      | call hd' hk' =>
        obtain rfl := Target.node.inj (hd.target_eq hd')
        obtain ⟨properties, hk⟩ := object_of_property hp
        cases hk.symm.trans hk'
      | extend hd' => cases hd.target_eq hd'
    | call hd hk =>
      cases hw' with
      | down hd' hp' hw' =>
        obtain rfl := Target.node.inj (hd.target_eq hd')
        obtain ⟨properties, hk'⟩ := object_of_property hp'
        cases hk.symm.trans hk'
      | call hd' hk' =>
        obtain rfl := Target.node.inj (hd.target_eq hd')
        rfl
      | extend hd' => cases hd.target_eq hd'
    | extend hd =>
      cases hw' with
      | down hd' hp' hw' => cases hd.target_eq hd'
      | call hd' hk' => cases hd.target_eq hd'
      | extend hd' =>
        obtain ⟨rfl, rfl⟩ := Target.extract.inj (hd.target_eq hd')
        rfl

/-- A walk with one more name goes where the walk without it ends, and on with the name. -/
lemma Ends.walk_snoc (hw : s.Ends (.walk origin t (rest ++ [k])) h (.ok o)) :
    (∃ next h₁ h₂, s.Ends (.walk origin t rest) h₁ (.ok (.node next)) ∧
        s.Ends (.walk origin next [k]) h₂ (.ok o)) ∨
      ∃ base keys h₁, s.Ends (.walk origin t rest) h₁ (.ok (.extract base keys)) ∧
        o = .extract base (keys ++ [k.name]) := by
  induction rest generalizing t h with
  | nil => exact .inl ⟨t, 0, h, .arrive, hw⟩
  | cons seg rest ih =>
    cases hw with
    | down hd hp hw =>
      rcases ih hw with ⟨next, h₁, h₂, hw₁, hw₂⟩ | ⟨base, keys, h₁, hw₁, rfl⟩
      · exact .inl ⟨next, _, h₂, .down hd hp hw₁, hw₂⟩
      · exact .inr ⟨base, keys, _, .down hd hp hw₁, rfl⟩
    | call hd hk => exact .inr ⟨_, _, _, .call hd hk, by simp⟩
    | extend hd => exact .inr ⟨_, _, _, .extend hd, by simp⟩

/-- What a node stands for is where its query ends, within the limit. -/
lemma ends_of_resolve {r : Resolution} (hr : s.resolve n = .ok r) :
    ∃ h o, h ≤ s.maxDepth ∧ s.Ends (.deref n) h (.ok o) ∧ o.resolution = r := by
  obtain ⟨x, hx, he⟩ := dereference_explained s.fuel n n 0 (Nat.zero_le _)
  rw [resolve_eq_chase, chase, hx] at hr
  rcases x with e | ⟨o, steps⟩
  · cases hr
  · obtain ⟨h, -, hle, ho⟩ := he
    exact ⟨h, o, by omega, ho, Except.ok.inj hr⟩

lemma resolve_of_ends (ho : s.Ends (.deref n) h (.ok o)) (hle : h ≤ s.maxDepth) :
    s.resolve n = .ok o.resolution := by
  have hc : s.chase n n 0 = _ := ho.found (by omega) n
  rw [resolve_eq_chase, hc]
  rfl

/-- How a reference is dereferenced. -/
lemma Ends.of_reference {first : Segment} (hn : s.Ends (.deref n) h (.ok o))
    (hk : s.workspace.kind n = .reference (first :: rest)) :
    ∃ t h₁, s.lookup? n first.name = some t ∧
      ((∃ next h₂, h₂ ≤ h ∧ s.Ends (.walk n t rest) h₁ (.ok (.node next)) ∧
          s.Ends (.deref next) h₂ (.ok o)) ∨
        ∃ base keys, o = .extract base keys ∧
          s.Ends (.walk n t rest) h₁ (.ok (.extract base keys))) := by
  cases hn with
  | own hf => exact absurd hk (hf.2 _)
  | property hk' => cases hk.symm.trans hk'
  | entity hk' => cases hk.symm.trans hk'
  | reference hk' hf hw ho =>
    obtain ⟨rfl, rfl⟩ := List.cons.inj (Kind.reference.inj (hk.symm.trans hk'))
    exact ⟨_, _, hf, .inl ⟨_, _, by omega, hw, ho⟩⟩
  | reading hk' hf hw =>
    obtain ⟨rfl, rfl⟩ := List.cons.inj (Kind.reference.inj (hk.symm.trans hk'))
    exact ⟨_, _, hf, .inr ⟨_, _, rfl, hw⟩⟩

/-- **A reference with one more name** stands for a property of the object that the reference
without it stands for, or for the name read from its call, after the names that are read there. -/
theorem resolve_longer {r r' : Resolution} {segments : List Segment}
    (hk : s.workspace.kind n = .reference segments)
    (hk' : s.workspace.kind n' = .reference (segments ++ [k]))
    (hl : ∀ name, s.lookup? n' name = s.lookup? n name) (hr : s.resolve n = .ok r)
    (hr' : s.resolve n' = .ok r') :
    (∃ v next, r = .value v ∧ s.property? v k.name = some next ∧ s.resolve next = .ok r') ∨
      (∃ base c, r = .value base ∧ s.workspace.kind base = .call c ∧
        r' = .extract base [k.name]) ∨
      ∃ base keys, r = .extract base keys ∧ r' = .extract base (keys ++ [k.name]) := by
  obtain ⟨h, o, -, ho, rfl⟩ := ends_of_resolve hr
  obtain ⟨h', o', hle', ho', rfl⟩ := ends_of_resolve hr'
  rcases segments with _ | ⟨first, rest⟩
  · cases ho with
    | own hf => exact absurd hk (hf.2 _)
    | property hk₂ => cases hk.symm.trans hk₂
    | entity hk₂ => cases hk.symm.trans hk₂
    | reference hk₂ => cases hk.symm.trans hk₂
    | reading hk₂ => cases hk.symm.trans hk₂
  obtain ⟨t, h₁, ht, hw⟩ := ho.of_reference hk
  rw [List.cons_append] at hk'
  obtain ⟨t', h₁', ht', hw'⟩ := ho'.of_reference hk'
  obtain rfl : t = t' := Option.some.inj (ht.symm.trans ((hl first.name).symm.trans ht'))
  -- the walk with one more name ends at a property or in names to be read
  have hlast : ∃ o₂ h₂, s.Ends (.walk n' t (rest ++ [k])) h₂ (.ok o₂) ∧
      (∀ next, o₂ = .node next → s.resolve next = .ok o'.resolution) ∧
      ∀ base keys, o₂ = .extract base keys → o'.resolution = .extract base keys := by
    rcases hw' with ⟨next, h₂, hle₂, hw', hd⟩ | ⟨base, keys, rfl, hw'⟩
    · refine ⟨_, _, hw', fun next' hn => ?_, nofun⟩
      obtain rfl := Target.node.inj hn
      exact resolve_of_ends hd (by omega)
    · refine ⟨_, _, hw', nofun, fun base' keys' hb => ?_⟩
      obtain ⟨rfl, rfl⟩ := Target.extract.inj hb
      rfl
  obtain ⟨o₂, h₂, hlast, hnode, hread⟩ := hlast
  rcases hlast.walk_snoc with ⟨mid, h₃, h₄, hmid, hstep⟩ | ⟨base, keys, h₃, hmid, rfl⟩
  · rcases hw with ⟨next, h₅, -, hw, hd⟩ | ⟨base, keys, rfl, hw⟩
    · obtain rfl := Target.node.inj (hw.walk_unique hmid)
      cases hstep with
      | down hv hp hend =>
        obtain rfl := hd.target_eq hv
        cases hend
        exact .inl ⟨_, _, rfl, hp, hnode _ rfl⟩
      | call hv hc =>
        obtain rfl := hd.target_eq hv
        exact .inr (.inl ⟨_, _, rfl, hc, hread _ _ rfl⟩)
      | extend hv =>
        obtain rfl := hd.target_eq hv
        exact .inr (.inr ⟨_, _, rfl, hread _ _ rfl⟩)
    · cases hw.walk_unique hmid
  · rcases hw with ⟨next, h₅, -, hw, hd⟩ | ⟨base', keys', rfl, hw⟩
    · cases hw.walk_unique hmid
    · obtain ⟨rfl, rfl⟩ := Target.extract.inj (hw.walk_unique hmid)
      exact .inr (.inr ⟨_, _, rfl, hread _ _ rfl⟩)

/-! ### Where names mean the same -/

/-- The objects around a node, from the inside out. -/
def objectsAround (s : Scope) (n : NodeRef) : List NodeId :=
  ((s.workspace.document n.document).ancestors n.node).filter fun id =>
    match s.workspace.kind (n.at id) with
    | .object _ => true
    | _ => false

lemma findSome?_filter {α β : Type} {p : α → Bool} {f : α → Option β} (l : List α)
    (h : ∀ a, p a = false → f a = none) : (l.filter p).findSome? f = l.findSome? f := by
  induction l with
  | nil => rfl
  | cons a l ih =>
    rcases hp : p a with _ | _
    · rw [List.filter_cons_of_neg (by simp [hp]), ih, List.findSome?_cons, h a hp]
    · rw [List.filter_cons_of_pos hp, List.findSome?_cons, List.findSome?_cons, ih]

/-- A name is looked up in the objects around a node first. -/
lemma lookup_eq_around (s : Scope) (n : NodeRef) (name : String) :
    s.lookup? n name =
      ((s.objectsAround n).findSome? fun id => s.property? (n.at id) name).or
        ((s.workspace.entity? n.document name).or
          (s.workspace.importedEntity? s.disk n.document name)) := by
  unfold objectsAround
  rw [findSome?_filter]
  · rfl
  · intro id h
    unfold property?
    split
    · rename_i hk
      rw [hk] at h
      cases h
    · rfl

/-- Names mean the same at two nodes of a document that have the same objects around them. -/
lemma lookup_of_objectsAround (hd : n'.document = n.document)
    (ho : s.objectsAround n' = s.objectsAround n) (name : String) :
    s.lookup? n' name = s.lookup? n name := by
  have hat : ∀ id, n'.at id = n.at id := fun id => by simp only [NodeRef.at, hd]
  simp only [lookup_eq_around, ho, hd, hat]

end Scope

end TestData.Engine
