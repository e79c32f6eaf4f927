import TestData.Proofs.Resolution.Chain

/-!
What a node stands for, without a limit.

A property is replaced by its value, an entity by its body and a reference by what its last name
means; the earlier names of a reference are replaced in the same way before. `Ends` says how this
ends and how many replacements it takes, whatever their number; it has no case where it goes on
for ever. The main statement is that resolution ends in the same way where no more replacements
are taken than are allowed, and in a circular error otherwise.
-/

namespace TestData.Engine

open Schema

/-- What a target that has a value of its own, or names read from a call, make of a node. -/
def Target.resolution : Target → Resolution
  | .node t => .value t
  | .extract base keys => .extract base keys

/-- What is to be found out: what a node stands for, or what the names that are left of a reference
lead to from a node. -/
inductive Query
  | deref (n : NodeRef)
  | walk (origin target : NodeRef) (rest : List Segment)

namespace Scope

variable {s : Scope}

/-- A query ends in some way after a number of replacements. -/
inductive Ends (s : Scope) : Query → Nat → Except EvalError Target → Prop
  /-- A node with a value of its own is not replaced. -/
  | own {n : NodeRef} (hn : s.Final (.value n)) : Ends s (.deref n) 0 (.ok (.node n))
  | property {n : NodeRef} {name : String} {v : NodeId} {h : Nat} {o : Except EvalError Target}
    (hk : s.workspace.kind n = .property name v) (ho : Ends s (.deref (n.at v)) h o) :
    Ends s (.deref n) (h + 1) o
  | entity {n : NodeRef} {name : String} {v : NodeId} {h : Nat} {o : Except EvalError Target}
    (hk : s.workspace.kind n = .entity name v) (ho : Ends s (.deref (n.at v)) h o) :
    Ends s (.deref n) (h + 1) o
  /-- A reference is replaced by what its last name means. -/
  | reference {n t next : NodeRef} {first : Segment} {rest : List Segment} {h k : Nat}
    {o : Except EvalError Target} (hk : s.workspace.kind n = .reference (first :: rest))
    (hf : s.lookup? n first.name = some t) (hw : Ends s (.walk n t rest) h (.ok (.node next)))
    (ho : Ends s (.deref next) k o) : Ends s (.deref n) (h + 1 + k) o
  /-- A reference into the value of a call is not replaced. -/
  | reading {n t base : NodeRef} {first : Segment} {rest : List Segment} {keys : List String}
    {h : Nat} (hk : s.workspace.kind n = .reference (first :: rest))
    (hf : s.lookup? n first.name = some t)
    (hw : Ends s (.walk n t rest) h (.ok (.extract base keys))) :
    Ends s (.deref n) h (.ok (.extract base keys))
  | dangling {n t : NodeRef} {first : Segment} {rest : List Segment} {h : Nat} {e : EvalError}
    (hk : s.workspace.kind n = .reference (first :: rest))
    (hf : s.lookup? n first.name = some t) (hw : Ends s (.walk n t rest) h (.error e)) :
    Ends s (.deref n) h (.error e)
  | unknown {n : NodeRef} {first : Segment} {rest : List Segment}
    (hk : s.workspace.kind n = .reference (first :: rest))
    (hf : s.lookup? n first.name = none) :
    Ends s (.deref n) 0 (.error (s.unresolved n first))
  | nameless {n : NodeRef} (hk : s.workspace.kind n = .reference []) :
    Ends s (.deref n) 0 (.error (s.unresolved n { name := "" }))
  /-- Without names that are left, a walk is at its end. -/
  | arrive {origin t : NodeRef} : Ends s (.walk origin t []) 0 (.ok (.node t))
  /-- A name leads from an object to its property. -/
  | down {origin t v next : NodeRef} {seg : Segment} {rest : List Segment} {h k : Nat}
    {o : Except EvalError Target} (hd : Ends s (.deref t) h (.ok (.node v)))
    (hp : s.property? v seg.name = some next) (hw : Ends s (.walk origin next rest) k o) :
    Ends s (.walk origin t (seg :: rest)) (h + k) o
  /-- The names that are left at a call are read from its value. -/
  | call {origin t v : NodeRef} {seg : Segment} {rest : List Segment} {h : Nat} {c : Call}
    (hd : Ends s (.deref t) h (.ok (.node v))) (hk : s.workspace.kind v = .call c) :
    Ends s (.walk origin t (seg :: rest)) h (.ok (.extract v ((seg :: rest).map (·.name))))
  | extend {origin t base : NodeRef} {seg : Segment} {rest : List Segment} {keys : List String}
    {h : Nat} (hd : Ends s (.deref t) h (.ok (.extract base keys))) :
    Ends s (.walk origin t (seg :: rest)) h
      (.ok (.extract base (keys ++ (seg :: rest).map (·.name))))
  | absent {origin t v : NodeRef} {seg : Segment} {rest : List Segment} {h : Nat}
    (hd : Ends s (.deref t) h (.ok (.node v))) (hk : ∀ c, s.workspace.kind v ≠ .call c)
    (hp : s.property? v seg.name = none) :
    Ends s (.walk origin t (seg :: rest)) h (.error (s.unresolved origin seg))
  | astray {origin t : NodeRef} {seg : Segment} {rest : List Segment} {h : Nat} {e : EvalError}
    (hd : Ends s (.deref t) h (.error e)) : Ends s (.walk origin t (seg :: rest)) h (.error e)

/-! ### Dereferencing without fuel -/

/-- Goes on from a node to what it stands for, with fuel for every chain that is not too long. -/
def chase (s : Scope) (origin current : NodeRef) (steps : Nat) :
    Except EvalError (Resolution × Nat) :=
  s.dereference s.tooLong s.fuel origin current steps

/-- One replacement, if it is allowed, and then on from the next node. -/
def advance (s : Scope) (origin next : NodeRef) (steps : Nat) :
    Except EvalError (Resolution × Nat) :=
  if s.maxDepth < steps + 1 then s.tooLong origin else s.chase origin next (steps + 1)

section

variable {origin n v : NodeRef} {steps : Nat}

lemma dereference_eq_chase (origin n : NodeRef) (steps : Nat) :
    s.dereference s.tooLong (2 * s.maxDepth + 2) origin n steps = s.chase origin n steps := by
  have := s.need_le n steps
  exact dereference_fuel (by omega) (by unfold fuel; omega)

lemma move_eq_advance (origin next : NodeRef) (steps : Nat) :
    s.move s.tooLong (2 * s.maxDepth + 2) origin next steps = s.advance origin next steps := by
  rw [move, advance, dereference_eq_chase]

lemma chase_property {name : String} {v : NodeId} (hk : s.workspace.kind n = .property name v) :
    s.chase origin n steps = s.advance origin (n.at v) steps := by
  rw [chase, fuel, dereference_property hk, move_eq_advance]

lemma chase_entity {name : String} {v : NodeId} (hk : s.workspace.kind n = .entity name v) :
    s.chase origin n steps = s.advance origin (n.at v) steps := by
  rw [chase, fuel, dereference_entity hk, move_eq_advance]

lemma chase_reference {segments : List Segment}
    (hk : s.workspace.kind n = .reference segments) :
    s.chase origin n steps =
      match s.follow (s.chase n) n segments steps with
      | .error e => .error e
      | .ok (.extract base keys, steps) => .ok (.extract base keys, steps)
      | .ok (.node next, steps) => s.advance origin next steps := by
  have hc : s.dereference s.tooLong (2 * s.maxDepth + 2) n = s.chase n :=
    funext fun t => funext fun st => dereference_eq_chase n t st
  rw [chase, fuel, dereference_reference hk, hc]
  rcases s.follow (s.chase n) n segments steps with _ | ⟨_ | _, _⟩
  · rfl
  · exact move_eq_advance _ _ _
  · rfl

lemma chase_own (hn : s.Final (.value n)) : s.chase origin n steps = .ok (.value n, steps) := by
  rw [chase, fuel, dereference_value hn.1 hn.2]

lemma advance_of_le (hd : steps + 1 ≤ s.maxDepth) (next : NodeRef) :
    s.advance origin next steps = s.chase origin next (steps + 1) :=
  if_neg (by omega)

lemma resolve_eq_chase (n : NodeRef) : s.resolve n = (s.chase n n 0).map (·.1) := rfl

end

section

variable {resolve : NodeRef → Nat → Except EvalError (Resolution × Nat)}
  {origin t v next : NodeRef} {seg : Segment} {rest : List Segment} {steps steps' : Nat}

lemma follow_cons {first : Segment} (hf : s.lookup? origin first.name = some t) :
    s.follow resolve origin (first :: rest) steps = s.descend resolve origin t rest steps := by
  rw [follow]
  simp only [hf]

lemma follow_unknown {first : Segment} (hf : s.lookup? origin first.name = none) :
    s.follow resolve origin (first :: rest) steps = .error (s.unresolved origin first) := by
  rw [follow]
  simp only [hf]
  rfl

lemma object_of_property {name : String} (hp : s.property? v name = some next) :
    ∃ properties, s.workspace.kind v = .object properties := by
  unfold property? at hp
  split at hp
  · exact ⟨_, ‹_›⟩
  · cases hp

lemma descend_property (hr : resolve t steps = .ok (.value v, steps'))
    (hp : s.property? v seg.name = some next) :
    s.descend resolve origin t (seg :: rest) steps =
      s.descend resolve origin next rest steps' := by
  obtain ⟨properties, hk⟩ := object_of_property hp
  simp only [descend_cons, hr, hk, hp]

lemma descend_call {c : Call} (hr : resolve t steps = .ok (.value v, steps'))
    (hk : s.workspace.kind v = .call c) :
    s.descend resolve origin t (seg :: rest) steps =
      .ok (.extract v ((seg :: rest).map (·.name)), steps') := by
  simp only [descend_cons, hr, hk]

lemma descend_absent (hr : resolve t steps = .ok (.value v, steps'))
    (hk : ∀ c, s.workspace.kind v ≠ .call c) (hp : s.property? v seg.name = none) :
    s.descend resolve origin t (seg :: rest) steps = .error (s.unresolved origin seg) := by
  simp only [descend_cons, hr, hp]
  rcases h : s.workspace.kind v with _ | _ | _ | _ | _ | _ | c
  case call => exact absurd h (hk c)
  all_goals rfl

lemma descend_extract {base : NodeRef} {keys : List String}
    (hr : resolve t steps = .ok (.extract base keys, steps')) :
    s.descend resolve origin t (seg :: rest) steps =
      .ok (.extract base (keys ++ (seg :: rest).map (·.name)), steps') := by
  simp only [descend_cons, hr]

lemma descend_error {e : EvalError} (hr : resolve t steps = .error e) :
    s.descend resolve origin t (seg :: rest) steps = .error e := by
  simp only [descend_cons, hr]

end

/-! ### Within the limit -/

/-- Resolution finds that a query ends, and counts its replacements. -/
def Finds (s : Scope) (steps h : Nat) (o : Except EvalError Target) : Query → Prop
  | .deref n => ∀ origin, s.chase origin n steps = o.map fun t => (t.resolution, steps + h)
  | .walk origin t rest =>
    s.descend (s.chase origin) origin t rest steps = o.map fun t => (t, steps + h)

/-- What ends within the limit is found. -/
lemma Ends.found {q : Query} {h : Nat} {o : Except EvalError Target} (hq : s.Ends q h o)
    {steps : Nat} (hle : steps + h ≤ s.maxDepth) : s.Finds steps h o q := by
  induction hq generalizing steps with
  | own hn => exact fun origin => chase_own hn
  | @property n name v h o hk _ ih =>
    intro origin
    rw [chase_property hk, advance_of_le (by omega), ih (by omega) origin]
    simp only [Nat.add_assoc, Nat.add_comm 1 h]
  | @entity n name v h o hk _ ih =>
    intro origin
    rw [chase_entity hk, advance_of_le (by omega), ih (by omega) origin]
    simp only [Nat.add_assoc, Nat.add_comm 1 h]
  | @reference n t next first rest h k o hk hf _ _ ihw iho =>
    intro origin
    have hw : s.descend (s.chase n) n t rest steps = .ok (.node next, steps + h) :=
      ihw (by omega)
    rw [chase_reference hk, follow_cons hf, hw]
    dsimp only
    rw [advance_of_le (by omega), iho (by omega) origin]
    simp only [Nat.add_assoc]
  | @reading n t base first rest keys h hk hf _ ih =>
    intro origin
    have hw : s.descend (s.chase n) n t rest steps = .ok (.extract base keys, steps + h) :=
      ih hle
    rw [chase_reference hk, follow_cons hf, hw]
    rfl
  | @dangling n t first rest h e hk hf _ ih =>
    intro origin
    have hw : s.descend (s.chase n) n t rest steps = .error e := ih hle
    rw [chase_reference hk, follow_cons hf, hw]
    rfl
  | unknown hk hf =>
    intro origin
    rw [chase_reference hk, follow_unknown hf]
    rfl
  | nameless hk =>
    intro origin
    rw [chase_reference hk]
    rfl
  | arrive => rfl
  | @down origin t v next seg rest h k o _ hp _ ihd ihw =>
    have hw : s.descend (s.chase origin) origin next rest (steps + h) = _ := ihw (by omega)
    show s.descend (s.chase origin) origin t (seg :: rest) steps = _
    rw [descend_property (ihd (by omega) origin) hp, hw]
    simp only [Nat.add_assoc]
  | @call origin t v seg rest h c _ hk ih => exact descend_call (ih hle origin) hk
  | @extend origin t base seg rest keys h _ ih => exact descend_extract (ih hle origin)
  | @absent origin t v seg rest h _ hk hp ih => exact descend_absent (ih hle origin) hk hp
  | @astray origin t seg rest h e _ ih => exact descend_error (ih hle origin)

/-- How a query ends does not depend on the limit. -/
lemma Ends.limit {q : Query} {h : Nat} {o : Except EvalError Target} (hq : s.Ends q h o)
    (d : Nat) : ({ s with maxDepth := d } : Scope).Ends q h o := by
  induction hq with
  | own hn => exact .own hn
  | property hk _ ih => exact .property hk ih
  | entity hk _ ih => exact .entity hk ih
  | reference hk hf _ _ ihw iho => exact .reference hk hf ihw iho
  | reading hk hf _ ih => exact .reading hk hf ih
  | dangling hk hf _ ih => exact .dangling hk hf ih
  | unknown hk hf => exact .unknown hk hf
  | nameless hk => exact .nameless hk
  | arrive => exact .arrive
  | down _ hp _ ihd ihw => exact .down ihd hp ihw
  | call _ hk ih => exact .call ih hk
  | extend _ ih => exact .extend ih
  | absent _ hk hp ih => exact .absent ih hk hp
  | astray _ ih => exact .astray ih

/-- A query for a node is found with any limit that it keeps. -/
lemma Ends.found_within {n : NodeRef} {h d : Nat} {o : Except EvalError Target}
    (hn : s.Ends (.deref n) h o) (hle : h ≤ d) :
    ({ s with maxDepth := d } : Scope).chase n n 0 = o.map fun t => (t.resolution, h) := by
  have hc : ({ s with maxDepth := d } : Scope).chase n n 0 = _ :=
    (hn.limit d).found (by dsimp only; omega) n
  rw [hc, Nat.zero_add]

/-- What a node stands for is found in one way, after one number of replacements. -/
lemma Ends.steps_eq {n : NodeRef} {h h' : Nat} {t : Target} {o : Except EvalError Target}
    (hn : s.Ends (.deref n) h (.ok t)) (hn' : s.Ends (.deref n) h' o) : h' = h := by
  have hc := hn.found_within (Nat.le_max_left h h')
  rw [hn'.found_within (Nat.le_max_right h h')] at hc
  rcases o with e | t'
  · cases hc
  · exact (Prod.mk.inj (Except.ok.inj hc)).2

/-! ### Nothing else is found -/

/-- A result that is no circular error is where a query ends within the limit. -/
def Explains (s : Scope) (q : Query) (steps : Nat) : Except EvalError (Target × Nat) → Prop
  | .ok (o, steps') => ∃ h, steps' = steps + h ∧ steps + h ≤ s.maxDepth ∧ s.Ends q h (.ok o)
  | .error e => (∃ l, e = .circular l) ∨ ∃ h, steps + h ≤ s.maxDepth ∧ s.Ends q h (.error e)

/-- A query that goes on as another one, after some replacements, is explained with it. -/
lemma Explains.after {q q' : Query} {steps h : Nat} {x : Except EvalError (Target × Nat)}
    (hx : s.Explains q' (steps + h) x) (hq : ∀ k o, s.Ends q' k o → s.Ends q (h + k) o) :
    s.Explains q steps x := by
  rcases x with e | ⟨o, steps'⟩
  · rcases hx with hl | ⟨k, hk, he⟩
    · exact .inl hl
    · exact .inr ⟨h + k, by omega, hq k _ he⟩
  · obtain ⟨k, rfl, hk, he⟩ := hx
    exact ⟨h + k, by omega, by omega, hq k _ he⟩

/-- A way of resolving nodes whose results are explained. -/
def Explained (s : Scope) (resolve : NodeRef → Nat → Except EvalError (Resolution × Nat)) : Prop :=
  ∀ t steps, steps ≤ s.maxDepth → ∃ x, resolve t steps = x.map (fun p => (p.1.resolution, p.2)) ∧
    s.Explains (.deref t) steps x

lemma descend_explained {resolve : NodeRef → Nat → Except EvalError (Resolution × Nat)}
    (hs : s.Explained resolve) (origin t : NodeRef) (rest : List Segment) {steps : Nat}
    (hle : steps ≤ s.maxDepth) :
    s.Explains (.walk origin t rest) steps (s.descend resolve origin t rest steps) := by
  induction rest generalizing t steps with
  | nil => exact ⟨0, rfl, hle, .arrive⟩
  | cons seg rest ih =>
    obtain ⟨x, hr, hx⟩ := hs t steps hle
    rcases x with e | ⟨v | ⟨base, keys⟩, steps'⟩
    · rw [descend_error hr]
      rcases hx with hl | ⟨h, hle, he⟩
      · exact .inl hl
      · exact .inr ⟨h, hle, .astray he⟩
    · obtain ⟨h, rfl, hle', he⟩ := hx
      by_cases hc : ∃ c, s.workspace.kind v = .call c
      · obtain ⟨c, hk⟩ := hc
        rw [descend_call hr hk]
        exact ⟨h, rfl, hle', .call he hk⟩
      · have hc' : ∀ c, s.workspace.kind v ≠ .call c := fun c hk => hc ⟨c, hk⟩
        rcases hp : s.property? v seg.name with _ | next
        · rw [descend_absent hr hc' hp]
          exact .inr ⟨h, hle', .absent he hc' hp⟩
        · rw [descend_property hr hp]
          exact (ih next hle').after fun k o hw => .down he hp hw
    · obtain ⟨h, rfl, hle', he⟩ := hx
      rw [descend_extract hr]
      exact ⟨h, rfl, hle', .extend he⟩

/-- Every chain is explained. -/
lemma dereference_explained (fuel : Nat) (origin : NodeRef) :
    s.Explained (s.dereference s.tooLong fuel origin) := by
  intro t steps hle
  induction fuel generalizing origin t steps with
  | zero => exact ⟨.error (.circular (s.location origin)), rfl, .inl ⟨_, rfl⟩⟩
  | succ fuel ih =>
    have hmove : ∀ {q next h}, steps + h ≤ s.maxDepth →
        (∀ k o, s.Ends (.deref next) k o → s.Ends q (h + 1 + k) o) →
        ∃ x, s.move s.tooLong fuel origin next (steps + h) =
          x.map (fun p => (p.1.resolution, p.2)) ∧ s.Explains q steps x := by
      intro q next h hh hq
      unfold move
      split_ifs with hd
      · exact ⟨.error (.circular (s.location origin)), rfl, .inl ⟨_, rfl⟩⟩
      · obtain ⟨x, hx, he⟩ := ih origin next (steps + h + 1) (by omega)
        exact ⟨x, hx, he.after (h := h + 1) hq⟩
    rcases hk : s.workspace.kind t with ⟨name, v⟩ | _ | ⟨name, v⟩ | segments | _ | _ | _
    case entity =>
      rw [dereference_entity hk]
      exact hmove (h := 0) hle fun k o ho => by rw [Nat.add_comm]; exact .entity hk ho
    case property =>
      rw [dereference_property hk]
      exact hmove (h := 0) hle fun k o ho => by rw [Nat.add_comm]; exact .property hk ho
    case reference =>
      rw [dereference_reference hk]
      rcases segments with _ | ⟨first, rest⟩
      · exact ⟨.error (s.unresolved t { name := "" }), rfl, .inr ⟨0, hle, .nameless hk⟩⟩
      rcases hf : s.lookup? t first.name with _ | b
      · rw [follow_unknown hf]
        exact ⟨.error (s.unresolved t first), rfl, .inr ⟨0, hle, .unknown hk hf⟩⟩
      rw [follow_cons hf]
      have hw := descend_explained (ih t) t b rest hle
      rcases hd : s.descend (s.dereference s.tooLong fuel t) t b rest steps with
        e | ⟨next | ⟨base, keys⟩, st⟩ <;> rw [hd] at hw
      · refine ⟨.error e, rfl, ?_⟩
        rcases hw with hl | ⟨h, hh, he⟩
        · exact .inl hl
        · exact .inr ⟨h, hh, .dangling hk hf he⟩
      · obtain ⟨h, rfl, hh, he⟩ := hw
        exact hmove hh fun k o ho => .reference hk hf he ho
      · obtain ⟨h, rfl, hh, he⟩ := hw
        exact ⟨.ok (.extract base keys, steps + h), rfl, h, rfl, hh, .reading hk hf he⟩
    all_goals
      have hn : s.Final (.value t) := ⟨by simp [Leads, hk], by simp [hk]⟩
      rw [dereference_value hn.1 hn.2]
      exact ⟨.ok (.node t, steps), rfl, 0, rfl, hle, .own hn⟩

/-- A node with a value of its own is a literal, a list, an object or a call. -/
lemma kind_of_final {t : NodeRef} (ht : s.Final (.value t)) :
    (∃ l, s.workspace.kind t = .literal l) ∨ (∃ items, s.workspace.kind t = .list items) ∨
      (∃ properties, s.workspace.kind t = .object properties) ∨
      ∃ c, s.workspace.kind t = .call c := by
  obtain ⟨hl, hr⟩ := ht
  rcases hk : s.workspace.kind t with _ | _ | _ | segments | _ | _ | _
  case reference => exact absurd hk (hr segments)
  all_goals simp_all [Leads]

/-- **Resolution is dereferencing cut at the limit.** Where what a node stands for is found after
at most as many replacements as are allowed, resolution ends in the same way; where it takes more
or never ends, resolution ends in a circular error. What comes of it is a literal, a list, an
object or a call, which stands for itself, or at least one name to be read from a call. -/
theorem resolve_cut_at_limit (s : Scope) (n : NodeRef) :
    (∀ h o, s.Ends (.deref n) h o → h ≤ s.maxDepth → s.resolve n = o.map Target.resolution) ∧
      ((∀ h o, s.Ends (.deref n) h o → s.maxDepth < h) →
        ∃ l, s.resolve n = .error (.circular l)) ∧
      (∀ t, s.resolve n = .ok (.value t) →
        ((∃ l, s.workspace.kind t = .literal l) ∨ (∃ items, s.workspace.kind t = .list items) ∨
          (∃ properties, s.workspace.kind t = .object properties) ∨
          ∃ c, s.workspace.kind t = .call c) ∧
        s.resolve t = .ok (.value t)) ∧
      ∀ base keys, s.resolve n = .ok (.extract base keys) →
        (∃ c, s.workspace.kind base = .call c) ∧ keys ≠ [] := by
  refine ⟨fun h o ho hh => ?_, fun hlong => ?_, fun t ht => ?_, fun base keys hb =>
    resolve_final hb⟩
  · have hc : s.chase n n 0 = o.map fun t => (t.resolution, 0 + h) :=
      ho.found (by omega) n
    rw [resolve_eq_chase, hc]
    cases o <;> rfl
  · obtain ⟨x, hx, he⟩ := dereference_explained s.fuel n n 0 (Nat.zero_le _)
    rw [resolve_eq_chase, chase, hx]
    rcases x with e | ⟨o, st⟩
    · rcases he with ⟨l, rfl⟩ | ⟨h, hh, he⟩
      · exact ⟨l, rfl⟩
      · have := hlong h _ he
        omega
    · obtain ⟨h, -, hh, he⟩ := he
      have := hlong h _ he
      omega
  · have hf : s.Final (.value t) := resolve_final ht
    exact ⟨kind_of_final hf, resolve_self hf⟩

/-! ### Three replacements -/

namespace Replaced

/-- An entity that is a truth value, and one that stands for it. -/
def document : Document :=
  { path := "a.yaml", imports := [], entities := [1, 3]
    nodes := #[{ kind := .literal (.bool true), parent := some 1 }, { kind := .entity "A" 0 },
      { kind := .reference [{ name := "A" }], parent := some 3 }, { kind := .entity "B" 2 }] }

/-- The document with a limit. -/
def scope (d : Nat) : Scope :=
  { workspace := .ofDocuments (.ofDirectory []) [document], disk := .ofDirectory [], maxDepth := d }

lemma ends_value (d : Nat) : (scope d).Ends (.deref ⟨0, 3⟩) 3 (.ok (.node ⟨0, 0⟩)) := by
  have h0 : (scope d).workspace.kind ⟨0, 0⟩ = .literal (.bool true) := rfl
  have h1 : (scope d).workspace.kind ⟨0, 1⟩ = .entity "A" 0 := rfl
  have h2 : (scope d).workspace.kind ⟨0, 2⟩ = .reference [{ name := "A" }] := rfl
  have h3 : (scope d).workspace.kind ⟨0, 3⟩ = .entity "B" 2 := rfl
  have hf : (scope d).lookup? ⟨0, 2⟩ "A" = some ⟨0, 1⟩ := rfl
  have hv : (scope d).Ends (.deref ⟨0, 0⟩) 0 (.ok (.node ⟨0, 0⟩)) :=
    .own ⟨by simp [Leads, h0], by simp [h0]⟩
  have hr : (scope d).Ends (.deref ⟨0, 2⟩) (0 + 1 + 1) (.ok (.node ⟨0, 0⟩)) :=
    .reference h2 hf .arrive (.entity h1 hv)
  exact .entity h3 hr

end Replaced

/-- Three replacements are found with a limit of three, and are too many for a limit of two. -/
theorem resolve_cut_at_three :
    (Replaced.scope 3).resolve ⟨0, 3⟩ = .ok (.value ⟨0, 0⟩) ∧
      ∃ l, (Replaced.scope 2).resolve ⟨0, 3⟩ = .error (.circular l) := by
  refine ⟨(resolve_cut_at_limit _ _).1 _ _ (Replaced.ends_value 3) (Nat.le_refl 3), ?_⟩
  refine (resolve_cut_at_limit _ _).2.1 fun h o ho => ?_
  rw [(Replaced.ends_value 2).steps_eq ho]
  exact Nat.lt_succ_self 2

end Scope

end TestData.Engine
