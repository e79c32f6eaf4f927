import Mathlib.Tactic.Common
import TestData.Engine.Resolution

/-!
Chains of references: where they lead and how far.

A chain ends at a node that is no property, entity or reference, or at a call from whose value
names are to be read. The number of steps only grows along a chain, and every second nesting of
steps takes one; so the fuel of a resolution never runs out.
-/

namespace TestData.Engine

open Schema

namespace Scope

variable {s : Scope} {beyond beyond' : NodeRef → Except EvalError (Resolution × Nat)}

/-- A node that stands for another one that its kind names. -/
def Leads (k : Kind) : Prop := (∃ name v, k = .property name v) ∨ ∃ name v, k = .entity name v

/-- Takes one step of a chain. -/
def move (s : Scope) (beyond : NodeRef → Except EvalError (Resolution × Nat)) (fuel : Nat)
    (origin next : NodeRef) (steps : Nat) : Except EvalError (Resolution × Nat) :=
  if s.maxDepth < steps + 1 then s.tooLong origin
  else s.dereference beyond fuel origin next (steps + 1)

section

variable {fuel steps : Nat} {origin current : NodeRef}

lemma dereference_property {name : String} {v : NodeId}
    (hk : s.workspace.kind current = .property name v) :
    s.dereference beyond (fuel + 1) origin current steps =
      s.move beyond fuel origin (current.at v) steps := by
  rw [dereference, hk]
  rfl

lemma dereference_entity {name : String} {v : NodeId}
    (hk : s.workspace.kind current = .entity name v) :
    s.dereference beyond (fuel + 1) origin current steps =
      s.move beyond fuel origin (current.at v) steps := by
  rw [dereference, hk]
  rfl

lemma dereference_reference {segments : List Segment}
    (hk : s.workspace.kind current = .reference segments) :
    s.dereference beyond (fuel + 1) origin current steps =
      match s.follow (s.dereference beyond fuel current) current segments steps with
      | .error e => .error e
      | .ok (.extract base keys, steps) => .ok (.extract base keys, steps)
      | .ok (.node next, steps) => s.move beyond fuel origin next steps := by
  rw [dereference, hk]
  dsimp only
  rcases s.follow (s.dereference beyond fuel current) current segments steps with
    _ | ⟨_ | _, _⟩ <;> rfl

lemma dereference_value (hp : ¬ Leads (s.workspace.kind current))
    (hr : ∀ segments, s.workspace.kind current ≠ .reference segments) :
    s.dereference beyond (fuel + 1) origin current steps = .ok (.value current, steps) := by
  rw [dereference]
  rcases hk : s.workspace.kind current with _ | _ | _ | segments | _ | _ | _
  · exact absurd (.inr ⟨_, _, hk⟩) hp
  · rfl
  · exact absurd (.inl ⟨_, _, hk⟩) hp
  · exact absurd hk (hr segments)
  all_goals rfl

end

/-! ### What names mean -/

lemma leads_of_property {n next : NodeRef} {name : String} (h : s.property? n name = some next) :
    Leads (s.workspace.kind next) := by
  unfold property? at h
  split at h
  · obtain ⟨id, hf, rfl⟩ := Option.map_eq_some_iff.mp h
    have hp := List.find?_some hf
    left
    show ∃ name v, (s.workspace.document n.document).kind id = .property name v
    revert hp
    rcases (s.workspace.document n.document).kind id with _ | _ | ⟨m, v⟩ | _ | _ | _ | _ <;>
      simp
  · cases h

lemma leads_of_entity {w : Workspace} {d : DocumentId} {name : String} {next : NodeRef}
    (h : w.entity? d name = some next) : Leads (w.kind next) := by
  obtain ⟨id, hf, rfl⟩ := Option.map_eq_some_iff.mp h
  obtain ⟨l, r, hl, -⟩ := List.lookup_eq_some_iff.mp hf
  have hm : (name, id) ∈ (w.document d).namedEntities := by rw [hl]; simp
  obtain ⟨id', -, hk⟩ := List.mem_filterMap.mp hm
  right
  show ∃ name v, (w.document d).kind id = .entity name v
  revert hk
  rcases hk : (w.document d).kind id' with ⟨m, v⟩ | _ | _ | _ | _ | _ | _ <;> simp
  rintro - rfl
  exact ⟨m, v, hk⟩

/-- A name means a property or an entity. -/
lemma leads_of_lookup {origin next : NodeRef} {name : String}
    (h : s.lookup? origin name = some next) : Leads (s.workspace.kind next) := by
  unfold lookup? at h
  rcases Option.or_eq_some_iff.mp h with h | ⟨-, h⟩
  · obtain ⟨id, -, hp⟩ := List.exists_of_findSome?_eq_some h
    exact leads_of_property hp
  · rcases Option.or_eq_some_iff.mp h with h | ⟨-, h⟩
    · exact leads_of_entity h
    · obtain ⟨i, -, hi⟩ := List.exists_of_findSome?_eq_some h
      obtain ⟨d, -, hd⟩ := Option.bind_eq_some_iff.mp hi
      exact leads_of_entity hd

/-! ### Where a chain ends -/

/-- What a node may stand for: a node with a value of its own, or names read from a call. -/
def Final (s : Scope) : Resolution → Prop
  | .value t => ¬ Leads (s.workspace.kind t) ∧ ∀ segments, s.workspace.kind t ≠ .reference segments
  | .extract base keys => (∃ c, s.workspace.kind base = .call c) ∧ keys ≠ []

/-- A way of resolving nodes that counts on and ends as chains end. -/
def Sound (s : Scope) (resolve : NodeRef → Nat → Except EvalError (Resolution × Nat)) : Prop :=
  ∀ {t steps r steps'}, resolve t steps = .ok (r, steps') → steps ≤ steps' ∧ s.Final r

section

variable {resolve resolve' : NodeRef → Nat → Except EvalError (Resolution × Nat)}
  {origin : NodeRef}

lemma descend_cons {target : NodeRef} {seg : Segment} {rest : List Segment} {steps : Nat} :
    s.descend resolve origin target (seg :: rest) steps =
      match resolve target steps with
      | .error e => .error e
      | .ok (.extract base keys, steps) =>
        .ok (.extract base (keys ++ (seg :: rest).map (·.name)), steps)
      | .ok (.value v, steps) =>
        match s.workspace.kind v with
        | .object _ =>
          match s.property? v seg.name with
          | some next => s.descend resolve origin next rest steps
          | none => .error (s.unresolved origin seg)
        | .call _ => .ok (.extract v ((seg :: rest).map (·.name)), steps)
        | _ => .error (s.unresolved origin seg) := by
  rw [descend]
  rcases resolve target steps with e | ⟨v | _, st⟩
  · rfl
  · dsimp only [bind, Except.bind, pure, Except.pure]
    rcases s.workspace.kind v with _ | _ | _ | _ | _ | _ | _
    case object =>
      dsimp only
      rcases s.property? v seg.name with _ | _ <;> rfl
    all_goals rfl
  · rfl

/-- What the segments of a reference lead to counts on and ends as chains end. -/
lemma descend_sound (hs : s.Sound resolve) {segments : List Segment} {target : NodeRef}
    {steps steps' : Nat} {r : Target}
    (h : s.descend resolve origin target segments steps = .ok (r, steps')) :
    steps ≤ steps' ∧ ∀ base keys, r = .extract base keys → s.Final (.extract base keys) := by
  induction segments generalizing target steps with
  | nil =>
    obtain ⟨rfl, rfl⟩ := Prod.mk.inj (Except.ok.inj h)
    exact ⟨Nat.le_refl _, fun base keys hr => by cases hr⟩
  | cons seg rest ih =>
    rw [descend_cons] at h
    rcases hr : resolve target steps with e | ⟨v | ⟨base, keys⟩, st⟩ <;> rw [hr] at h
    · cases h
    · obtain ⟨hle, -⟩ := hs hr
      dsimp only at h
      rcases hk : s.workspace.kind v with _ | ps | _ | _ | _ | _ | c <;> rw [hk] at h
      case object =>
        dsimp only at h
        rcases hp : s.property? v seg.name with _ | next <;> rw [hp] at h
        · cases h
        · obtain ⟨hle', hf⟩ := ih h
          exact ⟨Nat.le_trans hle hle', hf⟩
      case call =>
        obtain ⟨rfl, rfl⟩ := Prod.mk.inj (Except.ok.inj h)
        refine ⟨hle, fun base keys hb => ?_⟩
        obtain ⟨rfl, rfl⟩ := Target.extract.inj hb
        exact ⟨⟨c, hk⟩, by simp⟩
      all_goals cases h
    · obtain ⟨hle, hf⟩ := hs hr
      obtain ⟨rfl, rfl⟩ := Prod.mk.inj (Except.ok.inj h)
      refine ⟨hle, fun base' keys' hb => ?_⟩
      obtain ⟨rfl, rfl⟩ := Target.extract.inj hb
      exact ⟨hf.1, by simp⟩

lemma follow_sound (hs : s.Sound resolve) {segments : List Segment} {steps steps' : Nat}
    {r : Target} (h : s.follow resolve origin segments steps = .ok (r, steps')) :
    steps ≤ steps' ∧ ∀ base keys, r = .extract base keys → s.Final (.extract base keys) := by
  unfold follow at h
  rcases segments with _ | ⟨first, rest⟩
  · cases h
  · dsimp only at h
    split at h
    · exact descend_sound hs h
    · cases h

end

lemma tooLong_ne_ok (origin : NodeRef) (r : Resolution × Nat) : s.tooLong origin ≠ .ok r := by
  intro h
  cases h

/-- Every chain ends as chains end. -/
lemma dereference_sound (fuel : Nat) (origin : NodeRef) :
    s.Sound (s.dereference s.tooLong fuel origin) := by
  intro t steps r steps' h
  induction fuel generalizing origin t steps r steps' with
  | zero => exact absurd h (tooLong_ne_ok origin _)
  | succ fuel ih =>
    have hmove : ∀ {next st}, s.move s.tooLong fuel origin next st = .ok (r, steps') →
        st ≤ steps' ∧ s.Final r := by
      intro next st hm
      unfold move at hm
      split_ifs at hm
      · exact absurd hm (tooLong_ne_ok origin _)
      · obtain ⟨hle, hf⟩ := ih origin hm
        exact ⟨by omega, hf⟩
    by_cases hl : Leads (s.workspace.kind t)
    · rcases hl with ⟨name, v, hk⟩ | ⟨name, v, hk⟩
      · rw [dereference_property hk] at h
        exact hmove h
      · rw [dereference_entity hk] at h
        exact hmove h
    · by_cases hr : ∃ segments, s.workspace.kind t = .reference segments
      · obtain ⟨segments, hk⟩ := hr
        rw [dereference_reference hk] at h
        rcases hf : s.follow (s.dereference s.tooLong fuel t) t segments steps with
          e | ⟨next | ⟨base, keys⟩, st⟩ <;> rw [hf] at h
        · cases h
        · obtain ⟨hle, -⟩ := follow_sound (fun h => ih t h) hf
          obtain ⟨hle', hfin⟩ := hmove h
          exact ⟨Nat.le_trans hle hle', hfin⟩
        · obtain ⟨hle, hfin⟩ := follow_sound (fun h => ih t h) hf
          obtain ⟨rfl, rfl⟩ := Prod.mk.inj (Except.ok.inj h)
          exact ⟨hle, hfin base keys rfl⟩
      · have hr' : ∀ segments, s.workspace.kind t ≠ .reference segments :=
          fun segments hs => hr ⟨segments, hs⟩
        rw [dereference_value hl hr'] at h
        obtain ⟨rfl, rfl⟩ := Prod.mk.inj (Except.ok.inj h)
        exact ⟨Nat.le_refl _, hl, hr'⟩

/-- **What a node stands for** has a value of its own, or names are read from a call. -/
theorem resolve_final {n : NodeRef} {r : Resolution} (h : s.resolve n = .ok r) : s.Final r := by
  unfold resolve at h
  rcases hd : s.dereference s.tooLong s.fuel n n 0 with e | ⟨r', st⟩ <;> rw [hd] at h
  · cases h
  · obtain rfl : r' = r := Except.ok.inj h
    exact (dereference_sound _ n hd).2

/-- A node with a value of its own stands for itself. -/
lemma resolve_self {t : NodeRef} (hf : s.Final (.value t)) : s.resolve t = .ok (.value t) := by
  unfold resolve fuel
  rw [dereference_value hf.1 hf.2]
  rfl

/-- A call stands for itself. -/
lemma resolve_call {t : NodeRef} {c : Call} (hk : s.workspace.kind t = .call c) :
    s.resolve t = .ok (.value t) :=
  resolve_self ⟨by simp [Leads, hk], by simp [hk]⟩

/-! ### Fuel -/

section

variable {resolve resolve' : NodeRef → Nat → Except EvalError (Resolution × Nat)}
  {origin : NodeRef}

lemma descend_congr (hs : s.Sound resolve') {segments : List Segment} {target : NodeRef}
    {steps : Nat} (ht : Leads (s.workspace.kind target))
    (h : ∀ t st, Leads (s.workspace.kind t) → steps ≤ st → resolve t st = resolve' t st) :
    s.descend resolve origin target segments steps =
      s.descend resolve' origin target segments steps := by
  induction segments generalizing target steps with
  | nil => rfl
  | cons seg rest ih =>
    rw [descend_cons, descend_cons, h target steps ht (Nat.le_refl _)]
    rcases hr : resolve' target steps with _ | ⟨v | _, st⟩
    · rfl
    · dsimp only
      rcases s.workspace.kind v with _ | _ | _ | _ | _ | _ | _
      case object =>
        dsimp only
        rcases hp : s.property? v seg.name with _ | next
        · rfl
        · exact ih (leads_of_property hp) fun t st' ht' hst =>
            h t st' ht' (Nat.le_trans (hs hr).1 hst)
      all_goals rfl
    · rfl

lemma follow_congr (hs : s.Sound resolve') {segments : List Segment} {steps : Nat}
    (h : ∀ t st, Leads (s.workspace.kind t) → steps ≤ st → resolve t st = resolve' t st) :
    s.follow resolve origin segments steps = s.follow resolve' origin segments steps := by
  unfold follow
  rcases segments with _ | ⟨first, rest⟩
  · rfl
  · dsimp only
    split
    · rename_i hl
      exact descend_congr hs (leads_of_lookup hl) h
    · rfl

end

/-- Fuel for the chain that is left to a node after a number of steps. -/
def need (s : Scope) (t : NodeRef) (steps : Nat) : Nat :=
  2 * (s.maxDepth - steps) +
    match s.workspace.kind t with
    | .property _ _ | .entity _ _ => 1
    | _ => 2

lemma need_le (s : Scope) (t : NodeRef) (steps : Nat) :
    s.need t steps ≤ 2 * (s.maxDepth - steps) + 2 := by
  unfold need
  split <;> omega

lemma le_need (s : Scope) (t : NodeRef) (steps : Nat) :
    2 * (s.maxDepth - steps) + 1 ≤ s.need t steps := by
  unfold need
  split <;> omega

lemma need_of_leads {t : NodeRef} (h : Leads (s.workspace.kind t)) (steps : Nat) :
    s.need t steps = 2 * (s.maxDepth - steps) + 1 := by
  rcases h with ⟨name, v, hk⟩ | ⟨name, v, hk⟩ <;> simp only [need, hk]

lemma need_of_not_leads {t : NodeRef} (h : ¬ Leads (s.workspace.kind t)) (steps : Nat) :
    s.need t steps = 2 * (s.maxDepth - steps) + 2 := by
  unfold need
  split
  · exact absurd (.inl ⟨_, _, ‹_›⟩) h
  · exact absurd (.inr ⟨_, _, ‹_›⟩) h
  · rfl

/-- **The fuel of a resolution does not run out**: with as much as is needed or more, what is said
to be beyond does not matter. -/
theorem dereference_fuel {fuel fuel' : Nat} {origin current : NodeRef} {steps : Nat}
    (h : s.need current steps ≤ fuel) (h' : s.need current steps ≤ fuel') :
    s.dereference beyond fuel origin current steps =
      s.dereference s.tooLong fuel' origin current steps := by
  induction fuel generalizing fuel' origin current steps with
  | zero => have := s.le_need current steps; omega
  | succ fuel ih =>
    obtain _ | fuel' := fuel'
    · have := s.le_need current steps; omega
    -- a move is counted, so it pays for the fuel that it takes
    have hmove : ∀ (next : NodeRef) (st : Nat), steps ≤ st →
        s.move beyond fuel origin next st = s.move s.tooLong fuel' origin next st := by
      intro next st hst
      unfold move
      split_ifs with hd
      · rfl
      · have := s.need_le next (st + 1)
        have := s.le_need current steps
        exact ih (by omega) (by omega)
    by_cases hl : Leads (s.workspace.kind current)
    · rcases hl with ⟨name, v, hk⟩ | ⟨name, v, hk⟩
      · rw [dereference_property hk, dereference_property hk, hmove _ _ (Nat.le_refl _)]
      · rw [dereference_entity hk, dereference_entity hk, hmove _ _ (Nat.le_refl _)]
    · by_cases hr : ∃ segments, s.workspace.kind current = .reference segments
      · obtain ⟨segments, hk⟩ := hr
        rw [need_of_not_leads hl] at h h'
        -- following is not counted, but goes on from a node that leads on, which needs less
        have hf : s.follow (s.dereference beyond fuel current) current segments steps =
            s.follow (s.dereference s.tooLong fuel' current) current segments steps :=
          follow_congr (dereference_sound fuel' current) fun t st ht hst => by
            have := need_of_leads ht st
            exact ih (by omega) (by omega)
        rw [dereference_reference hk, dereference_reference hk, hf]
        rcases hg : s.follow (s.dereference s.tooLong fuel' current) current segments steps with
          _ | ⟨next | _, st⟩
        · rfl
        · exact hmove next st (follow_sound (dereference_sound fuel' current) hg).1
        · rfl
      · have hr' : ∀ segments, s.workspace.kind current ≠ .reference segments :=
          fun segments hs => hr ⟨segments, hs⟩
        rw [dereference_value hl hr', dereference_value hl hr']

end Scope

end TestData.Engine
