import TestData.Proofs.Resolution.Dotted

/-!
References that do not dangle.

That a name means nothing is found where a reference is resolved; properties and entities only lead
on to it. So where every reference by itself stands for something, every node does, except where a
chain is too long.
-/

namespace TestData.Engine

open Schema

namespace Scope

variable {s : Scope} {n : NodeRef} {h : Nat} {e : EvalError}

/-- Every reference stands for something. -/
def Sturdy (s : Scope) : Prop :=
  ∀ n segments, s.workspace.kind n = .reference segments → ∃ r, s.resolve n = .ok r

/-- A node whose query ends in an error stands for nothing, however long the chain may be. -/
lemma Ends.resolve_ne_ok (hn : s.Ends (.deref n) h (.error e)) (r : Resolution) :
    s.resolve n ≠ .ok r := by
  intro hr
  obtain ⟨h', o, -, ho, -⟩ := ends_of_resolve hr
  have hc := hn.found_within (Nat.le_max_left h h')
  rw [ho.found_within (Nat.le_max_right h h')] at hc
  cases hc

/-- A query ends in an error at a reference, or where one of fewer replacements does. -/
lemma Ends.error_cases (hn : s.Ends (.deref n) h (.error e)) :
    (∃ segments, s.workspace.kind n = .reference segments) ∨
      ∃ m k, k < h ∧ s.Ends (.deref m) k (.error e) := by
  cases hn with
  | property _ ho => exact .inr ⟨_, _, Nat.lt_succ_self _, ho⟩
  | entity _ ho => exact .inr ⟨_, _, Nat.lt_succ_self _, ho⟩
  | reference hk => exact .inl ⟨_, hk⟩
  | dangling hk => exact .inl ⟨_, hk⟩
  | unknown hk => exact .inl ⟨_, hk⟩
  | nameless hk => exact .inl ⟨_, hk⟩

lemma Sturdy.not_ends_error (hs : s.Sturdy) : ¬ s.Ends (.deref n) h (.error e) := by
  induction h using Nat.strongRecOn generalizing n with
  | _ h ih =>
    intro hn
    rcases hn.error_cases with ⟨segments, hk⟩ | ⟨m, k, hlt, hm⟩
    · obtain ⟨r, hr⟩ := hs n segments hk
      exact hn.resolve_ne_ok r hr
    · exact ih k hlt hm

/-- **Where references do not dangle**, a node that stands for nothing is in a chain that is too
long. -/
theorem Sturdy.circular (hs : s.Sturdy) (hn : s.resolve n = .error e) : ∃ l, e = .circular l := by
  obtain ⟨x, hx, he⟩ := dereference_explained s.fuel n n 0 (Nat.zero_le _)
  rw [resolve_eq_chase, chase, hx] at hn
  rcases x with e' | ⟨o, steps⟩
  · obtain rfl : e' = e := Except.error.inj hn
    rcases he with hl | ⟨h, -, he⟩
    · exact hl
    · exact absurd he hs.not_ends_error
  · cases hn

end Scope

end TestData.Engine
