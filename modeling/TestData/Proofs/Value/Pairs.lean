import Mathlib.Data.List.Nodup
import Mathlib.Tactic.Common

/-!
Looking up in lists of pairs.

The first pair with a key decides. So a pair in front hides the others with its key, the last pair
with a key decides in the reversed list, and all pairs count where no key stands twice.
-/

namespace TestData

section

variable {α β : Type} [BEq α] [LawfulBEq α] {l : List (α × β)} {k : α} {b : β}

lemma lookup_cons_if [DecidableEq α] (n : α) (b : β) (l : List (α × β)) (t : α) :
    ((n, b) :: l).lookup t = if t = n then some b else l.lookup t := by
  by_cases h : t = n
  · simp [h]
  · have : (t == n) = false := by simpa using h
    simp only [List.lookup_cons, this, h, if_false]

/-- Looking up after the entries of a key are gone. -/
lemma lookup_filter_ne [DecidableEq α] (l : List (α × β)) (n t : α) :
    (l.filter (·.1 ≠ n)).lookup t = if t = n then none else l.lookup t := by
  induction l with
  | nil => simp
  | cons p l ih =>
    obtain ⟨m, b⟩ := p
    by_cases hm : m = n
    · have hf : ((m, b) :: l).filter (·.1 ≠ n) = l.filter (·.1 ≠ n) :=
        List.filter_cons_of_neg (by simp [hm])
      rw [hf, ih, lookup_cons_if, hm]
      split_ifs <;> rfl
    · have hf : ((m, b) :: l).filter (·.1 ≠ n) = (m, b) :: l.filter (·.1 ≠ n) :=
        List.filter_cons_of_pos (by simp [hm])
      rw [hf, lookup_cons_if, lookup_cons_if, ih]
      by_cases ht : t = n
      · rw [if_pos ht, if_pos ht, if_neg (by rw [ht]; exact Ne.symm hm)]
      · rw [if_neg ht, if_neg ht]

/-- A key that is there once is looked up to what stands with it. -/
lemma lookup_iff_mem (hl : (l.map (·.1)).Nodup) : l.lookup k = some b ↔ (k, b) ∈ l := by
  rw [List.lookup_eq_some_iff]
  constructor
  · rintro ⟨l₁, l₂, rfl, -⟩
    simp
  · intro h
    obtain ⟨l₁, l₂, rfl⟩ := List.append_of_mem h
    refine ⟨l₁, l₂, rfl, fun q hq => ?_⟩
    rw [List.map_append, List.nodup_append] at hl
    have hne := hl.2.2 q.1 (List.mem_map_of_mem hq) k (by simp)
    simpa using Ne.symm hne

lemma forall_bne_iff_notMem : (∀ p ∈ l, (k != p.1) = true) ↔ k ∉ l.map (·.1) := by
  rw [List.mem_map, not_exists]
  refine forall_congr' fun p => ?_
  rw [bne_iff_ne, not_and, ne_comm]

lemma lookup_eq_none_iff_notMem : l.lookup k = none ↔ k ∉ l.map (·.1) :=
  List.lookup_eq_none_iff.trans forall_bne_iff_notMem

/-- Backwards, what stands last with a key is found. -/
lemma lookup_reverse_eq_some_iff : l.reverse.lookup k = some b ↔
    ∃ earlier later, l = earlier ++ (k, b) :: later ∧ k ∉ later.map (·.1) := by
  rw [List.lookup_eq_some_iff]
  constructor
  · rintro ⟨l₁, l₂, hl, hk⟩
    refine ⟨l₂.reverse, l₁.reverse, ?_, ?_⟩
    · rw [← List.reverse_reverse l, hl]
      simp
    · rw [List.map_reverse, List.mem_reverse]
      exact forall_bne_iff_notMem.mp hk
  · rintro ⟨earlier, later, rfl, hk⟩
    refine ⟨later.reverse, earlier.reverse, by simp, forall_bne_iff_notMem.mpr ?_⟩
    rwa [List.map_reverse, List.mem_reverse]

end

end TestData
