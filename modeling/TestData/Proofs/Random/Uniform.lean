import Mathlib.Tactic.Common
import TestData.Random.Draw

/-!
Uniform integers lie in their range.
-/

namespace TestData.Random.Source

variable (s : Source)

lemma below64_lt {range : Nat} (h : 0 < range) (zone fuel : Nat) :
    (s.below64 range zone fuel).1 < range := by
  induction fuel generalizing s with
  | zero => exact h
  | succ fuel ih =>
    rw [below64]
    rcases s.longWord with ⟨word, s₁⟩
    dsimp only
    split_ifs
    · have hword : word.toNat < UInt64.size := word.toNat_lt
      exact Nat.div_lt_of_lt_mul (Nat.mul_lt_mul_of_pos_right hword h)
    · exact ih s₁

lemma index_lt {n : Nat} (h : 0 < n) : (s.index n).1 < n := by
  unfold index below
  rw [show Nat.max n 1 = n from Nat.max_eq_left h]
  exact s.below64_lt h _ _

/-- **An integer is drawn from its range**, also where every integer of 64 bits is in it. -/
lemma intBetween_mem {min max : Int} (h : min ≤ max) (hmin : Decimal.leastInteger ≤ min)
    (hmax : max ≤ Decimal.greatestInteger) :
    min ≤ (s.intBetween min max).1 ∧ (s.intBetween min max).1 ≤ max := by
  have hsize : UInt64.size = 18446744073709551616 := rfl
  unfold Decimal.leastInteger at hmin
  unfold Decimal.greatestInteger at hmax
  unfold intBetween
  dsimp only
  split_ifs with hle hwide
  · exact ⟨Int.le_refl min, h⟩
  · -- the range is that of the words themselves
    have hlow := s.longWord.1.toInt64.le_toInt
    have hhigh := s.longWord.1.toInt64.toInt_lt
    dsimp only
    omega
  · have hlt := s.below64_lt (by omega : 0 < (max - min + 1).toNat)
      (shiftedZone (max - min + 1).toNat) retries
    unfold below
    dsimp only
    omega

/-- A distance is drawn from its range; it is zero where the range is empty. -/
lemma intBetween_zero_mem {n : Int} (hn : n ≤ Decimal.greatestInteger) :
    0 ≤ (s.intBetween 0 n).1 ∧ (s.intBetween 0 n).1 ≤ max 0 n := by
  by_cases h : 0 ≤ n
  · have := s.intBetween_mem h (by decide) hn
    omega
  · rw [intBetween, if_pos (by omega)]
    exact ⟨Int.le_refl 0, Int.le_max_left 0 n⟩

end TestData.Random.Source
