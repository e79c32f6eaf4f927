import TestData.Proofs.Decimal.Arithmetic
import TestData.Random.Draw

/-!
Ranges of real numbers that are too wide to be drawn from.

The scale of a draw is the distance of the bounds, rounded, divided by the greatest fraction and
rounded again. It is infinite from a distance a little below the greatest number on (`widthLimit`),
and then nothing can be drawn (`realBetween_eq_none_iff`).
-/

namespace TestData.Random

open Decimal

/-- The least distance of bounds, in ticks, whose scale is infinite. -/
@[irreducible] def widthLimit : Nat := (2 ^ 54 - 5) * 2 ^ 2044

variable {d j k : Nat}

lemma roundTicks_scale_le (h : d ≤ (2 ^ 53 - 3) * 2 ^ k) :
    roundTicks (d * (2 ^ 52 * 2 ^ j)) ((2 ^ 52 - 1) * 2 ^ j) ≤ (2 ^ 53 - 1) * 2 ^ k := by
  refine roundTicks_le (by positivity) ⟨2 ^ 53 - 1, k, by norm_num, rfl⟩ ?_
  calc d * (2 ^ 52 * 2 ^ j) ≤ (2 ^ 53 - 3) * 2 ^ k * (2 ^ 52 * 2 ^ j) := Nat.mul_le_mul_right _ h
    _ = (2 ^ 53 - 3) * 2 ^ 52 * (2 ^ k * 2 ^ j) := by ring
    _ ≤ (2 ^ 53 - 1) * (2 ^ 52 - 1) * (2 ^ k * 2 ^ j) := Nat.mul_le_mul_right _ (by norm_num)
    _ = (2 ^ 53 - 1) * 2 ^ k * ((2 ^ 52 - 1) * 2 ^ j) := by ring

lemma le_roundTicks_scale (h : (2 ^ 53 - 3 + 1) * 2 ^ k ≤ d) :
    2 ^ 53 * 2 ^ k ≤ roundTicks (d * (2 ^ 52 * 2 ^ j)) ((2 ^ 52 - 1) * 2 ^ j) := by
  refine le_roundTicks (by positivity) ⟨2 ^ 52, k + 1, by norm_num, by ring⟩ ?_
  calc
    2 ^ 53 * 2 ^ k * ((2 ^ 52 - 1) * 2 ^ j)
      = (2 ^ 53 - 3 + 1) * 2 ^ k * (2 ^ 52 * 2 ^ j) := by ring
    _ ≤ d * (2 ^ 52 * 2 ^ j) := Nat.mul_le_mul_right _ h

lemma isFinite_greatestFraction : Source.greatestFraction.isFinite := rfl

lemma ticks_greatestFraction : ticks Source.greatestFraction = (2 ^ 52 - 1) * 2 ^ 1022 := by
  decide +kernel

variable {x : Float}

/-- The scale of a finite distance. -/
lemma ticks_scale (hx : x.isFinite) (hd : ticks x = d) :
    (x / Source.greatestFraction).isNaN = false ∧ ticks (x / Source.greatestFraction) =
      (min (roundTicks (d * (2 ^ 52 * 2 ^ 1022)) ((2 ^ 52 - 1) * 2 ^ 1022))
        infinityTicks : Nat) := by
  have hgf : ticks Source.greatestFraction = ((2 ^ 52 - 1) * 2 ^ 1022 : Nat) := by
    rw [ticks_greatestFraction, Nat.cast_mul, cast_two_pow]
    rfl
  obtain ⟨hnan, ht⟩ := ticks_div hx isFinite_greatestFraction (by rw [hgf]; positivity)
  refine ⟨hnan, ?_⟩
  have hone : oneTicks = 2 ^ 52 * 2 ^ 1022 := by
    unfold oneTicks
    rw [← pow_add]
  rw [ht, hgf, Int.toNat_natCast, hd, hone, ← Nat.cast_mul, nearestTicks_natCast]

lemma fraction_lt_infinityTicks : (2 ^ 53 - 1) * 2 ^ 2045 < infinityTicks := by
  unfold infinityTicks
  rw [show 2098 = 53 + 2045 from rfl, pow_add]
  exact Nat.mul_lt_mul_of_pos_right (by norm_num) (by positivity)

lemma isFinite_scale (hx : x.isFinite) (hd : ticks x = d) (h : d ≤ (2 ^ 53 - 3) * 2 ^ 2045) :
    (x / Source.greatestFraction).isFinite := by
  obtain ⟨hnan, ht⟩ := ticks_scale hx hd
  rw [isFinite_iff hnan, ht, Nat.abs_cast, Nat.cast_lt]
  exact (min_le_left _ _).trans_lt ((roundTicks_scale_le h).trans_lt fraction_lt_infinityTicks)

lemma not_isFinite_scale (hx : x.isFinite) (hd : ticks x = d)
    (h : (2 ^ 53 - 3 + 1) * 2 ^ 2045 ≤ d) :
    ¬(x / Source.greatestFraction).isFinite := by
  obtain ⟨hnan, ht⟩ := ticks_scale hx hd
  have hle : infinityTicks ≤ 2 ^ 53 * 2 ^ 2045 := by
    rw [← pow_add]
    exact infinityTicks_le_two_pow le_rfl
  rw [isFinite_iff hnan, ht, Nat.abs_cast, Nat.cast_lt, not_lt]
  exact le_min (hle.trans (le_roundTicks_scale h)) le_rfl

lemma roundTicks_le_iff_lt (w k : Nat) :
    roundTicks w 1 ≤ (2 ^ 53 - 3) * 2 ^ (k + 1) ↔ w < (2 ^ 54 - 5) * 2 ^ k := by
  have hmid : (2 * (2 ^ 53 - 3) + 1) * (1 * 2 ^ (k + 1)) = 2 * ((2 ^ 54 - 5) * 2 ^ k) := by ring
  rw [roundTicks_le_iff one_pos (.inl (by norm_num)) (by norm_num), hmid,
    Nat.mul_lt_mul_left two_pos]
  exact or_iff_left fun h => absurd h.2 (by norm_num)

/-- A distance below the limit is rounded to at most the number before the last but one. -/
lemma roundTicks_le_iff_lt_widthLimit (w : Nat) :
    roundTicks w 1 ≤ (2 ^ 53 - 3) * 2 ^ 2045 ↔ w < widthLimit := by
  obtain ⟨k, hk, hk'⟩ : ∃ k, 2044 = k ∧ 2045 = k + 1 := ⟨_, rfl, rfl⟩
  unfold widthLimit
  simp only [hk, hk']
  exact roundTicks_le_iff_lt w k

variable {min max : Float}

/-- **The scale of two bounds is finite** exactly below the limit of their distance. -/
theorem isFinite_scale_iff (hmin : min.isFinite) (hmax : max.isFinite) (h : min < max) :
    ((max - min) / Source.greatestFraction).isFinite ↔ ticks max - ticks min < widthLimit := by
  rw [lt_iff_ticks_lt (isNaN_of_isFinite hmin).1 (isNaN_of_isFinite hmax).1] at h
  obtain ⟨w, hw⟩ := Int.eq_ofNat_of_zero_le (show 0 ≤ ticks max - ticks min by omega)
  obtain ⟨hnan, hsub⟩ := ticks_sub hmax hmin
  rw [hw, nearestTicks_natCast] at hsub
  rw [hw, Nat.cast_lt, ← roundTicks_le_iff_lt_widthLimit]
  by_cases hfin : (max - min).isFinite
  · obtain ⟨hrep, -⟩ := representable_ticks hnan
    have hlt := (isFinite_iff hnan).mp hfin
    rw [hsub, Nat.abs_cast, Nat.cast_lt, min_lt_iff, or_iff_left (lt_irrefl _)] at hlt
    rw [min_eq_left hlt.le] at hsub
    rw [hsub, Int.natAbs_natCast] at hrep
    by_cases hle : roundTicks w 1 ≤ (2 ^ 53 - 3) * 2 ^ 2045
    · exact iff_of_true (isFinite_scale hfin hsub hle) hle
    · exact iff_of_false (not_isFinite_scale hfin hsub
        (hrep.succ_le (by norm_num) (not_le.mp hle))) hle
  · have hinf : infinityTicks ≤ roundTicks w 1 := by
      by_contra hlt
      refine hfin ((isFinite_iff hnan).mpr ?_)
      rw [hsub, Nat.abs_cast, Nat.cast_lt]
      exact min_lt_of_left_lt (not_le.mp hlt)
    have hpos : 0 < ticks Source.greatestFraction := by
      rw [ticks_greatestFraction]
      positivity
    obtain ⟨hq, hquot⟩ := ticks_div_of_infinite hnan hfin isFinite_greatestFraction hpos
    refine iff_of_false (fun hc => ?_) (fun hc => ?_)
    · rw [isFinite_iff hq, hquot, ← isFinite_iff hnan] at hc
      exact hfin hc
    · have hle := (hinf.trans hc).trans (Nat.mul_le_mul_right (2 ^ 2045)
        (show 2 ^ 53 - 3 ≤ 2 ^ 53 - 1 by norm_num))
      exact absurd fraction_lt_infinityTicks hle.not_gt

/-- **Nothing can be drawn** between two bounds in order exactly if one of them is infinite or they
are too far apart. -/
theorem realBetween_eq_none_iff (s : Source) :
    s.realBetween min max = none ↔
      min < max ∧ (¬min.isFinite ∨ ¬max.isFinite ∨ widthLimit ≤ ticks max - ticks min) := by
  unfold Source.realBetween
  by_cases h : min < max
  · by_cases hmin : min.isFinite
    · by_cases hmax : max.isFinite
      · have hscale := isFinite_scale_iff hmin hmax h
        simp [h, hmin, hmax, ← not_lt, ← hscale]
      · simp [h, hmin, hmax]
    · simp [h, hmin]
  · simp [h]

end TestData.Random
