import TestData.Proofs.Decimal.Arithmetic
import TestData.Random.Draw

/-!
Random fractions of a number.

A number from 0 to before 1, times another one, is rounded, and the product can come out as that
other number: this happens to the numbers up to the least one with 53 digits, and to no greater one
(`mul_lt_self`, `unit_mul_top`).
-/

namespace TestData.Random

open Decimal Float.Model

/-- The least number with 53 digits, `2 ^ -1022`. -/
def leastNormal : Float := Float.ofBits 0x0010000000000000

lemma ticks_leastNormal : ticks leastNormal = 2 ^ 52 := by decide +kernel

lemma isNaN_leastNormal : leastNormal.isNaN = false := rfl

/-! ### Rounding a fraction -/

/-- A number beyond `2 ^ 52` ticks has exactly 53 digits before its zeros. -/
lemma exists_normal {t : Nat} (ht : Representable t) (h : 2 ^ 52 < t) :
    ∃ m j, 2 ^ 52 ≤ m ∧ m < 2 ^ 53 ∧ t = m * 2 ^ j := by
  obtain ⟨c, k, hc, rfl⟩ := ht
  have hlog : 52 ≤ (c * 2 ^ k).log2 := (Nat.le_log2 (by omega)).mpr h.le
  have hlow := Nat.log2_self_le (show c * 2 ^ k ≠ 0 by omega)
  have hhigh : c * 2 ^ k < 2 ^ ((c * 2 ^ k).log2 + 1) := Nat.lt_log2_self
  have hk : (c * 2 ^ k).log2 - 52 ≤ k := by
    have hlt : c * 2 ^ k < 2 ^ (53 + k) := by
      rw [pow_add]
      exact Nat.mul_lt_mul_of_pos_right hc (by positivity)
    have := (Nat.pow_lt_pow_iff_right one_lt_two).mp (hlow.trans_lt hlt)
    omega
  generalize (c * 2 ^ k).log2 = l at *
  have hsplit : c * 2 ^ k = c * 2 ^ (k - (l - 52)) * 2 ^ (l - 52) := by
    rw [mul_assoc, ← pow_add, Nat.sub_add_cancel hk]
  refine ⟨_, _, ?_, ?_, hsplit⟩
  · rw [hsplit, show l = 52 + (l - 52) by omega, pow_add] at hlow
    simp only [Nat.add_sub_cancel_left] at hlow
    exact Nat.le_of_mul_le_mul_right hlow (by positivity)
  · rw [hsplit, show l + 1 = 53 + (l - 52) by omega, pow_add] at hhigh
    exact Nat.lt_of_mul_lt_mul_right hhigh

/-- A fraction of a power of two is at most the number before it. -/
lemma roundTicks_fraction_two_pow_lt {k j : Nat} (hk : k < 2 ^ 53) :
    roundTicks (k * (2 ^ 52 * 2 ^ (j + 1))) (2 ^ 53) < 2 ^ 52 * 2 ^ (j + 1) := by
  have hle : roundTicks (k * (2 ^ 52 * 2 ^ (j + 1))) (2 ^ 53) ≤ (2 ^ 53 - 1) * 2 ^ j := by
    refine roundTicks_le (by positivity) ⟨2 ^ 53 - 1, j, by norm_num, rfl⟩ ?_
    calc k * (2 ^ 52 * 2 ^ (j + 1)) ≤ (2 ^ 53 - 1) * (2 ^ 52 * 2 ^ (j + 1)) :=
          Nat.mul_le_mul_right _ (by omega)
      _ = (2 ^ 53 - 1) * 2 ^ j * 2 ^ 53 := by ring
  have hpos : 0 < 2 ^ j := by positivity
  calc roundTicks (k * (2 ^ 52 * 2 ^ (j + 1))) (2 ^ 53) ≤ (2 ^ 53 - 1) * 2 ^ j := hle
    _ < 2 ^ 53 * 2 ^ j := Nat.mul_lt_mul_of_pos_right (by norm_num) hpos
    _ = 2 ^ 52 * 2 ^ (j + 1) := by ring

/-- A fraction of a number between two powers of two: what is taken off is more than half of the
last digit. -/
lemma roundTicks_fraction_between_lt {k m j : Nat} (hk : k < 2 ^ 53) (hm : 2 ^ 52 < m)
    (hm' : m < 2 ^ 53) : roundTicks (k * (m * 2 ^ j)) (2 ^ 53) < m * 2 ^ j := by
  have hpos : 0 < 2 ^ j := by positivity
  have hlt : k * (m * 2 ^ j) / 2 ^ 53 < 2 ^ (53 + j) := by
    rw [Nat.div_lt_iff_lt_mul (by positivity), pow_add, mul_comm (2 ^ 53 * 2 ^ j)]
    exact Nat.mul_lt_mul'' hk (Nat.mul_lt_mul_of_pos_right hm' hpos)
  have hs : spareDigits (k * (m * 2 ^ j)) (2 ^ 53) ≤ j := by
    by_contra hc
    have hbig := two_pow_spareDigits_le (n := k * (m * 2 ^ j)) (d := 2 ^ 53) (by omega)
    have := (Nat.pow_lt_pow_iff_right one_lt_two).mp (hbig.trans_lt hlt)
    omega
  rcases Nat.eq_or_lt_of_le hs with hs | hs
  · rw [roundTicks, hs]
    have hround : nearestEven (k * (m * 2 ^ j)) (2 ^ 53 * 2 ^ j) ≤ m - 1 := by
      rw [← mul_assoc, nearestEven_mul_right hpos, nearestEven_le_iff (by positivity)]
      left
      calc 2 * (k * m) ≤ 2 * ((2 ^ 53 - 1) * m) :=
            Nat.mul_le_mul_left 2 (Nat.mul_le_mul_right m (by omega))
        _ < (2 * (m - 1) + 1) * 2 ^ 53 := by omega
    exact Nat.mul_lt_mul_of_pos_right (by omega) hpos
  · have hle : roundTicks (k * (m * 2 ^ j)) (2 ^ 53) ≤ 2 ^ 52 * 2 ^ j := by
      refine roundTicks_le (by positivity) ⟨2 ^ 52, j, by norm_num, rfl⟩ ?_
      have hdiv := div_lt_two_pow_spareDigits (k * (m * 2 ^ j)) (2 ^ 53)
      rw [Nat.div_lt_iff_lt_mul (by positivity)] at hdiv
      refine hdiv.le.trans (Nat.mul_le_mul_right _ ?_)
      rw [← pow_add]
      exact Nat.pow_le_pow_right (by norm_num) (by omega)
    exact hle.trans_lt (Nat.mul_lt_mul_of_pos_right hm hpos)

/-- A fraction of a number with 53 digits is rounded to less than that number. -/
lemma roundTicks_fraction_lt {t k : Nat} (ht : Representable t) (h : 2 ^ 52 < t) (hk : k < 2 ^ 53) :
    roundTicks (k * t) (2 ^ 53) < t := by
  obtain ⟨m, j, hm, hm', rfl⟩ := exists_normal ht h
  rcases Nat.eq_or_lt_of_le hm with rfl | hm
  · obtain ⟨i, rfl⟩ : ∃ i, j = i + 1 :=
      Nat.exists_eq_succ_of_ne_zero (by rintro rfl; simp at h)
    exact roundTicks_fraction_two_pow_lt hk
  · exact roundTicks_fraction_between_lt hk hm hm'

/-- The greatest fraction of a number with fewer digits is rounded to that number. -/
lemma roundTicks_fraction_top {t : Nat} (h : t ≤ 2 ^ 52) :
    roundTicks ((2 ^ 53 - 1) * t) (2 ^ 53) = t := by
  rcases Nat.eq_zero_or_pos t with rfl | hpos
  · exact roundTicks_zero
  have hs : spareDigits ((2 ^ 53 - 1) * t) (2 ^ 53) = 0 := by
    have hlt : (2 ^ 53 - 1) * t / 2 ^ 53 < 2 ^ 53 := by omega
    unfold spareDigits
    by_cases h0 : (2 ^ 53 - 1) * t / 2 ^ 53 = 0
    · rw [h0]; rfl
    · have := (Nat.log2_lt h0).mpr hlt
      omega
  rw [roundTicks, hs, pow_zero, mul_one, mul_one]
  refine le_antisymm (nearestEven_le_of_le (by positivity) (by omega)) ?_
  by_contra hc
  have hle : nearestEven ((2 ^ 53 - 1) * t) (2 ^ 53) ≤ t - 1 := by omega
  rw [nearestEven_le_iff (by norm_num)] at hle
  omega

/-! ### Drawing a fraction -/

/-- A number with at most 53 digits is not rounded. -/
lemma nearestTicks_two_pow {c k : Nat} (hc : c < 2 ^ 53) (hk : k ≤ 2045) :
    nearestTicks ((c : Int) * 2 ^ k) 1 = c * 2 ^ k := by
  have hle : c * 2 ^ k ≤ infinityTicks := by
    zify
    rw [cast_infinityTicks]
    calc (c : Int) * 2 ^ k ≤ 2 ^ 53 * 2 ^ k :=
          Int.mul_le_mul_of_nonneg_right (by exact_mod_cast hc.le) (by positivity)
      _ = 2 ^ (53 + k) := (pow_add _ _ _).symm
      _ ≤ 2 ^ 2098 := pow_le_pow_right₀ (by norm_num) (by omega)
  have h := nearestTicks_of_representable (z := (c * 2 ^ k : Nat)) ⟨c, k, hc, rfl⟩ hle one_pos
  rwa [Nat.cast_one, mul_one, Nat.cast_mul, cast_two_pow] at h

/-- Bits taken as the digits after the point: the quotient is exact. -/
lemma ticks_digits {w : UInt64} {d : Float} {j : Nat} (hw : w.toNat < 2 ^ 53) (hj : j ≤ 53)
    (hd : ticks d = 2 ^ (j + 1074)) (hfin : d.isFinite) :
    (w.toFloat / d).isNaN = false ∧ ticks (w.toFloat / d) * 2 ^ j = w.toNat * oneTicks := by
  have hone := two_pow_mul_oneTicks 0
  rw [pow_zero, one_mul, zero_add] at hone
  obtain ⟨hnan, hint⟩ := ticks_ofUInt64 w
  rw [hone, nearestTicks_two_pow hw (by norm_num)] at hint
  have hwfin : w.toFloat.isFinite := by
    have hpos : (0 : Int) ≤ w.toNat * 2 ^ 1074 :=
      mul_nonneg (Int.natCast_nonneg _) (pow_nonneg (by norm_num) _)
    rw [isFinite_iff hnan, hint, abs_of_nonneg hpos, cast_infinityTicks]
    calc (w.toNat : Int) * 2 ^ 1074 < 2 ^ 53 * 2 ^ 1074 :=
          Int.mul_lt_mul_of_pos_right (by exact_mod_cast hw) (by positivity)
      _ = 2 ^ (53 + 1074) := (pow_add _ _ _).symm
      _ ≤ 2 ^ 2098 := pow_le_pow_right₀ (by norm_num) (by norm_num)
  obtain ⟨hq, h⟩ := ticks_div hwfin hfin (by rw [hd]; positivity)
  have hden : (ticks d).toNat = 2 ^ (j + 1074) := by rw [hd, ← cast_two_pow, Int.toNat_natCast]
  refine ⟨hq, ?_⟩
  have hcongr : nearestTicks (ticks w.toFloat * oneTicks) (2 ^ (j + 1074)) =
      nearestTicks (w.toNat * 2 ^ (1074 - j)) 1 := by
    refine nearestTicks_congr (by positivity) one_pos ?_
    rw [hint, hone, cast_two_pow, Nat.cast_one, mul_one, mul_assoc, mul_assoc, ← pow_add, ← pow_add,
      show 1074 + 1074 = 1074 - j + (j + 1074) by omega]
  rw [h, hden, hcongr, nearestTicks_two_pow hw (by omega), hone, mul_assoc, ← pow_add,
    Nat.sub_add_cancel (by omega)]

/-- The 53 bits that a fraction is drawn from. -/
def Source.fractionBits (s : Source) : Nat := s.longWord.1.toNat / 2048

lemma Source.fractionBits_lt (s : Source) : s.fractionBits < 2 ^ 53 := by
  have : s.longWord.1.toNat < 18446744073709551616 := s.longWord.1.toNat_lt
  unfold fractionBits
  omega

lemma Source.ticks_unit (s : Source) :
    s.unit.1.isNaN = false ∧ ticks s.unit.1 * 2 ^ 53 = s.fractionBits * oneTicks := by
  have h : (s.longWord.1 >>> 11).toNat = s.fractionBits := by
    rw [UInt64.toNat_shiftRight, Nat.shiftRight_eq_div_pow]; rfl
  rw [← h]
  exact ticks_digits (h ▸ s.fractionBits_lt) le_rfl (by decide +kernel) rfl

variable {x : Float}

/-- Draws are from 0 to before 1. -/
lemma Source.unit_bounds (s : Source) : 0 ≤ s.unit.1 ∧ s.unit.1 < 1 := by
  obtain ⟨hnan, hu⟩ := s.ticks_unit
  have hone : (0 : Int) < oneTicks := by exact_mod_cast oneTicks_pos
  have hlt : (s.fractionBits : Int) < 2 ^ 53 := by exact_mod_cast s.fractionBits_lt
  rw [le_iff_ticks_le isNaN_zero hnan, lt_iff_ticks_lt hnan isNaN_one, ticks_zero, ticks_one]
  constructor <;> nlinarith

variable {u x : Float}

lemma isFinite_of_lt_one (hu : u.isNaN = false) (h0 : 0 ≤ ticks u) (h1 : u < 1) : u.isFinite := by
  rw [lt_iff_ticks_lt hu isNaN_one, ticks_one] at h1
  rw [isFinite_iff hu, abs_of_nonneg h0]
  exact h1.trans oneTicks_lt_infinityTicks

/-- The product is the rounding of the fraction in ticks. -/
lemma ticks_fraction_mul {k : Nat} (hu : u.isNaN = false) (hk : ticks u * 2 ^ 53 = k * oneTicks)
    (hlt : k < 2 ^ 53) (hx : x.isFinite) :
    (u * x).isNaN = false ∧ ticks (u * x) = nearestTicks (k * ticks x) (2 ^ 53) := by
  have hone : (0 : Int) < oneTicks := by exact_mod_cast oneTicks_pos
  have hfin : u.isFinite := by
    have hlt' : (k : Int) < 2 ^ 53 := by exact_mod_cast hlt
    rw [isFinite_iff hu, abs_of_nonneg (by nlinarith)]
    exact lt_trans (by nlinarith) oneTicks_lt_infinityTicks
  obtain ⟨hm, ht⟩ := ticks_mul hfin hx
  refine ⟨hm, ht.trans (nearestTicks_congr oneTicks_pos (by positivity) ?_)⟩
  rw [cast_two_pow, mul_right_comm, hk]
  ring

/-- **A fraction of a number with 53 digits is less than the number.** -/
theorem mul_lt_self (h0 : 0 ≤ u) (h1 : u < 1) (hx : x.isFinite) (h : leastNormal < x) :
    u * x < x := by
  have hx' := (isNaN_of_isFinite hx).1
  obtain ⟨-, hu'⟩ := isNaN_of_le h0
  have hone := oneTicks_pos
  rw [le_iff_ticks_le isNaN_zero hu', ticks_zero] at h0
  have hu := isFinite_of_lt_one hu' h0 h1
  rw [lt_iff_ticks_lt hu' isNaN_one, ticks_one] at h1
  rw [lt_iff_ticks_lt isNaN_leastNormal hx', ticks_leastNormal] at h
  obtain ⟨hrep, -⟩ := representable_ticks hx'
  obtain ⟨hrep', -⟩ := representable_ticks hu'
  obtain ⟨hnan, hmul⟩ := ticks_mul hu hx
  rw [lt_iff_ticks_lt hnan hx', hmul]
  obtain ⟨t, ht⟩ := Int.eq_ofNat_of_zero_le (show 0 ≤ ticks x by omega)
  obtain ⟨v, hv⟩ := Int.eq_ofNat_of_zero_le h0
  rw [ht, Int.natAbs_natCast] at hrep
  rw [hv, Int.natAbs_natCast] at hrep'
  rw [hv, cast_oneTicks, show 1074 = 53 + 1021 from rfl, ← cast_two_pow, Nat.cast_lt] at h1
  have hv' : v * 2 ^ 53 ≤ (2 ^ 53 - 1) * oneTicks := by
    calc v * 2 ^ 53 ≤ (2 ^ 53 - 1) * 2 ^ 1021 * 2 ^ 53 :=
          Nat.mul_le_mul_right _ (hrep'.le_of_lt h1)
      _ = (2 ^ 53 - 1) * oneTicks := by
          unfold oneTicks
          rw [mul_assoc, ← pow_add]
  rw [ht, hv]
  calc nearestTicks ((v : Int) * t) oneTicks
      = nearestTicks (v * 2 ^ 53 * t : Nat) (oneTicks * 2 ^ 53) :=
        nearestTicks_congr hone (by positivity) (by push_cast; ring)
    _ ≤ nearestTicks ((2 ^ 53 - 1) * oneTicks * t : Nat) (oneTicks * 2 ^ 53) :=
        nearestTicks_mono (by positivity) (Nat.mul_le_mul_right t hv')
    _ = nearestTicks ((2 ^ 53 - 1) * t : Nat) (2 ^ 53) :=
        nearestTicks_congr (by positivity) (by positivity) (by push_cast; ring)
    _ < t := by
        rw [nearestTicks_natCast, Nat.cast_lt]
        exact (min_le_left _ _).trans_lt (roundTicks_fraction_lt hrep (by omega) (by norm_num))

/-- A fraction of an infinity. -/
lemma mul_of_infinite (h0 : 0 ≤ u) (h1 : u < 1) (hx : x.isNaN = false) (hinf : ¬x.isFinite) :
    (u * x).isNaN ∨ (u * x).isNaN = false ∧ ticks (u * x) = ticks x := by
  obtain ⟨-, hu⟩ := isNaN_of_le h0
  rw [le_iff_ticks_le isNaN_zero hu, ticks_zero] at h0
  have hfin := isFinite_of_lt_one hu h0 h1
  rcases h0.lt_or_eq with hpos | h0
  · exact .inr (ticks_mul_of_infinite hfin hpos hx hinf)
  · obtain ⟨s, hz⟩ : ∃ s, u.toModel.unpack = .zero s := by
      obtain ⟨s, hz, -⟩ | ⟨s, m, e, hm, -, hc, ht⟩ := unpack_cases_of_isFinite hfin
      · exact ⟨s, hz⟩
      · have := abs_apply s (m * 2 ^ (e + 1074).toNat)
        rw [← ht, ← h0, abs_zero, abs_of_pos (hc.ticks_bounds hm).1] at this
        exact absurd this (hc.ticks_bounds hm).1.ne
    obtain ⟨s', hi, -⟩ := unpack_of_infinite hx hinf
    left
    show (Float.Model.pack
      (UnpackedFloat.mul Format.binary64 u.toModel.unpack x.toModel.unpack)).unpack.isNaN = true
    rw [hz, hi]
    show (Float.Model.pack .notANumber).unpack.isNaN = true
    decide

/-- A fraction of a number that is not negative is not negative. -/
lemma not_mul_lt_zero (h0 : 0 ≤ u) (h1 : u < 1) (hx : x.isNaN = false) (hn : 0 ≤ ticks x) :
    ¬u * x < 0 := by
  intro hlt
  obtain ⟨hnan, -⟩ := isNaN_of_lt hlt
  rw [lt_iff_ticks_lt hnan isNaN_zero, ticks_zero] at hlt
  obtain ⟨-, hu⟩ := isNaN_of_le h0
  by_cases hfin : x.isFinite
  · rw [le_iff_ticks_le isNaN_zero hu, ticks_zero] at h0
    obtain ⟨-, hmul⟩ := ticks_mul (isFinite_of_lt_one hu h0 h1) hfin
    obtain ⟨n, hn'⟩ := Int.eq_ofNat_of_zero_le (mul_nonneg h0 hn)
    rw [hmul, hn', nearestTicks_natCast] at hlt
    omega
  · rcases mul_of_infinite h0 h1 hx hfin with h | ⟨-, h⟩
    · rw [h] at hnan; cases hnan
    · omega

/-- A source that gives the greatest fraction. -/
def Source.top (k : Key) : Source := { key := k, next := 0, rest := [0xFFFFFFFF, 0xFFFFFFFF] }

lemma Source.fractionBits_top (k : Key) : (top k).fractionBits = 2 ^ 53 - 1 := by
  have h : (top k).longWord.1 = 0xFFFFFFFFFFFFFFFF := by
    simp only [longWord, word, top]
    decide
  rw [fractionBits, h]
  rfl

/-- **The greatest fraction of any other number comes out as that number.** -/
theorem unit_mul_top (k : Key) (hx : 0 ≤ x) (h : ¬(x.isFinite ∧ leastNormal < x)) :
    ¬(Source.top k).unit.1 * x < x := by
  have hx' := (isNaN_of_le hx).2
  obtain ⟨hu, hk⟩ := (Source.top k).ticks_unit
  rw [le_iff_ticks_le isNaN_zero hx', ticks_zero] at hx
  by_cases hfin : x.isFinite
  · have hle : ticks x ≤ 2 ^ 52 := by
      rw [← ticks_leastNormal]
      exact not_lt.mp fun hlt => h ⟨hfin, (lt_iff_ticks_lt isNaN_leastNormal hx').mpr hlt⟩
    obtain ⟨t, ht⟩ := Int.eq_ofNat_of_zero_le hx
    have hinf : t ≤ infinityTicks := by
      have := (representable_ticks hx').2
      rwa [ht, Int.natAbs_natCast] at this
    obtain ⟨hnan, hmul⟩ := ticks_fraction_mul hu hk (Source.fractionBits_lt _) hfin
    rw [not_lt_iff_ticks_le hnan hx', hmul, Source.fractionBits_top, ht, ← Nat.cast_mul,
      nearestTicks_natCast, roundTicks_fraction_top (by omega), min_eq_left hinf]
  · have hpos : 0 < ticks (Source.top k).unit.1 := by
      rw [Source.fractionBits_top] at hk
      have hone : (0 : Int) < oneTicks := by exact_mod_cast oneTicks_pos
      norm_num at hk
      nlinarith
    have hufin : (Source.top k).unit.1.isFinite :=
      isFinite_of_lt_one hu hpos.le (Source.unit_bounds _).2
    obtain ⟨hnan, hmul⟩ := ticks_mul_of_infinite hufin hpos hx' hfin
    rw [not_lt_iff_ticks_le hnan hx', hmul]

end TestData.Random
