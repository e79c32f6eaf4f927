import TestData.Proofs.Decimal.Ticks

/-!
Rounding to the nearest number.

A fraction is rounded to 53 binary digits, of two nearest numbers to the one with the even last
digit. The shifts by which mantissas are rounded, with a digit that is kept for halves and one for
the rest, come to that (`roundWithAccuracy_eq`), and what is then put into bits is the rounding of
the ticks (`ticks_of_rounded`). Rounding does not pass a number that needs no rounding
(`roundTicks_le`, `le_roundTicks`).
-/

namespace TestData.Decimal

open Float.Model Float.Model.UnpackedFloat

/-! ### Nearest integers -/

/-- The integer nearest to `n / d`; the even one where two are. -/
def nearestEven (n d : Nat) : Nat :=
  if 2 * (n % d) < d ∨ 2 * (n % d) = d ∧ n / d % 2 = 0 then n / d else n / d + 1

variable {n d q : Nat}

lemma nearestEven_le_iff (hd : 0 < d) :
    nearestEven n d ≤ q ↔ 2 * n < (2 * q + 1) * d ∨ 2 * n = (2 * q + 1) * d ∧ q % 2 = 0 := by
  have hn := Nat.div_add_mod n d
  have hr := Nat.mod_lt n hd
  unfold nearestEven
  generalize n / d = a at *
  generalize n % d = r at *
  rcases lt_trichotomy q a with h | rfl | h
  · have hge : (2 * q + 2) * d ≤ 2 * a * d := Nat.mul_le_mul_right d (by omega)
    have hgt : (2 * q + 1) * d < 2 * n := by rw [← hn]; linarith [Nat.mul_comm d a]
    exact iff_of_false (by split <;> omega) (by omega)
  · have h2 : 2 * n = 2 * q * d + 2 * r := by rw [← hn]; ring
    have h3 : (2 * q + 1) * d = 2 * q * d + d := by ring
    rw [h2, h3]
    split <;> omega
  · have hge : (2 * a + 3) * d ≤ (2 * q + 1) * d := Nat.mul_le_mul_right d (by omega)
    have hgt : 2 * n < (2 * q + 1) * d := by rw [← hn]; linarith [Nat.mul_comm d a]
    exact iff_of_true (by split <;> omega) (.inl hgt)

/-- An extended mantissa that stands for `n / d`: the integer part, whether the rest is at least a
half and whether it is neither nothing nor a half. -/
structure Reads (em : ExtendedMantissa) (n d : Nat) : Prop where
  mantissa : em.mantissa = n / d
  round : em.roundBit = true ↔ d ≤ 2 * (n % d)
  sticky : em.stickyBit = true ↔ 2 * (n % d) % d ≠ 0

lemma two_mul_mod_eq_zero_iff {r d : Nat} (h : r < d) : 2 * r % d = 0 ↔ r = 0 ∨ 2 * r = d := by
  rcases Nat.lt_or_ge (2 * r) d with h2 | h2
  · rw [Nat.mod_eq_of_lt h2]; omega
  · rw [Nat.mod_eq_sub_mod h2, Nat.mod_eq_of_lt (by omega)]; omega

lemma Reads.shiftRightOne {em : ExtendedMantissa} (h : Reads em n d) (hd : 0 < d) :
    Reads em.shiftRightOne n (d * 2) := by
  have hr := Nat.mod_lt n hd
  have hmod : n % (d * 2) = n % d + d * (n / d % 2) := Nat.mod_mul
  have hbit := Nat.mod_two_eq_zero_or_one (n / d)
  have hz := two_mul_mod_eq_zero_iff hr
  refine ⟨?_, ?_, ?_⟩
  · rw [ExtendedMantissa.shiftRightOne, h.mantissa, Nat.div_div_eq_div_mul]
  · rw [ExtendedMantissa.shiftRightOne, h.mantissa, bne_iff_ne, hmod]
    rcases hbit with hb | hb <;> rw [hb] <;> omega
  · rw [ExtendedMantissa.shiftRightOne, Bool.or_eq_true, h.round, h.sticky,
      Nat.mul_comm d 2, Nat.mul_mod_mul_left, Nat.mul_comm 2 d, hmod, Nat.add_mul_mod_self_left,
      Nat.mod_mod]
    omega

lemma Reads.shiftRight {em : ExtendedMantissa} (h : Reads em n d) (hd : 0 < d) (k : Nat) :
    Reads (em >>> k) n (d * 2 ^ k) := by
  induction k with
  | zero => simpa [HShiftRight.hShiftRight, Nat.repeat] using h
  | succ k ih =>
    rw [pow_succ, ← mul_assoc]
    exact ih.shiftRightOne (by positivity)

lemma Reads.roundedMantissa {em : ExtendedMantissa} (h : Reads em n d) (hd : 0 < d) :
    em.roundedMantissa = nearestEven n d := by
  have hr := Nat.mod_lt n hd
  have hz := two_mul_mod_eq_zero_iff hr
  obtain ⟨m, b, c⟩ := em
  obtain ⟨rfl, hb, hc⟩ := h
  dsimp only at hb hc
  unfold nearestEven
  cases b <;> cases c <;>
    simp only [ExtendedMantissa.roundedMantissa, ExtendedMantissa.accuracy,
      Accuracy.roundToNearestEven, Bool.false_eq_true, false_iff, true_iff] at hb hc ⊢ <;>
    split <;> omega

lemma reads_exact (n : Nat) : Reads (ExtendedMantissa.ofMantissaAndAccuracy n .exact) n 1 :=
  ⟨(Nat.div_one n).symm, by simp [ExtendedMantissa.ofMantissaAndAccuracy, Nat.mod_one],
    by simp [ExtendedMantissa.ofMantissaAndAccuracy, Nat.mod_one]⟩

lemma reads_fraction (n : Nat) (hd : 0 < d) :
    Reads (ExtendedMantissa.ofMantissaAndAccuracy (n / d) (accuracyOfFraction (n % d) d)) n d := by
  have hr := Nat.mod_lt n hd
  have hz := two_mul_mod_eq_zero_iff hr
  unfold accuracyOfFraction
  split
  · rename_i h0
    exact ⟨rfl, by simp [ExtendedMantissa.ofMantissaAndAccuracy]; omega,
      by simp [ExtendedMantissa.ofMantissaAndAccuracy, h0]⟩
  · rcases lt_trichotomy (2 * (n % d)) d with h | h | h
    · rw [compare_lt_iff_lt.mpr h]
      exact ⟨rfl, by simp [ExtendedMantissa.ofMantissaAndAccuracy]; omega,
        by simp only [ExtendedMantissa.ofMantissaAndAccuracy, true_iff]; omega⟩
    · rw [compare_eq_iff_eq.mpr h]
      exact ⟨rfl, by simp [ExtendedMantissa.ofMantissaAndAccuracy]; omega,
        by simp only [ExtendedMantissa.ofMantissaAndAccuracy, Bool.false_eq_true, false_iff]; omega⟩
    · rw [compare_gt_iff_gt.mpr h]
      exact ⟨rfl, by simp [ExtendedMantissa.ofMantissaAndAccuracy]; omega,
        by simp only [ExtendedMantissa.ofMantissaAndAccuracy, true_iff]; omega⟩

/-! ### Rounding to 53 digits -/

/-- The digits of `n / d` beyond the first 53 of the integer part. -/
def spareDigits (n d : Nat) : Nat := (n / d).log2 - 52

/-- The number with 53 binary digits that is nearest to `n / d`. Nothing finer than one is kept. -/
def roundTicks (n d : Nat) : Nat := nearestEven n (d * 2 ^ spareDigits n d) * 2 ^ spareDigits n d

lemma nearestEven_mul_right {c : Nat} (hc : 0 < c) :
    nearestEven (n * c) (d * c) = nearestEven n d := by
  unfold nearestEven
  rw [Nat.mul_div_mul_right _ _ hc, Nat.mul_mod_mul_right, ← Nat.mul_assoc]
  simp only [Nat.mul_lt_mul_right hc, Nat.mul_left_inj (Nat.pos_iff_ne_zero.mp hc)]

/-- How far a mantissa is shifted to have at most 53 digits and an exponent that is allowed. -/
def shiftAmount (m : Nat) (e : Int) : Nat := (max ((m.log2 : Int) + e - 52) (-1074) - e).toNat

lemma shiftToTargetExponent_eq (m : Nat) (e : Int) (acc : Accuracy) :
    shiftToTargetExponent Format.binary64 m e acc =
      (ExtendedMantissa.ofMantissaAndAccuracy m acc >>> shiftAmount m e, e + shiftAmount m e) := by
  have h : (Format.binary64.targetExponent (totalExponent m e) - e).toNat = shiftAmount m e := by
    simp only [Format.targetExponent, totalExponent, Format.mantissaBits, Format.minExponent,
      shiftAmount]
    norm_num
    omega
  rw [shiftToTargetExponent, shiftToExponent, h]

/-- What is left after the shift has at most 53 digits. -/
lemma div_shiftAmount_lt (m : Nat) (e : Int) : m / 2 ^ shiftAmount m e < 2 ^ 53 := by
  rw [Nat.div_lt_iff_lt_mul (by positivity), ← pow_add]
  exact Nat.lt_log2_self.trans_le
    (Nat.pow_le_pow_right (by norm_num) (by unfold shiftAmount; omega))

lemma le_div_shiftAmount {m : Nat} {e : Int} (hbits : 52 ≤ m.log2 ∨ e ≤ -1074) :
    2 ^ 52 ≤ m / 2 ^ shiftAmount m e ∨ e + shiftAmount m e = -1074 := by
  by_cases hm : 52 ≤ m.log2
  · refine or_iff_not_imp_right.mpr fun ht => ?_
    have h0 : m ≠ 0 := by rintro rfl; simp at hm
    rw [Nat.le_div_iff_mul_le (by positivity), ← pow_add]
    refine le_trans (Nat.pow_le_pow_right (by norm_num) ?_) (Nat.log2_self_le h0)
    unfold shiftAmount at ht ⊢
    omega
  · right
    unfold shiftAmount
    omega

lemma le_shiftAmount (m : Nat) (e : Int) : -1074 ≤ e + shiftAmount m e := by
  unfold shiftAmount; omega

lemma div_le_nearestEven (n d : Nat) : n / d ≤ nearestEven n d := by
  unfold nearestEven; split <;> omega

lemma nearestEven_le (n d : Nat) : nearestEven n d ≤ n / d + 1 := by
  unfold nearestEven; split <;> omega

/-- A mantissa with at most 53 digits is not shifted; that a rounding carries is made up for. -/
lemma shift_rounded {r : Nat} {t : Int} (ht : -1074 ≤ t) :
    (r < 2 ^ 53 → shiftToTargetExponent Format.binary64 r t .exact = (⟨r, false, false⟩, t)) ∧
    (r = 2 ^ 53 → shiftToTargetExponent Format.binary64 r t .exact =
      (⟨2 ^ 52, false, false⟩, t + 1)) := by
  refine ⟨fun hr => ?_, ?_⟩
  · have hlog : r.log2 ≤ 52 := by
      by_cases h0 : r = 0
      · simp [h0]
      · have := (Nat.log2_lt h0).mpr hr; omega
    have h0 : shiftAmount r t = 0 := by unfold shiftAmount; omega
    rw [shiftToTargetExponent_eq, h0]
    simp [ExtendedMantissa.ofMantissaAndAccuracy, HShiftRight.hShiftRight, Nat.repeat]
  · rintro rfl
    have h1 : shiftAmount (2 ^ 53) t = 1 := by
      unfold shiftAmount; rw [Nat.log2_two_pow]; omega
    rw [shiftToTargetExponent_eq, h1]
    rfl

/-- **Rounding in one step.** The exponent that is aimed at, the nearest mantissa for it, and the
next exponent where that mantissa has a digit too many. -/
lemma roundWithAccuracy_eq {s : Sign} {n d : Nat} {e : Int} {acc : Accuracy} (hd : 0 < d)
    (h : Reads (ExtendedMantissa.ofMantissaAndAccuracy (n / d) acc) n d) {r : Nat} {t : Int}
    (hr : r = nearestEven n (d * 2 ^ shiftAmount (n / d) e)) (ht : t = e + shiftAmount (n / d) e) :
    -1074 ≤ t ∧ r ≤ 2 ^ 53 ∧ roundWithAccuracy Format.binary64 s (n / d) e acc =
      if h : r = 0 then .zero s
      else if r < 2 ^ 53 then .finite s r t (Nat.pos_of_ne_zero h)
      else .finite s (2 ^ 52) (t + 1) (by positivity) := by
  have hround := (h.shiftRight hd (shiftAmount (n / d) e)).roundedMantissa (by positivity)
  have hlow : -1074 ≤ t := ht ▸ le_shiftAmount _ _
  have hlt := div_shiftAmount_lt (n / d) e
  have hle : r ≤ 2 ^ 53 := by
    have := nearestEven_le n (d * 2 ^ shiftAmount (n / d) e)
    rw [← hr, ← Nat.div_div_eq_div_mul] at this
    omega
  refine ⟨hlow, hle, ?_⟩
  unfold roundWithAccuracy
  rw [shiftToTargetExponent_eq]
  dsimp only
  rw [hround, ← hr, ← ht]
  rcases Nat.lt_or_ge r (2 ^ 53) with hlt | hge
  · rw [(shift_rounded hlow).1 hlt]
    simp only [hlt, if_true]
  · rw [(shift_rounded hlow).2 (by omega)]
    simp only [dif_neg (show r ≠ 0 by omega), if_neg (show ¬ r < 2 ^ 53 by omega)]
    rfl

/-! ### Bits -/

lemma ofBitVec_unpackSign_pack (s : Sign) (e : BitVec 11) (m : BitVec 52) :
    Sign.ofBitVec (unpackSign (packComponents Format.binary64 s e m)) = s := by
  rw [unpackSign_packComponents]
  cases s <;> rfl

lemma pack_finite (s : Sign) (m : Nat) (e : Int) (h : 0 < m) :
    UnpackedFloat.pack Format.binary64 (.finite s m e h) =
      if 2048 ≤ (e + 1075).toNat + 1 then packedInfinity Format.binary64 s
      else if m.log2 + 1 = 53 then
        packComponents Format.binary64 s (BitVec.ofNat 11 (e + 1075).toNat) (BitVec.ofNat 52 m)
      else packComponents Format.binary64 s 0#11 (BitVec.ofNat 52 m) := by
  have hbias :
      (e + (Format.binary64.exponentBias : Int) + (52 : Nat)).toNat = (e + 1075).toNat := by
    show (e + (1023 : Nat) + (52 : Nat)).toNat = _
    omega
  rw [UnpackedFloat.pack]
  simp only [hbias]
  rfl

/-- Bits with an exponent in the middle are a number with 53 digits. -/
lemma unpack_packComponents_normal (s : Sign) {e : Nat} (m : BitVec 52) (h0 : 0 < e)
    (h1 : e < 2047) :
    UnpackedFloat.unpack Format.binary64 (packComponents Format.binary64 s (BitVec.ofNat 11 e) m) =
      .finite s (2 ^ 52 + m.toNat) ((e : Int) - 1075) (by positivity) := by
  have hfield : (BitVec.ofNat 11 e).toNat = e := by
    rw [BitVec.toNat_ofNat, Nat.mod_eq_of_lt (by omega)]
  have hones : ¬BitVec.ofNat 11 e = -1#11 := fun hc => by
    have := congrArg BitVec.toNat hc
    rw [hfield] at this
    simp at this; omega
  have hzero : ¬BitVec.ofNat 11 e = 0#11 := fun hc => by
    have := congrArg BitVec.toNat hc
    rw [hfield] at this
    simp at this; omega
  have hbias : ((Format.binary64.exponentBias : Nat) : Int) = 1023 := rfl
  rw [UnpackedFloat.unpack]
  simp only [unpackMantissa_packComponents, unpackExponent_packComponents, ofBitVec_unpackSign_pack]
  rw [if_neg hones, if_neg hzero]
  simp only [finite.injEq, toNat_one_append, hfield, hbias, true_and]
  omega

lemma unpack_packComponents_subnormal (s : Sign) {m : BitVec 52} (h : 0 < m.toNat) :
    UnpackedFloat.unpack Format.binary64 (packComponents Format.binary64 s 0#11 m) =
      .finite s m.toNat (-1074) h := by
  have hm : ¬m = 0#52 := by rintro rfl; simp at h
  rw [UnpackedFloat.unpack]
  simp only [unpackMantissa_packComponents, unpackExponent_packComponents, ofBitVec_unpackSign_pack]
  rw [if_neg (by decide), if_pos trivial, dif_neg hm]
  rfl

lemma unpack_packedInfinity (s : Sign) :
    UnpackedFloat.unpack Format.binary64 (packedInfinity Format.binary64 s) = .infinity s := by
  cases s <;> rfl

/-- What is rounded is found again in the bits, unless it is too large. -/
lemma unpack_pack_finite (s : Sign) {m : Nat} {e : Int} (h : 0 < m) (hm : m < 2 ^ 53)
    (he : -1074 ≤ e)
    (hc : 2 ^ 52 ≤ m ∨ e = -1074) :
    (Float.Model.pack (.finite s m e h)).unpack =
      if e ≤ 971 then .finite s m e h else .infinity s := by
  show UnpackedFloat.unpack Format.binary64 (UnpackedFloat.pack Format.binary64 _) = _
  rw [pack_finite]
  by_cases he' : e ≤ 971
  · rw [if_pos he', if_neg (by omega)]
    by_cases hb : 2 ^ 52 ≤ m
    · have hlog : m.log2 = 52 := (Nat.log2_eq_iff (by omega)).mpr ⟨hb, hm⟩
      rw [if_pos (by omega), unpack_packComponents_normal s _ (by omega) (by omega)]
      simp only [finite.injEq, BitVec.toNat_ofNat, true_and]
      omega
    · have hlog : m.log2 < 52 := (Nat.log2_lt (by omega)).mpr (by omega)
      have hmod : (BitVec.ofNat 52 m).toNat = m := by rw [BitVec.toNat_ofNat]; omega
      rw [if_neg (by omega), unpack_packComponents_subnormal s (by omega)]
      simp only [finite.injEq, hmod, true_and]
      omega
  · rw [if_neg he', if_pos (by omega), unpack_packedInfinity]

/-! ### Rounding in ticks -/

lemma log2_mul_two_pow_div {k : Nat} (h : n / d ≠ 0) :
    (n * 2 ^ k / d).log2 = (n / d).log2 + k := by
  have hd : 0 < d := Nat.pos_of_ne_zero (by rintro rfl; simp at h)
  have hlow : 2 ^ (n / d).log2 * 2 ^ k ≤ n * 2 ^ k / d := by
    rw [Nat.le_div_iff_mul_le hd, mul_right_comm]
    exact Nat.mul_le_mul_right _ ((Nat.le_div_iff_mul_le hd).mp (Nat.log2_self_le h))
  have hhigh : n * 2 ^ k / d < 2 ^ ((n / d).log2 + 1) * 2 ^ k := by
    rw [Nat.div_lt_iff_lt_mul hd, mul_right_comm]
    exact Nat.mul_lt_mul_of_pos_right ((Nat.div_lt_iff_lt_mul hd).mp Nat.lt_log2_self)
      (by positivity)
  rw [← pow_add] at hlow hhigh
  refine (Nat.log2_eq_iff (by have : 0 < 2 ^ ((n / d).log2 + k) := by positivity
                              omega)).mpr ⟨hlow, ?_⟩
  rwa [add_right_comm]

lemma log2_mul_two_pow {m k : Nat} (h : m ≠ 0) : (m * 2 ^ k).log2 = m.log2 + k := by
  simpa using log2_mul_two_pow_div (n := m) (d := 1) (k := k) (by simpa using h)

lemma log2_div_two_pow (m k : Nat) : (m / 2 ^ k).log2 = m.log2 - k := by
  rcases Nat.lt_or_ge m.log2 k with h | h
  · have hlt : m < 2 ^ k := Nat.lt_log2_self.trans_le (Nat.pow_le_pow_right (by norm_num) h)
    rw [Nat.div_eq_of_lt hlt, Nat.log2_zero]
    omega
  · by_cases h0 : m = 0
    · simp [h0]
    have hlow : 2 ^ (m.log2 - k) ≤ m / 2 ^ k := by
      rw [Nat.le_div_iff_mul_le (by positivity), ← pow_add, Nat.sub_add_cancel h]
      exact Nat.log2_self_le h0
    refine (Nat.log2_eq_iff (by have : 0 < 2 ^ (m.log2 - k) := by positivity
                                omega)).mpr ⟨hlow, ?_⟩
    rw [Nat.div_lt_iff_lt_mul (by positivity), ← pow_add,
      show m.log2 - k + 1 + k = m.log2 + 1 by omega]
    exact Nat.lt_log2_self

lemma spareDigits_eq {e : Int} (hbits : 52 ≤ (n / d).log2 ∨ e ≤ -1074) :
    spareDigits (n * 2 ^ (e + 1074).toNat) (d * 2 ^ (-1074 - e).toNat) =
      (e + shiftAmount (n / d) e + 1074).toNat := by
  unfold spareDigits shiftAmount
  rcases lt_or_ge (-1074) e with he | he
  · have h0 : n / d ≠ 0 := fun h0 => by rw [h0] at hbits; simp at hbits; omega
    rw [show (-1074 - e).toNat = 0 by omega, pow_zero, mul_one, log2_mul_two_pow_div h0]
    omega
  · rw [show (e + 1074).toNat = 0 by omega, pow_zero, mul_one, ← Nat.div_div_eq_div_mul,
      log2_div_two_pow]
    omega

/-- The rounding of `n / d` at an exponent is the rounding of the ticks. -/
lemma nearestEven_mul_eq_roundTicks {e : Int} (hbits : 52 ≤ (n / d).log2 ∨ e ≤ -1074) :
    nearestEven n (d * 2 ^ shiftAmount (n / d) e) * 2 ^ (e + shiftAmount (n / d) e + 1074).toNat =
      roundTicks (n * 2 ^ (e + 1074).toNat) (d * 2 ^ (-1074 - e).toNat) := by
  have hlow := le_shiftAmount (n / d) e
  have hscale : d * 2 ^ (-1074 - e).toNat * 2 ^ (e + shiftAmount (n / d) e + 1074).toNat =
      d * 2 ^ shiftAmount (n / d) e * 2 ^ (e + 1074).toNat := by
    rw [mul_assoc, mul_assoc, ← pow_add, ← pow_add]
    congr 2
    omega
  rw [roundTicks, spareDigits_eq hbits, hscale, nearestEven_mul_right (by positivity)]

lemma infinityTicks_le_two_pow {k : Nat} (h : 2098 ≤ k) : infinityTicks ≤ 2 ^ k := by
  unfold infinityTicks
  exact pow_le_pow_right₀ one_le_two h

/-- A number that is put into bits has its ticks there, or is an infinity. -/
lemma ticks_of_pack {x : Float} {s : Sign} {m : Nat} {e : Int} {h : 0 < m} (hm : m < 2 ^ 53)
    (he : -1074 ≤ e) (hc : 2 ^ 52 ≤ m ∨ e = -1074)
    (hx : x.toModel = Float.Model.pack (.finite s m e h)) :
    x.isNaN = false ∧ ticks x = s.apply (min (m * 2 ^ (e + 1074).toNat) infinityTicks : Nat) := by
  have hu := unpack_pack_finite s h hm he hc
  rw [← hx] at hu
  have hnan : x.isNaN = false := by
    show x.toModel.unpack.isNaN = false
    rw [hu]
    split <;> rfl
  refine ⟨hnan, ?_⟩
  rw [ticks_eq_unpackedTicks hnan, hu]
  split
  · rename_i he'
    have hlt := Canonical.lt_infinityTicks (m := m) (e := e) ⟨hm, he, he', hc⟩
    rw [min_eq_left (by exact_mod_cast hlt.le), unpackedTicks]
    push_cast
    rfl
  · rw [min_eq_right, unpackedTicks]
    have : 2 ^ 52 ≤ m := hc.resolve_right (by omega)
    calc infinityTicks ≤ 2 ^ (52 + (e + 1074).toNat) := infinityTicks_le_two_pow (by omega)
      _ = 2 ^ 52 * 2 ^ (e + 1074).toNat := pow_add _ _ _
      _ ≤ m * 2 ^ (e + 1074).toNat := Nat.mul_le_mul_right _ this

lemma ticks_of_zero {x : Float} {s : Sign} (hx : x.toModel = Float.Model.pack (.zero s)) :
    x.isNaN = false ∧ ticks x = 0 := by
  have hu : x.toModel.unpack = .zero s := by rw [hx]; cases s <;> rfl
  have hnan : x.isNaN = false := by
    show x.toModel.unpack.isNaN = false
    rw [hu]; rfl
  rw [ticks_eq_unpackedTicks hnan, hu]
  exact ⟨hnan, rfl⟩

/-- What is rounded and put into bits is the nearest number of ticks, or an infinity. -/
lemma ticks_of_rounded {x : Float} {s : Sign} {e : Int} {acc : Accuracy} (hd : 0 < d)
    (h : Reads (ExtendedMantissa.ofMantissaAndAccuracy (n / d) acc) n d)
    (hbits : 52 ≤ (n / d).log2 ∨ e ≤ -1074)
    (hx : x.toModel = Float.Model.pack (roundWithAccuracy Format.binary64 s (n / d) e acc)) :
    x.isNaN = false ∧ ticks x = s.apply
      (min (roundTicks (n * 2 ^ (e + 1074).toNat) (d * 2 ^ (-1074 - e).toNat))
        infinityTicks : Nat) := by
  obtain ⟨hlow, hle, hround⟩ := roundWithAccuracy_eq (s := s) (e := e) hd h rfl rfl
  have hdiv := div_le_nearestEven n (d * 2 ^ shiftAmount (n / d) e)
  have hc := le_div_shiftAmount hbits
  rw [Nat.div_div_eq_div_mul] at hc
  rw [← nearestEven_mul_eq_roundTicks hbits]
  generalize nearestEven n (d * 2 ^ shiftAmount (n / d) e) = r at *
  generalize e + shiftAmount (n / d) e = t at *
  rw [hround] at hx
  split at hx
  · rename_i h0
    have hs : s.apply ((0 : Nat) : Int) = 0 := by cases s <;> rfl
    rw [h0, Nat.zero_mul, Nat.zero_min, hs]
    exact ticks_of_zero hx
  split at hx
  · exact ticks_of_pack ‹_› hlow (hc.imp_left hdiv.trans') hx
  · have hr : r = 2 ^ 53 := by omega
    obtain ⟨hnan, ht⟩ := ticks_of_pack (by norm_num) (by omega) (.inl le_rfl) hx
    refine ⟨hnan, ht.trans ?_⟩
    rw [hr, show (t + 1 + 1074).toNat = (t + 1074).toNat + 1 by omega, pow_succ' 2 (t + 1074).toNat,
      ← mul_assoc, show 2 ^ 52 * 2 = 2 ^ 53 from rfl]

/-! ### What rounding keeps -/

/-- A number with at most 53 digits before its zeros. -/
def Representable (t : Nat) : Prop := ∃ c k, c < 2 ^ 53 ∧ t = c * 2 ^ k

lemma le_nearestEven (hd : 0 < d) (h : q * d ≤ n) : q ≤ nearestEven n d :=
  ((Nat.le_div_iff_mul_le hd).mpr h).trans (div_le_nearestEven n d)

lemma nearestEven_le_of_le (hd : 0 < d) (h : n ≤ q * d) : nearestEven n d ≤ q := by
  rw [nearestEven_le_iff hd]
  left
  calc 2 * n ≤ 2 * (q * d) := Nat.mul_le_mul_left 2 h
    _ = 2 * q * d := (mul_assoc _ _ _).symm
    _ < (2 * q + 1) * d := Nat.mul_lt_mul_of_pos_right (by omega) hd

lemma two_pow_spareDigits_le (h : spareDigits n d ≠ 0) : 2 ^ (52 + spareDigits n d) ≤ n / d := by
  have h0 : n / d ≠ 0 := fun h0 => h (by rw [spareDigits, h0]; simp)
  refine le_trans (Nat.pow_le_pow_right (by norm_num) ?_) (Nat.log2_self_le h0)
  unfold spareDigits at h ⊢
  omega

/-- **Rounding does not pass a number with 53 digits**: from below. -/
lemma roundTicks_le {t : Nat} (hd : 0 < d) (ht : Representable t) (h : n ≤ t * d) :
    roundTicks n d ≤ t := by
  obtain ⟨c, k, hc, rfl⟩ := ht
  unfold roundTicks
  generalize hs : spareDigits n d = s
  rcases Nat.lt_or_ge k s with hk | hk
  · -- then the number has more digits than the bound
    exfalso
    have hbig := two_pow_spareDigits_le (n := n) (d := d) (by omega)
    have hdiv : n / d ≤ c * 2 ^ k := Nat.div_le_of_le_mul (by rwa [mul_comm])
    have hlt : c * 2 ^ k < 2 ^ (52 + s) := by
      calc c * 2 ^ k < 2 ^ 53 * 2 ^ k := Nat.mul_lt_mul_of_pos_right hc (by positivity)
        _ = 2 ^ (53 + k) := (pow_add _ _ _).symm
        _ ≤ 2 ^ (52 + s) := Nat.pow_le_pow_right (by norm_num) (by omega)
    rw [hs] at hbig
    omega
  · have hsplit : c * 2 ^ k = c * 2 ^ (k - s) * 2 ^ s := by
      rw [mul_assoc, ← pow_add, Nat.sub_add_cancel hk]
    rw [hsplit] at h ⊢
    refine Nat.mul_le_mul_right _ (nearestEven_le_of_le (by positivity) ?_)
    rwa [mul_assoc, mul_comm (2 ^ s)] at h

/-- **Rounding does not pass a number with 53 digits**: from above. -/
lemma le_roundTicks {t : Nat} (hd : 0 < d) (ht : Representable t) (h : t * d ≤ n) :
    t ≤ roundTicks n d := by
  obtain ⟨c, k, hc, rfl⟩ := ht
  unfold roundTicks
  generalize hs : spareDigits n d = s
  rcases Nat.lt_or_ge k s with hk | hk
  · have hbig := two_pow_spareDigits_le (n := n) (d := d) (by omega)
    rw [hs, Nat.le_div_iff_mul_le hd, pow_add] at hbig
    calc c * 2 ^ k ≤ 2 ^ 53 * 2 ^ k := Nat.mul_le_mul_right _ hc.le
      _ = 2 ^ (53 + k) := (pow_add _ _ _).symm
      _ ≤ 2 ^ (52 + s) := Nat.pow_le_pow_right (by norm_num) (by omega)
      _ = 2 ^ 52 * 2 ^ s := pow_add _ _ _
      _ ≤ nearestEven n (d * 2 ^ s) * 2 ^ s :=
          Nat.mul_le_mul_right _ (le_nearestEven (by positivity) (by
            rwa [mul_comm d, ← mul_assoc]))
  · have hsplit : c * 2 ^ k = c * 2 ^ (k - s) * 2 ^ s := by
      rw [mul_assoc, ← pow_add, Nat.sub_add_cancel hk]
    rw [hsplit] at h ⊢
    refine Nat.mul_le_mul_right _ (le_nearestEven (by positivity) ?_)
    rwa [mul_assoc, mul_comm (2 ^ s)] at h

/-- The greatest number below a power of two. -/
lemma Representable.le_of_lt {t j : Nat} (h : Representable t) (hlt : t < 2 ^ (53 + j)) :
    t ≤ (2 ^ 53 - 1) * 2 ^ j := by
  obtain ⟨c, k, hc, rfl⟩ := h
  rcases Nat.le_total k j with hk | hk
  · exact Nat.mul_le_mul (by omega) (Nat.pow_le_pow_right (by norm_num) hk)
  · rw [← Nat.sub_add_cancel hk, pow_add 2 (k - j), ← mul_assoc] at hlt ⊢
    rw [pow_add 2 53] at hlt
    have := Nat.lt_of_mul_lt_mul_right hlt
    exact Nat.mul_le_mul_right _ (by omega)

/-- The number after one with 53 digits. -/
lemma Representable.succ_le {t c k : Nat} (h : Representable t) (hc : 2 ^ 52 ≤ c)
    (hlt : c * 2 ^ k < t) : (c + 1) * 2 ^ k ≤ t := by
  obtain ⟨c', k', hc', rfl⟩ := h
  rcases Nat.lt_or_ge k' k with hk | hk
  · have hle : c' * 2 ^ k' ≤ c * 2 ^ k := by
      calc c' * 2 ^ k' ≤ 2 ^ 53 * 2 ^ k' := Nat.mul_le_mul_right _ hc'.le
        _ = 2 ^ 52 * 2 ^ (k' + 1) := by ring
        _ ≤ c * 2 ^ k := Nat.mul_le_mul hc (Nat.pow_le_pow_right (by norm_num) hk)
    omega
  · rw [← Nat.sub_add_cancel hk, pow_add, ← mul_assoc] at hlt ⊢
    exact Nat.mul_le_mul_right _ (Nat.lt_of_mul_lt_mul_right hlt)

lemma representable_two_pow (k : Nat) : Representable (2 ^ k) :=
  ⟨1, k, by norm_num, (one_mul _).symm⟩

lemma div_lt_two_pow_spareDigits (n d : Nat) : n / d < 2 ^ (53 + spareDigits n d) :=
  Nat.lt_log2_self.trans_le (Nat.pow_le_pow_right (by norm_num) (by unfold spareDigits; omega))

lemma nearestEven_mono {n' : Nat} (hd : 0 < d) (h : n ≤ n') :
    nearestEven n d ≤ nearestEven n' d := by
  have hself := (nearestEven_le_iff hd).mp (le_refl (nearestEven n' d))
  rw [nearestEven_le_iff hd]
  omega

/-- Rounding keeps the order. -/
lemma roundTicks_mono {n' : Nat} (hd : 0 < d) (h : n ≤ n') : roundTicks n d ≤ roundTicks n' d := by
  have hs : spareDigits n d ≤ spareDigits n' d := by
    unfold spareDigits
    rw [Nat.log2_eq_log_two, Nat.log2_eq_log_two]
    exact Nat.sub_le_sub_right (Nat.log_mono_right (Nat.div_le_div_right h)) 52
  rcases Nat.eq_or_lt_of_le hs with hs | hs
  · rw [roundTicks, roundTicks, hs]
    exact Nat.mul_le_mul_right _ (nearestEven_mono (by positivity) h)
  -- With more digits before the point there is a power of two between the two.
  · calc roundTicks n d ≤ 2 ^ (53 + spareDigits n d) :=
          roundTicks_le hd (representable_two_pow _)
            ((Nat.div_lt_iff_lt_mul hd).mp (div_lt_two_pow_spareDigits n d)).le
      _ ≤ 2 ^ (52 + spareDigits n' d) := Nat.pow_le_pow_right (by norm_num) (by omega)
      _ ≤ roundTicks n' d :=
          le_roundTicks hd (representable_two_pow _)
            ((Nat.le_div_iff_mul_le hd).mp (two_pow_spareDigits_le (by omega)))

/-- A number is rounded to at most `c * 2 ^ k` up to the middle between that and the next number. -/
lemma roundTicks_le_iff {c k : Nat} (hd : 0 < d) (hc : 2 ^ 52 ≤ c ∨ k = 0) (hc' : c < 2 ^ 53) :
    roundTicks n d ≤ c * 2 ^ k ↔
      2 * n < (2 * c + 1) * (d * 2 ^ k) ∨ 2 * n = (2 * c + 1) * (d * 2 ^ k) ∧ c % 2 = 0 := by
  have hk : 0 < 2 ^ k := by positivity
  rcases Nat.lt_trichotomy (spareDigits n d) k with h | h | h
  · have hc : 2 ^ 52 ≤ c := hc.resolve_right (by omega)
    have hn : n < 2 ^ 52 * 2 ^ k * d := by
      rw [← Nat.div_lt_iff_lt_mul hd, ← pow_add]
      exact (div_lt_two_pow_spareDigits n d).trans_le
        (Nat.pow_le_pow_right (by norm_num) (by omega))
    refine iff_of_true ?_ (.inl ?_)
    · exact (roundTicks_le hd ⟨2 ^ 52, k, by norm_num, rfl⟩ hn.le).trans (Nat.mul_le_mul_right _ hc)
    · calc 2 * n < 2 * (2 ^ 52 * 2 ^ k * d) := by omega
        _ ≤ 2 * (c * 2 ^ k * d) := by gcongr
        _ ≤ (2 * c + 1) * (d * 2 ^ k) := by nlinarith [Nat.mul_pos hd hk]
  · rw [roundTicks, h, Nat.mul_le_mul_right_iff hk, nearestEven_le_iff (by positivity)]
  · have hn : 2 ^ 53 * 2 ^ k * d ≤ n := by
      rw [← Nat.le_div_iff_mul_le hd, ← pow_add]
      exact le_trans (Nat.pow_le_pow_right (by norm_num) (by omega))
        (two_pow_spareDigits_le (by omega))
    have hle : 2 ^ 53 * 2 ^ k ≤ roundTicks n d :=
      le_roundTicks hd ⟨2 ^ 52, k + 1, by norm_num, by ring⟩ hn
    have hmid : (2 * c + 1) * (d * 2 ^ k) < 2 * n := by
      calc (2 * c + 1) * (d * 2 ^ k) < (2 * 2 ^ 53) * (d * 2 ^ k) :=
            Nat.mul_lt_mul_of_pos_right (by omega) (Nat.mul_pos hd hk)
        _ = 2 * (2 ^ 53 * 2 ^ k * d) := by ring
        _ ≤ 2 * n := by omega
    have hgt : c * 2 ^ k < 2 ^ 53 * 2 ^ k := Nat.mul_lt_mul_of_pos_right hc' hk
    exact iff_of_false (by omega) (by omega)

/-- A number with 53 digits stays as it is. -/
lemma roundTicks_mul_self {t : Nat} (hd : 0 < d) (ht : Representable t) :
    roundTicks (t * d) d = t :=
  (roundTicks_le hd ht le_rfl).antisymm (le_roundTicks hd ht le_rfl)

end TestData.Decimal
