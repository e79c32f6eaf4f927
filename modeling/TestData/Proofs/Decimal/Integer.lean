import TestData.Proofs.Decimal.Arithmetic
import TestData.Schema.Number

/-!
Integers that become floating-point numbers.

The text of an integer is read as the number that is nearest to it. That is an integer too: the
nearest one with 53 binary digits. So an integer is kept exactly if it needs no more digits than
that, and the greatest of 64 bits is kept as well, since what is cut to 64 bits ends there.
-/

namespace TestData.Decimal

open Float.Model Float.Model.UnpackedFloat

variable {m n : Nat} {z : Int} {x : Float}

/-! ### The nearest integers -/

/-- The integer with 53 binary digits that is nearest to an integer. -/
def nearestInteger (z : Int) : Int := z.sign * (roundTicks z.natAbs 1 : Nat)

lemma representable_roundTicks (n d : Nat) : Representable (roundTicks n d) := by
  have hlt := div_lt_two_pow_spareDigits n d
  have hdiv : n / (d * 2 ^ spareDigits n d) < 2 ^ 53 := by
    rw [← Nat.div_div_eq_div_mul, Nat.div_lt_iff_lt_mul (by positivity), ← pow_add]
    exact hlt
  have hle := nearestEven_le n (d * 2 ^ spareDigits n d)
  unfold roundTicks
  generalize nearestEven n (d * 2 ^ spareDigits n d) = c at *
  generalize spareDigits n d = k
  rcases Nat.lt_or_ge c (2 ^ 53) with hc | hc
  · exact ⟨c, k, hc, rfl⟩
  · obtain rfl : c = 2 ^ 53 := by omega
    exact ⟨1, 53 + k, by norm_num, by rw [pow_add, one_mul]⟩

lemma representable_of_le (h : n ≤ 2 ^ 53) : Representable n := by
  rcases Nat.lt_or_eq_of_le h with h | rfl
  · exact ⟨n, 0, h, (Nat.mul_one n).symm⟩
  · exact representable_two_pow 53

lemma Representable.mul_two_pow (h : Representable n) (k : Nat) : Representable (n * 2 ^ k) := by
  obtain ⟨c, j, hc, rfl⟩ := h
  exact ⟨c, j + k, hc, by rw [pow_add, mul_assoc]⟩

lemma roundTicks_one_of_representable (h : Representable n) : roundTicks n 1 = n := by
  simpa using roundTicks_mul_self one_pos h

lemma roundTicks_mul_two_pow (m k : Nat) : roundTicks (m * 2 ^ k) 1 = roundTicks m 1 * 2 ^ k := by
  rcases Nat.lt_or_ge m (2 ^ 53) with hm | hm
  · have hr := representable_of_le hm.le
    rw [roundTicks_one_of_representable hr, roundTicks_one_of_representable (hr.mul_two_pow k)]
  · have hlog : 53 ≤ m.log2 := (Nat.le_log2 (by omega)).mpr hm
    have hspare : spareDigits (m * 2 ^ k) 1 = spareDigits m 1 + k := by
      unfold spareDigits
      rw [Nat.div_one, Nat.div_one, log2_mul_two_pow (by omega)]
      omega
    rw [roundTicks, roundTicks, hspare, pow_add, ← mul_assoc 1,
      nearestEven_mul_right (by positivity), mul_assoc]

lemma roundTicks_one_le (h : n ≤ 2 ^ 63) : roundTicks n 1 ≤ 2 ^ 63 :=
  roundTicks_le one_pos (representable_two_pow 63) (by rwa [Nat.mul_one])

lemma mul_oneTicks_lt_infinityTicks (h : n ≤ 2 ^ 63) : n * oneTicks < infinityTicks := by
  refine (Nat.mul_le_mul_right _ h).trans_lt ?_
  unfold oneTicks
  rw [← pow_add]
  unfold infinityTicks
  exact pow_lt_pow_right₀ one_lt_two (by norm_num)

/-- Among the numbers the nearest one to an integer is an integer. -/
lemma nearestTicks_mul_oneTicks (h : z.natAbs ≤ 2 ^ 63) :
    nearestTicks (z * oneTicks) 1 = nearestInteger z * oneTicks := by
  obtain ⟨k, hk⟩ : ∃ k, oneTicks = 2 ^ k := ⟨1074, by unfold oneTicks; rfl⟩
  have hround : roundTicks (z * oneTicks).natAbs 1 = roundTicks z.natAbs 1 * oneTicks := by
    rw [Int.natAbs_mul, Int.natAbs_natCast, hk, roundTicks_mul_two_pow]
  have hsign : (z * oneTicks).sign = z.sign := by
    rw [Int.sign_mul, Int.sign_eq_one_of_pos (a := oneTicks) (by exact_mod_cast oneTicks_pos),
      mul_one]
  rw [nearestTicks, hround, hsign,
    min_eq_left (mul_oneTicks_lt_infinityTicks (roundTicks_one_le h)).le, nearestInteger,
    Nat.cast_mul, mul_assoc]

lemma nearestInteger_eq_self_iff : nearestInteger z = z ↔ Representable z.natAbs := by
  constructor
  · intro h
    have habs := congrArg Int.natAbs h
    rcases eq_or_ne z 0 with rfl | h0
    · exact representable_of_le (Nat.zero_le _)
    · rw [nearestInteger, Int.natAbs_mul, Int.natAbs_sign_of_ne_zero h0, one_mul,
        Int.natAbs_natCast] at habs
      rw [← habs]
      exact representable_roundTicks _ 1
  · intro h
    rw [nearestInteger, roundTicks_one_of_representable h, Int.sign_mul_natAbs]

lemma nearestInteger_bounds (h : z.natAbs ≤ 2 ^ 63) :
    -2 ^ 63 ≤ nearestInteger z ∧ nearestInteger z ≤ 2 ^ 63 := by
  have hle : (roundTicks z.natAbs 1 : Int) ≤ 2 ^ 63 := by exact_mod_cast roundTicks_one_le h
  unfold nearestInteger
  rcases lt_trichotomy z 0 with hz | rfl | hz
  · rw [Int.sign_eq_neg_one_of_neg hz]
    omega
  · simp
  · rw [Int.sign_eq_one_of_pos hz]
    omega

/-- **Which integers are kept**: those with at most 53 binary digits before their zeros, and the
greatest one. -/
theorem clampInteger_nearestInteger_eq_iff (h : leastInteger ≤ z) (h' : z ≤ greatestInteger) :
    clampInteger (nearestInteger z) = z ↔ Representable z.natAbs ∨ z = greatestInteger := by
  have hgreatest : nearestInteger greatestInteger = 2 ^ 63 := rfl
  obtain ⟨hlow, hhigh⟩ := nearestInteger_bounds (z := z) (by
    unfold leastInteger at h
    unfold greatestInteger at h'
    omega)
  rw [← nearestInteger_eq_self_iff]
  unfold clampInteger leastInteger at *
  unfold greatestInteger at *
  constructor
  · omega
  · rintro (h | rfl)
    · omega
    · omega

/-! ### Texts of integers -/

lemma point_notMem_toString (z : Int) : '.' ∉ (toString z).toList := by
  have hdigits (n : Nat) : '.' ∉ (toString n).toList := fun h =>
    absurd (isDigit_of_mem_toString h) (by decide)
  rcases z with n | n
  · exact hdigits n
  · rw [toString_negSucc]
    exact List.not_mem_cons_of_ne_of_not_mem (by decide) (hdigits (n + 1))

lemma length_toString_le (h : n ≤ 2 ^ 63) : (toString n).length ≤ 20 := by
  rw [← String.length_toList, show (toString n).toList = Nat.toDigits 10 n from Nat.toList_repr]
  exact Nat.toDigits_length 10 n 20 (by norm_num) (by omega)

/-- With few digits an integer is exact, and so is its product with one. -/
lemma ticks_ofScientific_of_lt (h : m < 2 ^ 53) :
    (Float.ofScientific m false 0).isNaN = false ∧
      ticks (Float.ofScientific m false 0) = nearestTicks (m * oneTicks) 1 := by
  have hone : Float.exactlyRepresentablePowersOfTen[0] = 1 := rfl
  have hw : m.toUInt64.toNat = m := Nat.mod_eq_of_lt (by omega)
  obtain ⟨hnan, ht⟩ := ticks_ofUInt64 m.toUInt64
  rw [hw] at ht
  have hfinite : m.toUInt64.toFloat.isFinite := by
    have hself : nearestInteger m = m :=
      nearestInteger_eq_self_iff.mpr (representable_of_le (n := m) h.le)
    have hlt : m * oneTicks < infinityTicks := mul_oneTicks_lt_infinityTicks (by omega)
    rw [isFinite_iff hnan, ht, nearestTicks_mul_oneTicks (by omega), hself,
      abs_of_nonneg (by positivity)]
    exact_mod_cast hlt
  have hmul := ticks_mul hfinite (y := 1) rfl
  rw [ticks_one, nearestTicks_ticks hnan oneTicks_pos, ht] at hmul
  rw [Float.ofScientific, dif_pos ⟨h, Nat.zero_le 22⟩]
  rwa [← hone] at hmul

/-- Otherwise it is rounded. -/
lemma ticks_ofScientific_of_ge (h : 2 ^ 53 ≤ m) :
    (Float.ofScientific m false 0).isNaN = false ∧
      ticks (Float.ofScientific m false 0) = nearestTicks (m * oneTicks) 1 := by
  have hm : m ≠ 0 := by omega
  have hround : (Float.ofScientific m false 0).toModel = Float.Model.pack
      (roundWithAccuracy Format.binary64 (.positive * .positive) (m <<< 53 * 10 ^ 0) (-53 + 0)
        .exact) := by
    rw [Float.ofScientific, dif_neg (by omega)]
    show Float.Model.ofScientific m 0 = _
    unfold Float.Model.ofScientific UnpackedFloat.ofScientific
    rw [dif_neg hm, if_neg (by decide), if_neg (by simp), if_pos (by decide)]
    rfl
  have hshift : m <<< 53 * 10 ^ 0 = m * 2 ^ 53 := by
    rw [Nat.shiftLeft_eq, pow_zero, mul_one]
  have hone : 2 ^ 53 * 2 ^ 1021 = oneTicks := by
    unfold oneTicks
    rw [← pow_add]
  obtain ⟨hnan, ht⟩ := ticks_of_rounded_exact (by
    rw [hshift, log2_mul_two_pow hm]
    exact .inl (by omega)) hround
  refine ⟨hnan, ht.trans ?_⟩
  rw [hshift, mul_assoc, show ((-53 : Int) + 0 + 1074).toNat = 1021 from rfl, hone]
  show nearestTicks (m * oneTicks : Nat) 1 = _
  rw [Nat.cast_mul]

lemma ticks_ofScientific (m : Nat) :
    (Float.ofScientific m false 0).isNaN = false ∧
      ticks (Float.ofScientific m false 0) = nearestTicks (m * oneTicks) 1 := by
  rcases Nat.lt_or_ge m (2 ^ 53) with hsmall | hlarge
  · exact ticks_ofScientific_of_lt hsmall
  · exact ticks_ofScientific_of_ge hlarge

/-- **An integer becomes the number nearest to it.** -/
theorem ticks_ofInt (h : z.natAbs ≤ 2 ^ 63) :
    (Float.ofInt z).isNaN = false ∧ ticks (Float.ofInt z) = nearestInteger z * oneTicks := by
  rw [← nearestTicks_mul_oneTicks h]
  rcases z with n | n
  · exact ticks_ofScientific n
  · obtain ⟨hnan, ht⟩ := ticks_ofScientific (n + 1)
    obtain ⟨hnan', ht'⟩ := ticks_neg hnan
    refine ⟨hnan', ht'.trans ?_⟩
    rw [ht, ← nearestTicks_neg, ← neg_mul]
    rfl

lemma ticks_nearest (h : m ≤ 2 ^ 63) :
    (nearest m 0).isNaN = false ∧ ticks (nearest m 0) = nearestTicks (m * oneTicks) 1 := by
  have hlength := length_toString_le h
  rcases Nat.eq_zero_or_pos m with rfl | hm
  · rw [Nat.cast_zero, zero_mul, nearestTicks_zero]
    exact ⟨isNaN_zero, ticks_zero⟩
  have hnearest : nearest m 0 = Float.ofScientific m false 0 := by
    unfold nearest
    rw [if_neg (by simp; omega), if_neg (by omega)]
    rfl
  rw [hnearest]
  exact ticks_ofScientific m

/-- The digits of an integer are read as the number nearest to it. -/
lemma readMagnitude?_toString (n : Nat) :
    readMagnitude? (toString n).toList = some (nearest n 0) ∧
      signOf (toString n).toList = (false, (toString n).toList) := by
  have hdigits : ∀ c ∈ (toString n).toList, isDigit c := fun c => isDigit_of_mem_toString
  have hof := ofDigits_toString n
  have hne := toString_ne_nil n
  generalize (toString n).toList = cs at *
  obtain ⟨c, rest, rfl⟩ := List.exists_cons_of_ne_nil hne
  obtain ⟨htake, hdrop⟩ := span_digits hdigits IsExponent.nil.head?
  rw [List.append_nil] at htake hdrop
  have hc := hdigits c List.mem_cons_self
  rw [readMagnitude?_of_isDigit hc, signOf_of_isDigit hc, readDigits?_eq, htake, hdrop,
    IsExponent.nil.fractionOf, List.append_nil, hof]
  exact ⟨rfl, rfl⟩

/-- **The text of an integer is read as the number nearest to it.** -/
theorem readFloat_toString_eq (h : z.natAbs ≤ 2 ^ 63) : ∃ x, readFloat (toString z) = .ok x ∧
    x.isNaN = false ∧ ticks x = nearestInteger z * oneTicks := by
  rw [← nearestTicks_mul_oneTicks h]
  rcases z with n | n
  · obtain ⟨hread, hsign⟩ := readMagnitude?_toString n
    have htext : toString (Int.ofNat n) = toString n := rfl
    refine ⟨nearest n 0, ?_, ticks_nearest h⟩
    rw [readFloat_eq, htext, hsign, if_neg (toString_ne_nil n), hread]
    rfl
  · obtain ⟨hread, -⟩ := readMagnitude?_toString (n + 1)
    obtain ⟨hnan, ht⟩ := ticks_nearest (m := n + 1) h
    have hsign : signOf ('-' :: (toString (n + 1)).toList) =
      (true, (toString (n + 1)).toList) := rfl
    obtain ⟨hnan', ht'⟩ := ticks_neg hnan
    refine ⟨-nearest (n + 1) 0, ?_, hnan', ?_⟩
    · rw [readFloat_eq, toString_negSucc, hsign, if_neg (List.cons_ne_nil _ _), hread]
      rfl
    · rw [ht', ht, ← nearestTicks_neg, ← neg_mul]
      rfl

/-- What is read of the text of an integer is whole, and it has the nearest integer for its integer
part. -/
lemma isWhole_of_ticks (h : z.natAbs ≤ 2 ^ 63) (hx : x.isNaN = false)
    (ht : ticks x = nearestInteger z * oneTicks) :
    isWhole x ∧ toInteger x = clampInteger (nearestInteger z) := by
  have hone : (oneTicks : Int) ≠ 0 := by exact_mod_cast oneTicks_pos.ne'
  have hlt : (nearestInteger z).natAbs * oneTicks < infinityTicks :=
    mul_oneTicks_lt_infinityTicks (by have := nearestInteger_bounds h; omega)
  constructor
  · refine (isWhole_iff hx).mpr ⟨?_, ht ▸ Int.dvd_mul_left _ _⟩
    rw [ht, abs_mul, Nat.abs_cast, ← Int.natCast_natAbs]
    exact_mod_cast hlt
  · rw [toInteger_eq hx, ht, Int.mul_tdiv_cancel _ hone]

end TestData.Decimal
