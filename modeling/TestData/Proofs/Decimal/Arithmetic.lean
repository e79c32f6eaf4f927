import TestData.Proofs.Decimal.Rounding

/-!
The operations on numbers, in ticks: each gives the nearest number to the exact result.

The statements are about numbers that are finite. That they cover the results that are too large
is in `nearestTicks`, which ends at the infinities.
-/

namespace TestData.Decimal

open Float.Model Float.Model.UnpackedFloat

variable {n d : Nat}

/-! ### The nearest number -/

lemma spareDigits_mul_right {c : Nat} (hc : 0 < c) :
    spareDigits (n * c) (d * c) = spareDigits n d := by
  unfold spareDigits
  rw [Nat.mul_div_mul_right _ _ hc]

lemma roundTicks_mul_right {c : Nat} (hc : 0 < c) :
    roundTicks (n * c) (d * c) = roundTicks n d := by
  unfold roundTicks
  rw [spareDigits_mul_right hc, mul_right_comm, nearestEven_mul_right hc]

/-- The rounding of a fraction does not depend on how the fraction is written. -/
lemma roundTicks_congr {n' d' : Nat} (hd : 0 < d) (hd' : 0 < d') (h : n * d' = n' * d) :
    roundTicks n d = roundTicks n' d' := by
  rw [← roundTicks_mul_right hd', h, mul_comm d, roundTicks_mul_right hd]

lemma roundTicks_zero : roundTicks 0 d = 0 := by
  unfold roundTicks nearestEven
  simp

/-- The nearest number to `z / d` ticks: an infinity where that is too large. -/
def nearestTicks (z : Int) (d : Nat) : Int :=
  z.sign * (min (roundTicks z.natAbs d) infinityTicks : Nat)

lemma apply_min_roundTicks (s : Sign) (n d : Nat) :
    s.apply (min (roundTicks n d) infinityTicks : Nat) = nearestTicks (s.apply n) d := by
  unfold nearestTicks
  rcases Nat.eq_zero_or_pos n with rfl | hn
  · have h0 : s.apply ((0 : Nat) : Int) = 0 := by cases s <;> rfl
    rw [roundTicks_zero, Nat.zero_min, h0, Int.sign_zero, zero_mul]
  · cases s with
    | negative =>
      simp only [Sign.apply, Int.natAbs_neg, Int.natAbs_natCast, Int.sign_neg]
      rw [Int.sign_eq_one_of_pos (by omega)]
      omega
    | positive =>
      simp only [Sign.apply, Int.natAbs_natCast]
      rw [Int.sign_eq_one_of_pos (by omega), one_mul]

lemma nearestTicks_natCast (n d : Nat) :
    nearestTicks n d = (min (roundTicks n d) infinityTicks : Nat) :=
  (apply_min_roundTicks .positive n d).symm

lemma nearestTicks_neg (z : Int) (d : Nat) : nearestTicks (-z) d = -nearestTicks z d := by
  rw [nearestTicks, nearestTicks, Int.sign_neg, Int.natAbs_neg, neg_mul]

lemma nearestTicks_mono {n n' : Nat} (hd : 0 < d) (h : n ≤ n') :
    nearestTicks n d ≤ nearestTicks n' d := by
  rw [nearestTicks_natCast, nearestTicks_natCast, Nat.cast_le]
  exact min_le_min_right _ (roundTicks_mono hd h)

lemma nearestTicks_congr {z z' : Int} {d d' : Nat} (hd : 0 < d) (hd' : 0 < d')
    (h : z * d' = z' * d) :
    nearestTicks z d = nearestTicks z' d' := by
  have habs : z.natAbs * d' = z'.natAbs * d := by
    have := congrArg Int.natAbs h
    rwa [Int.natAbs_mul, Int.natAbs_mul, Int.natAbs_natCast, Int.natAbs_natCast] at this
  have hsign : z.sign = z'.sign := by
    have := congrArg Int.sign h
    rwa [Int.sign_mul, Int.sign_mul, Int.sign_eq_one_of_pos (by omega : (0 : Int) < d),
      Int.sign_eq_one_of_pos (by omega : (0 : Int) < d'), mul_one, mul_one] at this
  unfold nearestTicks
  rw [hsign, roundTicks_congr hd hd' habs]

lemma ticks_of_rounded_exact {x : Float} {s : Sign} {m : Nat} {e : Int}
    (hbits : 52 ≤ m.log2 ∨ e ≤ -1074)
    (hx : x.toModel = Float.Model.pack (roundWithAccuracy Format.binary64 s m e .exact)) :
    x.isNaN = false ∧
      ticks x =
        nearestTicks (s.apply (m * 2 ^ (e + 1074).toNat : Nat)) (2 ^ (-1074 - e).toNat) := by
  have hread := reads_exact m
  rw [← Nat.div_one m] at hbits hx hread
  have h := ticks_of_rounded one_pos (by rwa [Nat.div_one m] at hread ⊢) hbits hx
  rwa [one_mul, apply_min_roundTicks] at h

/-- The value does not change when the exponent is lowered. -/
lemma ticks_of_round {x : Float} {s : Sign} {m : Nat} {e : Int} (hm : 0 < m) (he : -1074 ≤ e)
    (hx : x.toModel = Float.Model.pack (UnpackedFloat.round Format.binary64 s m e)) :
    x.isNaN = false ∧ ticks x = nearestTicks (s.apply (m * 2 ^ (e + 1074).toNat : Nat)) 1 := by
  have hround : ∃ k : Nat, -1074 ≤ e - k ∧ (52 ≤ (m * 2 ^ k).log2 ∨ e - k ≤ -1074) ∧
      UnpackedFloat.round Format.binary64 s m e =
        roundWithAccuracy Format.binary64 s (m * 2 ^ k) (e - k) .exact := by
    have htarget : Format.binary64.targetExponent (totalExponent m e) =
        max ((m.log2 : Int) + e - 52) (-1074) := by
      simp only [Format.targetExponent, totalExponent, Format.mantissaBits, Format.minExponent]
      norm_num
      omega
    refine ⟨(e - max ((m.log2 : Int) + e - 52) (-1074)).toNat, by omega, ?_, ?_⟩
    · rw [log2_mul_two_pow hm.ne']; omega
    · rw [UnpackedFloat.round, htarget]
      simp only [decreaseExponent, Nat.shiftLeft_eq]
  obtain ⟨k, hk, hbits, hround⟩ := hround
  rw [hround] at hx
  obtain ⟨hnan, ht⟩ := ticks_of_rounded_exact hbits hx
  have hexp : m * 2 ^ k * 2 ^ (e - k + 1074).toNat = m * 2 ^ (e + 1074).toNat := by
    rw [mul_assoc, ← pow_add]
    congr 2
    omega
  refine ⟨hnan, ?_⟩
  rw [ht, hexp, show (-1074 - (e - k)).toNat = 0 by omega, pow_zero]

lemma nearestTicks_zero : nearestTicks 0 d = 0 := by
  rw [nearestTicks, Int.sign_zero, zero_mul]

/-- An integer at an exponent is rounded to the nearest number. -/
lemma ticks_of_normalize {x : Float} {z : Int} {e : Int} {s : Sign} (he : -1074 ≤ e)
    (hx : x.toModel = Float.Model.pack (UnpackedFloat.normalize Format.binary64 z e s)) :
    x.isNaN = false ∧ ticks x = nearestTicks (z * 2 ^ (e + 1074).toNat) 1 := by
  rcases lt_trichotomy z 0 with hz | rfl | hz
  · rw [UnpackedFloat.normalize, compare_lt_iff_lt.mpr hz] at hx
    have h := ticks_of_round (by omega) he hx
    rwa [show Sign.negative.apply ((-z).toNat * 2 ^ (e + 1074).toNat : Nat) =
      z * 2 ^ (e + 1074).toNat by
        rw [Sign.apply, Nat.cast_mul, cast_two_pow, Int.toNat_of_nonneg (by omega)]
        ring] at h
  · rw [zero_mul, nearestTicks_zero]
    exact ticks_of_zero hx
  · rw [UnpackedFloat.normalize, compare_gt_iff_gt.mpr hz] at hx
    have h := ticks_of_round (by omega) he hx
    rwa [show Sign.positive.apply (z.toNat * 2 ^ (e + 1074).toNat : Nat) =
      z * 2 ^ (e + 1074).toNat by
        rw [Sign.apply, Nat.cast_mul, cast_two_pow, Int.toNat_of_nonneg (by omega)]] at h

variable {x y : Float}

lemma two_pow_mul_oneTicks (k : Nat) : (2 : Int) ^ k * oneTicks = 2 ^ (k + 1074) := by
  rw [pow_add, cast_oneTicks]

lemma apply_mul (s s' : Sign) (a b : Int) : (s * s').apply (a * b) = s.apply a * s'.apply b := by
  cases s <;> cases s'
  · exact (neg_mul_neg a b).symm
  · exact neg_mul_eq_neg_mul a b
  · exact neg_mul_eq_mul_neg a b
  · rfl

lemma apply_mul_natCast (s : Sign) (a : Int) (n : Nat) : s.apply a * n = s.apply (a * n) := by
  cases s
  · exact neg_mul a n
  · rfl

/-- A finite number is a zero or a significand with an exponent. -/
lemma unpack_cases_of_isFinite (hx : x.isFinite) :
    (∃ s, x.toModel.unpack = .zero s ∧ ticks x = 0) ∨
    ∃ s m e h, x.toModel.unpack = .finite s m e h ∧ Canonical m e ∧
      ticks x = s.apply (m * 2 ^ (e + 1074).toNat) := by
  refine (unpack_cases (isNaN_of_isFinite hx).1).resolve_left ?_
  rintro ⟨s, hu, -⟩
  have hf : x.toModel.unpack.isFinite = true := hx
  rw [hu] at hf
  cases hf

lemma unpack_of_infinite (hx : x.isNaN = false) (h : ¬x.isFinite) :
    ∃ s, x.toModel.unpack = .infinity s ∧ ticks x = s.apply infinityTicks := by
  refine (unpack_cases hx).resolve_right fun hc => h ?_
  show x.toModel.unpack.isFinite = true
  obtain ⟨s, hu, -⟩ | ⟨s, m, e, hm, hu, -⟩ := hc <;> rw [hu] <;> rfl

lemma unpack_of_pos (hy : y.isFinite) (h : 0 < ticks y) :
    ∃ m e h, y.toModel.unpack = .finite .positive m e h ∧ Canonical m e ∧
      ticks y = m * 2 ^ (e + 1074).toNat := by
  obtain ⟨s, hu, ht⟩ | ⟨s, m, e, hm, hu, hc, ht⟩ := unpack_cases_of_isFinite hy
  · omega
  · cases s
    · have := (hc.ticks_bounds hm).1
      rw [ht, Sign.apply] at h
      omega
    · exact ⟨m, e, hm, hu, hc, ht⟩

/-- **A product is the nearest number to the product of the numbers.** -/
theorem ticks_mul (hx : x.isFinite) (hy : y.isFinite) :
    (x * y).isNaN = false ∧ ticks (x * y) = nearestTicks (ticks x * ticks y) oneTicks := by
  have hmul : (x * y).toModel = Float.Model.pack
      (UnpackedFloat.mul Format.binary64 x.toModel.unpack y.toModel.unpack) := rfl
  obtain ⟨s, hu, ht⟩ | ⟨s, m, e, hm, hu, hc, ht⟩ := unpack_cases_of_isFinite hx
  · rw [ht, zero_mul, nearestTicks_zero]
    obtain ⟨s', hu', -⟩ | ⟨s', m', e', hm', hu', -, -⟩ := unpack_cases_of_isFinite hy <;>
      exact ticks_of_zero (s := s * s') (by rw [hmul, hu, hu']; rfl)
  obtain ⟨s', hu', ht'⟩ | ⟨s', m', e', hm', hu', hc', ht'⟩ := unpack_cases_of_isFinite hy
  · rw [ht', mul_zero, nearestTicks_zero]
    exact ticks_of_zero (s := s * s') (by rw [hmul, hu, hu']; rfl)
  rw [hu, hu'] at hmul
  have hbits : 52 ≤ (m * m').log2 ∨ e + e' ≤ -1074 := by
    refine or_iff_not_imp_right.mpr fun he => (Nat.le_log2 (by positivity)).mpr ?_
    rcases hc.2.2.2 with h | h
    · exact h.trans (Nat.le_mul_of_pos_right m hm')
    · have := hc'.2.2.2.resolve_right (by omega)
      exact this.trans (Nat.le_mul_of_pos_left m' hm)
  obtain ⟨hnan, h⟩ := ticks_of_rounded_exact (s := s * s') hbits hmul
  refine ⟨hnan, h.trans ?_⟩
  rw [ht, ht', ← apply_mul]
  refine nearestTicks_congr (by positivity) oneTicks_pos ?_
  rw [apply_mul_natCast, apply_mul_natCast, Nat.cast_mul, Nat.cast_mul, cast_two_pow, cast_two_pow]
  congr 1
  have hexp : (2 : Int) ^ (e + e' + 1074).toNat * oneTicks =
      2 ^ (e + 1074).toNat * 2 ^ (e' + 1074).toNat * 2 ^ (-1074 - (e + e')).toNat := by
    rw [two_pow_mul_oneTicks, ← pow_add, ← pow_add]
    have := hc.2.1
    have := hc'.2.1
    congr 1
    omega
  linear_combination (m * m' : Int) * hexp

/-- Two numbers at their smaller exponent. -/
lemma decreaseExponent_ticks {m : Nat} {e e₀ : Int} (h : e₀ ≤ e) (h₀ : -1074 ≤ e₀) (s : Sign) :
    s.apply ((decreaseExponent m e e₀).1 : Nat) * 2 ^ (e₀ + 1074).toNat =
      s.apply (m * 2 ^ (e + 1074).toNat) := by
  have hexp : (2 : Int) ^ (e - e₀).toNat * 2 ^ (e₀ + 1074).toNat = 2 ^ (e + 1074).toNat := by
    rw [← pow_add]; congr 1; omega
  rw [decreaseExponent]
  simp only [Nat.shiftLeft_eq, Nat.cast_mul, cast_two_pow]
  rw [← hexp, ← mul_assoc]
  cases s
  · exact neg_mul _ _
  · rfl

/-- A number is nearest to itself. -/
lemma nearestTicks_of_representable {z : Int} (hz : Representable z.natAbs)
    (hle : z.natAbs ≤ infinityTicks) (hd : 0 < d) : nearestTicks (z * d) d = z := by
  rcases eq_or_ne z 0 with rfl | h0
  · rw [zero_mul, nearestTicks_zero]
  rw [nearestTicks, Int.natAbs_mul, Int.natAbs_natCast, roundTicks_mul_self hd hz, min_eq_left hle,
    Int.sign_mul, Int.sign_eq_one_of_pos (by omega : (0 : Int) < d), mul_one, Int.sign_mul_natAbs]

lemma natAbs_apply (s : Sign) (n : Int) : (s.apply n).natAbs = n.natAbs := by
  cases s
  · exact Int.natAbs_neg n
  · rfl

lemma natAbs_finite_ticks (s : Sign) (m k : Nat) :
    (s.apply ((m : Int) * 2 ^ k)).natAbs = m * 2 ^ k := by
  rw [natAbs_apply, ← cast_two_pow, ← Nat.cast_mul, Int.natAbs_natCast]

/-- What is put into bits as a number has its ticks there. -/
lemma ticks_of_isNumber {u : UnpackedFloat} (hu : IsNumber u)
    (hx : x.toModel = Float.Model.pack u) : x.isNaN = false ∧ ticks x = unpackedTicks u := by
  cases u with
  | notANumber => exact hu.elim
  | infinity s =>
    have hu' : x.toModel.unpack = .infinity s := by rw [hx]; exact unpack_packedInfinity s
    have hnan : x.isNaN = false := by
      show x.toModel.unpack.isNaN = false
      rw [hu']; rfl
    exact ⟨hnan, by rw [ticks_eq_unpackedTicks hnan, hu']⟩
  | zero s => exact ticks_of_zero hx
  | finite s m e hm =>
    obtain ⟨hm', he, he', hc⟩ := id hu
    obtain ⟨hnan, ht⟩ := ticks_of_pack hm' he hc hx
    have hlt := Canonical.lt_infinityTicks hu
    rw [← cast_two_pow, ← Nat.cast_mul, Nat.cast_lt] at hlt
    rw [min_eq_left hlt.le, Nat.cast_mul, cast_two_pow] at ht
    exact ⟨hnan, ht⟩

lemma representable_unpackedTicks {u : UnpackedFloat} (hu : IsNumber u) :
    Representable (unpackedTicks u).natAbs ∧ (unpackedTicks u).natAbs ≤ infinityTicks := by
  cases u with
  | notANumber => exact hu.elim
  | infinity s =>
    obtain ⟨k, hk⟩ : ∃ k, infinityTicks = 2 ^ k := ⟨2098, by unfold infinityTicks; rfl⟩
    rw [unpackedTicks, natAbs_apply, Int.natAbs_natCast]
    exact ⟨⟨1, k, by norm_num, by rw [one_mul, hk]⟩, le_rfl⟩
  | zero s => exact ⟨⟨0, 0, by norm_num, by simp [unpackedTicks]⟩, by simp [unpackedTicks]⟩
  | finite s m e hm =>
    have hlt := Canonical.lt_infinityTicks hu
    rw [← cast_two_pow, ← Nat.cast_mul, Nat.cast_lt] at hlt
    rw [unpackedTicks, natAbs_finite_ticks]
    exact ⟨⟨m, _, hu.1, rfl⟩, hlt.le⟩

lemma representable_ticks (hx : x.isNaN = false) :
    Representable (ticks x).natAbs ∧ (ticks x).natAbs ≤ infinityTicks := by
  rw [ticks_eq_unpackedTicks hx]
  exact representable_unpackedTicks (isNumber_unpack hx)

/-- The ticks of a number are one of the numbers that rounding leaves as they are. -/
lemma nearestTicks_ticks (hx : x.isNaN = false) (hd : 0 < d) :
    nearestTicks (ticks x * d) d = ticks x :=
  nearestTicks_of_representable (representable_ticks hx).1 (representable_ticks hx).2 hd

lemma isNumber_neg {u : UnpackedFloat} (hu : IsNumber u) :
    IsNumber u.neg ∧ unpackedTicks u.neg = -unpackedTicks u := by
  cases u with
  | notANumber => exact hu.elim
  | infinity s =>
    exact ⟨trivial, by cases s <;> simp [unpackedTicks, UnpackedFloat.neg, Sign.apply]⟩
  | zero s => exact ⟨trivial, rfl⟩
  | finite s m e hm =>
    exact ⟨hu, by cases s <;> simp [unpackedTicks, UnpackedFloat.neg, Sign.apply]⟩

/-- The negative of a number has the negative of its ticks. -/
theorem ticks_neg (hx : x.isNaN = false) : (-x).isNaN = false ∧ ticks (-x) = -ticks x := by
  obtain ⟨hu, ht⟩ := isNumber_neg (isNumber_unpack hx)
  rw [ticks_eq_unpackedTicks hx, ← ht]
  exact ticks_of_isNumber hu rfl

/-- The sum of parts that are finite. -/
lemma ticks_of_add {u v : UnpackedFloat} (hu : IsNumber u) (hv : IsNumber v) (hfu : u.isFinite)
    (hfv : v.isFinite) (hx : x.toModel = Float.Model.pack (UnpackedFloat.add Format.binary64 u v)) :
    x.isNaN = false ∧ ticks x = nearestTicks (unpackedTicks u + unpackedTicks v) 1 := by
  have hself {w : UnpackedFloat} (hw : IsNumber w) :
      nearestTicks (unpackedTicks w) 1 = unpackedTicks w := by
    obtain ⟨hr, hle⟩ := representable_unpackedTicks hw
    simpa using nearestTicks_of_representable hr hle one_pos
  rcases u with s | _ | s | ⟨s, m, e, hm⟩
  · cases hfu
  · exact hu.elim
  · rw [unpackedTicks, zero_add, hself hv]
    rcases v with s' | _ | s' | ⟨s', m', e', hm'⟩
    · cases hfv
    · exact hv.elim
    · refine ticks_of_zero (s := if s == s' then s else .positive) ?_
      rw [hx, UnpackedFloat.add]
      split <;> rfl
    · exact ticks_of_isNumber hv hx
  rcases v with s' | _ | s' | ⟨s', m', e', hm'⟩
  · cases hfv
  · exact hv.elim
  · rw [unpackedTicks.eq_3, add_zero, hself hu]
    exact ticks_of_isNumber hu hx
  · have hmin : -1074 ≤ min e e' := le_min hu.2.1 hv.2.1
    obtain ⟨hnan, ht⟩ := ticks_of_normalize hmin hx
    refine ⟨hnan, ?_⟩
    have h := decreaseExponent_ticks (m := m) (min_le_left e e') hmin s
    have h' := decreaseExponent_ticks (m := m') (min_le_right e e') hmin s'
    rw [decreaseExponent] at h h'
    rw [ht, add_mul, h, h']
    rfl

/-- **A sum is the nearest number to the sum of the numbers.** -/
theorem ticks_add (hx : x.isFinite) (hy : y.isFinite) :
    (x + y).isNaN = false ∧ ticks (x + y) = nearestTicks (ticks x + ticks y) 1 := by
  have hx' := (isNaN_of_isFinite hx).1
  have hy' := (isNaN_of_isFinite hy).1
  rw [ticks_eq_unpackedTicks hx', ticks_eq_unpackedTicks hy']
  exact ticks_of_add (isNumber_unpack hx') (isNumber_unpack hy') hx hy rfl

/-- Adding a finite number to an infinity. -/
theorem ticks_add_of_infinite (hx : x.isNaN = false) (hinf : ¬x.isFinite) (hy : y.isFinite) :
    (x + y).isNaN = false ∧ ticks (x + y) = ticks x := by
  obtain ⟨s, hu, ht⟩ := unpack_of_infinite hx hinf
  have hadd : UnpackedFloat.add Format.binary64 (.infinity s) y.toModel.unpack = .infinity s := by
    have hv : y.toModel.unpack.isFinite = true := hy
    cases hu' : y.toModel.unpack <;> rw [hu'] at hv <;> first | rfl | cases hv
  rw [ht]
  refine ticks_of_isNumber (u := .infinity s) trivial ?_
  rw [← hadd, ← hu]
  rfl

/-- Adding a zero changes no ticks. -/
theorem ticks_add_zero (hx : x.isNaN = false) (hy : y.isNaN = false) (h : ticks y = 0) :
    (x + y).isNaN = false ∧ ticks (x + y) = ticks x := by
  have hyf : y.isFinite := (isFinite_iff hy).mpr (by rw [h, abs_zero]; exact infinityTicks_pos)
  by_cases hxf : x.isFinite
  · have hself := nearestTicks_ticks hx one_pos
    rw [Nat.cast_one, mul_one] at hself
    obtain ⟨hnan, ht⟩ := ticks_add hxf hyf
    exact ⟨hnan, by rw [ht, h, add_zero, hself]⟩
  · exact ticks_add_of_infinite hx hxf hyf

/-- Adding to a number what is not negative does not make it less. -/
theorem ticks_le_add (hx : x.isNaN = false) (h : 0 ≤ ticks x) (hy : y.isFinite) (hn : 0 ≤ ticks y) :
    (x + y).isNaN = false ∧ ticks x ≤ ticks (x + y) := by
  by_cases hxf : x.isFinite
  · have hself := nearestTicks_ticks hx one_pos
    obtain ⟨hnan, ht⟩ := ticks_add hxf hy
    obtain ⟨n, hn'⟩ := Int.eq_ofNat_of_zero_le h
    obtain ⟨m, hm'⟩ := Int.eq_ofNat_of_zero_le hn
    refine ⟨hnan, ?_⟩
    rw [Nat.cast_one, mul_one, hn'] at hself
    rw [ht, hn', hm', ← Nat.cast_add]
    exact hself.symm.le.trans (nearestTicks_mono one_pos (Nat.le_add_right n m))
  · obtain ⟨hnan, ht⟩ := ticks_add_of_infinite hx hxf hy
    exact ⟨hnan, ht.ge⟩

lemma unpacked_sub_eq_add (u v : UnpackedFloat) :
    UnpackedFloat.sub Format.binary64 u v = UnpackedFloat.add Format.binary64 u v.neg := by
  have happly (s : Sign) (n : Int) : (-s).apply n = -s.apply n := by
    cases s
    · exact (neg_neg n).symm
    · rfl
  cases u <;> cases v <;>
    simp only [UnpackedFloat.sub, UnpackedFloat.add, UnpackedFloat.neg, happly,
      Int.sub_eq_add_neg]

/-- **A difference is the nearest number to the difference of the numbers.** -/
theorem ticks_sub (hx : x.isFinite) (hy : y.isFinite) :
    (x - y).isNaN = false ∧ ticks (x - y) = nearestTicks (ticks x - ticks y) 1 := by
  have hx' := (isNaN_of_isFinite hx).1
  have hy' := (isNaN_of_isFinite hy).1
  obtain ⟨hneg, ht⟩ := isNumber_neg (isNumber_unpack hy')
  have hfin : y.toModel.unpack.neg.isFinite := by
    have hf : y.toModel.unpack.isFinite = true := hy
    cases hu : y.toModel.unpack <;> rw [hu] at hf <;> first | rfl | cases hf
  rw [ticks_eq_unpackedTicks hx', ticks_eq_unpackedTicks hy', Int.sub_eq_add_neg, ← ht]
  have hsub : (x - y).toModel = Float.Model.pack
      (UnpackedFloat.sub Format.binary64 x.toModel.unpack y.toModel.unpack) := rfl
  exact ticks_of_add (isNumber_unpack hx') hneg hx hfin
    (hsub.trans (congrArg _ (unpacked_sub_eq_add _ _)))

/-- A dividend that is longer than the divisor by 53 digits has a quotient of that length. -/
lemma le_log2_div {a b : Nat} (hb : 0 < b) (h : 53 + b.log2 ≤ a.log2) : 52 ≤ (a / b).log2 := by
  have ha : a ≠ 0 := by rintro rfl; simp at h
  have hle : 2 ^ 52 ≤ a / b := by
    rw [Nat.le_div_iff_mul_le hb]
    calc 2 ^ 52 * b ≤ 2 ^ 52 * 2 ^ (b.log2 + 1) := Nat.mul_le_mul_left _ Nat.lt_log2_self.le
      _ = 2 ^ (53 + b.log2) := by ring
      _ ≤ 2 ^ a.log2 := Nat.pow_le_pow_right (by norm_num) h
      _ ≤ a := Nat.log2_self_le ha
  exact (Nat.le_log2 (by omega)).mpr hle

lemma divCore_eq {m m' : Nat} (e e' : Int) (hm : 0 < m) (hm' : 0 < m') :
    ∃ (k : Nat) (t : Int), t = e - e' - k ∧ (52 ≤ (m * 2 ^ k / m').log2 ∨ t ≤ -1074) ∧
      divCore Format.binary64 m e m' e' =
        (m * 2 ^ k / m', t, accuracyOfFraction (m * 2 ^ k % m') m') := by
  have htarget : Format.binary64.targetExponent (totalExponent m e - totalExponent m' e') =
      max ((m.log2 : Int) + e - m'.log2 - e' - 53) (-1074) := by
    simp only [Format.targetExponent, totalExponent, Format.mantissaBits, Format.minExponent]
    norm_num
    omega
  refine ⟨(e - e' - min (e - e') (max ((m.log2 : Int) + e - m'.log2 - e' - 53) (-1074))).toNat, _,
    rfl,
    ?_, ?_⟩
  · refine or_iff_not_imp_right.mpr fun ht => le_log2_div hm' ?_
    rw [log2_mul_two_pow hm.ne']
    omega
  · rw [divCore, htarget]
    simp only [Nat.shiftLeft_eq, Prod.mk.injEq, true_and, and_true]
    omega

/-- **A quotient is the nearest number to the quotient of the numbers.** -/
theorem ticks_div (hx : x.isFinite) (hy : y.isFinite) (h : 0 < ticks y) :
    (x / y).isNaN = false ∧ ticks (x / y) = nearestTicks (ticks x * oneTicks) (ticks y).toNat := by
  have hdiv : (x / y).toModel = Float.Model.pack
      (UnpackedFloat.div Format.binary64 x.toModel.unpack y.toModel.unpack) := rfl
  obtain ⟨m', e', hm', hu', hc', ht'⟩ := unpack_of_pos hy h
  obtain ⟨s, hu, ht⟩ | ⟨s, m, e, hm, hu, hc, ht⟩ := unpack_cases_of_isFinite hx
  · rw [ht, zero_mul, nearestTicks_zero]
    exact ticks_of_zero (s := s / .positive) (by rw [hdiv, hu, hu']; rfl)
  obtain ⟨k, t, hk, hbits, hcore⟩ := divCore_eq e e' hm hm'
  rw [hu, hu', UnpackedFloat.div, hcore] at hdiv
  obtain ⟨hnan, h⟩ := ticks_of_rounded hm' (reads_fraction _ hm') hbits hdiv
  refine ⟨hnan, h.trans ?_⟩
  have hs : s / .positive = s := by cases s <;> rfl
  have hnat : ((m' : Int) * 2 ^ (e' + 1074).toNat).toNat = m' * 2 ^ (e' + 1074).toNat := by
    rw [← cast_two_pow, ← Nat.cast_mul, Int.toNat_natCast]
  rw [apply_min_roundTicks, ht, ht', hs, hnat]
  refine nearestTicks_congr (by positivity) (by positivity) ?_
  rw [apply_mul_natCast, apply_mul_natCast, apply_mul_natCast]
  congr 1
  push_cast [cast_two_pow]
  have hexp : (2 : Int) ^ k * 2 ^ (t + 1074).toNat * 2 ^ (e' + 1074).toNat =
      2 ^ (e + 1074).toNat * oneTicks * 2 ^ (-1074 - t).toNat := by
    rw [two_pow_mul_oneTicks, ← pow_add, ← pow_add, ← pow_add]
    have := hc.2.1
    have := hc'.2.1
    congr 1
    omega
  linear_combination (m * m' : Int) * hexp

/-- An integer becomes the nearest number. -/
theorem ticks_ofUInt64 (w : UInt64) :
    w.toFloat.isNaN = false ∧ ticks w.toFloat = nearestTicks (w.toNat * oneTicks) 1 := by
  have h := ticks_of_normalize (x := w.toFloat) (z := w.toNat) (e := 0) (s := .positive)
    (by norm_num) rfl
  rwa [show ((0 : Int) + 1074).toNat = 0 + 1074 from rfl, ← two_pow_mul_oneTicks, pow_zero,
    one_mul] at h

/-- A positive number times an infinity. -/
theorem ticks_mul_of_infinite (hx : x.isFinite) (h : 0 < ticks x) (hy : y.isNaN = false)
    (hinf : ¬y.isFinite) : (x * y).isNaN = false ∧ ticks (x * y) = ticks y := by
  obtain ⟨m, e, hm, hu, -⟩ := unpack_of_pos hx h
  obtain ⟨s, hu', ht⟩ := unpack_of_infinite hy hinf
  rw [ht]
  refine ticks_of_isNumber (u := .infinity s) trivial ?_
  show Float.Model.pack (UnpackedFloat.mul _ x.toModel.unpack y.toModel.unpack) = _
  rw [hu, hu']
  cases s <;> rfl

/-- An infinity divided by a positive number. -/
theorem ticks_div_of_infinite (hx : x.isNaN = false) (hinf : ¬x.isFinite) (hy : y.isFinite)
    (h : 0 < ticks y) : (x / y).isNaN = false ∧ ticks (x / y) = ticks x := by
  obtain ⟨s, hu, ht⟩ := unpack_of_infinite hx hinf
  obtain ⟨m, e, hm, hu', -⟩ := unpack_of_pos hy h
  rw [ht]
  refine ticks_of_isNumber (u := .infinity s) trivial ?_
  show Float.Model.pack (UnpackedFloat.div _ x.toModel.unpack y.toModel.unpack) = _
  rw [hu, hu']
  cases s <;> rfl

end TestData.Decimal
