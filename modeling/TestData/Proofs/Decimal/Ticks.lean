import Mathlib
import TestData.Proofs.Decimal.Readable

/-!
Floating-point numbers as whole numbers of ticks.

Every finite number is a multiple of the least positive one. Counted in those, the order of numbers
is the order of integers, and so it stays with the infinities, whose bits read as the power of two
that follows the greatest number.
-/

namespace TestData.Decimal

open Float.Model Float.Model.UnpackedFloat

/-- The number in units of `2 ^ -1074`. -/
def Binary.ticks (b : Binary) : Int :=
  let n := b.significand * 2 ^ (b.exponent + 1074).toNat
  if b.negative then -n else n

/-- A number in units of the least positive one. -/
def ticks (x : Float) : Int := (Binary.ofFloat x).ticks

/-- The ticks of an infinity. -/
@[irreducible] def infinityTicks : Nat := 2 ^ 2098

/-- The ticks of one. -/
@[irreducible] def oneTicks : Nat := 2 ^ 1074

lemma cast_two_pow (n : Nat) : ((2 ^ n : Nat) : Int) = 2 ^ n := by push_cast; rfl

lemma cast_infinityTicks : (infinityTicks : Int) = 2 ^ 2098 := by
  unfold infinityTicks
  exact cast_two_pow 2098

lemma infinityTicks_pos : 0 < (infinityTicks : Int) := by rw [cast_infinityTicks]; positivity

lemma cast_oneTicks : (oneTicks : Int) = 2 ^ 1074 := by
  unfold oneTicks
  exact cast_two_pow 1074

lemma oneTicks_pos : 0 < oneTicks := by unfold oneTicks; positivity

lemma oneTicks_lt_infinityTicks : (oneTicks : Int) < infinityTicks := by
  rw [cast_oneTicks, cast_infinityTicks]
  exact pow_lt_pow_right₀ (by norm_num) (by norm_num)

lemma ticks_zero : ticks 0 = 0 := rfl

lemma isNaN_zero : Float.isNaN 0 = false := rfl

lemma ticks_one : ticks 1 = oneTicks := by
  rw [cast_oneTicks]
  decide +kernel

lemma isNaN_one : Float.isNaN 1 = false := rfl

/-! ### Numbers taken apart -/

/-- The ticks of a number that is taken apart. What is not a number has none. -/
def unpackedTicks : UnpackedFloat → Int
  | .notANumber => 0
  | .infinity s => s.apply infinityTicks
  | .zero _ => 0
  | .finite s m e _ => s.apply (m * 2 ^ (e + 1074).toNat)

/-- A significand has 53 binary digits, or fewer with the least exponent. -/
def Canonical (m : Nat) (e : Int) : Prop :=
  m < 2 ^ 53 ∧ -1074 ≤ e ∧ e ≤ 971 ∧ (2 ^ 52 ≤ m ∨ e = -1074)

lemma toNat_unpackMantissa (b : BitVec 64) :
    (@unpackMantissa Format.binary64 b).toNat = b.toNat % 2 ^ 52 := by
  rw [unpackMantissa_def, BitVec.extractLsb'_toNat]
  rfl

lemma toNat_unpackExponent (b : BitVec 64) :
    (@unpackExponent Format.binary64 b).toNat = b.toNat / 2 ^ 52 % 2048 := by
  rw [unpackExponent_def, BitVec.extractLsb'_toNat, Nat.shiftRight_eq_div_pow]
  rfl

lemma toNat_unpackSign (b : BitVec 64) :
    (@unpackSign Format.binary64 b).toNat = b.toNat / 2 ^ 63 := by
  rw [unpackSign_def, BitVec.extractLsb'_toNat, Nat.shiftRight_eq_div_pow]
  have := b.isLt
  show b.toNat / 2 ^ 63 % 2 = _
  omega

lemma sign_cases (s : BitVec 1) : s = 0#1 ∨ s = 1#1 := by revert s; decide

lemma ofBitVec_unpackSign (b : BitVec 64) :
    Sign.ofBitVec (@unpackSign Format.binary64 b) =
      if 2 ^ 63 ≤ b.toNat then .negative else .positive := by
  have h := toNat_unpackSign b
  have := b.isLt
  rcases sign_cases (@unpackSign Format.binary64 b) with hs | hs <;> rw [hs] at h ⊢
  · rw [if_neg (by simp only [BitVec.toNat_ofNat] at h; omega)]; rfl
  · rw [if_pos (by simp only [BitVec.toNat_ofNat] at h; omega)]; rfl

lemma toNat_one_append (v : BitVec 52) : (1#1 ++ v).toNat = 2 ^ 52 + v.toNat := by
  rw [BitVec.toNat_append, ← Nat.shiftLeft_add_eq_or_of_lt v.isLt]
  rfl

/-- The three parts of the bits of a number, and what they are put together to. -/
lemma unpack_eq (x : Float) (bits field : Nat) (s : Sign) (hbits : bits = x.toBits.toNat)
    (hfield : field = bits / 2 ^ 52 % 2048)
    (hs : s = if 2 ^ 63 ≤ bits then .negative else .positive) :
    (field = 2047 ∧ bits % 2 ^ 52 = 0 ∧ x.toModel.unpack = .infinity s) ∨
    x.toModel.unpack = .notANumber ∨
    (field = 0 ∧ bits % 2 ^ 52 = 0 ∧ x.toModel.unpack = .zero s) ∨
    (field = 0 ∧ ∃ h, x.toModel.unpack = .finite s (bits % 2 ^ 52) (-1074) h) ∨
    (field ≠ 0 ∧ field < 2047 ∧
      ∃ h, x.toModel.unpack = .finite s (2 ^ 52 + bits % 2 ^ 52) ((field : Int) - 1075) h) := by
  have hm := toNat_unpackMantissa x.toBits.toBitVec
  have he := toNat_unpackExponent x.toBits.toBitVec
  rw [show x.toBits.toBitVec.toNat = bits from hbits.symm] at hm he
  rw [← hfield] at he
  have hsign : Sign.ofBitVec (@unpackSign Format.binary64 x.toBits.toBitVec) = s := by
    rw [hs, hbits]; exact ofBitVec_unpackSign _
  have hu : x.toModel.unpack = UnpackedFloat.unpack Format.binary64 x.toBits.toBitVec := rfl
  have hlt : field < 2048 := by omega
  rw [hu]
  have hlow : @unpackMantissa Format.binary64 x.toBits.toBitVec = 0#52 ↔
      bits % 2 ^ 52 = 0 := by rw [← BitVec.toNat_inj, hm]; rfl
  have hzero : @unpackExponent Format.binary64 x.toBits.toBitVec = 0#11 ↔ field = 0 := by
    rw [← BitVec.toNat_inj, he]; rfl
  have hones : @unpackExponent Format.binary64 x.toBits.toBitVec = -1#11 ↔
      field = 2047 := by rw [← BitVec.toNat_inj, he]; rfl
  have hbias : (Format.binary64.exponentBias : Int) = 1023 := rfl
  fun_cases UnpackedFloat.unpack with
  | case1 mvec evec svec s' hfull hm0 => exact .inl ⟨hones.mp hfull, hlow.mp hm0, by rw [← hsign]⟩
  | case2 => exact .inr (.inl rfl)
  | case3 mvec evec svec s' hfull he0 hm0 =>
    exact .inr (.inr (.inl ⟨hzero.mp he0, hlow.mp hm0, by rw [← hsign]⟩))
  | case4 mvec evec e svec s' hfull he0 hm0 =>
    have hpos : 0 < bits % 2 ^ 52 := by have := mt hlow.mpr hm0; omega
    have hev : evec.toNat = field := he
    have hexp : e + 1 = -1074 := by
      have := hzero.mp he0
      simp only [e, hev, this, hbias]; rfl
    refine .inr (.inr (.inr (.inl ⟨hzero.mp he0, hpos, ?_⟩)))
    simp only [finite.injEq]
    exact ⟨hsign, hm, hexp⟩
  | case5 mvec evec e svec s' hfull he0 =>
    have hlt' : field < 2047 := by have := mt hones.mpr hfull; omega
    have hev : evec.toNat = field := he
    have hexp : e = (field : Int) - 1075 := by simp only [e, hev, hbias]; omega
    refine .inr (.inr (.inr (.inr ⟨mt hzero.mpr he0, hlt', by omega, ?_⟩)))
    simp only [finite.injEq]
    exact ⟨hsign, by rw [toNat_one_append, ← hm], hexp⟩

lemma canonical_of_unpack {x : Float} {s : Sign} {m : Nat} {e : Int} {h : 0 < m}
    (hu : x.toModel.unpack = .finite s m e h) : Canonical m e := by
  have hmod : x.toBits.toNat % 2 ^ 52 < 2 ^ 52 := Nat.mod_lt _ (by positivity)
  rcases unpack_eq x _ _ _ rfl rfl rfl with
    ⟨-, -, h'⟩ | h' | ⟨-, -, h'⟩ | ⟨-, h, h'⟩ | ⟨h0, h1, h, h'⟩
  all_goals rw [hu] at h'; cases h'
  · exact ⟨by omega, by omega, by omega, .inr rfl⟩
  · exact ⟨by omega, by omega, by omega, .inl (by omega)⟩

lemma significand_ofFloat (x : Float) : (Binary.ofFloat x).significand =
    if x.toBits.toNat / 2 ^ 52 % 2048 = 0 then x.toBits.toNat % 2 ^ 52
    else 2 ^ 52 + x.toBits.toNat % 2 ^ 52 := by
  rw [Nat.add_comm (2 ^ 52)]; rfl

lemma exponent_ofFloat (x : Float) : (Binary.ofFloat x).exponent =
    (if x.toBits.toNat / 2 ^ 52 % 2048 = 0 then 1
      else x.toBits.toNat / 2 ^ 52 % 2048 : Nat) - 1075 :=
  rfl

lemma ticks_eq_apply (x : Float) : ticks x =
    (if 2 ^ 63 ≤ x.toBits.toNat then Sign.negative else .positive).apply
      ((Binary.ofFloat x).significand * 2 ^ ((Binary.ofFloat x).exponent + 1074).toNat) := by
  have hn : (Binary.ofFloat x).negative = decide (2 ^ 63 ≤ x.toBits.toNat) := rfl
  rw [ticks, Binary.ticks, hn]
  by_cases h : 2 ^ 63 ≤ x.toBits.toNat
  · simp only [h, decide_true, if_true]; rfl
  · simp only [h, decide_false, if_false]; rfl

/-- The ticks are read off the parts of a number. -/
lemma ticks_eq_unpackedTicks {x : Float} (hx : x.isNaN = false) :
    ticks x = unpackedTicks x.toModel.unpack := by
  rw [ticks_eq_apply, significand_ofFloat, exponent_ofFloat]
  rcases unpack_eq x _ _ _ rfl rfl rfl with
    ⟨hf, hm, h⟩ | h | ⟨hf, hm, h⟩ | ⟨hf, hp, h⟩ | ⟨h0, h1, hp, h⟩
  · rw [h, hf, hm, unpackedTicks, cast_infinityTicks, show 2098 = 52 + 2046 from rfl, pow_add]; rfl
  · exact absurd (show x.toModel.unpack.isNaN = false from hx) (by rw [h]; decide)
  · rw [h, hf, hm, unpackedTicks]
    split <;> rfl
  · rw [h, if_pos hf, if_pos hf]; rfl
  · rw [h, if_neg h0, if_neg h0]; rfl

/-! ### The order of numbers -/

lemma Canonical.lt_infinityTicks {m : Nat} {e : Int} (h : Canonical m e) :
    (m : Int) * 2 ^ (e + 1074).toNat < infinityTicks := by
  obtain ⟨hm, h1, h2, -⟩ := h
  have hk : (e + 1074).toNat ≤ 2045 := by omega
  have hm' : (m : Int) < 2 ^ 53 := by exact_mod_cast hm
  calc (m : Int) * 2 ^ (e + 1074).toNat < 2 ^ 53 * 2 ^ (e + 1074).toNat :=
        Int.mul_lt_mul_of_pos_right hm' (by positivity)
    _ = 2 ^ (53 + (e + 1074).toNat) := (pow_add _ _ _).symm
    _ ≤ 2 ^ 2098 := pow_le_pow_right₀ (by norm_num) (by omega)
    _ = infinityTicks := cast_infinityTicks.symm

/-- With a greater exponent a number is greater, whatever the significands are. -/
lemma Canonical.ticks_lt_of_exponent_lt {m m' : Nat} {e e' : Int} (h : Canonical m e)
    (h' : Canonical m' e') (he : e < e') :
    (m : Int) * 2 ^ (e + 1074).toNat < m' * 2 ^ (e' + 1074).toNat := by
  have hm' : 2 ^ 52 ≤ m' := h'.2.2.2.resolve_right (by have := h.2.1; omega)
  have hlow : (m : Int) < 2 ^ 53 := by exact_mod_cast h.1
  calc (m : Int) * 2 ^ (e + 1074).toNat < 2 ^ 53 * 2 ^ (e + 1074).toNat :=
        Int.mul_lt_mul_of_pos_right hlow (by positivity)
    _ = 2 ^ 52 * 2 ^ ((e + 1074).toNat + 1) := by ring
    _ ≤ 2 ^ 52 * 2 ^ (e' + 1074).toNat :=
        Int.mul_le_mul_of_nonneg_left (pow_le_pow_right₀ (by norm_num) (by have := h.2.1; omega))
          (by positivity)
    _ ≤ m' * 2 ^ (e' + 1074).toNat :=
        Int.mul_le_mul_of_nonneg_right (by exact_mod_cast hm') (by positivity)

lemma Canonical.compare_ticks {m m' : Nat} {e e' : Int} (h : Canonical m e)
    (h' : Canonical m' e') :
    compare ((m : Int) * 2 ^ (e + 1074).toNat) (m' * 2 ^ (e' + 1074).toNat) =
      (compare e e').then (compare m m') := by
  rcases lt_trichotomy e e' with he | rfl | he
  · rw [compare_lt_iff_lt.mpr he, compare_lt_iff_lt.mpr (h.ticks_lt_of_exponent_lt h' he)]; rfl
  · have hpos : (0 : Int) < 2 ^ (e + 1074).toNat := by positivity
    rw [compare_eq_iff_eq.mpr (rfl : e = e)]
    rcases lt_trichotomy m m' with hm | rfl | hm
    · rw [compare_lt_iff_lt.mpr hm, compare_lt_iff_lt.mpr]; rfl
      exact Int.mul_lt_mul_of_pos_right (by exact_mod_cast hm) hpos
    · rw [compare_eq_iff_eq.mpr rfl, compare_eq_iff_eq.mpr rfl]; rfl
    · rw [compare_gt_iff_gt.mpr hm, compare_gt_iff_gt.mpr]; rfl
      exact Int.mul_lt_mul_of_pos_right (by exact_mod_cast hm) hpos
  · rw [compare_gt_iff_gt.mpr he, compare_gt_iff_gt.mpr (h'.ticks_lt_of_exponent_lt h he)]; rfl

/-- A number that is taken apart as the bits of numbers are. -/
def IsNumber : UnpackedFloat → Prop
  | .notANumber => False
  | .finite _ m e _ => Canonical m e
  | _ => True

lemma isNumber_unpack {x : Float} (hx : x.isNaN = false) : IsNumber x.toModel.unpack := by
  cases h : x.toModel.unpack with
  | notANumber => exact absurd (show x.toModel.unpack.isNaN = false from hx) (by rw [h]; decide)
  | finite s m e hm => exact canonical_of_unpack h
  | zero s => trivial
  | infinity s => trivial


/-- The ticks of the parts of a finite number. -/
lemma Canonical.ticks_bounds {m : Nat} {e : Int} (h : Canonical m e) (hm : 0 < m) :
    0 < (m : Int) * 2 ^ (e + 1074).toNat ∧ (m : Int) * 2 ^ (e + 1074).toNat < infinityTicks :=
  ⟨by positivity, h.lt_infinityTicks⟩

lemma compare_neg_neg (a b : Int) : compare (-a) (-b) = (compare a b).swap := by
  rcases lt_trichotomy a b with h | rfl | h
  · rw [compare_lt_iff_lt.mpr h, compare_gt_iff_gt.mpr (by omega)]; rfl
  · rw [compare_eq_iff_eq.mpr rfl, compare_eq_iff_eq.mpr rfl]; rfl
  · rw [compare_gt_iff_gt.mpr h, compare_lt_iff_lt.mpr (by omega)]; rfl

lemma compare_finite {s s' : Sign} {m m' : Nat} {e e' : Int} {hm : 0 < m} {hm' : 0 < m'}
    (h : Canonical m e) (h' : Canonical m' e') :
    (finite s m e hm).compare (finite s' m' e' hm') =
      some (compare (unpackedTicks (finite s m e hm)) (unpackedTicks (finite s' m' e' hm'))) := by
  have hb := h.ticks_bounds hm
  have hb' := h'.ticks_bounds hm'
  cases s <;> cases s' <;>
    simp only [UnpackedFloat.compare, unpackedTicks, Sign.apply, Option.some.injEq]
  · exact (compare_neg_neg _ _).trans (congrArg _ (h.compare_ticks h')) |>.symm
  · exact (compare_lt_iff_lt.mpr (by omega)).symm
  · exact (compare_gt_iff_gt.mpr (by omega)).symm
  · exact (h.compare_ticks h').symm

/-- Numbers are compared as their ticks are. -/
lemma compare_eq_compare_ticks {u v : UnpackedFloat} (hu : IsNumber u) (hv : IsNumber v) :
    u.compare v = some (compare (unpackedTicks u) (unpackedTicks v)) := by
  have hinf := infinityTicks_pos
  rcases u with s | _ | s | ⟨s, m, e, hm⟩ <;> rcases v with s' | _ | s' | ⟨s', m', e', hm'⟩
  case finite.finite => exact compare_finite hu hv
  all_goals first
    | exact hu.elim
    | exact hv.elim
    | have hb := Canonical.ticks_bounds hu hm
    | have hb := Canonical.ticks_bounds hv hm'
    | skip
  -- At most one of the two is finite: signs and kinds decide.
  all_goals
    cases s <;> cases s' <;>
      simp only [UnpackedFloat.compare, unpackedTicks, Sign.apply, Option.some.injEq] <;>
      first
      | exact (compare_eq_iff_eq.mpr rfl).symm
      | exact (compare_lt_iff_lt.mpr (by omega)).symm
      | exact (compare_gt_iff_gt.mpr (by omega)).symm

variable {x y : Float}

lemma lt_iff_compare : x < y ↔ x.toModel.unpack.compare y.toModel.unpack = some .lt := by
  show Float.lt x y = true ↔ _
  rw [Float.lt, decide_eq_true_iff]
  exact beq_iff_eq

lemma le_iff_compare :
    x ≤ y ↔ (x.toModel.unpack.compare y.toModel.unpack).any (·.isLE) = true := by
  show Float.le x y = true ↔ _
  rw [Float.le, decide_eq_true_iff]
  rfl

lemma beq_iff_compare :
    (x == y) = true ↔ x.toModel.unpack.compare y.toModel.unpack = some .eq := by
  show (x.toModel.unpack.compare y.toModel.unpack == some .eq) = true ↔ _
  exact beq_iff_eq

lemma compare_notANumber (h : x.isNaN ∨ y.isNaN) :
    x.toModel.unpack.compare y.toModel.unpack = none := by
  have key (z : Float) (hz : z.isNaN) : z.toModel.unpack = .notANumber := by
    cases hu : z.toModel.unpack with
    | notANumber => rfl
    | _ =>
      have hn : z.toModel.unpack.isNaN = true := hz
      rw [hu] at hn
      cases hn
  rcases h with h | h
  · rw [key x h]; cases y.toModel.unpack <;> rfl
  · rw [key y h]; cases x.toModel.unpack <;> rfl

lemma isNaN_of_lt (h : x < y) : x.isNaN = false ∧ y.isNaN = false := by
  by_contra hc
  rw [lt_iff_compare, compare_notANumber (by grind)] at h
  cases h

lemma isNaN_of_le (h : x ≤ y) : x.isNaN = false ∧ y.isNaN = false := by
  by_contra hc
  rw [le_iff_compare, compare_notANumber (by grind)] at h
  cases h

/-- **Numbers are ordered as their ticks.** -/
theorem lt_iff_ticks_lt (hx : x.isNaN = false) (hy : y.isNaN = false) :
    x < y ↔ ticks x < ticks y := by
  rw [lt_iff_compare, compare_eq_compare_ticks (isNumber_unpack hx) (isNumber_unpack hy),
    ← ticks_eq_unpackedTicks hx, ← ticks_eq_unpackedTicks hy, Option.some.injEq,
    compare_lt_iff_lt]

theorem le_iff_ticks_le (hx : x.isNaN = false) (hy : y.isNaN = false) :
    x ≤ y ↔ ticks x ≤ ticks y := by
  rw [le_iff_compare, compare_eq_compare_ticks (isNumber_unpack hx) (isNumber_unpack hy),
    ← ticks_eq_unpackedTicks hx, ← ticks_eq_unpackedTicks hy]
  rw [Option.any_some, Ordering.isLE_iff_ne_gt]
  exact (not_congr compare_gt_iff_gt).trans not_lt

/-- Numbers are equal if their ticks are. -/
theorem beq_iff_ticks_eq (hx : x.isNaN = false) (hy : y.isNaN = false) :
    (x == y) = true ↔ ticks x = ticks y := by
  rw [beq_iff_compare, compare_eq_compare_ticks (isNumber_unpack hx) (isNumber_unpack hy),
    ← ticks_eq_unpackedTicks hx, ← ticks_eq_unpackedTicks hy, Option.some.injEq,
    compare_eq_iff_eq]

lemma not_lt_iff_ticks_le (hx : x.isNaN = false) (hy : y.isNaN = false) :
    ¬x < y ↔ ticks y ≤ ticks x := by
  rw [lt_iff_ticks_lt hx hy, not_lt]

/-- A number is an infinity, a zero or a significand with an exponent. -/
lemma unpack_cases (hx : x.isNaN = false) :
    (∃ s, x.toModel.unpack = .infinity s ∧ ticks x = s.apply infinityTicks) ∨
    (∃ s, x.toModel.unpack = .zero s ∧ ticks x = 0) ∨
    ∃ s m e h, x.toModel.unpack = .finite s m e h ∧ Canonical m e ∧
      ticks x = s.apply (m * 2 ^ (e + 1074).toNat) := by
  rw [ticks_eq_unpackedTicks hx]
  have hnum := isNumber_unpack hx
  revert hnum
  cases x.toModel.unpack with
  | notANumber => exact False.elim
  | infinity s => exact fun _ => .inl ⟨s, rfl, rfl⟩
  | zero s => exact fun _ => .inr (.inl ⟨s, rfl, rfl⟩)
  | finite s m e hm => exact fun h => .inr (.inr ⟨s, m, e, hm, rfl, h, rfl⟩)

lemma abs_apply (s : Sign) (n : Int) : |s.apply n| = |n| := by
  cases s
  · exact abs_neg n
  · rfl

/-- The finite numbers are those between the infinities. -/
lemma isFinite_iff (hx : x.isNaN = false) : x.isFinite ↔ |ticks x| < infinityTicks := by
  have hinf := infinityTicks_pos
  show x.toModel.unpack.isFinite = true ↔ _
  obtain ⟨s, hu, ht⟩ | ⟨s, hu, ht⟩ | ⟨s, m, e, hm, hu, hc, ht⟩ := unpack_cases hx <;>
    rw [hu, ht] <;> simp only [UnpackedFloat.isFinite, abs_apply, true_iff]
  · simp [abs_of_pos hinf]
  · simpa using hinf
  · rw [abs_of_pos (hc.ticks_bounds hm).1]; exact hc.lt_infinityTicks

/-! ### Integer parts -/

lemma exponent_ofFloat_bounds (x : Float) :
    -1074 ≤ (Binary.ofFloat x).exponent ∧ (Binary.ofFloat x).exponent ≤ 972 := by
  rw [exponent_ofFloat]
  split <;> omega

lemma Binary.whole_eq {b : Binary} (h : -1074 ≤ b.exponent) :
    b.whole = b.significand * 2 ^ (b.exponent + 1074).toNat / oneTicks := by
  unfold Binary.whole oneTicks
  split
  · rw [show (b.exponent + 1074).toNat = b.exponent.toNat + 1074 by omega, pow_add, ← mul_assoc,
      Nat.mul_div_cancel _ (by positivity)]
    rfl
  · have hk : 2 ^ 1074 = 2 ^ (b.exponent + 1074).toNat * 2 ^ (-b.exponent).toNat := by
      rw [← pow_add]; congr 1; omega
    rw [hk, Nat.mul_comm, Nat.mul_div_mul_left _ _ (by positivity)]
    rfl

lemma Binary.hasFraction_iff {b : Binary} (h : -1074 ≤ b.exponent) :
    b.hasFraction = false ↔ oneTicks ∣ b.significand * 2 ^ (b.exponent + 1074).toNat := by
  unfold Binary.hasFraction oneTicks
  by_cases h0 : b.exponent < 0
  · have hk : 2 ^ 1074 = 2 ^ (-b.exponent).toNat * 2 ^ (b.exponent + 1074).toNat := by
      rw [← pow_add]; congr 1; omega
    rw [hk, Nat.mul_dvd_mul_iff_right (by positivity), Nat.dvd_iff_mod_eq_zero]
    simp [h0]
  · have hk : (b.exponent + 1074).toNat = b.exponent.toNat + 1074 := by omega
    rw [hk, pow_add, ← mul_assoc]
    simp only [h0, decide_false, Bool.false_and, true_iff]
    exact Nat.dvd_mul_left _ _

/-- The magnitude of a number in ticks. -/
lemma ticks_ofFloat (x : Float) : ticks x =
    if (Binary.ofFloat x).negative then
      -(((Binary.ofFloat x).significand *
        2 ^ ((Binary.ofFloat x).exponent + 1074).toNat : Nat) : Int)
    else ((Binary.ofFloat x).significand *
      2 ^ ((Binary.ofFloat x).exponent + 1074).toNat : Nat) := by
  rw [ticks, Binary.ticks, Nat.cast_mul, cast_two_pow]

lemma whole_ofFloat (x : Float) :
    (if (Binary.ofFloat x).negative then -((Binary.ofFloat x).whole : Int)
      else (Binary.ofFloat x).whole) = (ticks x).tdiv oneTicks := by
  rw [ticks_ofFloat, Binary.whole_eq (exponent_ofFloat_bounds x).1]
  generalize (Binary.ofFloat x).significand * 2 ^ ((Binary.ofFloat x).exponent + 1074).toNat = n
  split
  · rw [Int.neg_tdiv]; rfl
  · rfl

lemma clampInteger_of_ge {n : Int} (h : greatestInteger ≤ n) :
    clampInteger n = greatestInteger := by
  unfold clampInteger
  rw [min_eq_right h]
  rfl

lemma clampInteger_of_le {n : Int} (h : n ≤ leastInteger) : clampInteger n = leastInteger := by
  unfold clampInteger
  rw [min_eq_left (h.trans (by decide)), max_eq_left h]

/-- An infinity has more whole ones than any integer of 64 bits. -/
lemma infinityTicks_tdiv : (infinityTicks : Int).tdiv oneTicks = 2 ^ 1024 := by
  have h : infinityTicks = oneTicks * 2 ^ 1024 := by
    unfold infinityTicks oneTicks; rw [← pow_add]
  rw [h, Nat.cast_mul, Int.mul_tdiv_cancel_left _ (by have := oneTicks_pos; omega)]
  exact cast_two_pow 1024

lemma integers_within_two_pow :
    -(2 : Int) ^ 1024 ≤ leastInteger ∧ greatestInteger ≤ (2 : Int) ^ 1024 := by
  have h : (2 : Int) ^ 63 ≤ 2 ^ 1024 := pow_le_pow_right₀ (by norm_num) (by norm_num)
  have hleast : -(2 : Int) ^ 63 ≤ leastInteger := by decide
  have hgreatest : greatestInteger ≤ (2 : Int) ^ 63 := by decide
  exact ⟨(neg_le_neg h).trans hleast, hgreatest.trans h⟩

/-- The integer part is the number of whole ones among the ticks. -/
theorem toInteger_eq (hx : x.isNaN = false) :
    toInteger x = clampInteger ((ticks x).tdiv oneTicks) := by
  have hinf := infinityTicks_pos
  have hi : x.isInf = x.toModel.unpack.isInf := rfl
  unfold toInteger
  rw [if_neg (ne_true_of_eq_false hx), ← whole_ofFloat]
  obtain ⟨s, hu, ht⟩ | ⟨s, hu, ht⟩ | ⟨s, m, e, hm, hu, hc, ht⟩ := unpack_cases hx
  · rw [if_pos (by rw [hi, hu]; rfl), whole_ofFloat, ht]
    cases s with
    | negative =>
      rw [if_pos ((lt_iff_ticks_lt hx isNaN_zero).mpr (by rw [ht, ticks_zero, Sign.apply]; omega)),
        Sign.apply, Int.neg_tdiv, infinityTicks_tdiv, clampInteger_of_le integers_within_two_pow.1]
    | positive =>
      rw [if_neg ((not_lt_iff_ticks_le hx isNaN_zero).mpr
          (by rw [ht, ticks_zero, Sign.apply]; omega)),
        Sign.apply, infinityTicks_tdiv, clampInteger_of_ge integers_within_two_pow.2]
  · rw [if_neg (by rw [hi, hu]; exact Bool.false_ne_true)]
  · rw [if_neg (by rw [hi, hu]; exact Bool.false_ne_true)]

/-- A number is whole if its ticks are a multiple of those of one. -/
lemma isWhole_iff (hx : x.isNaN = false) :
    isWhole x ↔ |ticks x| < infinityTicks ∧ (oneTicks : Int) ∣ ticks x := by
  have hdvd : (oneTicks : Int) ∣ ticks x ↔ (Binary.ofFloat x).hasFraction = false := by
    rw [Binary.hasFraction_iff (exponent_ofFloat_bounds x).1, ← Int.natCast_dvd_natCast,
      ticks_ofFloat]
    split
    · exact Int.dvd_neg
    · exact Iff.rfl
  rw [← isFinite_iff hx, hdvd, isWhole]
  simp

end TestData.Decimal
