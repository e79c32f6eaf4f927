import TestData.Proofs.Decimal.Integer

/-!
The shortest digits of a number read back.

The digits that are found lie in the interval of the reals that are rounded to the number, since
twenty grids are enough to meet it: the last of them is finer than half the distance to the next
number. So the number is what its digits are rounded to, and numbers that differ have digits of
different values.
-/

namespace TestData.Decimal

/-! ### Rounding of rationals -/

/-- The number of ticks that a rational number of ticks is rounded to. -/
def roundRat (q : ℚ) : Nat := roundTicks q.num.toNat q.den

variable {q : ℚ} {c k : Nat}

/-- A rational is rounded to at most `c * 2 ^ k` up to the middle between that and the next
number. -/
lemma roundRat_le_iff (hq : 0 ≤ q) (hc : 2 ^ 52 ≤ c ∨ k = 0) (hc' : c < 2 ^ 53) :
    roundRat q ≤ c * 2 ^ k ↔
      2 * q < (2 * c + 1) * 2 ^ k ∨ 2 * q = (2 * c + 1) * 2 ^ k ∧ c % 2 = 0 := by
  have hden : (0 : ℚ) < q.den := by exact_mod_cast q.den_pos
  have hnum : ((q.num.toNat : Int) : ℚ) = q.num := by
    rw [Int.toNat_of_nonneg (Rat.num_nonneg.mpr hq)]
  have htwice : 2 * q * q.den = (2 * q.num.toNat : Nat) := by
    rw [mul_assoc, Rat.mul_den_eq_num, ← hnum]
    push_cast
    rfl
  have hmid : (2 * c + 1) * 2 ^ k * (q.den : ℚ) = ((2 * c + 1) * (q.den * 2 ^ k) : Nat) := by
    push_cast
    ring
  have hlt : 2 * q < (2 * c + 1) * 2 ^ k ↔
      2 * q.num.toNat < (2 * c + 1) * (q.den * 2 ^ k) := by
    rw [← mul_lt_mul_iff_left₀ hden, htwice, hmid, Nat.cast_lt]
  have heq : 2 * q = (2 * c + 1) * 2 ^ k ↔
      2 * q.num.toNat = (2 * c + 1) * (q.den * 2 ^ k) := by
    rw [← mul_left_inj' hden.ne', htwice, hmid, Nat.cast_inj]
  rw [hlt, heq, roundRat, roundTicks_le_iff q.den_pos hc hc']

lemma representable_roundRat (q : ℚ) : Representable (roundRat q) := representable_roundTicks _ _

/-- What is rounded to a number: what lies between the middles to its neighbours. Below a power of
two the distance is the half of that above it. -/
lemma roundRat_eq (hq : 0 ≤ q) (hc : 2 ^ 52 ≤ c ∨ k = 0) (hc' : c < 2 ^ 53) (hpos : 0 < c)
    {δ : ℚ} (hδ : δ = if c = 2 ^ 52 ∧ 0 < k then 1 else 2)
    (hlow : (4 * c - δ) * 2 ^ k < 4 * q ∨ (4 * c - δ) * 2 ^ k = 4 * q ∧ c % 2 = 0)
    (hhigh : 4 * q < (4 * c + 2) * 2 ^ k ∨ 4 * q = (4 * c + 2) * 2 ^ k ∧ c % 2 = 0) :
    roundRat q = c * 2 ^ k := by
  refine le_antisymm ?_ ?_
  · rw [roundRat_le_iff hq hc hc']
    exact hhigh.imp (fun h => by linarith) fun h => ⟨by linarith [h.1], h.2⟩
  by_cases hnarrow : c = 2 ^ 52 ∧ 0 < k
  · obtain ⟨rfl, hk⟩ := hnarrow
    obtain ⟨j, rfl⟩ : ∃ j, k = j + 1 := ⟨k - 1, by omega⟩
    have hgt : (2 ^ 53 - 1) * 2 ^ j < roundRat q := by
      rw [← not_le, roundRat_le_iff hq (.inl (by norm_num)) (by norm_num)]
      rw [hδ, if_pos ⟨rfl, hk⟩, pow_succ (2 : ℚ) j] at hlow
      push_cast at hlow ⊢
      rintro (h | ⟨-, h⟩)
      · rcases hlow with hlow | ⟨hlow, -⟩ <;> linarith
      · norm_num at h
    have hle := (representable_roundRat q).succ_le (by norm_num) hgt
    rw [pow_succ]
    omega
  · have hc₁ : 2 ^ 52 ≤ c - 1 ∨ k = 0 := by omega
    have hgt : (c - 1) * 2 ^ k < roundRat q := by
      rw [← not_le, roundRat_le_iff hq hc₁ (by omega), Nat.cast_sub hpos]
      rw [hδ, if_neg hnarrow] at hlow
      push_cast
      rintro (h | ⟨h, h'⟩)
      · rcases hlow with hlow | ⟨hlow, -⟩ <;> linarith
      · rcases hlow with hlow | ⟨-, hlow⟩
        · linarith
        · omega
    rcases hc₁ with hc₁ | rfl
    · have hle := (representable_roundRat q).succ_le hc₁ hgt
      rwa [Nat.sub_add_cancel hpos] at hle
    · rw [pow_zero, Nat.mul_one] at hgt ⊢
      omega

/-! ### Intervals -/

namespace Interval

variable (i : Interval) {n : Nat}

/-- A rational lies in the interval. -/
def Contains (q : ℚ) : Prop :=
  let low : ℚ := i.low / i.denominator
  let high : ℚ := i.high / i.denominator
  if i.closed then low ≤ q ∧ q ≤ high else low < q ∧ q < high

variable {i}

lemma Contains.of_lt {q : ℚ} (hlow : (i.low : ℚ) / i.denominator < q)
    (hhigh : q < (i.high : ℚ) / i.denominator) : i.Contains q := by
  unfold Contains
  dsimp only
  split_ifs
  · exact ⟨hlow.le, hhigh.le⟩
  · exact ⟨hlow, hhigh⟩

lemma holds_iff (hd : 0 < i.denominator) : i.holds n = true ↔ i.Contains n := by
  have hd' : (0 : ℚ) < i.denominator := by exact_mod_cast hd
  unfold holds Contains
  dsimp only
  split_ifs
  · rw [div_le_iff₀ hd', le_div_iff₀ hd', Bool.and_eq_true, decide_eq_true_eq, decide_eq_true_eq]
    exact_mod_cast Iff.rfl
  · rw [div_lt_iff₀ hd', lt_div_iff₀ hd', Bool.and_eq_true, decide_eq_true_eq, decide_eq_true_eq]
    exact_mod_cast Iff.rfl

/-- A grid divides everything by a power of ten. -/
lemma onGrid_eq (hd : 0 < i.denominator) (e : Int) :
    0 < (i.onGrid e).denominator ∧ (i.onGrid e).closed = i.closed ∧
      ((i.onGrid e).value : ℚ) / (i.onGrid e).denominator = i.value / i.denominator / 10 ^ e ∧
      ((i.onGrid e).low : ℚ) / (i.onGrid e).denominator = i.low / i.denominator / 10 ^ e ∧
      ((i.onGrid e).high : ℚ) / (i.onGrid e).denominator = i.high / i.denominator / 10 ^ e := by
  unfold onGrid
  simp only [Nat.pow_eq]
  split_ifs with he
  · obtain ⟨n, rfl⟩ := Int.eq_ofNat_of_zero_le he
    refine ⟨Nat.mul_pos hd (by positivity), rfl, ?_⟩
    push_cast [Int.toNat_natCast, zpow_natCast]
    exact ⟨(div_div ..).symm, (div_div ..).symm, (div_div ..).symm⟩
  · obtain ⟨n, hn⟩ := Int.eq_ofNat_of_zero_le (show 0 ≤ -e by omega)
    obtain rfl : e = -n := by omega
    refine ⟨hd, rfl, ?_⟩
    push_cast [neg_neg, Int.toNat_natCast, zpow_neg, zpow_natCast, div_inv_eq_mul]
    exact ⟨(div_mul_eq_mul_div ..).symm, (div_mul_eq_mul_div ..).symm,
      (div_mul_eq_mul_div ..).symm⟩

/-- What lies in an interval on a grid. -/
lemma contains_onGrid (hd : 0 < i.denominator) {e : Int} {q : ℚ} :
    (i.onGrid e).Contains q ↔ i.Contains (q * 10 ^ e) := by
  obtain ⟨-, hclosed, -, hlow, hhigh⟩ := onGrid_eq hd e
  have hpow : (0 : ℚ) < 10 ^ e := by positivity
  unfold Contains
  dsimp only
  rw [hclosed, hlow, hhigh, div_le_iff₀ hpow, div_lt_iff₀ hpow, le_div_iff₀ hpow,
    lt_div_iff₀ hpow]

/-! ### The search -/

/-- What is found on a grid lies in the interval. -/
lemma holds_of_neighbour? (h : i.neighbour? = some n) : i.holds n = true ∧ 0 < n := by
  unfold neighbour? at h
  dsimp only at h
  split at h
  · rename_i hbelow habove
    rw [Bool.and_eq_true, decide_eq_true_eq] at hbelow
    obtain rfl := Option.some.inj h
    split_ifs
    · exact ⟨hbelow.2, hbelow.1⟩
    · exact ⟨habove, Nat.succ_pos _⟩
  · rename_i hbelow _
    rw [Bool.and_eq_true, decide_eq_true_eq] at hbelow
    obtain rfl := Option.some.inj h
    exact ⟨hbelow.2, hbelow.1⟩
  · rename_i _ habove
    obtain rfl := Option.some.inj h
    exact ⟨habove, Nat.succ_pos _⟩
  · cases h

/-- Something is found if the neighbour above the value lies in the interval. -/
lemma neighbour?_isSome (h : i.holds (i.value / i.denominator + 1) = true) :
    i.neighbour?.isSome := by
  unfold neighbour?
  dsimp only
  rw [h]
  split <;> simp_all

/-- The digits that are found lie in the interval, if one of the grids meets it. -/
lemma contains_search (hd : 0 < i.denominator) {fuel : Nat} {e : Int}
    (hmeet : ∃ j < fuel, (i.onGrid (e - j)).neighbour?.isSome) :
    0 < (i.search fuel e).digits ∧
      i.Contains ((i.search fuel e).digits * 10 ^ (i.search fuel e).exponent) := by
  induction fuel generalizing e with
  | zero => obtain ⟨j, hj, -⟩ := hmeet; omega
  | succ fuel ih =>
    unfold search
    split
    · rename_i n hn
      obtain ⟨hholds, hpos⟩ := holds_of_neighbour? hn
      rw [holds_iff (onGrid_eq hd e).1, contains_onGrid hd] at hholds
      exact ⟨hpos, hholds⟩
    · rename_i hnone
      obtain ⟨j, hj, hmeet⟩ := hmeet
      obtain _ | j := j
      · simp [hnone] at hmeet
      · refine ih ⟨j, by omega, ?_⟩
        rwa [show e - 1 - (j : Int) = e - ((j + 1 : Nat) : Int) by push_cast; ring]

end Interval

/-! ### The interval of a number -/

section OfBinary

variable {b : Binary}

/-- Four times the distance from a significand to the middle below it. -/
def margin (b : Binary) : Nat :=
  if b.significand = 2 ^ 52 ∧ -1074 < b.exponent then 1 else 2

lemma margin_le (b : Binary) : margin b ≤ 2 := by
  unfold margin
  split <;> omega

/-- A power of two as a quotient of natural numbers. -/
lemma scale_div_denominator (q : Int) :
    ((if 0 ≤ q then 2 ^ q.toNat else 1 : Nat) : ℚ) / (if 0 ≤ q then 1 else 2 ^ (-q).toNat : Nat) =
      2 ^ q := by
  split_ifs with hq
  · obtain ⟨n, rfl⟩ := Int.eq_ofNat_of_zero_le hq
    rw [Int.toNat_natCast, zpow_natCast, Nat.cast_one, div_one]
    push_cast
    rfl
  · obtain ⟨n, hn⟩ := Int.eq_ofNat_of_zero_le (show 0 ≤ -q by omega)
    obtain rfl : q = -n := by omega
    rw [neg_neg, Int.toNat_natCast, zpow_neg, zpow_natCast, Nat.cast_one, one_div]
    push_cast
    rfl

lemma ofBinary_eq (hpos : 0 < b.significand) :
    0 < (Interval.ofBinary b).denominator ∧
      (Interval.ofBinary b).closed = decide (b.significand % 2 = 0) ∧
      ((Interval.ofBinary b).value : ℚ) / (Interval.ofBinary b).denominator =
        4 * b.significand * 2 ^ (b.exponent - 2) ∧
      ((Interval.ofBinary b).low : ℚ) / (Interval.ofBinary b).denominator =
        (4 * b.significand - margin b) * 2 ^ (b.exponent - 2) ∧
      ((Interval.ofBinary b).high : ℚ) / (Interval.ofBinary b).denominator =
        (4 * b.significand + 2) * 2 ^ (b.exponent - 2) := by
  have hmargin : margin b ≤ 4 * b.significand := by have := margin_le b; omega
  unfold Interval.ofBinary
  simp only [Nat.pow_eq]
  rw [show (if b.significand = 2 ^ 52 ∧ -1074 < b.exponent then 1 else 2) = margin b from rfl]
  refine ⟨by split <;> positivity, trivial, ?_⟩
  simp only [Nat.cast_mul, mul_div_assoc, scale_div_denominator]
  exact ⟨by push_cast; rfl, by rw [Nat.cast_sub hmargin]; push_cast; rfl, by push_cast; rfl⟩

lemma two_zpow_mul (k n : Nat) : (2 : ℚ) ^ ((k : Int) - n - 2) * (4 * 2 ^ n) = 2 ^ k := by
  rw [zpow_sub₀ two_ne_zero, zpow_sub₀ two_ne_zero, zpow_natCast, zpow_natCast]
  field_simp
  norm_num

/-- What lies in the interval of a number is rounded to it. -/
lemma roundRat_of_contains (hpos : 0 < b.significand) (hlt : b.significand < 2 ^ 53)
    (hleast : -1074 ≤ b.exponent) (hnormal : 2 ^ 52 ≤ b.significand ∨ b.exponent = -1074)
    (hq : 0 ≤ q) (h : (Interval.ofBinary b).Contains q) :
    roundRat (q * 2 ^ 1074) = b.significand * 2 ^ (b.exponent + 1074).toNat := by
  obtain ⟨-, hclosed, -, hlow, hhigh⟩ := ofBinary_eq hpos
  obtain ⟨k, hk⟩ := Int.eq_ofNat_of_zero_le (show 0 ≤ b.exponent + 1074 by omega)
  have hscale : (2 : ℚ) ^ (b.exponent - 2) * (4 * 2 ^ 1074) = 2 ^ k := by
    rw [← two_zpow_mul k 1074, show b.exponent - 2 = (k : Int) - (1074 : Nat) - 2 by omega]
  have hpow : (0 : ℚ) < 4 * 2 ^ 1074 := by positivity
  unfold Interval.Contains at h
  dsimp only at h
  rw [hclosed, hlow, hhigh] at h
  have hbounds : ((4 * b.significand - margin b) * 2 ^ k < 4 * (q * 2 ^ 1074) ∨
        (4 * b.significand - margin b) * 2 ^ k = 4 * (q * 2 ^ 1074) ∧ b.significand % 2 = 0) ∧
      (4 * (q * 2 ^ 1074) < (4 * b.significand + 2) * 2 ^ k ∨
        4 * (q * 2 ^ 1074) = (4 * b.significand + 2) * 2 ^ k ∧ b.significand % 2 = 0) := by
    have hfour : 4 * (q * 2 ^ 1074) = q * (4 * 2 ^ 1074) := mul_left_comm ..
    rw [← hscale, ← mul_assoc _ _ (4 * 2 ^ 1074 : ℚ), ← mul_assoc _ _ (4 * 2 ^ 1074 : ℚ), hfour,
      mul_lt_mul_iff_left₀ hpow, mul_lt_mul_iff_left₀ hpow, mul_left_inj' hpow.ne',
      mul_left_inj' hpow.ne']
    split_ifs at h with heven
    · rw [decide_eq_true_eq] at heven
      exact ⟨h.1.lt_or_eq.imp id (⟨·, heven⟩), h.2.lt_or_eq.imp id (⟨·, heven⟩)⟩
    · exact ⟨.inl h.1, .inl h.2⟩
  rw [hk, Int.toNat_natCast]
  refine roundRat_eq (by positivity) (by omega) hlt hpos ?_ hbounds.1 hbounds.2
  rw [margin]
  simp only [show -1074 < b.exponent ↔ 0 < k by omega]
  split_ifs <;> norm_num

/-! ### Enough grids -/

/-- A power of ten against the power of two that has as many digits. Multiples of the exponents
compare `10 ^ 31` with `2 ^ 103` above one and `2 ^ 93` with `10 ^ 28` below it. -/
lemma ten_zpow_le {n : Int} (hlow : -2000 ≤ n) (hhigh : n ≤ 2000) :
    (10 : ℚ) ^ (n * 30103 / 100000) ≤ 10 * 2 ^ n := by
  rcases le_total 0 n with hn | hn
  · obtain ⟨m, rfl⟩ := Int.eq_ofNat_of_zero_le hn
    obtain ⟨K, hK⟩ := Int.eq_ofNat_of_zero_le (show 0 ≤ (m : Int) * 30103 / 100000 by omega)
    rw [hK, zpow_natCast, zpow_natCast,
      ← pow_le_pow_iff_left₀ (n := 31) (by positivity) (by positivity) (by norm_num)]
    calc ((10 : ℚ) ^ K) ^ 31 = (10 ^ 31) ^ K := pow_right_comm ..
      _ ≤ (2 ^ 103) ^ K := by gcongr; norm_num
      _ = 2 ^ (103 * K) := (pow_mul ..).symm
      _ ≤ 2 ^ (102 + m * 31) := pow_le_pow_right₀ (by norm_num) (by omega)
      _ = 2 ^ 102 * (2 ^ m) ^ 31 := by rw [pow_add, pow_mul]
      _ ≤ 10 ^ 31 * (2 ^ m) ^ 31 := by gcongr; norm_num
      _ = (10 * 2 ^ m) ^ 31 := (mul_pow ..).symm
  · obtain ⟨m, hm⟩ := Int.eq_ofNat_of_zero_le (show 0 ≤ -n by omega)
    obtain rfl : n = -m := by omega
    obtain ⟨J, hJ⟩ := Int.eq_ofNat_of_zero_le (show 0 ≤ -(-(m : Int) * 30103 / 100000) by omega)
    have hpow : (2 : ℚ) ^ m ≤ 10 ^ (J + 1) := by
      rw [← pow_le_pow_iff_left₀ (n := 93) (by positivity) (by positivity) (by norm_num)]
      calc ((2 : ℚ) ^ m) ^ 93 = (2 ^ 93) ^ m := pow_right_comm ..
        _ ≤ (10 ^ 28) ^ m := by gcongr; norm_num
        _ = 10 ^ (28 * m) := (pow_mul ..).symm
        _ ≤ 10 ^ ((J + 1) * 93) := pow_le_pow_right₀ (by norm_num) (by omega)
        _ = (10 ^ (J + 1)) ^ 93 := pow_mul ..
    rw [show -(m : Int) * 30103 / 100000 = -J by omega, zpow_neg, zpow_neg, zpow_natCast,
      zpow_natCast, ← div_eq_mul_inv, inv_le_iff_one_le_mul₀ (by positivity), div_mul_eq_mul_div,
      one_le_div₀ (by positivity), ← pow_succ']
    exact hpow

/-- The last grid that is tried is finer than half the distance to the next number. -/
lemma ten_zpow_coarsest_lt (hpos : 0 < b.significand) (hlt : b.significand < 2 ^ 53)
    (hleast : -1074 ≤ b.exponent) (hmost : b.exponent ≤ 972) :
    (10 : ℚ) ^ (coarsest b - 19) < 2 ^ (b.exponent - 1) := by
  have hlog : Nat.log2 b.significand < 53 := (Nat.log2_lt hpos.ne').mpr hlt
  set n := (Nat.log2 b.significand : Int) + 1 + b.exponent with hn
  have htwo : (2 : ℚ) ^ n ≤ 2 ^ 54 * 2 ^ (b.exponent - 1) := by
    rw [← zpow_natCast (2 : ℚ) 54, ← zpow_add₀ two_ne_zero]
    exact zpow_le_zpow_right₀ (by norm_num) (by omega)
  have hten := ten_zpow_le (n := n) (by omega) (by omega)
  rw [show coarsest b - 19 = n * 30103 / 100000 - (18 : Nat) by
    rw [coarsest, ← hn]; push_cast; ring, zpow_sub₀ (by norm_num), zpow_natCast,
    div_lt_iff₀ (by positivity)]
  have hpos : (0 : ℚ) < 2 ^ (b.exponent - 1) := by positivity
  calc (10 : ℚ) ^ (n * 30103 / 100000) ≤ 10 * 2 ^ n := hten
    _ ≤ 10 * (2 ^ 54 * 2 ^ (b.exponent - 1)) := by gcongr
    _ < 2 ^ (b.exponent - 1) * 10 ^ 18 := by linarith

/-- The last grid meets the interval. -/
lemma neighbour?_coarsest_isSome (hpos : 0 < b.significand) (hlt : b.significand < 2 ^ 53)
    (hleast : -1074 ≤ b.exponent) (hmost : b.exponent ≤ 972) :
    ((Interval.ofBinary b).onGrid (coarsest b - 19)).neighbour?.isSome := by
  obtain ⟨hd, -, hvalue, hlow, hhigh⟩ := ofBinary_eq hpos
  obtain ⟨hd', -, hvalue', hlow', hhigh'⟩ := Interval.onGrid_eq hd (coarsest b - 19)
  have hgrid := ten_zpow_coarsest_lt hpos hlt hleast hmost
  rw [show b.exponent - 1 = b.exponent - 2 + 1 by ring, zpow_add_one₀ two_ne_zero] at hgrid
  rw [hvalue] at hvalue'
  rw [hlow] at hlow'
  rw [hhigh] at hhigh'
  generalize (Interval.ofBinary b).onGrid (coarsest b - 19) = i at *
  have hten : (0 : ℚ) < 10 ^ (coarsest b - 19) := by positivity
  generalize (10 : ℚ) ^ (coarsest b - 19) = u at *
  have htwo : (0 : ℚ) < 2 ^ (b.exponent - 2) := by positivity
  generalize (2 : ℚ) ^ (b.exponent - 2) = v at *
  have hmargin : (0 : ℚ) < margin b := by unfold margin; split <;> norm_num
  refine Interval.neighbour?_isSome ((Interval.holds_iff hd').mpr ?_)
  have hd'' : (0 : ℚ) < i.denominator := by exact_mod_cast hd'
  have hbelow : ((i.value / i.denominator : Nat) : ℚ) ≤ i.value / i.denominator :=
    Nat.cast_div_le
  have habove : (i.value : ℚ) / i.denominator < (i.value / i.denominator : Nat) + 1 := by
    rw [div_lt_iff₀ hd'', mul_comm]
    exact_mod_cast Nat.lt_mul_div_succ i.value hd'
  push_cast
  refine Interval.Contains.of_lt ?_ ?_
  · refine lt_trans ?_ habove
    rw [hlow', hvalue']
    gcongr
    linarith
  · refine lt_of_le_of_lt (add_le_add_left hbelow 1) ?_
    rw [hhigh', hvalue', div_add_one hten.ne']
    gcongr
    linarith

/-- The shortest digits of a number lie in its interval. -/
lemma contains_shortest (hpos : 0 < b.significand) (hlt : b.significand < 2 ^ 53)
    (hleast : -1074 ≤ b.exponent) (hmost : b.exponent ≤ 972) :
    0 < (shortest b).digits ∧
      (Interval.ofBinary b).Contains ((shortest b).digits * 10 ^ (shortest b).exponent) :=
  Interval.contains_search (ofBinary_eq hpos).1
    ⟨19, by norm_num, neighbour?_coarsest_isSome hpos hlt hleast hmost⟩

end OfBinary

/-! ### Reading back -/

/-- The number that digits denote. -/
def Digits.value (d : Digits) : ℚ := d.digits * 10 ^ d.exponent

lemma ofFloat_normal (x : Float) : (Binary.ofFloat x).significand < 2 ^ 53 ∧
    (2 ^ 52 ≤ (Binary.ofFloat x).significand ∨ (Binary.ofFloat x).exponent = -1074) := by
  rw [significand_ofFloat, exponent_ofFloat]
  split_ifs <;> omega

/-- The shortest digits of a number are rounded to it. -/
theorem roundRat_shortest {x : Float} (hx : 0 < (Binary.ofFloat x).significand) :
    roundRat ((shortest (Binary.ofFloat x)).value * 2 ^ 1074) = (ticks x).natAbs := by
  obtain ⟨hlt, hnormal⟩ := ofFloat_normal x
  obtain ⟨hleast, hmost⟩ := exponent_ofFloat_bounds x
  have hcontains := (contains_shortest hx hlt hleast hmost).2
  have hvalue : 0 ≤ (shortest (Binary.ofFloat x)).value := by unfold Digits.value; positivity
  rw [roundRat_of_contains hx hlt hleast hnormal hvalue hcontains, ticks_ofFloat]
  split <;> simp only [Int.natAbs_neg, Int.natAbs_natCast]

end TestData.Decimal
