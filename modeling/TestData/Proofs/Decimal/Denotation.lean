import TestData.Proofs.Decimal.Shortest

/-!
Texts of numbers tell numbers apart.

The digits, the point and the exponent of a text denote a rational. The text of a finite number in
markup denotes the value of its shortest digits however it is laid out, so that the number is what
the denoted rational is rounded to. Numbers of the same text are the same, then, zeros of different
signs apart.
-/

namespace TestData.Decimal

/-! ### Digits -/

section Digits

variable {ds es tail : List Char}

lemma ofDigits_append (ds es : List Char) :
    ofDigits (ds ++ es) = 10 ^ es.length * ofDigits ds + ofDigits es := by
  change Nat.ofDigitChars 10 (ds ++ es) 0 =
    10 ^ es.length * Nat.ofDigitChars 10 ds 0 + Nat.ofDigitChars 10 es 0
  rw [Nat.ofDigitChars_append, Nat.ofDigitChars_eq_ofDigitChars_zero]

lemma ofDigits_zeros (n : Nat) : ofDigits (List.replicate n '0') = 0 :=
  Nat.ofDigitChars_replicate_zero

/-- The rational that a text without a sign denotes. -/
def denoted (cs : List Char) : ℚ :=
  let fraction := (fractionOf (cs.dropWhile isDigit)).1
  let exponent := (readExponent? (fractionOf (cs.dropWhile isDigit)).2).getD 0
  ofDigits (cs.takeWhile isDigit ++ fraction) * 10 ^ (exponent - fraction.length)

/-- The exponent that stands at the end of a text. -/
def exponentOf (tail : List Char) : Int := (readExponent? tail).getD 0

lemma exponentOf_toString (e : Int) : exponentOf ('e' :: (toString e).toList) = e := by
  have hread (minus : Bool) {n : Nat} {cs : List Char}
      (hsign : signOf cs = (minus, (toString n).toList)) :
      exponentOf ('e' :: cs) = if minus then -Int.ofNat n else Int.ofNat n := by
    have hdigits : (toString n).toList.all isDigit :=
      List.all_eq_true.mpr fun c => isDigit_of_mem_toString
    rw [exponentOf, readExponent?_cons, hsign]
    simp only [hdigits, ofDigits_toString, decide_true, Bool.true_or, Bool.and_true, if_true,
      decide_eq_true (toString_ne_nil n), Option.getD_some]
  rcases e with n | n
  · obtain ⟨c, cs, hcs⟩ := List.exists_cons_of_ne_nil (toString_ne_nil n)
    have hc : isDigit c := isDigit_of_mem_toString (hcs ▸ List.mem_cons_self)
    exact hread false (hcs ▸ signOf_of_isDigit hc)
  · rw [toString_negSucc]
    exact hread true (n := n + 1) rfl

lemma denoted_whole (hds : ∀ c ∈ ds, isDigit c) (htail : IsExponent tail) :
    denoted (ds ++ tail) = ofDigits ds * 10 ^ exponentOf tail := by
  obtain ⟨htake, hdrop⟩ := span_digits hds htail.head?
  rw [denoted, htake, hdrop, htail.fractionOf, List.append_nil]
  simp [exponentOf]

lemma denoted_point (hds : ∀ c ∈ ds, isDigit c) (hes : ∀ c ∈ es, isDigit c)
    (htail : IsExponent tail) :
    denoted (ds ++ '.' :: (es ++ tail)) =
      ofDigits (ds ++ es) * 10 ^ (exponentOf tail - es.length) := by
  have hpoint : ∀ c ∈ ('.' :: (es ++ tail)).head?, isDigit c = false := fun c hc => by
    obtain rfl : '.' = c := Option.some.inj hc
    rfl
  obtain ⟨htake, hdrop⟩ := span_digits hds hpoint
  obtain ⟨htake', hdrop'⟩ := span_digits hes htail.head?
  have hfraction : fractionOf ('.' :: (es ++ tail)) = (es, tail) := Prod.ext htake' hdrop'
  rw [denoted, htake, hdrop, hfraction]
  rfl

/-! ### Layouts -/

lemma denoted_positional (hds : ∀ c ∈ ds, isDigit c) (last : Int) :
    denoted (positional ".0" ds last) = ofDigits ds * 10 ^ last := by
  have hzeros := isDigit_of_mem_zeros
  unfold positional
  split
  case isTrue hlast =>
    obtain ⟨n, rfl⟩ := Int.eq_ofNat_of_zero_le hlast
    have hform := denoted_point (List.forall_mem_append.mpr ⟨hds, hzeros n⟩) (hzeros 1) .nil
    rw [List.append_nil] at hform
    rw [Int.toNat_natCast, show ".0".toList = '.' :: List.replicate 1 '0' from rfl, hform,
      ofDigits_append, ofDigits_append, ofDigits_zeros, ofDigits_zeros]
    simp only [List.length_replicate, add_zero, Nat.cast_mul, Nat.cast_pow, zpow_natCast]
    rw [show exponentOf [] - ((1 : Nat) : Int) = -1 from rfl]
    push_cast
    ring
  case isFalse hlast =>
    obtain ⟨n, hn⟩ := Int.eq_ofNat_of_zero_le (show 0 ≤ -last by omega)
    obtain rfl : last = -n := by omega
    dsimp only
    rw [neg_neg, Int.toNat_natCast]
    split
    case isTrue hlt =>
      have htake : ∀ c ∈ ds.take (ds.length - n), isDigit c := fun c hc =>
        hds c (List.mem_of_mem_take hc)
      have hdrop : ∀ c ∈ ds.drop (ds.length - n), isDigit c := fun c hc =>
        hds c (List.mem_of_mem_drop hc)
      have hform := denoted_point htake hdrop .nil
      rw [List.append_nil] at hform
      rw [hform, List.take_append_drop, List.length_drop, Nat.sub_sub_self hlt.le]
      simp [exponentOf, readExponent?]
    case isFalse hle =>
      have hform := denoted_point (hzeros 1)
        (List.forall_mem_append.mpr ⟨hzeros (n - ds.length), hds⟩) .nil
      rw [List.append_nil] at hform
      refine hform.trans ?_
      rw [ofDigits_append, ofDigits_append, ofDigits_zeros, ofDigits_zeros, List.length_append,
        List.length_replicate, Nat.sub_add_cancel (by omega)]
      simp [exponentOf, readExponent?]

lemma denoted_scientific (hne : ds ≠ []) (hds : ∀ c ∈ ds, isDigit c) (last : Int) :
    denoted (scientific "" ds (last + ds.length - 1)) = ofDigits ds * 10 ^ last := by
  have htext (first : Int) :
      ((if first < 0 then "" else "") ++ toString first).toList = (toString first).toList := by
    simp
  have hexponent (e : Int) : IsExponent ('e' :: (toString e).toList) := .inr ⟨e, rfl⟩
  unfold scientific
  rw [htext]
  rcases ds with _ | ⟨d, _ | ⟨d', rest⟩⟩
  · exact absurd rfl hne
  · refine (denoted_whole hds (hexponent _)).trans ?_
    rw [exponentOf_toString]
    simp
  · obtain ⟨hd, hrest⟩ := List.forall_mem_cons.mp hds
    refine (denoted_point (List.forall_mem_singleton.mpr hd) hrest (hexponent _)).trans ?_
    rw [exponentOf_toString, List.singleton_append, List.length_cons,
      show last + ((d' :: rest).length + 1 : Nat) - 1 - ((d' :: rest).length : Nat) = last by
        push_cast; ring]

/-- However digits are laid out, their text denotes their value. -/
theorem denoted_markup (d : Digits) : denoted (Layout.markup.magnitude d) = d.value := by
  have hds : ∀ c ∈ (toString d.digits).toList, isDigit c := fun c => isDigit_of_mem_toString
  rw [Digits.value, ← ofDigits_toString d.digits]
  refine iteInduction (motive := fun cs => denoted cs = _) (fun _ => ?_) fun _ => ?_
  · exact denoted_positional hds _
  · exact denoted_scientific (toString_ne_nil _) hds _

end Digits

/-! ### Numbers -/

/-- The ticks of the number that a text denotes. -/
def denotedTicks (s : String) : Int :=
  let n := roundRat (denoted (signOf s.toList).2 * 2 ^ 1074)
  if (signOf s.toList).1 then -n else n

lemma denoted_zero : denoted ['0', '.', '0'] = 0 := by
  refine (denoted_point (isDigit_of_mem_zeros 1) (isDigit_of_mem_zeros 1) .nil).trans ?_
  rw [show ofDigits (List.replicate 1 '0' ++ List.replicate 1 '0') = 0 from rfl, Nat.cast_zero,
    zero_mul]

lemma roundRat_zero : roundRat 0 = 0 := by
  have h := (roundRat_le_iff (q := 0) (c := 0) (k := 0) le_rfl (.inr rfl) (by norm_num)).mpr
    (.inl (by norm_num))
  omega

/-- No text of a real number has digits only. -/
lemma exists_not_isDigit_markup (d : Digits) :
    ∃ c ∈ Layout.markup.magnitude d, isDigit c = false := by
  refine iteInduction (motive := fun cs => ∃ c ∈ cs, isDigit c = false) (fun _ => ?_) fun _ => ?_
  · refine ⟨'.', ?_, rfl⟩
    unfold positional
    dsimp only
    split_ifs
    · exact List.mem_append_right _ List.mem_cons_self
    · exact List.mem_append_right _ List.mem_cons_self
    · exact List.mem_cons_of_mem _ List.mem_cons_self
  · exact ⟨'e', List.mem_append_right _ List.mem_cons_self, rfl⟩

/-- The parts of the text of a finite number. -/
lemma signOf_markup {x : Float} (hx : x.isFinite) : ∃ body, IsMagnitude body ∧
    (∃ c ∈ body, isDigit c = false) ∧
    signOf (Layout.markup.text x).toList = ((Binary.ofFloat x).negative, body) ∧
    roundRat (denoted body * 2 ^ 1074) = (ticks x).natAbs := by
  have hsign (minus : Bool) {body : List Char} (hbody : IsMagnitude body) :
      signOf ((if minus then "-" else "") ++ String.ofList body).toList = (minus, body) := by
    obtain ⟨c, rest, rfl, hc⟩ := hbody.head?
    cases minus with
    | true =>
      have htext : ("-" ++ String.ofList (c :: rest)).toList = '-' :: c :: rest := by simp
      rw [if_pos rfl, htext]
      rfl
    | false =>
      rw [if_neg Bool.false_ne_true, String.empty_append, String.toList_ofList]
      exact signOf_of_isDigit hc
  obtain ⟨hnan, hinf⟩ := isNaN_of_isFinite hx
  unfold Layout.text
  rw [if_neg (ne_true_of_eq_false hnan), if_neg (ne_true_of_eq_false hinf)]
  dsimp only
  by_cases hzero : (Binary.ofFloat x).significand = 0
  · have hbody : IsMagnitude ['0', '.', '0'] :=
      .point (List.cons_ne_nil _ _) (isDigit_of_mem_zeros 1) (isDigit_of_mem_zeros 1) .nil
    rw [if_pos hzero, show '0' :: Layout.markup.whole.toList = ['0', '.', '0'] from rfl]
    refine ⟨_, hbody, ⟨'.', by decide, rfl⟩, hsign _ hbody, ?_⟩
    rw [denoted_zero, zero_mul, roundRat_zero, ticks_ofFloat, hzero]
    simp
  · rw [if_neg hzero]
    refine ⟨_, isMagnitude_markup _, exists_not_isDigit_markup _, hsign _ (isMagnitude_markup _),
      ?_⟩
    rw [denoted_markup, roundRat_shortest (Nat.pos_of_ne_zero hzero)]

/-- **The text of a finite number denotes the number.** -/
theorem denotedTicks_markup {x : Float} (hx : x.isFinite) :
    denotedTicks (Layout.markup.text x) = ticks x := by
  obtain ⟨body, -, -, hsign, hround⟩ := signOf_markup hx
  rw [denotedTicks, hsign]
  dsimp only
  rw [hround, ticks_ofFloat]
  split <;> simp

/-! ### Different numbers -/

lemma toString_int_inj {a b : Int} (h : toString a = toString b) : a = b := by
  rw [← exponentOf_toString a, h, exponentOf_toString]

lemma signOf_toString (z : Int) :
    signOf (toString z).toList = (decide (z < 0), (toString z.natAbs).toList) := by
  rcases z with n | n
  · rw [decide_eq_false (show ¬Int.ofNat n < 0 from (Int.natCast_nonneg n).not_gt)]
    exact (readMagnitude?_toString n).2
  · rw [decide_eq_true (Int.negSucc_lt_zero n), toString_negSucc]
    rfl

/-- A number is not a number, an infinity or a finite one. -/
lemma isFinite_of_isNaN {x : Float} (hnan : x.isNaN = false) (hinf : x.isInf = false) :
    x.isFinite := by
  change x.toModel.unpack.isNaN = false at hnan
  change x.toModel.unpack.isInf = false at hinf
  change x.toModel.unpack.isFinite
  generalize x.toModel.unpack = f at hnan hinf ⊢
  cases f with
  | notANumber => cases hnan
  | infinity => cases hinf
  | zero | finite => rfl

section Markup

variable {x y : Float}

lemma markup_of_isNaN (hx : x.isNaN) : Layout.markup.text x = ".nan" := if_pos hx

lemma markup_of_isInf (hnan : x.isNaN = false) (hx : x.isInf) :
    Layout.markup.text x = if x < 0 then "-.inf" else ".inf" := by
  unfold Layout.text
  rw [if_neg (ne_true_of_eq_false hnan), if_pos hx]
  split <;> rfl

lemma ticks_of_isInf (hnan : x.isNaN = false) (hx : x.isInf) :
    ticks x = if x < 0 then -(infinityTicks : Int) else infinityTicks := by
  have hpos := infinityTicks_pos
  have hlt := lt_iff_ticks_lt hnan isNaN_zero
  rw [ticks_zero] at hlt
  simp only [hlt]
  obtain ⟨s, hu, ht⟩ | ⟨s, hu, -⟩ | ⟨s, m, e, h, hu, -⟩ := unpack_cases hnan
  · rw [ht]
    cases s with
    | positive => exact (if_neg hpos.le.not_gt).symm
    | negative => exact (if_pos (Int.neg_neg_of_pos hpos)).symm
  all_goals
    change x.toModel.unpack.isInf at hx
    rw [hu] at hx
    cases hx

/-- What is not finite has a text that starts with a point. -/
lemma head?_markup (hx : x.isFinite = false) :
    (signOf (Layout.markup.text x).toList).2.head? = some '.' := by
  by_cases hnan : x.isNaN
  · rw [markup_of_isNaN hnan]
    rfl
  · rw [Bool.not_eq_true] at hnan
    by_cases hinf : x.isInf
    · rw [markup_of_isInf hnan hinf]
      split <;> rfl
    · rw [Bool.not_eq_true] at hinf
      rw [isFinite_of_isNaN hnan hinf] at hx
      cases hx

lemma nonfinite_inj (hx : x.isFinite = false) (hy : y.isFinite = false)
    (h : Layout.markup.text x = Layout.markup.text y) : x == y ∨ x.isNaN ∧ y.isNaN := by
  have hinf {z : Float} (hz : z.isFinite = false) (hnan : z.isNaN = false) : z.isInf := by
    by_contra hinf
    rw [isFinite_of_isNaN hnan (Bool.eq_false_iff.mpr hinf)] at hz
    cases hz
  cases hnanx : x.isNaN <;> cases hnany : y.isNaN
  · have hinfx := hinf hx hnanx
    have hinfy := hinf hy hnany
    rw [markup_of_isInf hnanx hinfx, markup_of_isInf hnany hinfy] at h
    left
    rw [beq_iff_ticks_eq hnanx hnany, ticks_of_isInf hnanx hinfx, ticks_of_isInf hnany hinfy]
    split_ifs at h ⊢ <;> first | rfl | exact absurd h (by decide)
  · rw [markup_of_isInf hnanx (hinf hx hnanx), markup_of_isNaN hnany] at h
    split_ifs at h <;> exact absurd h (by decide)
  · rw [markup_of_isInf hnany (hinf hy hnany), markup_of_isNaN hnanx] at h
    split_ifs at h <;> exact absurd h (by decide)
  · exact .inr ⟨rfl, rfl⟩

/-- **Numbers of the same text are the same number.** -/
theorem markup_inj (h : Layout.markup.text x = Layout.markup.text y) :
    x == y ∨ x.isNaN ∧ y.isNaN := by
  have hfinite {x y : Float} (hx : x.isFinite = false) (hy : y.isFinite) :
      Layout.markup.text x ≠ Layout.markup.text y := by
    intro h
    obtain ⟨body, hbody, -, hsign, -⟩ := signOf_markup hy
    obtain ⟨c, rest, rfl, hc⟩ := hbody.head?
    have hhead := head?_markup hx
    rw [h, hsign] at hhead
    obtain rfl : c = '.' := Option.some.inj hhead
    cases hc
  cases hx : x.isFinite <;> cases hy : y.isFinite
  · exact nonfinite_inj hx hy h
  · exact absurd h (hfinite hx hy)
  · exact absurd h.symm (hfinite hy hx)
  · refine .inl ((beq_iff_ticks_eq (isNaN_of_isFinite hx).1 (isNaN_of_isFinite hy).1).mpr ?_)
    rw [← denotedTicks_markup hx, h, denotedTicks_markup hy]

/-- No real number has the text of an integer. -/
theorem markup_ne_toString (x : Float) (z : Int) : Layout.markup.text x ≠ toString z := by
  intro h
  have hdigits : ∀ c ∈ (signOf (Layout.markup.text x).toList).2, isDigit c := by
    rw [h, signOf_toString]
    exact fun c => isDigit_of_mem_toString
  cases hx : x.isFinite with
  | true =>
    obtain ⟨body, -, ⟨c, hc, hnot⟩, hsign, -⟩ := signOf_markup hx
    rw [hsign] at hdigits
    exact Bool.false_ne_true (hnot.symm.trans (hdigits c hc))
  | false =>
    have hpoint : isDigit '.' := hdigits '.' (List.mem_of_mem_head? (head?_markup hx))
    cases hpoint

end Markup

end TestData.Decimal
