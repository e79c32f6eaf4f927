import TestData.Decimal.Layout
import TestData.Decimal.Reader
import TestData.Proofs.Text.Trim

/-!
The characters of the texts that are read as numbers, and texts of numbers that are read again.

What is read as a number has letters, digits, signs and points only. The text of a finite number
in markup is a sign, digits with a point among them or none and perhaps an exponent, which is one
of the forms that are read.
-/

namespace TestData.Decimal

/-! ### The parts that are read -/

/-- Whether a minus stands in front, and what follows the sign. -/
def signOf (cs : List Char) : Bool × List Char :=
  match cs with
  | '-' :: r => (true, r)
  | '+' :: r => (false, r)
  | r => (false, r)

/-- The digits behind a point, and what follows them. -/
def fractionOf (cs : List Char) : List Char × List Char :=
  match cs with
  | '.' :: r => (r.takeWhile isDigit, r.dropWhile isDigit)
  | r => ([], r)

lemma readExponent?_cons (c : Char) (rest : List Char) :
    readExponent? (c :: rest) =
      if c = 'e' || c = 'E' then
        if (signOf rest).2 ≠ [] && (signOf rest).2.all isDigit then
          some (if (signOf rest).1 then -Int.ofNat (ofDigits (signOf rest).2)
            else Int.ofNat (ofDigits (signOf rest).2))
        else none
      else none :=
  rfl

lemma readDigits?_eq (cs : List Char) :
    readDigits? cs =
      if cs.takeWhile isDigit = [] && (fractionOf (cs.dropWhile isDigit)).1 = [] then none
      else
        (readExponent? (fractionOf (cs.dropWhile isDigit)).2).map fun e =>
          nearest (ofDigits (cs.takeWhile isDigit ++ (fractionOf (cs.dropWhile isDigit)).1))
            (e - Int.ofNat (fractionOf (cs.dropWhile isDigit)).1.length) :=
  rfl

lemma readFloat_eq (s : String) :
    readFloat s =
      if s.toList = [] then .error .empty
      else
        match readMagnitude? (signOf s.toList).2 with
        | some x => .ok (if (signOf s.toList).1 then -x else x)
        | none => .error .malformed :=
  rfl

/-! ### Characters -/

/-- The characters of numbers. -/
def isNumeral (c : Char) : Bool := c.isAlphanum || c = '+' || c = '-' || c = '.'

section Characters

variable {c d : Char} {cs : List Char}

lemma ne_of_isNumeral (h : isNumeral c) (hd : isNumeral d = false) : c ≠ d := by
  rintro rfl
  simp [h] at hd

lemma isAlphanum_iff :
    c.isAlphanum ↔ ('A' ≤ c ∧ c ≤ 'Z' ∨ 'a' ≤ c ∧ c ≤ 'z') ∨ '0' ≤ c ∧ c ≤ '9' := by
  change (decide ('A' ≤ c ∧ c ≤ 'Z') || (decide ('a' ≤ c) && decide (c ≤ 'z')) ||
    (decide ('0' ≤ c) && decide (c ≤ '9'))) = true ↔ _
  simp only [Bool.or_eq_true, Bool.and_eq_true, decide_eq_true_eq]

lemma isNumeral_of_isAlphanum (h : c.isAlphanum) : isNumeral c := by simp [isNumeral, h]

lemma toNat_of_isNumeral (h : isNumeral c) : 43 ≤ c.toNat ∧ c.toNat ≤ 122 := by
  simp only [isNumeral, Bool.or_eq_true, isAlphanum_iff, decide_eq_true_eq, Char.le_def,
    UInt32.le_iff_toNat_le] at h
  rcases h with ((((⟨h, h'⟩ | ⟨h, h'⟩) | ⟨h, h'⟩) | rfl) | rfl) | rfl
  iterate 3 exact ⟨le_trans (by decide) h, le_trans h' (by decide)⟩
  all_goals decide

lemma isNumeral_of_lower (h : 'a' ≤ c ∧ c ≤ 'z') : isNumeral c :=
  isNumeral_of_isAlphanum (isAlphanum_iff.mpr (.inl (.inr h)))

lemma isNumeral_of_upper (h : 'A' ≤ c ∧ c ≤ 'Z') : isNumeral c :=
  isNumeral_of_isAlphanum (isAlphanum_iff.mpr (.inl (.inl h)))

lemma isNumeral_of_isDigit (h : isDigit c) : isNumeral c :=
  isNumeral_of_isAlphanum (isAlphanum_iff.mpr (.inr (by simpa [isDigit] using h)))

lemma isNumeral_of_lowerAscii (h : isNumeral (Text.lowerAscii c)) : isNumeral c := by
  rw [Text.lowerAscii] at h
  split_ifs at h with hupper
  · exact isNumeral_of_upper (by simpa using hupper)
  · exact h

lemma isNumeral_of_signOf (h : ∀ c ∈ (signOf cs).2, isNumeral c) : ∀ c ∈ cs, isNumeral c := by
  unfold signOf at h
  split at h
  · exact List.forall_mem_cons.mpr ⟨rfl, h⟩
  · exact List.forall_mem_cons.mpr ⟨rfl, h⟩
  · exact h

lemma isNumeral_of_readExponent? {e : Int} (h : readExponent? cs = some e) :
    ∀ c ∈ cs, isNumeral c := by
  cases cs with
  | nil => exact List.forall_mem_nil _
  | cons c rest =>
    rw [readExponent?_cons] at h
    obtain ⟨hc, h⟩ := Option.ite_none_right_eq_some.mp h
    obtain ⟨hall, -⟩ := Option.ite_none_right_eq_some.mp h
    have hmark : isNumeral c := by
      rcases (by simpa using hc : c = 'e' ∨ c = 'E') with rfl | rfl <;> rfl
    have hdigits := List.all_eq_true.mp (Bool.and_eq_true_iff.mp hall).2
    exact List.forall_mem_cons.mpr
      ⟨hmark, isNumeral_of_signOf fun c hc => isNumeral_of_isDigit (hdigits c hc)⟩

lemma isNumeral_of_readDigits? {x : Float} (h : readDigits? cs = some x) :
    ∀ c ∈ cs, isNumeral c := by
  have htake {l : List Char} : ∀ c ∈ l.takeWhile isDigit, isNumeral c := fun c hc =>
    isNumeral_of_isDigit (List.mem_takeWhile_imp hc)
  rw [readDigits?_eq] at h
  obtain ⟨-, h⟩ := Option.ite_none_left_eq_some.mp h
  obtain ⟨e, he, -⟩ := Option.map_eq_some_iff.mp h
  have htail := isNumeral_of_readExponent? he
  have hrest : ∀ c ∈ cs.dropWhile isDigit, isNumeral c := by
    unfold fractionOf at htail
    split at htail
    case h_1 r hpoint =>
      rw [hpoint, ← List.takeWhile_append_dropWhile (p := isDigit) (l := r)]
      exact List.forall_mem_cons.mpr ⟨rfl, List.forall_mem_append.mpr ⟨htake, htail⟩⟩
    case h_2 => exact htail
  rw [← List.takeWhile_append_dropWhile (p := isDigit) (l := cs)]
  exact List.forall_mem_append.mpr ⟨htake, hrest⟩

lemma isNumeral_of_readMagnitude? {x : Float} (h : readMagnitude? cs = some x) :
    ∀ c ∈ cs, isNumeral c := by
  have hword {w : String} (hw : w.toList.all isNumeral)
      (hcs : String.ofList (cs.map Text.lowerAscii) = w) : ∀ c ∈ cs, isNumeral c := by
    intro c hc
    refine isNumeral_of_lowerAscii (List.all_eq_true.mp hw _ ?_)
    rw [← hcs, String.toList_ofList]
    exact List.mem_map_of_mem hc
  simp only [readMagnitude?, Bool.or_eq_true, decide_eq_true_eq] at h
  split_ifs at h with hinf hnan
  · rcases hinf with hinf | hinf
    · exact hword (by decide) hinf
    · exact hword (by decide) hinf
  · exact hword (by decide) hnan
  · exact isNumeral_of_readDigits? h

/-- What is read as a number has no other characters than numbers have. -/
lemma isNumeral_of_readFloat {s : String} {x : Float} (h : readFloat s = .ok x) :
    ∀ c ∈ s.toList, isNumeral c := by
  refine isNumeral_of_signOf ?_
  rw [readFloat_eq] at h
  by_cases hnil : s.toList = []
  · rw [if_pos hnil] at h
    cases h
  · rw [if_neg hnil] at h
    split at h
    case h_1 hx => exact isNumeral_of_readMagnitude? hx
    case h_2 => cases h

lemma isBlank_of_isNumeral (h : isNumeral c) : Text.isBlank c = false := by
  obtain ⟨hlow, hhigh⟩ := toNat_of_isNumeral h
  simp only [Text.isBlank, Bool.or_eq_false_iff, Bool.and_eq_false_iff, beq_eq_false_iff_ne,
    decide_eq_false_iff_not]
  omega

lemma trim_of_isNumeral (h : ∀ c ∈ cs, isNumeral c) : Text.trim cs = cs :=
  Text.trim_eq_self (fun c hc => isBlank_of_isNumeral (h c (List.mem_of_mem_head? hc)))
    fun c hc => isBlank_of_isNumeral (h c (List.mem_of_mem_getLast? hc))

end Characters

/-! ### Texts that are read again -/

lemma isDigit_of_mem_toString {n : Nat} {c : Char} (h : c ∈ (toString n).toList) : isDigit c := by
  have hdigit := Nat.isDigit_of_mem_toDigits (by decide) (by decide) (Nat.toList_repr ▸ h)
  simpa [isDigit, Char.isDigit, Char.le_def] using hdigit

lemma toString_ne_nil (n : Nat) : (toString n).toList ≠ [] := by
  rw [show (toString n).toList = Nat.toDigits 10 n from Nat.toList_repr]
  exact Nat.toDigits_ne_nil

lemma ofDigits_toString (n : Nat) : ofDigits (toString n).toList = n := by
  rw [show (toString n).toList = Nat.toDigits 10 n from Nat.toList_repr]
  exact Nat.ofDigitChars_ten_toDigits

lemma toString_negSucc (n : Nat) :
    (toString (Int.negSucc n)).toList = '-' :: (toString (n + 1)).toList := by
  change ("-" ++ Nat.repr (n + 1)).toList = _
  simp

section Forms

variable {cs ds tail : List Char} {c : Char}

lemma signOf_of_isDigit (hc : isDigit c) : signOf (c :: cs) = (false, c :: cs) := by
  unfold signOf
  split
  case h_1 heq =>
    obtain ⟨rfl, -⟩ := List.cons.inj heq
    cases hc
  case h_2 heq =>
    obtain ⟨rfl, -⟩ := List.cons.inj heq
    cases hc
  case h_3 => rfl

lemma readExponent?_isSome (hne : ds ≠ []) (hds : ∀ c ∈ ds, isDigit c) :
    (readExponent? ('e' :: ds)).isSome ∧ (readExponent? ('e' :: '-' :: ds)).isSome := by
  obtain ⟨c, cs, rfl⟩ := List.exists_cons_of_ne_nil hne
  have hminus : signOf ('-' :: c :: cs) = (true, c :: cs) := rfl
  have hall : (c :: cs).all isDigit := List.all_eq_true.mpr hds
  rw [readExponent?_cons, readExponent?_cons, hminus,
    signOf_of_isDigit (hds c List.mem_cons_self)]
  simp only [hall]
  exact ⟨rfl, rfl⟩

/-- Nothing, or the exponent part of a number. -/
def IsExponent (tail : List Char) : Prop :=
  tail = [] ∨ ∃ e : Int, tail = 'e' :: (toString e).toList

lemma IsExponent.nil : IsExponent [] := .inl rfl

lemma IsExponent.readExponent? (h : IsExponent tail) : (readExponent? tail).isSome := by
  rcases h with rfl | ⟨n | n, rfl⟩
  · rfl
  · exact (readExponent?_isSome (toString_ne_nil n) fun c => isDigit_of_mem_toString).1
  · rw [toString_negSucc]
    exact (readExponent?_isSome (toString_ne_nil (n + 1)) fun c => isDigit_of_mem_toString).2

lemma IsExponent.head? (h : IsExponent tail) : ∀ c ∈ tail.head?, isDigit c = false := by
  rcases h with rfl | ⟨e, rfl⟩
  · exact fun c hc => absurd hc (Option.not_mem_none c)
  · intro c hc
    obtain rfl : 'e' = c := Option.some.inj hc
    rfl

lemma IsExponent.fractionOf (h : IsExponent tail) : fractionOf tail = ([], tail) := by
  rcases h with rfl | ⟨e, rfl⟩
  · rfl
  · rfl

lemma span_digits (hds : ∀ c ∈ ds, isDigit c) (htail : ∀ c ∈ tail.head?, isDigit c = false) :
    (ds ++ tail).takeWhile isDigit = ds ∧ (ds ++ tail).dropWhile isDigit = tail := by
  have hdrop := Text.dropWhile_append_of_head? hds htail
  have hwhole := List.takeWhile_append_dropWhile (p := isDigit) (l := ds ++ tail)
  rw [hdrop] at hwhole
  exact ⟨List.append_cancel_right hwhole, hdrop⟩

/-- Digits, a point with more digits or none, and an exponent or none. -/
inductive IsMagnitude : List Char → Prop
  | whole {ds tail : List Char} (hne : ds ≠ []) (hds : ∀ c ∈ ds, isDigit c)
    (htail : IsExponent tail) : IsMagnitude (ds ++ tail)
  | point {ds es tail : List Char} (hne : ds ≠ []) (hds : ∀ c ∈ ds, isDigit c)
    (hes : ∀ c ∈ es, isDigit c) (htail : IsExponent tail) :
    IsMagnitude (ds ++ '.' :: (es ++ tail))

lemma IsMagnitude.head? (h : IsMagnitude cs) : ∃ c rest, cs = c :: rest ∧ isDigit c := by
  cases h with
  | whole hne hds | point hne hds =>
    obtain ⟨c, ds, rfl⟩ := List.exists_cons_of_ne_nil hne
    exact ⟨c, _, rfl, hds c List.mem_cons_self⟩

lemma IsMagnitude.readDigits? (h : IsMagnitude cs) : (readDigits? cs).isSome := by
  rw [readDigits?_eq]
  cases h with
  | whole hne hds htail =>
    obtain ⟨htake, hdrop⟩ := span_digits hds htail.head?
    rw [htake, hdrop, htail.fractionOf]
    simp [hne, htail.readExponent?]
  | @point ds es tail hne hds hes htail =>
    have hpoint : ∀ c ∈ ('.' :: (es ++ tail)).head?, isDigit c = false := fun c hc => by
      obtain rfl : '.' = c := Option.some.inj hc
      rfl
    obtain ⟨htake, hdrop⟩ := span_digits hds hpoint
    obtain ⟨htake', hdrop'⟩ := span_digits hes htail.head?
    have hfraction : Decimal.fractionOf ('.' :: (es ++ tail)) = (es, tail) :=
      Prod.ext htake' hdrop'
    rw [htake, hdrop, hfraction]
    simp [hne, htail.readExponent?]

/-- No word starts with a digit. -/
lemma readMagnitude?_of_isDigit (hc : isDigit c) :
    readMagnitude? (c :: cs) = readDigits? (c :: cs) := by
  have hlower : Text.lowerAscii c = c := by
    refine if_neg fun hletter => ?_
    simp only [Bool.and_eq_true, decide_eq_true_eq, isDigit] at hletter hc
    exact absurd (Char.le_trans hletter.1 hc.2) (by decide)
  have hword {w : String} (hw : w.toList.head?.any isDigit = false) :
      String.ofList ((c :: cs).map Text.lowerAscii) ≠ w := by
    rintro rfl
    simp [hlower, hc] at hw
  rw [Decimal.readMagnitude?]
  simp only [hword (w := "inf") (by decide), hword (w := "infinity") (by decide),
    hword (w := "nan") (by decide)]
  rfl

lemma IsMagnitude.readMagnitude? (h : IsMagnitude cs) : (readMagnitude? cs).isSome := by
  obtain ⟨c, rest, rfl, hc⟩ := h.head?
  rw [readMagnitude?_of_isDigit hc]
  exact h.readDigits?

lemma IsMagnitude.readFloat (h : IsMagnitude cs) (minus : Bool) :
    ∃ x, readFloat ((if minus then "-" else "") ++ String.ofList cs) = .ok x := by
  obtain ⟨x, hx⟩ := Option.isSome_iff_exists.mp h.readMagnitude?
  obtain ⟨c, rest, rfl, hc⟩ := h.head?
  cases minus with
  | true =>
    have htext : ((if true then "-" else "") ++ String.ofList (c :: rest)).toList =
        '-' :: c :: rest := by simp
    have hsign : signOf ('-' :: c :: rest) = (true, c :: rest) := rfl
    refine ⟨-x, ?_⟩
    rw [readFloat_eq, htext, hsign, hx]
    rfl
  | false =>
    have htext : ((if false then "-" else "") ++ String.ofList (c :: rest)).toList =
        c :: rest := by simp
    refine ⟨x, ?_⟩
    rw [readFloat_eq, htext, signOf_of_isDigit hc, hx]
    rfl

lemma isDigit_of_mem_zeros (n : Nat) : ∀ c ∈ List.replicate n '0', isDigit c := fun c hc => by
  rw [List.eq_of_mem_replicate hc]
  rfl

lemma isMagnitude_positional (hne : ds ≠ []) (hds : ∀ c ∈ ds, isDigit c) (last : Int) :
    IsMagnitude (positional ".0" ds last) := by
  unfold positional
  split
  case isTrue =>
    have hzeros := List.forall_mem_append.mpr ⟨hds, isDigit_of_mem_zeros last.toNat⟩
    exact .point (by simp [hne]) hzeros (isDigit_of_mem_zeros 1) .nil
  case isFalse =>
    have htake (n : Nat) : ∀ c ∈ ds.take n, isDigit c := fun c hc =>
      hds c (List.mem_of_mem_take hc)
    have hdrop (n : Nat) : ∀ c ∈ ds.drop n, isDigit c := fun c hc =>
      hds c (List.mem_of_mem_drop hc)
    dsimp only
    split
    case isTrue hlt =>
      have hne' : ds.take (ds.length - (-last).toNat) ≠ [] := by
        rw [Ne, List.take_eq_nil_iff, not_or]
        exact ⟨by omega, hne⟩
      simpa using IsMagnitude.point hne' (htake _) (hdrop _) .nil
    case isFalse =>
      have hzeros := List.forall_mem_append.mpr
        ⟨isDigit_of_mem_zeros ((-last).toNat - ds.length), hds⟩
      have hzero : ∀ c ∈ ['0'], isDigit c := isDigit_of_mem_zeros 1
      simpa using IsMagnitude.point (List.cons_ne_nil _ _) hzero hzeros .nil

lemma isMagnitude_scientific (hne : ds ≠ []) (hds : ∀ c ∈ ds, isDigit c) (first : Int) :
    IsMagnitude (scientific "" ds first) := by
  have hexponent :
      IsExponent ('e' :: ((if first < 0 then "" else "") ++ toString first).toList) :=
    .inr ⟨first, by simp⟩
  unfold scientific
  rcases ds with _ | ⟨d, _ | ⟨d', rest⟩⟩
  · exact absurd rfl hne
  · exact .whole hne hds hexponent
  · obtain ⟨hd, hrest⟩ := List.forall_mem_cons.mp hds
    exact .point (List.cons_ne_nil d []) (List.forall_mem_singleton.mpr hd) hrest hexponent

lemma isMagnitude_markup (d : Digits) : IsMagnitude (Layout.markup.magnitude d) := by
  have hne := toString_ne_nil d.digits
  have hds : ∀ c ∈ (toString d.digits).toList, isDigit c := fun c => isDigit_of_mem_toString
  exact iteInduction (fun _ => isMagnitude_positional hne hds _) fun _ =>
    isMagnitude_scientific hne hds _

end Forms

lemma isNaN_of_isFinite {x : Float} (h : x.isFinite) : x.isNaN = false ∧ x.isInf = false := by
  change x.toModel.unpack.isFinite at h
  change x.toModel.unpack.isNaN = false ∧ x.toModel.unpack.isInf = false
  generalize x.toModel.unpack = f at h ⊢
  cases f with
  | notANumber | infinity => cases h
  | zero | finite => exact ⟨rfl, rfl⟩

/-- The text of a finite number is read as a number. -/
lemma readFloat_markup {x : Float} (h : x.isFinite) :
    ∃ y, readFloat (Layout.markup.text x) = .ok y := by
  obtain ⟨hnan, hinf⟩ := isNaN_of_isFinite h
  unfold Layout.text
  rw [if_neg (ne_true_of_eq_false hnan), if_neg (ne_true_of_eq_false hinf)]
  refine IsMagnitude.readFloat ?_ _
  split
  · have hzero : ∀ c ∈ ['0'], isDigit c := isDigit_of_mem_zeros 1
    exact .point (List.cons_ne_nil _ _) hzero hzero .nil
  · exact isMagnitude_markup _

/-- The text of an integer is read as a number. -/
lemma readFloat_toString (i : Int) : ∃ y, readFloat (toString i) = .ok y := by
  have hmagnitude (n : Nat) : IsMagnitude (toString n).toList := by
    simpa using IsMagnitude.whole (toString_ne_nil n) (fun c => isDigit_of_mem_toString) .nil
  cases i with
  | ofNat n =>
    have htext : toString (Int.ofNat n) = "" ++ String.ofList (toString n).toList := by
      rw [String.ofList_toList, String.empty_append]
      rfl
    rw [htext]
    exact (hmagnitude n).readFloat false
  | negSucc n =>
    have htext : toString (Int.negSucc n) = "-" ++ String.ofList (toString (n + 1)).toList := by
      rw [String.ofList_toList]
      rfl
    rw [htext]
    exact (hmagnitude (n + 1)).readFloat true

end TestData.Decimal
