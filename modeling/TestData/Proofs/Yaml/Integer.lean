import TestData.Proofs.Decimal.Integer
import TestData.Proofs.Yaml.RangeText

/-!
Plain scalars that are the texts of integers.

Such a scalar is the integer, as long as that has 64 bits with a sign.
-/

namespace TestData.Yaml

open Decimal (isDigit isDigit_of_mem_toString toString_ne_nil toString_negSucc ofDigits)

variable {c : Char} {cs : List Char} {n : Nat}

/-! ### Digits -/

lemma head?_toDigits (h : 0 < n) : (Nat.toDigits 10 n).head? ≠ some '0' := by
  induction n using Nat.strong_induction_on with
  | _ n ih =>
    rcases Nat.lt_or_ge n 10 with hn | hn
    · rw [Nat.toDigits_of_lt_base hn]
      interval_cases n <;> decide
    · rw [Nat.toDigits_of_base_le (by norm_num) hn,
        List.head?_append_of_ne_nil _ Nat.toDigits_ne_nil]
      exact ih (n / 10) (by omega) (by omega)

lemma isPadded_cases (h : isPadded cs) : ∃ d rest, cs = '0' :: d :: rest ∨
    cs = '-' :: '0' :: d :: rest ∨ cs = '+' :: '0' :: d :: rest := by
  simp only [isPadded] at h
  split at h
  case h_2 => cases h
  case h_1 d rest hds =>
    refine ⟨d, rest, ?_⟩
    split at hds
    · exact .inr (.inl (by rw [hds]))
    · exact .inr (.inr (by rw [hds]))
    · exact .inl hds

/-- No zero stands before the digits of an integer. -/
lemma isPadded_toString (n : Nat) : isPadded (toString n).toList = false ∧
    isPadded ('-' :: (toString n).toList) = false := by
  have hdigits : ∀ c ∈ (toString n).toList, isDigit c := fun c => isDigit_of_mem_toString
  have hzero : ∀ d rest, (toString n).toList ≠ '0' :: d :: rest := by
    intro d rest hcs
    rw [show (toString n).toList = Nat.toDigits 10 n from Nat.toList_repr] at hcs
    rcases Nat.eq_zero_or_pos n with rfl | hn
    · cases hcs
    · exact head?_toDigits hn (by rw [hcs]; rfl)
  have hsign : ∀ c rest, isDigit c = false → (toString n).toList ≠ c :: rest := by
    intro c rest hc hcs
    simp [hdigits c (hcs ▸ List.mem_cons_self)] at hc
  constructor
  · refine eq_false_of_ne_true fun h => ?_
    obtain ⟨d, rest, h | h | h⟩ := isPadded_cases h
    · exact hzero d rest h
    · exact hsign '-' _ rfl h
    · exact hsign '+' _ rfl h
  · refine eq_false_of_ne_true fun h => ?_
    obtain ⟨d, rest, h | h | h⟩ := isPadded_cases h
    · cases h
    · exact hzero d rest (List.cons.inj h).2
    · cases h

lemma digitValue?_of_isDigit (h : isDigit c) :
    digitValue? c = some (Decimal.digitValue c) ∧ Decimal.digitValue c < 10 := by
  have hdigit : c.isDigit := by simpa [isDigit, Char.isDigit, Char.le_def] using h
  have hlt : c.toNat ≤ '9'.toNat := by
    simpa [isDigit, Char.le_def, UInt32.le_iff_toNat_le] using (Bool.and_eq_true_iff.mp h).2
  have hnine : '9'.toNat = '0'.toNat + 9 := rfl
  exact ⟨if_pos hdigit, by unfold Decimal.digitValue; omega⟩

lemma readDigits?_of_isDigit (hne : cs ≠ []) (h : ∀ c ∈ cs, isDigit c) :
    readDigits? 10 cs = some (ofDigits cs) := by
  have hfold (m : Nat) : cs.foldlM (fun n c => do
      let d ← digitValue? c
      if d < 10 then some (10 * n + d) else none) m =
        some (cs.foldl (fun n c => 10 * n + Decimal.digitValue c) m) := by
    clear hne
    induction cs generalizing m with
    | nil => rfl
    | cons c cs ih =>
      obtain ⟨hc, hcs⟩ := List.forall_mem_cons.mp h
      obtain ⟨hvalue, hlt⟩ := digitValue?_of_isDigit hc
      have hrest := ih hcs (10 * m + Decimal.digitValue c)
      simpa [hvalue, hlt] using hrest
  rw [readDigits?, if_neg hne, hfold, ofDigits]

lemma readMagnitude?_toString {bound : Nat} (h : n < bound) :
    readMagnitude? false bound (toString n).toList = some n := by
  have hdigits : ∀ c ∈ (toString n).toList, isDigit c := fun c => isDigit_of_mem_toString
  have hbase : baseOf? (toString n).toList = none := by
    generalize (toString n).toList = cs at *
    unfold baseOf?
    split
    case h_4 => rfl
    all_goals exact absurd (hdigits _ (List.mem_cons_of_mem _ List.mem_cons_self)) (by decide)
  rw [readMagnitude?, hbase]
  dsimp only
  rw [if_neg Bool.false_ne_true, readDigits?_of_isDigit (toString_ne_nil n) hdigits,
    Decimal.ofDigits_toString, Option.filter_some, if_pos (decide_eq_true h)]

/-! ### Integers -/

/-- The text of an integer starts with a digit or a minus. -/
lemma head?_toString (z : Int) :
    ∃ c, (toString z).toList.head? = some c ∧ (isDigit c ∨ c = '-') := by
  rcases z with n | n
  · obtain ⟨c, cs, hcs⟩ := List.exists_cons_of_ne_nil (toString_ne_nil n)
    have hc : isDigit c := isDigit_of_mem_toString (hcs ▸ List.mem_cons_self)
    have htext : toString (Int.ofNat n) = toString n := rfl
    exact ⟨c, by rw [htext, hcs]; rfl, .inl hc⟩
  · exact ⟨'-', by rw [toString_negSucc]; rfl, .inr rfl⟩

/-- No word does. -/
lemma toString_ne {z : Int} {w : String}
    (hw : w.toList.head?.all fun c => !isDigit c && c != '-') : toString z ≠ w := by
  rintro rfl
  obtain ⟨c, hc, hdigit⟩ := head?_toString z
  rw [hc] at hw
  simp only [Option.all_some, Bool.and_eq_true, Bool.not_eq_true', bne_iff_ne] at hw
  rcases hdigit with hdigit | rfl
  · exact absurd hdigit (by simp [hw.1])
  · exact hw.2 rfl

lemma readNatural?_toString {bound : Nat} (h : n < bound) :
    readNatural? bound (toString n).toList = some n := by
  have hplus : (toString n).toList.head? ≠ some '+' := by
    intro hplus
    exact absurd (isDigit_of_mem_toString (List.mem_of_mem_head? hplus)) (by decide)
  rw [readNatural?, if_neg hplus, (isPadded_toString n).1]
  exact readMagnitude?_toString h

lemma readNegative?_toString {bound : Nat} (h : n ≤ bound) :
    readNegative? bound ('-' :: (toString n).toList) = some (-(n : Int)) := by
  rw [readNegative?, (isPadded_toString n).2, readMagnitude?_toString (by omega)]
  rfl

/-- A minus is no digit. -/
lemma readNatural?_minus (bound : Nat) (cs : List Char) :
    readNatural? bound ('-' :: cs) = none := by
  have hdigits : readDigits? 10 ('-' :: cs) = none := by
    rw [readDigits?, if_neg (List.cons_ne_nil _ _)]
    rfl
  have hplus : ('-' :: cs).head? ≠ some '+' := by simp
  have hbase : baseOf? ('-' :: cs) = none := rfl
  rw [readNatural?, if_neg hplus, readMagnitude?, hbase]
  dsimp only
  rw [hdigits]
  split_ifs <;> rfl

lemma readWhole?_toString {z : Int} (h : Decimal.leastInteger ≤ z)
    (h' : z ≤ Decimal.greatestInteger) : readWhole? (toString z) = some (some z) := by
  unfold Decimal.leastInteger at h
  unfold Decimal.greatestInteger at h'
  have hsize : UInt64.size = 2 ^ 64 := rfl
  rcases z with n | n
  · have htext : toString (Int.ofNat n) = toString n := rfl
    have hle : (n : Int) ≤ 2 ^ 63 - 1 := h'
    have hlt : n < UInt64.size := by omega
    simp only [readWhole?, htext, readNatural?_toString hlt]
    rfl
  · have hle : -(2 : Int) ^ 63 ≤ -((n : Int) + 1) := h
    have hle' : n + 1 ≤ UInt64.size / 2 := by omega
    simp only [readWhole?, toString_negSucc, readNatural?_minus, readNegative?_toString hle']
    rfl

/-- **A plain scalar with the text of an integer is the integer.** -/
theorem Tree.ofPlain?_toString {z : Int} (h : Decimal.leastInteger ≤ z)
    (h' : z ≤ Decimal.greatestInteger) :
    ofPlain? (toString z) = some (.number (.whole z) (toString z)) := by
  have hnull : isNull (toString z) = false := by
    simp only [isNull, Bool.or_eq_false_iff, decide_eq_false_iff_not]
    exact ⟨⟨⟨toString_ne rfl, toString_ne rfl⟩, toString_ne rfl⟩, toString_ne rfl⟩
  have hbool : readBool? (toString z) = none := by
    unfold readBool?
    rw [if_neg, if_neg]
    all_goals
      simp only [Bool.or_eq_true, decide_eq_true_eq, not_or]
      exact ⟨⟨toString_ne rfl, toString_ne rfl⟩, toString_ne rfl⟩
  rw [ofPlain?, hnull, if_neg (by simpa using toString_ne rfl), hbool]
  dsimp only
  rw [readWhole?_toString h h']
  rfl

end TestData.Yaml
