import TestData.Json.Basic
import TestData.Proofs.Decimal.Readable

/-!
The compact text of a JSON document is one line.

Numbers are written with digits, signs, points and exponents, and inside a string a line feed is
written by its mark. So nothing in the compact text is a line feed, as a character or as a byte.
-/

namespace TestData

/-! ### Numbers -/

lemma newline_not_mem_nat (n : Nat) : '\n' ∉ (toString n).toList := by
  intro h
  exact absurd (Decimal.isDigit_of_mem_toString h) (by decide)

lemma newline_not_mem_int (n : Int) : '\n' ∉ (toString n).toList := by
  cases n with
  | ofNat n => exact newline_not_mem_nat n
  | negSucc n =>
    rw [Decimal.toString_negSucc, List.mem_cons]
    rintro (h | h)
    · exact absurd h (by decide)
    · exact newline_not_mem_nat _ h

namespace Decimal

lemma newline_not_mem_positional {whole : String} {ds : List Char} (hw : '\n' ∉ whole.toList)
    (hd : '\n' ∉ ds) (last : Int) : '\n' ∉ positional whole ds last := by
  unfold positional
  dsimp only
  split_ifs
  · simp [hw, hd]
  · have htake : '\n' ∉ ds.take (ds.length - (-last).toNat) := fun h => hd (List.mem_of_mem_take h)
    have hdrop : '\n' ∉ ds.drop (ds.length - (-last).toNat) := fun h => hd (List.mem_of_mem_drop h)
    simp [htake, hdrop]
  · simp [hd]

lemma newline_not_mem_scientific {plus : String} {ds : List Char} (hp : '\n' ∉ plus.toList)
    (hd : '\n' ∉ ds) (first : Int) : '\n' ∉ scientific plus ds first := by
  have hsign : '\n' ∉ (if first < 0 then "" else plus).toList := by
    split_ifs
    · simp
    · exact hp
  have hfirst := newline_not_mem_int first
  rcases ds with _ | ⟨d, _ | ⟨e, rest⟩⟩ <;> simp_all [scientific]

/-- A layout whose words hold no line feed writes none. -/
lemma newline_not_mem_text {l : Layout} (hw : '\n' ∉ l.whole.toList) (hp : '\n' ∉ l.plus.toList)
    (hi : '\n' ∉ l.infinity.toList) (hn : '\n' ∉ l.notNumber.toList) (x : Float) :
    '\n' ∉ (l.text x).toList := by
  have hsign : ∀ b : Bool, '\n' ∉ (if b then "-" else "").toList := by decide
  have hmagnitude : ∀ d, '\n' ∉ l.magnitude d := by
    intro d
    have hd := newline_not_mem_nat d.digits
    unfold Layout.magnitude
    dsimp only
    split_ifs
    · exact newline_not_mem_positional hw hd _
    · exact newline_not_mem_scientific hp hd _
  unfold Layout.text
  dsimp only
  split_ifs <;> simp_all

end Decimal

namespace Json

/-! ### Documents -/

lemma newline_not_mem_escape (c : Char) : '\n' ∉ escape c := by
  have hhex : ∀ n, n < 16 → hexDigit n ≠ '\n' := by decide
  unfold escape
  split_ifs with h₁ h₂ h₃ h₄ h₅ h₆ h₇ h₈
  all_goals try decide
  · have h := hhex (c.toNat / 16) (by omega)
    have h' := hhex (c.toNat % 16) (by omega)
    simp [h.symm, h'.symm]
  · simpa using Ne.symm h₃

lemma newline_not_mem_quoted (s : String) : '\n' ∉ quoted s := by
  simp [quoted, newline_not_mem_escape]

lemma newline_not_mem_scalar (j : Json) : '\n' ∉ scalar j := by
  cases j with
  | bool b => cases b <;> simp [scalar]
  | int n => exact newline_not_mem_int n
  | float x =>
    exact Decimal.newline_not_mem_text (by decide) (by decide) (by decide) (by decide) x
  | string s => exact newline_not_mem_quoted s
  | _ => simp [scalar]

mutual

/-- No character of a compact text is a line feed. -/
theorem newline_not_mem_chars (j : Json) : '\n' ∉ j.chars := by
  cases j with
  | array items => simp [chars, newline_not_mem_itemChars items]
  | object members => simp [chars, newline_not_mem_memberChars members]
  | _ =>
    rw [chars]
    · exact newline_not_mem_scalar _
    all_goals simp

theorem newline_not_mem_itemChars (items : List Json) : '\n' ∉ itemChars items := by
  rcases items with _ | ⟨j, _ | ⟨k, rest⟩⟩
  · simp [itemChars]
  · exact newline_not_mem_chars j
  · simp [itemChars, newline_not_mem_chars j, newline_not_mem_itemChars (k :: rest)]

theorem newline_not_mem_memberChars (members : List (String × Json)) :
    '\n' ∉ memberChars members := by
  rcases members with _ | ⟨⟨n, j⟩, _ | ⟨m, rest⟩⟩
  · simp [memberChars]
  · simp [memberChars, newline_not_mem_quoted, newline_not_mem_chars j]
  · simp [memberChars, newline_not_mem_quoted, newline_not_mem_chars j,
      newline_not_mem_memberChars (m :: rest)]

end

lemma newline_not_mem_compact (j : Json) : '\n' ∉ j.compact.toList := by
  rw [compact, String.toList_ofList]
  exact newline_not_mem_chars j

end Json

/-! ### Bytes -/

lemma ofNat_ne_newline {n : Nat} (h : n < 256) (hn : n ≠ 10) : UInt8.ofNat n ≠ 10 := by
  intro he
  have : n % 256 = 10 := congrArg UInt8.toNat he
  omega

/-- The line feed is the only character with the byte of a line feed. -/
lemma count_newline_utf8EncodeChar (c : Char) :
    (String.utf8EncodeChar c).count 10 = if c = '\n' then 1 else 0 := by
  split_ifs with hc
  · rw [hc]
    decide
  · have hval : c.val.toNat ≠ 10 := fun h => hc (Char.toNat_inj.mp h)
    rw [List.count_eq_zero, String.utf8EncodeChar.eq_1]
    intro h
    -- every other byte is the code of an ASCII character or has its highest bit set
    split_ifs at h <;> simp only [List.mem_cons, List.not_mem_nil, or_false] at h
    · exact ofNat_ne_newline (by omega) hval h.symm
    · rcases h with h | h <;> exact ofNat_ne_newline (by omega) (by omega) h.symm
    · rcases h with h | h | h <;> exact ofNat_ne_newline (by omega) (by omega) h.symm
    · rcases h with h | h | h | h <;> exact ofNat_ne_newline (by omega) (by omega) h.symm

/-- A text has as many line feeds in bytes as in characters. -/
lemma count_newline_toUTF8 (s : String) :
    s.toUTF8.data.toList.count 10 = s.toList.count '\n' := by
  have hbytes : s.toUTF8.data.toList = s.toList.flatMap String.utf8EncodeChar := by
    rw [String.toUTF8, ← String.utf8Encode_toList]
    simp [List.utf8Encode]
  rw [hbytes]
  induction s.toList with
  | nil => rfl
  | cons c cs ih =>
    rw [List.flatMap_cons, List.count_append, ih, count_newline_utf8EncodeChar, List.count_cons]
    simp only [beq_iff_eq]
    omega

end TestData
