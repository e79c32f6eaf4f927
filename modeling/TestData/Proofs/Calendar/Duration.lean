import Mathlib
import TestData.Calendar.Duration
import TestData.Proofs.Decimal.Readable

/-!
The texts of durations.

A text is read as a duration exactly if it is digits and a name of a unit in small or capital
letters, with blanks around the two and between them or without, and the number that the digits
denote has 32 bits. So what is written as an amount, a space and a name is read again.
-/

namespace TestData.Calendar

open Decimal (isDigit isNumeral_of_isDigit isNumeral_of_isAlphanum isBlank_of_isNumeral ofDigits
  digitValue)
open Text (Blanks isBlank trim)

/-! ### Characters -/

section Characters

variable {c : Char}

lemma isDigit_eq (c : Char) : isDigit c = c.isDigit := by
  simp [isDigit, Char.isDigit, Char.le_def]

lemma isDigit_of_isBlank (h : isBlank c) : isDigit c = false := by
  by_contra hdigit
  have hblank := isBlank_of_isNumeral (isNumeral_of_isDigit (by simpa using hdigit))
  rw [h] at hblank
  cases hblank

lemma isBlank_of_isAlpha (h : c.isAlpha) : isBlank c = false :=
  isBlank_of_isNumeral (isNumeral_of_isAlphanum (by simp [Char.isAlphanum, h]))

lemma isDigit_of_isAlpha (h : c.isAlpha) : isDigit c = false := by
  simp only [Char.isAlpha, Char.isUpper, Char.isLower, isDigit, Char.le_def, ge_iff_le,
    UInt32.le_iff_toNat_le, Bool.or_eq_true, Bool.and_eq_true, decide_eq_true_eq,
    Bool.and_eq_false_iff, decide_eq_false_iff_not] at h ⊢
  have hdigits : '9'.val.toNat = 57 := rfl
  have hcapitals : 'A'.val.toNat = 65 := rfl
  have hsmall : 'a'.val.toNat = 97 := rfl
  omega

lemma lowerAscii_eq_toLower (c : Char) : Text.lowerAscii c = c.toLower := by
  rw [Text.lowerAscii]
  split_ifs with h
  · exact (Char.toLower_eq_of_isUpper (by simpa [Char.isUpper, Char.le_def] using h)).symm
  · exact (Char.toLower_eq_of_not_isUpper (by simpa [Char.isUpper, Char.le_def] using h)).symm

end Characters

/-! ### Units -/

namespace DurationUnit

variable {u : DurationUnit} {before word after : List Char} {s : String}

/-- The names of a unit. -/
def names : DurationUnit → List String
  | days => ["d", "day", "days"]
  | weeks => ["w", "week", "weeks"]
  | months => ["m", "month", "months"]
  | years => ["y", "year", "years"]

/-- A word is a name of a unit, in small or capital letters. -/
def Named (u : DurationUnit) (word : List Char) : Prop :=
  ∃ name ∈ u.names, word.map Char.toLower = name.toList

lemma ofName?_eq_some_iff : ofName? s = some u ↔ s ∈ u.names := by
  constructor
  · intro h
    unfold ofName? at h
    split at h
    case h_13 => cases h
    all_goals
      obtain rfl := Option.some.inj h
      decide
  · intro h
    cases u <;> simp only [names, List.mem_cons, List.not_mem_nil, or_false] at h <;>
      rcases h with rfl | rfl | rfl <;> rfl

/-- The words that are read as a unit are its names, blanks at the ends left out. -/
lemma read_eq_ok_iff : read s = .ok u ↔ u.Named (trim s.toList) := by
  have hread : read s = .ok u ↔ ofName? (Text.loweredAscii (Text.trimmed s)) = some u := by
    unfold read
    dsimp only
    cases ofName? (Text.loweredAscii (Text.trimmed s)) <;> simp
  rw [hread, ofName?_eq_some_iff, Text.loweredAscii, Text.trimmed, String.toList_ofList,
    funext lowerAscii_eq_toLower]
  constructor
  · exact fun h => ⟨_, h, String.toList_ofList.symm⟩
  · rintro ⟨name, hname, hword⟩
    rwa [hword, String.ofList_toList]

lemma isAlpha_of_mem_names :
    ∀ name ∈ u.names, name.toList ≠ [] ∧ ∀ c ∈ name.toList, c.isAlpha := by
  cases u <;> simp [names]

/-- The name that is written is one of the names that are read. -/
lemma named_name (u : DurationUnit) : u.Named u.name.toList := by
  cases u
  case days => exact ⟨"days", by decide, by decide⟩
  case weeks => exact ⟨"weeks", by decide, by decide⟩
  case months => exact ⟨"months", by decide, by decide⟩
  case years => exact ⟨"years", by decide, by decide⟩

namespace Named

lemma ne_nil (h : u.Named word) : word ≠ [] := by
  obtain ⟨name, hname, hword⟩ := h
  rintro rfl
  exact (isAlpha_of_mem_names name hname).1 hword.symm

lemma isAlpha (h : u.Named word) : ∀ c ∈ word, c.isAlpha := by
  obtain ⟨name, hname, hword⟩ := h
  intro c hc
  rw [← Char.isAlpha_toLower_eq_isAlpha]
  exact (isAlpha_of_mem_names name hname).2 c.toLower (hword ▸ List.mem_map_of_mem hc)

lemma isBlank_getLast? (h : u.Named word) : ∀ c ∈ word.getLast?, isBlank c = false := fun c hc =>
  isBlank_of_isAlpha (h.isAlpha c (List.mem_of_mem_getLast? hc))

lemma trim_eq (h : u.Named word) (hbefore : Blanks before) : trim (before ++ word) = word := by
  have hhead : ∀ c ∈ word.head?, isBlank c = false := fun c hc =>
    isBlank_of_isAlpha (h.isAlpha c (List.mem_of_mem_head? hc))
  have htrim := Text.trim_blanks_around hbefore (List.forall_mem_nil _) hhead h.isBlank_getLast?
  rwa [List.append_nil] at htrim

end Named

end DurationUnit

/-! ### Texts of durations -/

namespace Duration

variable {s : String} {d : Duration} {before digits between word after : List Char}
  {unit : DurationUnit}

/-- The number that digits denote: the last of them counts ones, the one before it tens. -/
def amountOf (digits : List Char) : Nat := Nat.ofDigits 10 (digits.reverse.map digitValue)

lemma ofDigits_eq_amountOf (ds : List Char) : ofDigits ds = amountOf ds := by
  induction ds using List.reverseRecOn with
  | nil => rfl
  | append_singleton ds c ih =>
    have hstep : ofDigits (ds ++ [c]) = 10 * ofDigits ds + digitValue c := by
      rw [ofDigits, List.foldl_append, List.foldl_cons, List.foldl_nil, ofDigits]
    rw [hstep, ih, amountOf, amountOf, List.reverse_append, List.reverse_singleton,
      List.singleton_append, List.map_cons, Nat.ofDigits_cons, Nat.add_comm]

/-- The texts of durations: digits and a name of a unit, with blanks around the two and between
them or without. -/
inductive Written : List Char → Duration → Prop
  | parts {before digits between word after : List Char} {unit : DurationUnit}
      (blanks_before : Blanks before) (digits_ne_nil : digits ≠ [])
      (digits_isDigit : ∀ c ∈ digits, c.isDigit) (amount_le : amountOf digits ≤ 2 ^ 32 - 1)
      (blanks_between : Blanks between) (word_named : unit.Named word)
      (blanks_after : Blanks after) :
      Written (before ++ digits ++ between ++ word ++ after) ⟨amountOf digits, unit⟩

/-- What is read is a text of the duration. -/
lemma written_of_read (h : read s = .ok d) : Written s.toList d := by
  unfold read at h
  dsimp only at h
  split_ifs at h with hrest hamount
  simp only [Bool.or_eq_true, decide_eq_true_eq, not_or, Nat.not_lt] at hamount
  obtain ⟨before, after, hs, hbefore, hafter⟩ := Text.exists_blanks_around_trim s.toList
  generalize trim s.toList = cs at h hs hamount
  obtain ⟨between, behind, hcs, hbetween, hbehind⟩ :=
    Text.exists_blanks_around_trim (cs.dropWhile isDigit)
  rcases hunit : DurationUnit.read (String.ofList (cs.dropWhile isDigit)) with e | u <;>
    rw [hunit] at h
  · cases h
  · obtain rfl := Except.ok.inj h
    rw [DurationUnit.read_eq_ok_iff, String.toList_ofList] at hunit
    have hdigits : ∀ c ∈ cs.takeWhile isDigit, c.isDigit := fun c hc =>
      isDigit_eq c ▸ List.mem_takeWhile_imp hc
    have hparts : s.toList = before ++ cs.takeWhile isDigit ++ between ++
        trim (cs.dropWhile isDigit) ++ (behind ++ after) := by
      calc s.toList = before ++ cs ++ after := hs
        _ = before ++ (cs.takeWhile isDigit ++ cs.dropWhile isDigit) ++ after := by
          rw [List.takeWhile_append_dropWhile]
        _ = before ++ (cs.takeWhile isDigit ++
              (between ++ trim (cs.dropWhile isDigit) ++ behind)) ++ after := by rw [← hcs]
        _ = _ := by simp only [List.append_assoc]
    rw [ofDigits_eq_amountOf] at hamount ⊢
    rw [hparts]
    exact .parts hbefore hamount.1 hdigits hamount.2 hbetween hunit
      (List.forall_mem_append.mpr ⟨hbehind, hafter⟩)

/-- The blanks between digits and a name are kept, and those around the two are taken off. -/
lemma trim_parts (hbefore : Blanks before) (hne : digits ≠ []) (hdigits : ∀ c ∈ digits, isDigit c)
    (hword : unit.Named word) (hafter : Blanks after) :
    trim (before ++ digits ++ between ++ word ++ after) = digits ++ (between ++ word) := by
  have hhead : ∀ c ∈ (digits ++ (between ++ word)).head?, isBlank c = false := by
    rw [List.head?_append_of_ne_nil _ hne]
    exact fun c hc =>
      isBlank_of_isNumeral (isNumeral_of_isDigit (hdigits c (List.mem_of_mem_head? hc)))
  have hlast : ∀ c ∈ (digits ++ (between ++ word)).getLast?, isBlank c = false := by
    rw [← List.append_assoc, List.getLast?_append_of_ne_nil _ hword.ne_nil]
    exact hword.isBlank_getLast?
  have htrim := Text.trim_blanks_around hbefore hafter hhead hlast
  simpa only [List.append_assoc] using htrim

/-- A text of a duration is read. -/
lemma Written.read_eq (h : Written s.toList d) : read s = .ok d := by
  generalize hs : s.toList = cs at h
  cases h with
  | @parts before digits between word after unit hbefore hne hds hamount hbetween hword hafter =>
    have hdigits : ∀ c ∈ digits, isDigit c := fun c hc => (isDigit_eq c).trans (hds c hc)
    have htail : ∀ c ∈ (between ++ word).head?, isDigit c = false := by
      intro c hc
      rcases List.mem_append.mp (List.mem_of_mem_head? hc) with hc | hc
      · exact isDigit_of_isBlank (hbetween c hc)
      · exact isDigit_of_isAlpha (hword.isAlpha c hc)
    obtain ⟨htake, hdrop⟩ := Decimal.span_digits hdigits htail
    have hunit : DurationUnit.read (String.ofList (between ++ word)) = .ok unit := by
      rw [DurationUnit.read_eq_ok_iff, String.toList_ofList, hword.trim_eq hbetween]
      exact hword
    unfold read
    dsimp only
    rw [hs, trim_parts hbefore hne hdigits hword hafter, htake, hdrop,
      if_neg (by simp [hword.ne_nil]), if_neg, hunit, ofDigits_eq_amountOf]
    · rfl
    · rw [ofDigits_eq_amountOf, Bool.or_eq_true, decide_eq_true_eq, decide_eq_true_eq, not_or,
        Nat.not_lt]
      exact ⟨hne, hamount⟩

/-- An amount, a space and a name of the unit are a text of the duration. -/
lemma written_of_named (hd : d.amount ≤ 2 ^ 32 - 1) (hword : d.unit.Named word) :
    Written ((toString d.amount).toList ++ ' ' :: word) d := by
  obtain ⟨n, u⟩ := d
  have hdigits : ∀ c ∈ (toString n).toList, c.isDigit := fun c hc =>
    isDigit_eq c ▸ Decimal.isDigit_of_mem_toString hc
  have hn : amountOf (toString n).toList = n := by
    rw [← ofDigits_eq_amountOf, Decimal.ofDigits_toString]
  have hspace : Blanks [' '] := List.forall_mem_singleton.mpr rfl
  have hparts := Written.parts (List.forall_mem_nil _) (Decimal.toString_ne_nil n) hdigits
    (hn.symm ▸ hd) hspace hword (List.forall_mem_nil _)
  rw [hn] at hparts
  simpa using hparts

/-- **The texts that are read as durations** are digits that denote a number of 32 bits and a name
of a unit, in small or capital letters, with blanks around the two and between them or without. The
number and the unit are what is read. So what is written as an amount, a space and a name of the
unit is read again. -/
theorem read_iff_written :
    (∀ s d, read s = .ok d ↔ Written s.toList d) ∧
    ∀ d : Duration, d.amount ≤ 2 ^ 32 - 1 →
      (∀ word, d.unit.Named word →
        read (toString d.amount ++ " " ++ String.ofList word) = .ok d) ∧
      read d.text = .ok d := by
  have hwrite {d : Duration} (hd : d.amount ≤ 2 ^ 32 - 1) {word : List Char}
      (hword : d.unit.Named word) :
      read (toString d.amount ++ " " ++ String.ofList word) = .ok d := by
    have htext : (toString d.amount ++ " " ++ String.ofList word).toList =
        (toString d.amount).toList ++ ' ' :: word := by simp
    exact Written.read_eq (htext ▸ written_of_named hd hword)
  refine ⟨fun s d => ⟨written_of_read, Written.read_eq⟩, fun d hd =>
    ⟨fun word hword => hwrite hd hword, ?_⟩⟩
  have htext := hwrite hd d.unit.named_name
  rwa [String.ofList_toList] at htext

/-- The greatest amount is read again, whatever the letters of the name. -/
theorem read_greatest_amount :
    (⟨4294967295, .months⟩ : Duration).amount ≤ 2 ^ 32 - 1 ∧
      DurationUnit.months.Named "mOnThS".toList ∧
      read "4294967295 mOnThS" = .ok ⟨4294967295, .months⟩ ∧
      read "4294967295 Months" = .ok ⟨4294967295, .months⟩ := by
  have hword : DurationUnit.months.Named "mOnThS".toList := ⟨"months", by decide, by decide⟩
  have hmixed : toString 4294967295 ++ " " ++ String.ofList "mOnThS".toList =
      "4294967295 mOnThS" := by decide +kernel
  have htext : (⟨4294967295, .months⟩ : Duration).text = "4294967295 Months" := by decide +kernel
  obtain ⟨hnamed, hread⟩ := read_iff_written.2 ⟨4294967295, .months⟩ (by decide)
  exact ⟨by decide, hword, hmixed ▸ hnamed _ hword, htext ▸ hread⟩

end Duration

end TestData.Calendar
