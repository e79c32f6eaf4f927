import TestData.Proofs.Decimal.Readable
import TestData.Yaml.Tree

/-!
The texts that plain scalars have which are numbers.

They have the characters of numbers and nothing else, so there is nothing to trim. Where such a
text can be read as a literal too, so can the text of the number that it stands for.
-/

namespace TestData

open Decimal

namespace Schema.Number

/-- A number that is read has no blanks around it. -/
lemma read_eq_ok {s : String} {x : Float} (h : readFloat s = .ok x) : read s = .ok ⟨x, s⟩ := by
  have htrim : Text.trimmed s = s := by
    rw [Text.trimmed, trim_of_isNumeral (isNumeral_of_readFloat h), String.ofList_toList]
  rw [read, htrim, h]
  rfl

lemma read_of_isNumeral {s : String} (h : ∀ c ∈ s.toList, isNumeral c) {a : Number}
    (ha : read s = .ok a) : readFloat s = .ok a.value ∧ a.raw = s := by
  have htrim : Text.trimmed s = s := by
    rw [Text.trimmed, trim_of_isNumeral h, String.ofList_toList]
  rw [read, htrim] at ha
  cases hx : readFloat s with
  | error e =>
    rw [hx] at ha
    cases ha
  | ok x =>
    rw [hx] at ha
    obtain rfl := Except.ok.inj ha
    exact ⟨rfl, rfl⟩

end Schema.Number

namespace Yaml

/-- A text that is written with the characters of numbers. -/
def Numeral (t : String) : Prop := t ≠ "" ∧ ∀ c ∈ t.toList, isNumeral c

section Characters

variable {c : Char} {cs : List Char} {n : Nat}

lemma isNumeral_of_digitValue? (h : digitValue? c = some n) : isNumeral c := by
  unfold digitValue? at h
  split_ifs at h with hdigit hlower hupper
  · exact isNumeral_of_isAlphanum (by simp [Char.isAlphanum, hdigit])
  · exact isNumeral_of_lower (by simpa using hlower)
  · exact isNumeral_of_upper (by simpa using hupper)

/-! What holds of digits and of signs holds of all characters of an integer. -/

variable {P : Char → Prop}

lemma forall_of_readDigits? (hP : ∀ c n, digitValue? c = some n → P c) {base : Nat}
    (h : readDigits? base cs = some n) : ∀ c ∈ cs, P c := by
  have hfold (m : Nat) : cs.foldlM (fun n c => do
      let d ← digitValue? c
      if d < base then some (base * n + d) else none) m = some n → ∀ c ∈ cs, P c := by
    clear h
    induction cs generalizing m with
    | nil => exact fun _ => List.forall_mem_nil _
    | cons c cs ih =>
      intro h
      obtain ⟨m', hm, hrest⟩ := Option.bind_eq_some_iff.mp h
      obtain ⟨d, hd, -⟩ := Option.bind_eq_some_iff.mp hm
      exact List.forall_mem_cons.mpr ⟨hP c d hd, ih m' hrest⟩
  rw [readDigits?] at h
  split_ifs at h
  exact hfold 0 h

lemma forall_of_readMagnitude? (hP : ∀ c n, digitValue? c = some n → P c) {padded : Bool}
    {bound : Nat} (h : readMagnitude? padded bound cs = some n) : ∀ c ∈ cs, P c := by
  simp only [readMagnitude?, baseOf?] at h
  split at h
  case h_1 base ds hbase =>
    have hds : ∀ c ∈ ds, P c := forall_of_readDigits? hP (Option.filter_eq_some_iff.mp h).1
    split at hbase
    case h_4 => cases hbase
    all_goals
      obtain ⟨-, rfl⟩ := Prod.mk.inj (Option.some.inj hbase)
      exact List.forall_mem_cons.mpr ⟨hP _ _ rfl, List.forall_mem_cons.mpr ⟨hP _ _ rfl, hds⟩⟩
  case h_2 =>
    split_ifs at h
    exact forall_of_readDigits? hP (Option.filter_eq_some_iff.mp h).1

lemma cons_plus_or_eq (cs : List Char) :
    cs = (if cs.head? = some '+' then cs.drop 1 else cs) ∨
      cs = '+' :: (if cs.head? = some '+' then cs.drop 1 else cs) := by
  split_ifs with hplus
  · cases cs with
    | nil => cases hplus
    | cons c cs =>
      obtain rfl : c = '+' := Option.some.inj hplus
      exact .inr rfl
  · exact .inl rfl

/-- A plus may stand in front. -/
lemma forall_of_plus (hplus : P '+')
    (h : ∀ c ∈ (if cs.head? = some '+' then cs.drop 1 else cs), P c) : ∀ c ∈ cs, P c := by
  rcases cons_plus_or_eq cs with hcs | hcs
  · rw [hcs]
    exact h
  · rw [hcs]
    exact List.forall_mem_cons.mpr ⟨hplus, h⟩

lemma forall_of_readNegative? (hP : ∀ c n, digitValue? c = some n → P c) (hminus : P '-')
    {bound : Nat} {i : Int} (h : readNegative? bound cs = some i) : ∀ c ∈ cs, P c := by
  unfold readNegative? at h
  split at h
  case h_1 =>
    obtain ⟨n, hn, -⟩ := Option.map_eq_some_iff.mp h
    exact List.forall_mem_cons.mpr ⟨hminus, forall_of_readMagnitude? hP hn⟩
  case h_2 => cases h

lemma forall_of_readWhole? (hP : ∀ c n, digitValue? c = some n → P c) (hplus : P '+')
    (hminus : P '-') {s : String} {i : Int} (h : readWhole? s = some (some i)) :
    ∀ c ∈ s.toList, P c := by
  simp only [readWhole?] at h
  split at h
  case h_1 n hn => exact forall_of_plus hplus (forall_of_readMagnitude? hP hn)
  case h_2 =>
    split at h
    case h_1 n hn => exact forall_of_readNegative? hP hminus hn
    case h_2 => split_ifs at h; cases h

lemma isNumeral_of_readWhole? {s : String} {i : Int} (h : readWhole? s = some (some i)) :
    ∀ c ∈ s.toList, isNumeral c :=
  forall_of_readWhole? (fun _ _ => isNumeral_of_digitValue?) rfl rfl h

/-- The text of an integer has no point. -/
lemma point_notMem_of_readWhole? {s : String} {i : Int} (h : readWhole? s = some (some i)) :
    '.' ∉ s.toList := by
  intro hpoint
  refine forall_of_readWhole? (P := (· ≠ '.')) ?_ (by decide) (by decide) h '.' hpoint rfl
  rintro c n hdigit rfl
  cases hdigit

end Characters

/-- The words for numbers that are not finite. -/
def infinite : List String :=
  [".inf", ".Inf", ".INF", "+.inf", "+.Inf", "+.INF", "-.inf", "-.Inf", "-.INF", ".nan", ".NaN",
    ".NAN"]

lemma signOf_of_head? {cs : List Char} (hplus : cs.head? ≠ some '+')
    (hminus : cs.head? ≠ some '-') : signOf cs = (false, cs) := by
  rcases cs with _ | ⟨c, cs⟩
  · rfl
  · unfold signOf
    split
    · exact absurd (congrArg List.head? ‹_›) hminus
    · exact absurd (congrArg List.head? ‹_›) hplus
    · rfl

/-- A plus in front of a text without a sign changes nothing. -/
lemma readFloat_plus {s : String} {rest : List Char} {x : Float} (hs : s.toList = '+' :: rest)
    (hplus : rest.head? ≠ some '+') (hminus : rest.head? ≠ some '-')
    (h : readFloat (String.ofList rest) = .ok x) : readFloat s = .ok x := by
  have hsign : signOf ('+' :: rest) = (false, rest) := rfl
  rw [readFloat_eq, String.toList_ofList, signOf_of_head? hplus hminus] at h
  rw [readFloat_eq, hs, hsign, if_neg (List.cons_ne_nil _ _)]
  by_cases hrest : rest = []
  · rw [if_pos hrest] at h
    cases h
  · rwa [if_neg hrest] at h

/-- A scalar that is a floating-point number is a word, or it is finite and what its text is read
as. -/
lemma readReal?_cases {s : String} {x : Float} (h : readReal? s = some x) :
    s ∈ infinite ∨ x.isFinite ∧ readFloat s = .ok x := by
  have hsign := cons_plus_or_eq s.toList
  simp only [readReal?, Bool.or_eq_true, decide_eq_true_eq] at h
  generalize (if s.toList.head? = some '+' then s.toList.drop 1 else s.toList) = rest
    at h hsign
  obtain ⟨hguard, h⟩ := Option.ite_none_left_eq_some.mp h
  have hs : s = String.ofList rest ∨ s = "+" ++ String.ofList rest := by
    refine hsign.imp (fun hs => ?_) fun hs => ?_
    · rw [← hs, String.ofList_toList]
    · rw [← String.toList_inj, hs]
      simp
  split_ifs at h with hinf hminus hnan
  · rcases hinf with (hw | hw) | hw <;> rw [hw] at hs <;> rcases hs with rfl | rfl <;>
      exact .inl (by decide)
  · rcases hminus with (rfl | rfl) | rfl <;> exact .inl (by decide)
  · rcases hnan with (rfl | rfl) | rfl <;> exact .inl (by decide)
  · split at h
    case h_1 y hy =>
      obtain ⟨hfinite, hx⟩ := Option.ite_none_right_eq_some.mp h
      obtain rfl := Option.some.inj hx
      refine .inr ⟨hfinite, ?_⟩
      rcases hsign with hcs | hcs
      · rwa [← hcs, String.ofList_toList] at hy
      · have hrest : rest.head? ≠ some '+' ∧ rest.head? ≠ some '-' := by simpa [hcs] using hguard
        exact readFloat_plus hcs hrest.1 hrest.2 hy
    case h_2 => cases h

/-- No such word is a literal. -/
lemma infinite_not_read : ∀ s ∈ infinite,
    (∀ c ∈ s.toList, isNumeral c) ∧ (readFloat s).toOption.isNone := by
  have hall : infinite.all fun s => s.toList.all isNumeral && (readFloat s).toOption.isNone := by
    decide
  intro s hs
  have h := Bool.and_eq_true_iff.mp (List.all_eq_true.mp hall s hs)
  exact ⟨List.all_eq_true.mp h.1, h.2⟩

/-- A plain scalar that is a number keeps its text, which has the characters of numbers. -/
lemma Tree.ofPlain?_number {s w : String} {n : Number} (h : ofPlain? s = some (.number n w)) :
    w = s ∧ Numeral s ∧
      ((∃ i, n = .whole i) ∨ ∃ x, n = .real x ∧ (s ∈ infinite ∨ x.isFinite)) := by
  unfold ofPlain? at h
  split at h
  case isTrue => cases h
  case isFalse hnull =>
    have hne : s ≠ "" := fun hs => hnull (by simp [hs])
    split at h
    case h_1 => cases h
    case h_2 =>
      split at h
      case h_1 i hi =>
        obtain ⟨i, rfl, hn⟩ := Option.map_eq_some_iff.mp h
        cases hn
        exact ⟨rfl, ⟨hne, isNumeral_of_readWhole? hi⟩, .inl ⟨i, rfl⟩⟩
      case h_2 =>
        split at h
        case isTrue => cases h
        case isFalse =>
          split at h
          case h_1 x hx =>
            cases h
            rcases readReal?_cases hx with hs | ⟨hfinite, hs⟩
            · exact ⟨rfl, ⟨hne, (infinite_not_read s hs).1⟩, .inr ⟨x, rfl, .inl hs⟩⟩
            · exact ⟨rfl, ⟨hne, isNumeral_of_readFloat hs⟩, .inr ⟨x, rfl, .inr hfinite⟩⟩
          case h_2 => cases h

/-- The text of a number is read as a literal if the scalar is. -/
lemma Number.read_text {t : String} {n : Number} {a : Schema.Number}
    (h : Tree.ofPlain? t = some (.number n t)) (ha : Schema.Number.read t = .ok a) :
    ∃ y, Schema.Number.read n.text = .ok ⟨y, n.text⟩ := by
  obtain ⟨-, hnumeral, ⟨i, rfl⟩ | ⟨x, rfl, hinfinite | hfinite⟩⟩ := Tree.ofPlain?_number h
  · obtain ⟨y, hy⟩ := readFloat_toString i
    exact ⟨y, Schema.Number.read_eq_ok hy⟩
  · have hnone := (infinite_not_read t hinfinite).2
    rw [(Schema.Number.read_of_isNumeral hnumeral.2 ha).1] at hnone
    cases hnone
  · obtain ⟨y, hy⟩ := readFloat_markup hfinite
    exact ⟨y, Schema.Number.read_eq_ok hy⟩

end Yaml

end TestData
