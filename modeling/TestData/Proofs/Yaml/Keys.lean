import TestData.Proofs.Decimal.Denotation
import TestData.Proofs.Yaml.Mappings

/-!
The texts of keys.

The texts of two keys that differ are the same only if one key is a string and the other a number
or a truth value.
-/

namespace TestData.Yaml

/-- The text of a number has a digit or a point after its sign. -/
lemma Number.head?_text (n : Number) : ∃ c,
    (Decimal.signOf n.text.toList).2.head? = some c ∧ (Decimal.isDigit c ∨ c = '.') := by
  cases n with
  | whole z =>
    obtain ⟨c, cs, hcs⟩ := List.exists_cons_of_ne_nil (Decimal.toString_ne_nil z.natAbs)
    refine ⟨c, ?_, .inl (Decimal.isDigit_of_mem_toString (hcs ▸ List.mem_cons_self))⟩
    rw [text, Decimal.signOf_toString, hcs]
    rfl
  | real x =>
    cases hx : x.isFinite with
    | true =>
      obtain ⟨body, hbody, -, hsign, -⟩ := Decimal.signOf_markup hx
      obtain ⟨c, rest, rfl, hc⟩ := hbody.head?
      refine ⟨c, ?_, .inl hc⟩
      rw [text, hsign]
      rfl
    | false => exact ⟨'.', Decimal.head?_markup hx, .inr rfl⟩

lemma Number.text_ne_bool (n : Number) (b : Bool) : n.text ≠ if b then "true" else "false" := by
  intro h
  obtain ⟨c, hc, hkind⟩ := n.head?_text
  have hletter : c = 't' ∨ c = 'f' := by
    cases b <;> rw [h] at hc <;> obtain rfl := Option.some.inj hc
    · exact .inr rfl
    · exact .inl rfl
  rcases hletter with rfl | rfl <;> rcases hkind with hkind | hkind <;> cases hkind

/-- Numbers of the same text are the same key. -/
lemma Number.same_of_text {a b : Number} (h : a.text = b.text) : a.same b = true := by
  cases a with
  | whole m =>
    cases b with
    | whole n => exact beq_iff_eq.mpr (Decimal.toString_int_inj h)
    | real y => exact absurd h.symm (Decimal.markup_ne_toString y m)
  | real x =>
    cases b with
    | whole n => exact absurd h (Decimal.markup_ne_toString x n)
    | real y =>
      rw [same, Bool.or_eq_true, Bool.and_eq_true]
      exact Decimal.markup_inj h

namespace Tree

/-- **Keys of the same text** are the same key if both are strings or neither is. -/
theorem same_of_keyText? {a b : Tree} {s : String} (ha : a.keyText? = some s)
    (hb : b.keyText? = some s) (h : a.isString = b.isString) : a.same b = true := by
  have hword {p q : Bool} (h : (if p then "true" else "false") =
      if q then "true" else "false") : p = q := by
    cases p <;> cases q <;> first | rfl | exact absurd h (by decide)
  have heq := ha.trans hb.symm
  cases a with
  | string r =>
    cases b with
    | string t => exact beq_iff_eq.mpr (Option.some.inj heq)
    | _ => cases h
  | number m _ =>
    cases b with
    | number n _ => exact Number.same_of_text (Option.some.inj heq)
    | bool q => exact absurd (Option.some.inj heq) (m.text_ne_bool q)
    | string => cases h
    | _ => cases hb
  | bool p =>
    cases b with
    | number n _ => exact absurd (Option.some.inj heq).symm (n.text_ne_bool p)
    | bool q => exact beq_iff_eq.mpr (hword (Option.some.inj heq))
    | string => cases h
    | _ => cases hb
  | _ => cases ha

/-- A string and what is no string have the same text. -/
def Mixed (keys : List Tree) : Prop :=
  ∃ a ∈ keys, ∃ b ∈ keys, a.isString = true ∧ b.isString = false ∧ a.keyText? = b.keyText?

/-- **Keys that differ have different texts** unless a string is written as another key is. -/
theorem nodup_texts_iff {keys : List Tree} {names : List String} (hkeys : Distinct keys)
    (hnames : keys.map keyText? = names.map some) : names.Nodup ↔ ¬Mixed keys := by
  rw [← List.nodup_map_iff (Option.some_injective String), ← hnames]
  constructor
  · rintro hnodup ⟨a, ha, b, hb, hstring, hother, htext⟩
    obtain rfl := List.inj_on_of_nodup_map hnodup ha hb htext
    exact Bool.false_ne_true (hother.symm.trans hstring)
  · intro hmixed
    refine List.pairwise_map.mpr (hkeys.imp_of_mem fun {a b} ha hb hsame htext => ?_)
    have htexts : ∀ c ∈ keys, ∃ s, c.keyText? = some s := by
      intro c hc
      have hmem := List.mem_map_of_mem (f := keyText?) hc
      rw [hnames] at hmem
      obtain ⟨s, -, hs⟩ := List.mem_map.mp hmem
      exact ⟨s, hs.symm⟩
    obtain ⟨s, hs⟩ := htexts a ha
    cases hstring : a.isString <;> cases hstring' : b.isString
    case false.true => exact hmixed ⟨b, hb, a, ha, hstring', hstring, htext.symm⟩
    case true.false => exact hmixed ⟨a, ha, b, hb, hstring, hstring', htext⟩
    all_goals
      have hsame' := same_of_keyText? hs (htext ▸ hs) (hstring.trans hstring'.symm)
      exact Bool.false_ne_true (hsame.symm.trans hsame')

end Tree

end TestData.Yaml
