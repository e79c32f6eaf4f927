import Mathlib.Data.List.DropRight
import Mathlib.Data.List.TakeWhile
import Mathlib.Tactic.Common
import TestData.Text.Blank

/-!
Texts without the blanks at their ends.

Only blanks are taken off, and all of them: blanks around a text that neither starts nor ends with
one are what is taken off.
-/

namespace TestData.Text

variable {α : Type} {p : α → Bool} {front l : List α} {before cs after : List Char}

/-- Nothing but blanks. -/
def Blanks (cs : List Char) : Prop := ∀ c ∈ cs, isBlank c = true

lemma dropWhile_append_of_head? (hfront : ∀ a ∈ front, p a = true)
    (hl : ∀ a ∈ l.head?, p a = false) : (front ++ l).dropWhile p = l := by
  rw [List.dropWhile_append_of_pos hfront]
  cases l with
  | nil => rfl
  | cons a l => exact List.dropWhile_cons_of_neg (by simp [hl a rfl])

lemma trim_eq (cs : List Char) : trim cs = (cs.dropWhile isBlank).rdropWhile isBlank := rfl

/-- Only blanks are taken off. -/
lemma exists_blanks_around_trim (cs : List Char) :
    ∃ before after, cs = before ++ trim cs ++ after ∧ Blanks before ∧ Blanks after := by
  refine ⟨cs.takeWhile isBlank, (cs.dropWhile isBlank).rtakeWhile isBlank, ?_,
    fun c => List.mem_takeWhile_imp, fun c => List.mem_rtakeWhile_imp⟩
  rw [trim_eq, List.append_assoc, List.rdropWhile_append_rtakeWhile,
    List.takeWhile_append_dropWhile]

/-- All blanks are taken off. -/
lemma trim_blanks_around (hbefore : Blanks before) (hafter : Blanks after)
    (hhead : ∀ c ∈ cs.head?, isBlank c = false) (hlast : ∀ c ∈ cs.getLast?, isBlank c = false) :
    trim (before ++ cs ++ after) = cs := by
  rcases eq_or_ne cs [] with rfl | hne
  · have hall : Blanks (before ++ [] ++ after) := by
      rw [List.append_nil]
      exact List.forall_mem_append.mpr ⟨hbefore, hafter⟩
    rw [trim_eq, List.dropWhile_eq_nil_iff.mpr hall, List.rdropWhile_nil]
  · have hleft : (before ++ cs ++ after).dropWhile isBlank = cs ++ after := by
      rw [List.append_assoc]
      refine dropWhile_append_of_head? hbefore ?_
      rwa [List.head?_append_of_ne_nil _ hne]
    have hright : (after.reverse ++ cs.reverse).dropWhile isBlank = cs.reverse := by
      refine dropWhile_append_of_head? (fun c hc => hafter c (List.mem_reverse.mp hc)) ?_
      rwa [List.head?_reverse]
    rw [trim_eq, hleft, List.rdropWhile, List.reverse_append, hright, List.reverse_reverse]

/-- A text that neither starts nor ends with a blank stays. -/
lemma trim_eq_self (hhead : ∀ c ∈ cs.head?, isBlank c = false)
    (hlast : ∀ c ∈ cs.getLast?, isBlank c = false) : trim cs = cs := by
  have hnil : Blanks [] := List.forall_mem_nil _
  have htrim := trim_blanks_around hnil hnil hhead hlast
  rwa [List.nil_append, List.append_nil] at htrim

end TestData.Text
