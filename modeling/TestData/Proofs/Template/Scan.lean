import TestData.Proofs.Decimal.Readable
import TestData.Template.Names

/-!
What the scan of a template finds.

Text in which no expression begins is passed over, up to a single brace at its end, which is no part
of the expression that follows. An expression that is written without blanks around it is read as
it stands. A dotted path is one word, and asks for its root.
-/

namespace TestData.Template

variable {cs e rest w helper : List Char} {s : Scan}

namespace Scan

/-- Scans the rest of a template. -/
def run (s : Scan) (cs : List Char) : Scan := (expressions none cs).foldl step s

end Scan

/-- The names of a template are those that the scan finds from its start. -/
lemma names_ofList (cs : List Char) :
    names (String.ofList cs) = (Scan.run ⟨[], []⟩ cs).found := by
  unfold names Scan.run
  rw [String.toList_ofList]

/-! ### Texts and expressions -/

/-- Text in which no expression begins. -/
structure Plain where
  chars : List Char
  closed : ¬['{', '{'] <:+: chars

/-- Text without characters. -/
def Plain.empty : Plain := ⟨[], by decide⟩

lemma closed_tail {c : Char} (h : ¬['{', '{'] <:+: c :: cs) : ¬['{', '{'] <:+: cs :=
  fun h' => h (h'.trans (List.suffix_cons c cs).isInfix)

lemma expressions_skip {c : Char} (h : c ≠ '{' ∨ cs.head? ≠ some '{') :
    expressions none (c :: cs) = expressions none cs := by
  rw [expressions]
  rintro rest rfl rfl
  simp at h

lemma head?_ne_of_closed (h : ¬['{', '{'] <:+: '{' :: cs) : cs.head? ≠ some '{' := by
  intro hc
  obtain ⟨rest, rfl⟩ := List.head?_eq_some_iff.mp hc
  exact h ⟨[], rest, rfl⟩

lemma expressions_closed (h : ¬['{', '{'] <:+: cs) : expressions none cs = [] := by
  induction cs with
  | nil => rfl
  | cons c cs ih =>
    rw [expressions_skip, ih (closed_tail h)]
    by_cases hc : c = '{'
    · subst hc
      exact .inr (head?_ne_of_closed h)
    · exact .inl hc

/-- The opening braces are found after the text, or at a brace that ends it. -/
lemma expressions_opening (h : ¬['{', '{'] <:+: cs) (rest : List Char) :
    ∃ front, (front = [] ∨ front = ['{']) ∧
      expressions none (cs ++ '{' :: '{' :: rest) = expressions (some front) rest := by
  induction cs with
  | nil => exact ⟨[], .inl rfl, rfl⟩
  | cons c cs ih =>
    rcases cs with _ | ⟨d, cs⟩
    · by_cases hc : c = '{'
      · subst hc
        exact ⟨['{'], .inr rfl, rfl⟩
      · refine ⟨[], .inl rfl, ?_⟩
        show expressions none (c :: '{' :: '{' :: rest) = _
        rw [expressions_skip (.inl hc)]
        rfl
    · obtain ⟨front, hfront, heq⟩ := ih (closed_tail h)
      refine ⟨front, hfront, ?_⟩
      rw [← heq]
      change expressions none (c :: (d :: cs ++ '{' :: '{' :: rest)) = _
      refine expressions_skip ?_
      by_cases hc : c = '{'
      · subst hc
        have hd : (d :: cs).head? ≠ some '{' := head?_ne_of_closed h
        exact .inr hd
      · exact .inl hc

lemma expressions_closing (h : '}' ∉ e) (front rest : List Char) :
    expressions (some front) (e ++ '}' :: '}' :: rest) =
      (front.reverse ++ e) :: expressions none rest := by
  induction e generalizing front with
  | nil => simp [expressions]
  | cons c e ih =>
    obtain ⟨hc, he⟩ := not_or.mp (mt List.mem_cons.mpr h)
    rw [List.cons_append, expressions, ih he, List.reverse_cons, List.append_assoc,
      List.singleton_append]
    rintro rest' rfl
    exact absurd rfl hc

/-! ### The core of an expression -/

/-- A character that may stand beside the braces without being lost. -/
def isEdge (c : Char) : Bool := !isMargin c && !Text.isBlank c

/-- An expression that is written without braces inside and without anything around it. -/
structure Tight (e : List Char) : Prop where
  closed : '}' ∉ e
  first : e.head?.any isEdge
  last : e.getLast?.any isEdge

lemma Tight.ends {p : Char → Bool} (he : Tight e) (hp : ∀ c, isEdge c → p c = false) :
    (∀ c ∈ e.head?, p c = false) ∧ ∀ c ∈ e.getLast?, p c = false := by
  have hall {o : Option Char} (ho : o.any isEdge) : ∀ c ∈ o, p c = false := by
    rintro c rfl
    exact hp c ho
  exact ⟨hall he.first, hall he.last⟩

lemma Tight.core_append {front : List Char} (he : Tight e) (hf : front = [] ∨ front = ['{']) :
    core (front ++ e) = e := by
  obtain ⟨hfirst, hlast⟩ := he.ends (p := isMargin) fun c hc => by
    simp only [isEdge, Bool.and_eq_true, Bool.not_eq_true'] at hc
    exact hc.1
  obtain ⟨hfirst', hlast'⟩ := he.ends (p := Text.isBlank) fun c hc => by
    simp only [isEdge, Bool.and_eq_true, Bool.not_eq_true'] at hc
    exact hc.2
  have hmargin : ∀ c ∈ front, isMargin c = true := by
    rcases hf with rfl | rfl
    · exact List.forall_mem_nil _
    · exact List.forall_mem_singleton.mpr rfl
  have hback : ([] ++ e.reverse).dropWhile isMargin = e.reverse := by
    refine Text.dropWhile_append_of_head? (List.forall_mem_nil _) ?_
    rwa [List.head?_reverse]
  rw [List.nil_append] at hback
  rw [core, Text.dropWhile_append_of_head? hmargin hfirst, hback, List.reverse_reverse,
    Text.trim_eq_self hfirst' hlast']

lemma Tight.core (he : Tight e) : core e = e := he.core_append (.inl rfl)

/-! ### Words -/

/-- A text without blanks. -/
def Solid (w : List Char) : Prop := ∀ c ∈ w, Text.isBlank c = false

instance (w : List Char) : Decidable (Solid w) :=
  List.decidableBAll (fun c => Text.isBlank c = false) w

lemma words_append_blank {b : Char} (hb : Text.isBlank b) (a c : List Char) :
    Text.words (a ++ b :: c) = Text.words a ++ Text.words c := by
  unfold Text.words
  rw [List.splitOnP_append_cons a c hb, List.filter_append]

lemma words_solid (hw : Solid w) (hne : w ≠ []) : Text.words w = [w] := by
  rw [Text.words, List.splitOnP_eq_singleton hw]
  simp [hne]

lemma words_pair (hw : Solid w) (hne : w ≠ []) (he : Solid e) (hne' : e ≠ []) :
    Text.words (w ++ ' ' :: e) = [w, e] := by
  rw [words_append_blank rfl, words_solid hw hne, words_solid he hne']
  rfl

/-- The first word begins where the text begins, unless that is with a blank. -/
lemma exists_words_cons {c : Char} (hc : Text.isBlank c = false) (cs : List Char) :
    ∃ first more, Text.words (c :: cs) = (c :: first) :: more := by
  obtain ⟨first, more, hsplit⟩ := List.exists_cons_of_ne_nil (List.splitOnP_ne_nil Text.isBlank cs)
  refine ⟨first, more.filter (· ≠ []), ?_⟩
  rw [Text.words, List.splitOnP_cons_eq_if_modifyHead, hsplit, hc]
  rfl

namespace Scan

lemma step_congr {a b : List Char} (h : core a = core b) : s.step a = s.step b := by
  unfold step
  rw [h]

/-! ### Steps of the scan -/

/-- A scan that stands at the braces of an expression or at the end. -/
inductive AtTag : List Char → Prop
  | done : AtTag []
  | tag {e : List Char} (he : Tight e) (rest : List Char) :
    AtTag ('{' :: '{' :: (e ++ '}' :: '}' :: rest))

lemma run_plain_tag (t : Plain) (he : Tight e) (rest : List Char) :
    s.run (t.chars ++ '{' :: '{' :: (e ++ '}' :: '}' :: rest)) = (s.step e).run rest := by
  obtain ⟨front, hfront, hopen⟩ := expressions_opening t.closed (e ++ '}' :: '}' :: rest)
  have hcore : core (front.reverse ++ e) = core e := by
    rw [he.core, he.core_append (by rcases hfront with rfl | rfl <;> simp)]
  rw [run, hopen, expressions_closing he.closed, List.foldl_cons, run, step_congr hcore]

lemma run_tag (he : Tight e) (rest : List Char) :
    s.run ('{' :: '{' :: (e ++ '}' :: '}' :: rest)) = (s.step e).run rest :=
  run_plain_tag .empty he rest

/-- Text is passed over. -/
lemma run_plain (t : Plain) (hrest : AtTag rest) : s.run (t.chars ++ rest) = s.run rest := by
  cases hrest with
  | done =>
    rw [List.append_nil, run, expressions_closed t.closed]
    rfl
  | tag he rest => rw [run_plain_tag t he, run_tag he]

/-- Meets words where it stands. -/
def meets (s : Scan) (words : List (List Char)) : Scan := s.use (s.blocks.any id) words

lemma step_close (he : Tight ('/' :: w)) :
    s.step ('/' :: w) = { s with blocks := s.blocks.drop 1 } := by
  unfold step
  rw [he.core]
  rfl

lemma step_open {args : List (List Char)} (he : Tight ('#' :: w))
    (hw : Text.words ('#' :: w) = ('#' :: helper) :: args) :
    s.step ('#' :: w) =
      { s with blocks := (helper = "each".toList || helper = "with".toList) :: s.blocks }.use
        (s.blocks.any id) args := by
  unfold step
  rw [he.core]
  split
  case h_1 heq => cases heq
  case h_2 heq => cases heq
  case h_3 heq => cases heq
  case h_4 =>
    rw [hw]
    rfl

/-- An expression that begins with a name shows what its words name. -/
lemma step_show (he : Tight e) (hstart : e.head?.any startsName) :
    s.step e = s.meets (Text.words e) := by
  rcases e with _ | ⟨c, w⟩
  · cases hstart
  have hc : startsName c := hstart
  have hedge : isEdge c := he.first
  simp only [isEdge, Bool.and_eq_true, Bool.not_eq_true'] at hedge
  obtain ⟨first, more, hw⟩ := exists_words_cons hedge.2 w
  have hsign : c ≠ '/' ∧ c ≠ '!' ∧ c ≠ '>' ∧ c ≠ '#' := by
    refine ⟨?_, ?_, ?_, ?_⟩ <;> rintro rfl <;> cases hc
  unfold step
  rw [he.core]
  split
  case h_1 heq => exact absurd (List.cons.inj heq).1 hsign.1
  case h_2 heq => exact absurd (List.cons.inj heq).1 hsign.2.1
  case h_3 heq => exact absurd (List.cons.inj heq).1 hsign.2.2.1
  case h_4 =>
    rw [hw]
    split
    case h_1 heq => exact absurd (List.cons.inj (List.cons.inj heq).1).1 hsign.2.2.2
    case h_2 => rfl

end Scan

/-! ### Dotted paths -/

/-- A path of names joined by dots, which begins with a name that may be asked for. -/
structure NamePath where
  root : String
  rest : List String
  starts : root.toList.head?.any startsName
  named : ∀ s ∈ root :: rest, s.toList ≠ [] ∧ s.toList.all isNameChar
  free : root ∉ helpers ∧ root ∉ keywords

/-- Names that are joined by dots. -/
def joined (names : List String) : List Char := ['.'].intercalate (names.map String.toList)

lemma joined_cons (name : String) (names : List String) :
    ∃ tail, joined (name :: names) = name.toList ++ tail ∧
      (tail = [] ∧ names = [] ∨ tail = '.' :: joined names ∧ names ≠ []) := by
  rcases names with _ | ⟨next, names⟩
  · exact ⟨[], by simp [joined], .inl ⟨rfl, rfl⟩⟩
  · exact ⟨'.' :: joined (next :: names), by simp [joined], .inr ⟨rfl, List.cons_ne_nil _ _⟩⟩

lemma head?_joined {name : String} {names : List String} (hne : name.toList ≠ []) :
    (joined (name :: names)).head? = name.toList.head? := by
  obtain ⟨tail, hchars, -⟩ := joined_cons name names
  obtain ⟨c, cs, hname⟩ := List.exists_cons_of_ne_nil hne
  rw [hchars, hname]
  rfl

lemma takeWhile_joined {name : String} (h : name.toList.all isNameChar) (names : List String) :
    (joined (name :: names)).takeWhile (· ≠ '.') = name.toList := by
  obtain ⟨tail, hchars, htail⟩ := joined_cons name names
  have hname : ∀ c ∈ name.toList, decide (c ≠ '.') = true := by
    intro c hc
    have hall := List.all_eq_true.mp h _ hc
    rw [decide_eq_true_iff]
    rintro rfl
    cases hall
  rw [hchars, List.takeWhile_append_of_pos hname]
  rcases htail with ⟨rfl, -⟩ | ⟨rfl, -⟩ <;> simp

lemma mem_joined {names : List String} (h : ∀ s ∈ names, s.toList.all isNameChar) :
    ∀ c ∈ joined names, isNameChar c ∨ c = '.' := by
  induction names with
  | nil => exact fun c hc => absurd hc List.not_mem_nil
  | cons name names ih =>
    obtain ⟨hname, hnames⟩ := List.forall_mem_cons.mp h
    obtain ⟨tail, hchars, htail⟩ := joined_cons name names
    rw [hchars]
    intro c hc
    rcases List.mem_append.mp hc with hc | hc
    · exact .inl (List.all_eq_true.mp hname c hc)
    · rcases htail with ⟨rfl, -⟩ | ⟨rfl, -⟩
      · cases hc
      · rcases List.mem_cons.mp hc with rfl | hc
        · exact .inr rfl
        · exact ih hnames c hc

lemma getLast?_joined {names : List String} (hne : names ≠ [])
    (h : ∀ s ∈ names, s.toList ≠ [] ∧ s.toList.all isNameChar) :
    (joined names).getLast?.any isNameChar := by
  induction names with
  | nil => exact absurd rfl hne
  | cons name names ih =>
    obtain ⟨⟨hname, hall⟩, hnames⟩ := List.forall_mem_cons.mp h
    obtain ⟨tail, hchars, ⟨rfl, -⟩ | ⟨rfl, hne'⟩⟩ := joined_cons name names
    · rw [hchars, List.append_nil, List.getLast?_eq_some_getLast hname]
      exact List.all_eq_true.mp hall _ (List.getLast_mem hname)
    · have hlast := ih hne' hnames
      rcases hj : (joined names).getLast? with _ | c <;> rw [hj] at hlast
      · cases hlast
      · rw [hchars, List.getLast?_append, List.getLast?_cons, hj]
        exact hlast

namespace NamePath

/-- The path as it is written. -/
def chars (p : NamePath) : List Char := joined (p.root :: p.rest)

variable (p : NamePath)

lemma chars_ne_nil : p.chars ≠ [] := by
  obtain ⟨tail, hchars, -⟩ := joined_cons p.root p.rest
  rw [chars, hchars]
  exact List.append_ne_nil_of_left_ne_nil (p.named _ List.mem_cons_self).1 _

lemma head?_chars : p.chars.head?.any startsName := by
  rw [chars, head?_joined (p.named _ List.mem_cons_self).1]
  exact p.starts

lemma splitOn_chars : p.chars.splitOn '.' = (p.root :: p.rest).map String.toList := by
  refine List.splitOn_intercalate _ (fun l hl hdot => ?_) (by simp)
  obtain ⟨s, hs, rfl⟩ := List.mem_map.mp hl
  have hall := List.all_eq_true.mp (p.named s hs).2 _ hdot
  cases hall

lemma isDotted_chars : isDotted p.chars := by
  unfold isDotted
  rw [splitOn_chars, Bool.and_eq_true]
  refine ⟨p.head?_chars, List.all_eq_true.mpr fun l hl => ?_⟩
  obtain ⟨s, hs, rfl⟩ := List.mem_map.mp hl
  simpa using p.named s hs

lemma takeWhile_chars : p.chars.takeWhile (· ≠ '.') = p.root.toList :=
  takeWhile_joined (p.named _ List.mem_cons_self).2 p.rest

/-- A path asks for its root. -/
lemma root?_chars : Scan.root? p.chars = some p.root := by
  have hfree := p.free
  unfold Scan.root?
  rw [takeWhile_chars, String.ofList_toList, isDotted_chars]
  simp [hfree.1, hfree.2]

end NamePath

/-! ### Characters of paths -/

section

variable {c : Char} (h : isNameChar c ∨ c = '.')

include h

lemma toNat_of_isNameChar : 43 ≤ c.toNat ∧ c.toNat ≤ 122 := by
  by_cases hc : c = '_'
  · subst hc
    decide
  · refine Decimal.toNat_of_isNumeral ?_
    rcases h with h | rfl
    · exact Decimal.isNumeral_of_isAlphanum (by simpa [isNameChar, hc] using h)
    · rfl

lemma isBlank_of_isNameChar : Text.isBlank c = false := by
  obtain ⟨hlow, hhigh⟩ := toNat_of_isNameChar h
  simp only [Text.isBlank, Bool.or_eq_false_iff, Bool.and_eq_false_iff, beq_eq_false_iff_ne,
    decide_eq_false_iff_not]
  omega

lemma isEdge_of_isNameChar : isEdge c := by
  obtain ⟨hlow, hhigh⟩ := toNat_of_isNameChar h
  have hne (d : Char) (hd : 123 ≤ d.toNat) : c ≠ d := by
    rintro rfl
    omega
  simp [isEdge, isBlank_of_isNameChar h, isMargin, hne '{' (by decide), hne '}' (by decide),
    hne '~' (by decide)]

end

namespace NamePath

variable (p : NamePath)

lemma mem_chars : ∀ c ∈ p.chars, isNameChar c ∨ c = '.' :=
  mem_joined fun s hs => (p.named s hs).2

lemma solid_chars : Solid p.chars := fun c hc => isBlank_of_isNameChar (p.mem_chars c hc)

lemma closed_chars : '}' ∉ p.chars := fun hc => absurd (p.mem_chars _ hc) (by decide)

lemma getLast?_chars : p.chars.getLast?.any isEdge := by
  have hlast := getLast?_joined (List.cons_ne_nil p.root p.rest) p.named
  rw [Option.any_eq_true] at hlast ⊢
  obtain ⟨c, hc, hname⟩ := hlast
  exact ⟨c, hc, isEdge_of_isNameChar (.inl hname)⟩

end NamePath

end TestData.Template
