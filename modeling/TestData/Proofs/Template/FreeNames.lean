import TestData.Proofs.Template.Scan

/-!
The names of a template are its free names.

A template is text with paths, alone or after a helper, and with blocks, which nest. Its free names
are the roots of the paths that stand in no body of a block with a context of its own. The scan,
which knows of the blocks only how many are open and which of them have such a context, finds them
in order of first use.
-/

namespace TestData.Template

/-! ### Templates as trees -/

/-- A block. -/
inductive Block
  | given
  | lacking
  | each
  | within
  deriving DecidableEq

namespace Block

/-- The word for a block. -/
def word : Block → String
  | given => "if"
  | lacking => "unless"
  | each => "each"
  | within => "with"

/-- Whether the body of a block has a context of its own. -/
def rebinds : Block → Bool
  | given | lacking => false
  | each | within => true

end Block

/-- A path that is shown, as it is or through a helper for text. -/
inductive Mention
  | path (p : NamePath)
  | call (helper : { h : String // h ∈ helpers }) (p : NamePath)

namespace Mention

/-- What is written between the braces. -/
def chars : Mention → List Char
  | path p => p.chars
  | call h p => h.1.toList ++ ' ' :: p.chars

/-- The name that is asked for. -/
def root : Mention → String
  | path p | call _ p => p.root

end Mention

/-- What is written where a block opens. -/
def Block.opening (b : Block) (p : NamePath) : List Char := '#' :: (b.word.toList ++ ' ' :: p.chars)

/-- What is written where a block closes. -/
def Block.closing (b : Block) : List Char := '/' :: b.word.toList

/-- A template: text that is followed by nothing, by a path that is shown, or by a block, each with
what follows it. -/
inductive Outline
  | text (t : Plain)
  | mention (t : Plain) (m : Mention) (rest : Outline)
  | block (t : Plain) (b : Block) (p : NamePath) (body rest : Outline)

namespace Outline

/-- An expression between braces and what follows it. -/
def braced (e rest : List Char) : List Char := '{' :: '{' :: (e ++ '}' :: '}' :: rest)

/-- The template as it is written, with what follows it. -/
def write : Outline → List Char → List Char
  | text t, after => t.chars ++ after
  | mention t m rest, after => t.chars ++ braced m.chars (rest.write after)
  | block t b p body rest, after =>
    t.chars ++ braced (b.opening p) (body.write (braced b.closing (rest.write after)))

/-- The text of the template. -/
def source (o : Outline) : String := String.ofList (o.write [])

/-- The roots of the paths that are in no body of a block with a context of its own, in order. -/
def roots : Outline → List String
  | text _ => []
  | mention _ m rest => m.root :: rest.roots
  | block _ b p body rest => p.root :: ((if b.rebinds then [] else body.roots) ++ rest.roots)

/-- The free names, in order of first use. -/
def freeNames (o : Outline) : List String := o.roots.eraseDups

end Outline

/-! ### Expressions of templates -/

variable {s : Scan} {rest : List Char} {b : Block} (p : NamePath)

lemma helper_facts : ∀ h ∈ helpers, Scan.root? h.toList = none ∧ h.toList ≠ [] ∧
    Solid h.toList ∧ '}' ∉ h.toList ∧ h.toList.head?.any startsName ∧
      h.toList.head?.any isEdge := by
  decide

lemma word_facts (b : Block) : Solid b.word.toList ∧ '}' ∉ b.word.toList ∧
    b.word.toList.getLast?.any isEdge ∧
    ((b.word.toList = "each".toList || b.word.toList = "with".toList) = b.rebinds) := by
  cases b <;> decide

lemma any_head?_append {q : Char → Bool} {w : List Char} (h : w.head?.any q) (cs : List Char) :
    (w ++ cs).head?.any q := by
  cases w with
  | nil => cases h
  | cons c w => exact h

lemma tight_word_path {w : List Char} (hclosed : '}' ∉ w) (hfirst : w.head?.any isEdge) :
    Tight (w ++ ' ' :: p.chars) := by
  refine ⟨?_, any_head?_append hfirst _, ?_⟩
  · simp [hclosed, p.closed_chars]
  · obtain ⟨c, hc, hedge⟩ := Option.any_eq_true _ _ |>.mp p.getLast?_chars
    rw [List.getLast?_append, List.getLast?_cons, hc]
    exact hedge

lemma Mention.tight (m : Mention) : Tight m.chars := by
  cases m with
  | path p =>
    obtain ⟨c, hc, -⟩ := Option.any_eq_true _ _ |>.mp p.head?_chars
    have hedge := isEdge_of_isNameChar (p.mem_chars c (List.mem_of_head? hc))
    refine ⟨p.closed_chars, ?_, p.getLast?_chars⟩
    rwa [chars, hc]
  | call h p =>
    obtain ⟨-, -, -, hclosed, -, hedge⟩ := helper_facts h.1 h.2
    exact tight_word_path p hclosed hedge

lemma Block.tight_opening : Tight (b.opening p) :=
  tight_word_path p (w := '#' :: b.word.toList) (by simp [(word_facts b).2.1]) rfl

lemma Block.tight_closing : Tight b.closing := by
  obtain ⟨-, hclosed, hlast, -⟩ := word_facts b
  obtain ⟨c, hc, hedge⟩ := Option.any_eq_true _ _ |>.mp hlast
  refine ⟨by simp [closing, hclosed], rfl, ?_⟩
  rw [closing, List.getLast?_cons, hc]
  exact hedge

/-! ### What the scan does at them -/

namespace Scan

/-- Asks for names, unless an open block has a context of its own. -/
def asks (s : Scan) (names : List String) : Scan :=
  if s.blocks.any id then s else { s with found := names.foldl add s.found }

/-- Goes into a block. -/
def enter (s : Scan) (own : Bool) : Scan := { s with blocks := own :: s.blocks }

/-- Goes out of the innermost block. -/
def leave (s : Scan) : Scan := { s with blocks := s.blocks.drop 1 }

lemma asks_nil : s.asks [] = s := by
  unfold asks
  split <;> rfl

lemma asks_asks (s : Scan) (a b : List String) : (s.asks a).asks b = s.asks (a ++ b) := by
  unfold asks
  by_cases h : s.blocks.any id
  · simp [h]
  · simp [h, List.foldl_append]

/-- What is asked for in a block counts unless the block has a context of its own. -/
lemma leave_asks_enter (s : Scan) (own : Bool) (names : List String) :
    ((s.enter own).asks names).leave = s.asks (if own then [] else names) := by
  cases own with
  | true => exact (asks_nil (s := s)).symm
  | false =>
    by_cases h : s.blocks.any id <;> simp [asks, enter, leave, h]

lemma step_mention (s : Scan) (m : Mention) : s.step m.chars = s.asks [m.root] := by
  cases m with
  | path p =>
    rw [step_show (Mention.path p).tight p.head?_chars]
    unfold Mention.chars
    rw [meets, words_solid p.solid_chars p.chars_ne_nil, use, List.filterMap_cons, p.root?_chars]
    rfl
  | call h p =>
    obtain ⟨hroot, hne, hsolid, -, hstart, -⟩ := helper_facts h.1 h.2
    rw [step_show (Mention.call h p).tight (any_head?_append hstart _)]
    unfold Mention.chars
    rw [meets, words_pair hsolid hne p.solid_chars p.chars_ne_nil, use, List.filterMap_cons, hroot,
      List.filterMap_cons, p.root?_chars]
    rfl

/-- The argument of a block is asked for around the block. -/
lemma step_opening (s : Scan) (b : Block) :
    s.step (b.opening p) = (s.asks [p.root]).enter b.rebinds := by
  obtain ⟨hsolid, -, -, hown⟩ := word_facts b
  have hwords : Text.words (b.opening p) = ('#' :: b.word.toList) :: [p.chars] :=
    words_pair (w := '#' :: b.word.toList) (List.forall_mem_cons.mpr ⟨rfl, hsolid⟩)
      (List.cons_ne_nil _ _) p.solid_chars p.chars_ne_nil
  unfold Block.opening at hwords ⊢
  rw [step_open (Block.tight_opening p) hwords, hown, use, List.filterMap_cons, p.root?_chars]
  by_cases h : s.blocks.any id <;> simp [asks, enter, h]

lemma step_closing (s : Scan) (b : Block) : s.step b.closing = s.leave :=
  step_close Block.tight_closing

/-- A scan of a template asks for its roots and leaves the open blocks as they are. What follows
the template begins with an expression, so that it cannot take a brace from its last text. -/
lemma run_write (o : Outline) (s : Scan) (hrest : AtTag rest) :
    s.run (o.write rest) = (s.asks o.roots).run rest := by
  induction o generalizing s rest with
  | text t =>
    rw [Outline.write, run_plain t hrest, Outline.roots, asks_nil]
  | mention t m o ih =>
    rw [Outline.write, Outline.braced, run_plain_tag t m.tight, step_mention, ih _ hrest, asks_asks]
    rfl
  | block t b p body o ihbody ih =>
    have hclose : AtTag (Outline.braced b.closing (o.write rest)) :=
      .tag Block.tight_closing (o.write rest)
    rw [Outline.write, Outline.braced, run_plain_tag t (b.tight_opening p), step_opening,
      ihbody _ hclose, Outline.braced, run_tag Block.tight_closing, step_closing, leave_asks_enter,
      ih _ hrest, asks_asks, asks_asks]
    rfl

end Scan

/-! ### The names -/

lemma foldl_add (found more : List String) :
    more.foldl Scan.add found.eraseDups = (found ++ more).eraseDups := by
  induction more generalizing found with
  | nil => rw [List.append_nil, List.foldl_nil]
  | cons name more ih =>
    have hadd : Scan.add found.eraseDups name = (found ++ [name]).eraseDups := by
      unfold Scan.add
      rw [List.eraseDups_append]
      by_cases h : name ∈ found <;> simp [h, List.removeAll, List.eraseDups_cons]
    rw [List.foldl_cons, hadd, ih, List.append_assoc, List.singleton_append]

/-- The names of a template are its free names. -/
theorem names_eq_freeNames (o : Outline) : names o.source = o.freeNames := by
  have hrun := Scan.run_write o ⟨[], []⟩ .done
  calc names o.source
      = (Scan.run ⟨[], []⟩ (o.write [])).found := names_ofList _
    _ = o.roots.foldl Scan.add [] := by rw [hrun]; rfl
    _ = o.freeNames := foldl_add [] o.roots

end TestData.Template
