import TestData.Proofs.Session.Missing
import TestData.Proofs.Template.FreeNames

/-!
Literals in templates.

The scan for names splits an expression at its blanks and knows nothing of quotes. The first and the
last word of a quoted text carry a quote and are no names; but a word between them, with a blank on
either side, is taken for a path. So a literal asks for the roots of the paths that stand between
two of its blanks, and a template of literals looks these up each time it is rendered.
-/

namespace TestData

namespace Template

variable {w : List Char} {b c : Char} {name : String}

/-! ### Words of a text -/

/-- A text is one word or none, or what stands before a blank and after it. -/
lemma words_induction {P : List Char → Prop} (solid : ∀ w, Solid w → P w)
    (blank : ∀ w b rest, Solid w → Text.isBlank b → P rest → P (w ++ b :: rest))
    (cs : List Char) : P cs := by
  have hsolid : Solid (cs.takeWhile (!Text.isBlank ·)) := fun c hc => by
    simpa using List.mem_takeWhile_imp hc
  have hsplit := List.takeWhile_append_dropWhile (p := (!Text.isBlank ·)) (l := cs)
  rcases hd : cs.dropWhile (!Text.isBlank ·) with _ | ⟨b, rest⟩
  · rw [hd, List.append_nil] at hsplit
    rw [← hsplit]
    exact solid _ hsolid
  · have hb : Text.isBlank b := by
      have hhead := List.head?_dropWhile_not (!Text.isBlank ·) cs
      rw [hd] at hhead
      simpa using hhead
    rw [hd] at hsplit
    have hlt : rest.length < cs.length := by
      rw [← hsplit, List.length_append, List.length_cons]
      omega
    rw [← hsplit]
    exact blank _ b rest hsolid hb (words_induction solid blank rest)
termination_by cs.length

/-- A word stands at an end of the text or beside a blank, on either side. -/
lemma exists_of_mem_words {cs : List Char} (h : w ∈ Text.words cs) :
    ∃ front back, cs = front ++ w ++ back ∧ front.getLast?.all Text.isBlank ∧
      back.head?.all Text.isBlank := by
  induction cs using words_induction with
  | solid v hv =>
    by_cases hne : v = []
    · subst hne
      cases h
    · rw [words_solid hv hne, List.mem_singleton] at h
      exact ⟨[], [], by simp [h], rfl, rfl⟩
  | blank v b rest hv hb ih =>
    rw [words_append_blank hb] at h
    rcases List.mem_append.mp h with h | h
    · by_cases hne : v = []
      · subst hne
        cases h
      · rw [words_solid hv hne, List.mem_singleton] at h
        exact ⟨[], b :: rest, by simp [h], rfl, hb⟩
    · obtain ⟨front, back, rfl, hfront, hback⟩ := ih h
      refine ⟨v ++ b :: front, back, by simp, ?_, hback⟩
      rw [List.getLast?_append, List.getLast?_cons]
      rcases hl : front.getLast? with _ | d <;> rw [hl] at hfront
      · exact hb
      · exact hfront

lemma mem_words_between (hw : Solid w) (hne : w ≠ []) (hb : Text.isBlank b) (hc : Text.isBlank c)
    (front back : List Char) : w ∈ Text.words (front ++ b :: (w ++ c :: back)) := by
  rw [words_append_blank hb, words_append_blank hc, words_solid hw hne]
  simp

/-! ### Words that ask for names -/

/-- A word asks for a name if it is a path with this root. -/
lemma root?_eq_some_iff :
    Scan.root? w = some name ↔ ∃ p : NamePath, p.chars = w ∧ p.root = name := by
  refine ⟨fun h => ?_, fun ⟨p, hw, hr⟩ => hw ▸ hr ▸ p.root?_chars⟩
  obtain ⟨first, more, hsplit⟩ := List.exists_cons_of_ne_nil (List.splitOn_ne_nil '.' w)
  have hjoin : joined (String.ofList first :: more.map String.ofList) = w := by
    rw [joined, ← List.map_cons, List.map_map, ← hsplit]
    simp [Function.comp_def, List.intercalate_splitOn]
  unfold Scan.root? at h
  dsimp only at h
  split_ifs at h with hcond
  have hname := Option.some.inj h
  simp only [Bool.and_eq_true, Bool.not_eq_true', List.contains_eq_mem, decide_eq_false_iff_not]
    at hcond
  obtain ⟨⟨hdotted, hhelper⟩, hkeyword⟩ := hcond
  obtain ⟨hstart, hsegments⟩ := (Bool.and_eq_true _ _).mp hdotted
  rw [hsplit, List.all_eq_true] at hsegments
  have hnamed : ∀ s ∈ String.ofList first :: more.map String.ofList,
      s.toList ≠ [] ∧ s.toList.all isNameChar := by
    rw [← List.map_cons, List.forall_mem_map]
    intro l hl
    simpa using hsegments l hl
  have hfirst := hnamed _ List.mem_cons_self
  have htake := takeWhile_joined hfirst.2 (more.map String.ofList)
  rw [hjoin, String.toList_ofList] at htake
  rw [htake] at hname hhelper hkeyword
  refine ⟨⟨String.ofList first, more.map String.ofList, ?_, hnamed, hhelper, hkeyword⟩, hjoin,
    hname⟩
  rw [← head?_joined hfirst.1, hjoin]
  exact hstart

/-! ### Quoted texts -/

/-- Text that stands between double quotes as it is. -/
structure Quoted where
  chars : List Char
  bare : ∀ c ∈ chars, c ≠ '"' ∧ c ≠ '\\' ∧ c ≠ '{' ∧ c ≠ '}'

namespace Quoted

/-- The text between its quotes. -/
def written (q : Quoted) : List Char := '"' :: (q.chars ++ ['"'])

/-- The text after a helper for text. -/
def call (q : Quoted) (h : { h : String // h ∈ helpers }) : List Char :=
  h.1.toList ++ ' ' :: q.written

/-- The names that the text asks for. -/
def asked (q : Quoted) : List String := (Text.words q.written).filterMap Scan.root?

/-- A path stands between two blanks of the text. -/
def Exposes (q : Quoted) (p : NamePath) : Prop :=
  ∃ front b c back, q.chars = front ++ b :: (p.chars ++ c :: back) ∧ Text.isBlank b ∧
    Text.isBlank c

variable (q : Quoted)

lemma quote_notMem_path (p : NamePath) : '"' ∉ p.chars := fun h =>
  absurd (p.mem_chars _ h) (by decide)

/-- A path that is a word between quotes has a blank on either side. -/
lemma exposes_of_mem_words {p : NamePath} (h : p.chars ∈ Text.words q.written) : q.Exposes p := by
  obtain ⟨front, back, hsplit, hfront, hback⟩ := exists_of_mem_words h
  have hpath := quote_notMem_path p
  -- the quotes are no part of the path, so each is at the far end of what stands beside the path
  rcases front with _ | ⟨d, front⟩
  · obtain ⟨e, cs, hp⟩ := List.exists_cons_of_ne_nil p.chars_ne_nil
    rw [hp, List.nil_append, List.cons_append] at hsplit
    rw [hp, ← (List.cons.inj hsplit).1] at hpath
    exact absurd List.mem_cons_self hpath
  have hrest : q.chars ++ ['"'] = front ++ p.chars ++ back := (List.cons.inj hsplit).2
  obtain rfl : '"' = d := (List.cons.inj hsplit).1
  rcases List.eq_nil_or_concat back with rfl | ⟨back, e, rfl⟩
  · obtain ⟨e, hlast, -⟩ := (Option.any_eq_true _ _).mp p.getLast?_chars
    have hq := congrArg List.getLast? hrest
    rw [List.append_nil, List.getLast?_append, List.getLast?_append, hlast] at hq
    obtain rfl : '"' = e := Option.some.inj hq
    exact absurd (List.mem_of_getLast? hlast) hpath
  rw [List.concat_eq_append, ← List.append_assoc] at hrest
  obtain ⟨hchars, he⟩ := List.append_inj' hrest rfl
  obtain rfl : '"' = e := List.singleton_inj.mp he
  rcases List.eq_nil_or_concat front with rfl | ⟨front, b, rfl⟩
  · cases hfront
  rcases back with _ | ⟨c, back⟩
  · cases hback
  refine ⟨front, b, c, back, by simpa using hchars, ?_, hback⟩
  rw [List.concat_eq_append, ← List.cons_append, List.getLast?_append] at hfront
  exact hfront

lemma mem_asked : name ∈ q.asked ↔ ∃ p : NamePath, q.Exposes p ∧ p.root = name := by
  rw [asked, List.mem_filterMap]
  constructor
  · rintro ⟨w, hw, hroot⟩
    obtain ⟨p, rfl, rfl⟩ := root?_eq_some_iff.mp hroot
    exact ⟨p, q.exposes_of_mem_words hw, rfl⟩
  · rintro ⟨p, ⟨front, b, c, back, hchars, hb, hc⟩, rfl⟩
    refine ⟨p.chars, ?_, p.root?_chars⟩
    have hwritten : q.written = ('"' :: front) ++ b :: (p.chars ++ c :: (back ++ ['"'])) := by
      rw [written, hchars]
      simp
    rw [hwritten]
    exact mem_words_between p.solid_chars p.chars_ne_nil hb hc _ _

/-! ### What the scan does at them -/

lemma tight_call (h : { h : String // h ∈ helpers }) : Tight (q.call h) := by
  obtain ⟨-, -, -, hclosed, -, hedge⟩ := helper_facts h.1 h.2
  refine ⟨?_, any_head?_append hedge _, ?_⟩
  · have hq : '}' ∉ q.chars := fun hc => (q.bare _ hc).2.2.2 rfl
    simp [call, written, hclosed, hq]
  · rw [call, written, List.getLast?_append, List.getLast?_cons, List.getLast?_cons,
      List.getLast?_append]
    rfl

lemma step_call (s : Scan) (h : { h : String // h ∈ helpers }) :
    s.step (q.call h) = s.asks q.asked := by
  obtain ⟨hroot, hne, hsolid, -, hstart, -⟩ := helper_facts h.1 h.2
  rw [Scan.step_show (q.tight_call h) (any_head?_append hstart _), Scan.meets, call,
    words_append_blank rfl, words_solid hsolid hne, Scan.use, List.singleton_append,
    List.filterMap_cons, hroot]
  rfl

end Quoted

/-! ### Templates of quoted texts -/

/-- A template whose arguments are quoted texts: each after a text and a helper, and a text at the
end. -/
structure Quotes where
  pieces : List (Plain × { h : String // h ∈ helpers } × Quoted)
  last : Plain

namespace Quotes

/-- Quoted texts as they are written, with what follows them. -/
def write (after : List Char) : List (Plain × { h : String // h ∈ helpers } × Quoted) → List Char
  | [] => after
  | (t, h, q) :: rest => t.chars ++ Outline.braced (q.call h) (write after rest)

variable (q : Quotes)

/-- The text of the template. -/
def source : String := String.ofList (write q.last.chars q.pieces)

/-- A path stands between two blanks of one of the quoted texts. -/
def Exposes (p : NamePath) : Prop := ∃ t h l, (t, h, l) ∈ q.pieces ∧ l.Exposes p

lemma run_write (pieces : List (Plain × { h : String // h ∈ helpers } × Quoted)) (s : Scan) :
    s.run (write q.last.chars pieces) = s.asks (pieces.flatMap fun x => x.2.2.asked) := by
  induction pieces generalizing s with
  | nil =>
    have hlast := Scan.run_plain (s := s) q.last .done
    rw [List.append_nil] at hlast
    rw [write, hlast, List.flatMap_nil, Scan.asks_nil]
    rfl
  | cons x rest ih =>
    obtain ⟨t, h, l⟩ := x
    rw [write, Outline.braced, Scan.run_plain_tag t (l.tight_call h), l.step_call, ih,
      Scan.asks_asks, List.flatMap_cons]

lemma names_source : names q.source = (q.pieces.flatMap fun x => x.2.2.asked).eraseDups := by
  have hrun := q.run_write q.pieces ⟨[], []⟩
  rw [source, names_ofList, hrun]
  exact foldl_add [] _

/-- A template of quoted texts asks for the roots of the paths that stand between blanks. -/
lemma mem_names : name ∈ names q.source ↔ ∃ p : NamePath, q.Exposes p ∧ p.root = name := by
  rw [names_source, List.mem_eraseDups, List.mem_flatMap]
  constructor
  · rintro ⟨⟨t, h, l⟩, hmem, hname⟩
    obtain ⟨p, hp, hroot⟩ := l.mem_asked.mp hname
    exact ⟨p, ⟨t, h, l, hmem, hp⟩, hroot⟩
  · rintro ⟨p, ⟨t, h, l, hmem, hp⟩, hroot⟩
    exact ⟨(t, h, l), hmem, l.mem_asked.mpr ⟨p, hp, hroot⟩⟩

end Quotes

end Template

namespace Engine

open Schema

variable {w : World} {s : Session} {n : NodeRef}

/-! ### Templates of quoted texts in an engine -/

lemma Reachable.renders (h : Reachable s) : s.Holds (Generator.Renders s.workspace) :=
  h.holds (P := Generator.Renders) (fun _ _ _ hk => Generator.renders_ofCallAs hk)
    fun hg hst => hg.step hst

/-- **What literals ask for.** A template whose arguments are quoted texts asks for the root of each
path that stands between two blanks of one of them, and for nothing else. In an engine, whatever was
asked of it before, its generator looks up those roots that are no parameters; and if one of them
means nothing where the template is, then the template has no value. -/
theorem quoted_texts_ask (q : Template.Quotes) {params : List (String × NodeId)}
    (hs : Reachable s) (hk : s.workspace.kind n = .call (.template q.source params)) :
    (∀ name, name ∈ Template.names q.source ↔ ∃ p, q.Exposes p ∧ p.root = name) ∧
    (∀ g, s.generators.lookup n = some g →
      ∃ t ps looked, g = .template (s.location n) t ps looked ∧
        ∀ name, name ∈ looked ↔
          (∃ p, q.Exposes p ∧ p.root = name) ∧ ∀ x ∈ params, x.1 ≠ name) ∧
    ∀ p, q.Exposes p → (∀ x ∈ params, x.1 ≠ p.root) → (s.scope w).lookup? n p.root = none →
      ∀ v s', (ownValue Eval.value n).exec w s ≠ (.ok v, s') := by
  refine ⟨fun name => q.mem_names, fun g hg => ?_, fun p hp hparams hl v s' => ?_⟩
  · obtain ⟨t, ps, rfl⟩ := hs.renders n g hg q.source params hk
    refine ⟨t, ps, _, rfl, fun name => ?_⟩
    rw [List.mem_filter, q.mem_names]
    simp
  · have hunbound : (s.scope w).Unbound n p.root :=
      ⟨⟨q.source, params, hk, q.mem_names.mpr ⟨p, hp, rfl⟩, hparams⟩, hl⟩
    exact hunbound.ownValue_ne_ok (hs.renders n)

namespace Phrase

/-- A text of three words, in capitals. -/
def template : Template.Quotes where
  pieces := [(.empty, ⟨"upper", by decide⟩, ⟨"a b c".toList, by simp⟩)]
  last := .empty

/-- An entity whose property is the text. -/
def document : Document :=
  { path := "a.yaml", imports := [], entities := [3]
    nodes := #[{ kind := .call (.template template.source []), parent := some 1 },
      { kind := .property "x" 0, parent := some 2 }, { kind := .object [1], parent := some 3 },
      { kind := .entity "E" 2 }] }

/-- A world without files. -/
def world : World := { disk := .ofDirectory [], time := default, entropy := 0 }

/-- A new engine for the schema. -/
def session : Session := .start (.ofDocuments world.disk [document]) CallKind.all {} world

/-- The engine after it has been asked for a row. -/
def after : Session := ((Eval.record "E").exec world session).2

/-- The template of the schema. -/
def node : NodeRef := ⟨0, 0⟩

/-- The row ends with a word of the text as it means nothing, and the template is made. -/
lemma facts :
    (after.generators.lookup node).isSome = true ∧
      Unseen.unresolved? ((Eval.record "E").exec world session).1 = some "b" := by
  decide +kernel

lemma kind_node : after.workspace.kind node = .call (.template template.source []) := by
  rw [after, workspace_of_setting (setting_record_snd world session "E")]
  rfl

lemma reachable_after : Reachable after := by
  obtain ⟨l, span, h⟩ := Unseen.error_of_unresolved facts.2
  have hstart : Reachable session := .start _ _ _ _
  have hstep := hstart.step (.record "E") world (by rw [Request.exec, ended_fst_of_error h]; simp)
  rwa [Request.exec, ended_snd] at hstep

end Phrase

open Phrase in
/-- The word in the middle of three is looked up. -/
theorem phrase_looks_up_word :
    ∃ t ps looked, after.generators.lookup node =
      some (.template (after.location node) t ps looked) ∧ "b" ∈ looked := by
  obtain ⟨hnames, hlooked, -⟩ := quoted_texts_ask (w := world) template reachable_after kind_node
  obtain ⟨g, hg⟩ := Option.isSome_iff_exists.mp facts.1
  obtain ⟨t, ps, looked, rfl, hmem⟩ := hlooked g hg
  exact ⟨t, ps, looked, hg, (hmem "b").mpr ⟨(hnames "b").mp (by decide), nofun⟩⟩

/-- The scan takes a word of a quoted text for a name. -/
theorem phrase_asks_for_word :
    Template.names "\x7b\x7bupper \"a b c\"\x7d\x7d" = ["b"] := by
  decide

end Engine

end TestData
