import TestData.Proofs.Output.Failed
import TestData.Proofs.Table.ReadBack

/-!
The columns of a table.

A table has the columns of the first record of its call. Whatever the cells hold, it reads back:
the header is the names of the first record, and every cell is the text of what its record has
under the name.
-/

namespace TestData.Output

open Engine

variable {style : Style} {entity : String} {w : World} {s s₁ : Session}

/-! ### The rows of an engine -/

lemma entity_of_obstacle (h : obstacle? s entity = none) :
    s.workspace.hasRoot = true ∧
      ∃ n, s.workspace.entity? Schema.Workspace.root entity = some n := by
  unfold obstacle? at h
  rcases hr : s.workspace.hasRoot with _ | _
  · simp [hr] at h
  · rcases hn : s.workspace.entity? Schema.Workspace.root entity with _ | n
    · simp [hr, hn] at h
    · exact ⟨rfl, n, rfl⟩

/-- The records that a format takes are the rows of the engine. -/
lemma Yields.exec_rows {format : Format} {vs : List Value} (ho : obstacle? s entity = none)
    (h : Yields format entity w s vs s₁) :
    (Eval.rows entity vs.length).exec w s = (.ok (vs.map .ok), s₁) := by
  obtain ⟨hroot, n, hn⟩ := entity_of_obstacle ho
  simp only [Eval.rows, Eval.exec_bind, Eval.exec_get, hroot, hn, Bool.not_true,
    Bool.false_eq_true, if_false]
  exact h.exec_records

/-! ### The texts of a table -/

/-- A table takes objects. -/
lemma Yields.objects {vs : List Value} (h : Yields .table entity w s vs s₁) :
    ∃ fs : List (Fields Value), vs = fs.map .object := by
  induction h with
  | nil => exact ⟨[], rfl⟩
  | @cons _ _ _ v _ _ ht _ ih =>
    obtain ⟨fs, rfl⟩ := ih
    cases v with
    | object f => exact ⟨f :: fs, rfl⟩
    | _ => cases ht

lemma texts_columns (hs : style.format = .table) (columns : List String)
    (fs : List (Fields Value)) :
    style.texts entity (some columns) (fs.map .object) =
      fs.map fun f => Table.recordText (cells columns f) := by
  induction fs with
  | nil => rfl
  | cons f fs ih => simp [Style.texts, recordTexts, hs, ih]

/-- A table is its header, where it has one, and a row for every record. -/
lemma texts_table (hs : style.format = .table) (f : Fields Value) (fs : List (Fields Value)) :
    style.texts entity none ((f :: fs).map .object) =
      (if style.header then [Table.recordText f.names] else []) ++
        (f :: fs).map fun g => Table.recordText (cells f.names g) := by
  rw [List.map_cons, Style.texts]
  simp only [recordTexts, hs, texts_columns hs]
  split_ifs <;> rfl

/-- **A table reads back.** A run that writes a table of at least one record, of which the first
has at least one name and the first name does not start with a byte order mark, has written a text
that is read as a table with commas: the names of the first record are its header, it has a row
for every record, and each cell is the text of what the record has under the name. -/
theorem written_table_reads_back {n : Nat} {m : Metrics} {text : String} (hn : 1 ≤ n)
    (h : writeText { format := .table } entity n w s = (.ok m, text, s₁)) :
    ∃ fs : List (Fields Value), fs.length = n ∧
      (Eval.rows entity n).exec w s = (.ok (fs.map fun f => .ok (.object f)), s₁) ∧
      ∀ first, fs.head? = some first → first.names ≠ [] →
        (∀ c, first.names.head? = some c → c.toList.head? ≠ some Table.byteOrderMark) →
        Table.read text (some Table.comma) false = .ok
          { delimiter := Table.comma
            headers := some first.names
            rows := fs.map fun f => first.names.map fun c => Value.cellText (f.get? c) } := by
  obtain ⟨ho, vs, rfl, hv, -, rfl⟩ := yields_of_writeText h
  obtain ⟨fs, rfl⟩ := hv.objects
  refine ⟨fs, by simp, by simpa [Function.comp_def] using hv.exec_rows ho,
    fun first hf hne hb => ?_⟩
  obtain ⟨rest, rfl⟩ := List.head?_eq_some_iff.mp hf
  have hprint : Style.text { format := .table } entity ((first :: rest).map .object) =
      String.join ((first.names :: (first :: rest).map (cells first.names)).map
        Table.recordText) := by
    rw [Style.text, texts_table rfl]
    simp [Function.comp_def]
  rw [hprint]
  exact Table.read_written hne hb (by simp) (by simp [cells])

/-- The names of records. -/
def namesOf : Except Failure (List (Except EvalError Value)) → List (List String)
  | .ok rows => rows.map fun
    | .ok (.object f) => f.names
    | _ => []
  | .error _ => []

/-- Two records, of which the second lacks a name of the first, read back with an empty cell. -/
theorem written_table_reads_back_short_row :
    let s := Turning.session [(4, 5)] (.literal .null)
    ∃ (m : Metrics) (text : String) (s₁ : Session) (fs : List (Fields Value)),
      writeText { format := .table } "E" 2 Turning.world s = (.ok m, text, s₁) ∧
        fs.map Fields.names = [["n", "x"], ["n"]] ∧
        Table.read text (some Table.comma) false = .ok
          { delimiter := Table.comma
            headers := some ["n", "x"]
            rows := fs.map fun f => ["n", "x"].map fun c => Value.cellText (f.get? c) } := by
  intro s
  have hfacts : (writeText { format := .table } "E" 2 Turning.world s).1.toOption.isSome = true ∧
      namesOf ((Eval.rows "E" 2).exec Turning.world s).1 = [["n", "x"], ["n"]] := by
    decide +kernel
  obtain ⟨hok, hnames⟩ := hfacts
  rcases hrun : writeText { format := .table } "E" 2 Turning.world s with ⟨_ | m, text, s₁⟩
  · rw [hrun] at hok
    cases hok
  · obtain ⟨fs, -, hrows, hread⟩ := written_table_reads_back (by decide) hrun
    rw [hrows] at hnames
    simp only [namesOf, List.map_map, Function.comp_def] at hnames
    rcases fs with _ | ⟨first, rest⟩
    · cases hnames
    · have hfirst : first.names = ["n", "x"] := (List.cons.inj hnames).1
      have hback := hread first rfl (by simp [hfirst]) fun c hc => by
        obtain rfl : c = "n" := by simpa [hfirst] using hc.symm
        decide
      rw [hfirst] at hback
      exact ⟨m, text, s₁, first :: rest, rfl, hnames, hback⟩

end TestData.Output
