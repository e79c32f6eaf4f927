import TestData.Proofs.Json.Line
import TestData.Proofs.Output.Parts

/-!
Files of lines.

With a seed and a clock that stands still, a file of JSON lines is decided by the entity and the
number of records: it has a line for every record, and it does not matter in how many parts it is
written. The one thing that can come between is a table that is read from the file itself, which
sees what the parts before have written.
-/

namespace TestData.Output

open Engine Files

/-- The line of a record. -/
def line (v : Value) : String := v.toJson.compact ++ "\n"

lemma count_newline_lines (vs : List Value) :
    (String.join (vs.map line)).toUTF8.data.toList.count 10 = vs.length := by
  rw [count_newline_toUTF8, String.toList_join]
  induction vs with
  | nil => rfl
  | cons v vs ih =>
    have hline : (line v).toList.count '\n' = 1 := by
      have hzero := List.count_eq_zero.mpr v.toJson.newline_not_mem_compact
      simp [line, hzero]
    simp [hline, ih, Nat.add_comm]

lemma newline_not_mem_bytes (v : Value) : 10 ∉ v.toJson.compact.toUTF8.data.toList := by
  rw [← List.count_eq_zero, count_newline_toUTF8, List.count_eq_zero]
  exact v.toJson.newline_not_mem_compact

section

variable {style : Style} {entity : String}

lemma texts_lines (hs : style.format = .lines) (columns : Option (List String))
    (vs : List Value) : style.texts entity columns vs = vs.map line := by
  induction vs generalizing columns with
  | nil => rfl
  | cons v vs ih => simp [Style.texts, recordTexts, hs, ih, line]

lemma partTexts_lines (hs : style.format = .lines) (append : Bool) (vss : List (List Value)) :
    style.partTexts entity append vss = String.join (vss.flatten.map line) := by
  induction vss generalizing append with
  | nil => rfl
  | cons vs vss ih => simp [Style.partTexts, Style.text, texts_lines, hs, ih]

end

/-- With a seed, entropy has no part in a new session. -/
lemma start_seeded (ws : Schema.Workspace) (functions : List Schema.CallKind)
    {o : Engine.Options} (h : o.seed.isSome) (w w' : World) :
    Session.start ws functions o w' = Session.start ws functions o w := by
  obtain ⟨seed, h⟩ := Option.isSome_iff_exists.mp h
  simp [Session.start, h]

/-- **A file of lines does not depend on how its records are split.** Let a session with a seed and
a clock that stands still write records of an entity to a file in parts, of which the first empties
the file, while no table is read from that file. If all parts succeed, the file has for each record
that a new engine generates its compact text and a line feed. No compact text has a line feed, so
there is a line for every record; the parts together count as many records, and the last counts the
bytes of the file. One part for all records writes the same. -/
theorem lines_split_freely {ws : Schema.Workspace} {functions : List Schema.CallKind}
    {o : Engine.Options} {w₀ : World} {header : Bool} {entity : String} {path : Path}
    {parts : List Part} {d d₀ : Disk} {q : Place} {metrics : List Metrics}
    (hseed : o.seed.isSome) (hnow : o.now.isSome) (hparts : parts ≠ [])
    (hopen : d.openFile path false = .ok (q, d₀)) (hspare : ws.Spares d₀ q)
    (h : (writeParts { format := .lines, header } entity path false parts d
      (Session.start ws functions o w₀)).1 = metrics.map .ok) :
    ∃ records : List Value,
      let content := (String.join (records.map line)).toUTF8
      records.length = total parts ∧
        (∀ w, Disk.AlikeBut q d₀ w.disk →
          ((Eval.rows entity (total parts)).exec w (Session.start ws functions o w)).1 =
            .ok (records.map .ok)) ∧
        (writeParts { format := .lines, header } entity path false parts d
          (Session.start ws functions o w₀)).2.1.bytes path = .ok content ∧
        (∀ v : Value, 10 ∉ v.toJson.compact.toUTF8.data.toList) ∧
        content.data.toList.count 10 = total parts ∧
        (metrics.map (·.rows)).sum = total parts ∧
        metrics.getLast?.map (·.bytes) = some content.size ∧
        ∀ w, w.disk = d →
          ∃ s, writeFile { format := .lines, header } entity (total parts) path false w
              (Session.start ws functions o w) =
            (.ok { rows := total parts, bytes := content.size },
              (writeParts { format := .lines, header } entity path false parts d
                (Session.start ws functions o w₀)).2.1, s) := by
  have hstart := start_seeded ws functions hseed
  obtain ⟨ho, vss, hw⟩ := written_spared (s := Session.start ws functions o w₀) hparts
    hnow hopen hspare h
  have htext : ∀ append vss, Style.partTexts { format := .lines, header } entity append vss =
      String.join (vss.flatten.map line) := partTexts_lines rfl
  have hself := alikeBut_of_openFile hopen
  have hmain := hw { w₀ with disk := d₀ } hself
  have hlen : vss.flatten.length = total parts := by
    rw [List.length_flatten, hmain.counts, total]
  have hdisk := hmain.disk
  have hbytes := hmain.bytes
  rw [htext, ByteArray.empty_append] at hdisk hbytes
  refine ⟨vss.flatten, hlen, fun w hwd => ?_, ?_, newline_not_mem_bytes, ?_, ?_, ?_,
    fun w hwd => ?_⟩
  · obtain ⟨s₁, hv⟩ := (hw w hwd).yields
    rw [hstart w₀ w, ← hlen, hv.exec_rows ho]
  · rw [hdisk]
    exact bytes_of_openFile hopen _
  · rw [← hlen]
    exact count_newline_lines vss.flatten
  · rw [hmain.rows, total]
  · rcases hm : metrics.getLast? with _ | m
    · obtain rfl := List.getLast?_eq_none_iff.mp hm
      exact absurd (by simpa using hmain.rows) hparts
    · rw [Option.map_some, hbytes m (by rw [hm]; rfl)]
  · obtain ⟨s₁, hv⟩ := (hw { w with disk := d₀ } hself).yields
    have hone := writeFile_emptied ho (by rw [hwd]; exact hopen) hv
    rw [Style.text, texts_lines rfl] at hone
    rw [hdisk, ← hlen, hstart w₀ w]
    exact ⟨s₁, hone⟩

/-! ### A table of the file that is written -/

/-- Results that are all there. -/
lemma oks_of_all {ε α : Type} {l : List (Except ε α)}
    (h : (l.all fun r => r.toOption.isSome) = true) : ∃ as : List α, l = as.map .ok := by
  induction l with
  | nil => exact ⟨[], rfl⟩
  | cons r l ih =>
    rw [List.all_cons, Bool.and_eq_true] at h
    obtain ⟨as, rfl⟩ := ih h.2
    rcases r with e | a
    · cases h.1
    · exact ⟨a :: as, rfl⟩

/-- The lines of rows. -/
def linesOf : Except Failure (List (Except EvalError Value)) → List String
  | .ok rows => rows.map fun
    | .ok v => line v
    | .error _ => ""
  | .error _ => []

lemma linesOf_ok (vs : List Value) : linesOf (.ok (vs.map .ok)) = vs.map line := by
  simp [linesOf]

/-- Whether there are rows, and all of them without an error. -/
def wholeRows : Except Failure (List (Except EvalError Value)) → Bool
  | .ok rows => rows.all fun r => r.toOption.isSome
  | .error _ => false

lemma rows_of_whole {x : Except Failure (List (Except EvalError Value))}
    (h : wholeRows x = true) : ∃ vs : List Value, x = .ok (vs.map .ok) := by
  rcases x with e | rows
  · cases h
  · obtain ⟨vs, rfl⟩ := oks_of_all h
    exact ⟨vs, rfl⟩

namespace Turning

/-- A part of one record. -/
def part : Part := { count := 1, time := default, entropy := 0 }

/-- A file system with one file, which holds a line. -/
def filed : Disk := world.disk.set ["d", "out.txt"] (.file "b\n".toUTF8)

lemma openFile_filed :
    filed.openFile "out.txt" false =
      .ok (["d", "out.txt"], filed.set ["d", "out.txt"] (.file .empty)) :=
  Disk.openFile_of_find (c := "b\n".toUTF8) rfl (Disk.at?_set (by simp) _ _)

/-- What two parts of one record each leave. -/
def twoParts (pairs : List (Schema.NodeId × Schema.NodeId)) (second : Schema.Kind) :
    List (Except WriteError Metrics) × Disk × Session :=
  writeParts { format := .lines } "E" "out.txt" false [part, part] filed (session pairs second)

/-- A column that is drawn from the table of the file that is written. -/
def readBack : Schema.Kind := .call (.table { path := "out.txt", noHeader := true })

/-- The rows of a new engine. -/
def rereadRows : Except Failure (List (Except EvalError Value)) :=
  ((Eval.rows "E" 2).exec { world with disk := filed } (session [(4, 5), (6, 7)] readBack)).1

/-- The parts of both schemas are written. Where the table is read back, the rows of a new engine
are other lines, and one part of two records fails. -/
lemma ends :
    ((twoParts [(4, 5)] (.literal .null)).1.all fun r => r.toOption.isSome) = true ∧
      ((twoParts [(4, 5), (6, 7)] readBack).1.all fun r => r.toOption.isSome) = true ∧
      wholeRows rereadRows = true ∧
      ((twoParts [(4, 5), (6, 7)] readBack).2.1.text "out.txt").toOption ≠
        some (String.join (linesOf rereadRows)) ∧
      (writeFile { format := .lines } "E" 2 "out.txt" false { world with disk := filed }
        (session [(4, 5), (6, 7)] readBack)).1.toOption.isNone = true := by
  decide +kernel

end Turning

/-- Two parts of one record each, where no table is read, write what one part of two records
writes. -/
theorem lines_split_in_two :
    ∃ metrics : List Metrics,
      (Turning.twoParts [(4, 5)] (.literal .null)).1 = metrics.map .ok ∧
        (metrics.map (·.rows)).sum = 2 ∧
        ∃ s, (writeFile { format := .lines } "E" 2 "out.txt" false
            { Turning.world with disk := Turning.filed }
            (Turning.session [(4, 5)] (.literal .null))).2 =
          ((Turning.twoParts [(4, 5)] (.literal .null)).2.1, s) := by
  obtain ⟨metrics, hm⟩ := oks_of_all Turning.ends.1
  refine ⟨metrics, hm, ?_⟩
  rw [Turning.twoParts, Turning.session] at hm ⊢
  obtain ⟨records, -, -, -, -, -, hrows, -, hone⟩ :=
    @lines_split_freely (Turning.workspace [(4, 5)] (.literal .null)) Schema.CallKind.all
      Turning.options Turning.world true "E" "out.txt" [Turning.part, Turning.part] Turning.filed
      (Turning.filed.set ["d", "out.txt"] (.file .empty)) ["d", "out.txt"] metrics rfl rfl
      (by simp) Turning.openFile_filed (Schema.Workspace.spares_of_all rfl) hm
  obtain ⟨s, hs⟩ := hone { Turning.world with disk := Turning.filed } rfl
  have htotal : total [Turning.part, Turning.part] = 2 := rfl
  rw [htotal, start_seeded _ _ (w := Turning.world) rfl] at hs
  rw [htotal] at hrows
  exact ⟨hrows, s, by rw [hs]⟩

/-- Where the second record draws from a table of the file that is written, two parts of one record
each write other lines than a new engine has, and one part of two records fails. -/
theorem lines_read_back_in_second_part :
    let table := Schema.Kind.call (.table { path := "out.txt", noHeader := true })
    let two := Turning.twoParts [(4, 5), (6, 7)] table
    let s := Turning.session [(4, 5), (6, 7)] table
    (∃ metrics : List Metrics, two.1 = metrics.map .ok) ∧
      (∃ rows : List Value,
        ((Eval.rows "E" 2).exec { Turning.world with disk := Turning.filed } s).1 =
          .ok (rows.map .ok) ∧
        (two.2.1.text "out.txt").toOption ≠ some (String.join (rows.map line))) ∧
      ∃ e, (writeFile { format := .lines } "E" 2 "out.txt" false
        { Turning.world with disk := Turning.filed } s).1 = .error e := by
  dsimp only
  obtain ⟨-, hparts, hrows, hne, hone⟩ := Turning.ends
  rw [Turning.rereadRows] at hrows hne
  rw [Turning.readBack] at hparts hrows hne hone
  obtain ⟨vs, hvs⟩ := rows_of_whole hrows
  rw [hvs, linesOf_ok] at hne
  have hnone := Option.isNone_iff_eq_none.mp hone
  have hfail := error_of_toOption hnone
  exact ⟨oks_of_all hparts, ⟨vs, hvs, hne⟩, hfail⟩

end TestData.Output
