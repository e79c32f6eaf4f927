import TestData.Proofs.Output.Lines

/-!
Tables that are continued.

A part that is appended to a table takes its columns from its own first record and not from the
header that is in the file. Where that record has the names of the header, the table goes on as if
it had been written at once; otherwise the rows from there on have other columns than the header.
-/

namespace TestData.Output

open Engine Files

/-- The rows of records under columns. -/
def rowsText (columns : List String) (fs : List (Fields Value)) : String :=
  String.join (fs.map fun f => Table.recordText (cells columns f))

/-- The names of the first record. -/
def firstNames (fs : List (Fields Value)) : List String := (fs.head?.map Fields.names).getD []

lemma rowsText_append (columns : List String) (fs gs : List (Fields Value)) :
    rowsText columns (fs ++ gs) = rowsText columns fs ++ rowsText columns gs := by
  simp [rowsText]

/-- The text of a table: the header, where there is one and a record, and the rows under the names
of the first record. -/
lemma text_table {style : Style} {entity : String} (hs : style.format = .table)
    (fs : List (Fields Value)) :
    style.text entity (fs.map .object) =
      (if style.header && !fs.isEmpty then Table.recordText (firstNames fs) else "") ++
        rowsText (firstNames fs) fs := by
  rcases fs with _ | ⟨f, fs⟩
  · simp [Style.text, Style.texts, rowsText]
  · rw [Style.text, texts_table hs]
    rcases hh : style.header <;> simp [rowsText, firstNames]

/-- The text of a table with a header whose first records are given. -/
lemma text_headed {entity : String} {fs : List (Fields Value)} (hne : fs ≠ [])
    (gs : List (Fields Value)) :
    Style.text { format := .table } entity ((fs ++ gs).map .object) =
      Table.recordText (firstNames fs) ++ rowsText (firstNames fs) (fs ++ gs) := by
  obtain ⟨f, fs, rfl⟩ := List.exists_cons_of_ne_nil hne
  rw [text_table rfl]
  rfl

lemma rowsText_of_names {columns : List String} {gs : List (Fields Value)}
    (h : ∀ g, gs.head? = some g → g.names = columns) :
    rowsText (firstNames gs) gs = rowsText columns gs := by
  rcases gs with _ | ⟨g, gs⟩
  · rfl
  · rw [← h g rfl]
    rfl

/-- Two parts of a table that are written have taken records with names. -/
lemma Written.tables {style : Style} {entity : String} {append : Bool} {w : World} {s : Session}
    {q : Place} {d d₁ : Disk} {c : ByteArray} {p p' : Part} {ms : List Metrics}
    {vss : List (List Value)} (hs : style.format = .table)
    (h : Written style entity append w s q d c [p, p'] ms vss d₁) :
    ∃ fs gs : List (Fields Value), vss = [fs.map .object, gs.map .object] ∧
      fs.length = p.count ∧ gs.length = p'.count := by
  obtain ⟨vs, us, rfl⟩ : ∃ vs us, vss = [vs, us] := by
    have hlen := congrArg List.length h.counts
    rcases vss with _ | ⟨vs, _ | ⟨us, _ | ⟨_, _⟩⟩⟩ <;> simp at hlen
    exact ⟨vs, us, rfl⟩
  obtain ⟨s₁, hyields⟩ := h.yields
  rw [hs] at hyields
  obtain ⟨all, hall⟩ := hyields.objects
  have hsplit : vs ++ us = all.map .object := by simpa using hall
  obtain ⟨fs, gs, -, rfl, rfl⟩ := List.append_eq_map_iff.mp hsplit
  exact ⟨fs, gs, rfl, by simpa using h.counts⟩

/-- **A table goes on with columns of its own.** Let a session with a seed and a clock that stands
still write a table with a header to a file and append to it, while no table is read from that
file. If both parts succeed and the first has a record, the file has the header, the rows of the
first part under its names, and the rows of the second part under the names of the second part's
first record. One part for all records writes all rows under the names of the header. So the two
are the same where the second part begins with a record of the same names. -/
theorem appended_rows_have_own_columns {ws : Schema.Workspace} {functions : List Schema.CallKind}
    {o : Engine.Options} {w₀ : World} {entity : String} {path : Path} {p p' : Part} {d d₀ : Disk}
    {q : Place} {m m' : Metrics} (hseed : o.seed.isSome) (hnow : o.now.isSome) (hp : 1 ≤ p.count)
    (hopen : d.openFile path false = .ok (q, d₀)) (hspare : ws.Spares d₀ q)
    (h : (writeParts { format := .table } entity path false [p, p'] d
      (Session.start ws functions o w₀)).1 = [.ok m, .ok m']) :
    ∃ fs gs : List (Fields Value),
      let written := (writeParts { format := .table } entity path false [p, p'] d
        (Session.start ws functions o w₀)).2.1.bytes path
      let once := fun w => (writeFile { format := .table } entity (p.count + p'.count) path false w
        (Session.start ws functions o w)).2.1.bytes path
      fs.length = p.count ∧ gs.length = p'.count ∧
        (∀ w, Disk.AlikeBut q d₀ w.disk →
          ((Eval.rows entity (p.count + p'.count)).exec w (Session.start ws functions o w)).1 =
            .ok ((fs ++ gs).map fun f => .ok (.object f))) ∧
        written = .ok (Table.recordText (firstNames fs) ++ rowsText (firstNames fs) fs ++
          rowsText (firstNames gs) gs).toUTF8 ∧
        (∀ w, w.disk = d → once w = .ok (Table.recordText (firstNames fs) ++
          rowsText (firstNames fs) (fs ++ gs)).toUTF8) ∧
        ((∀ g, gs.head? = some g → g.names = firstNames fs) →
          ∀ w, w.disk = d → written = once w) := by
  have hstart := start_seeded ws functions hseed
  have hok : (writeParts { format := .table } entity path false [p, p'] d
      (Session.start ws functions o w₀)).1 = [m, m'].map .ok := h
  obtain ⟨ho, vss, hw⟩ := written_spared (s := Session.start ws functions o w₀)
    (List.cons_ne_nil p [p']) hnow hopen hspare hok
  have hself := alikeBut_of_openFile hopen
  have hmain := hw { w₀ with disk := d₀ } hself
  obtain ⟨fs, gs, rfl, hfs, hgs⟩ := hmain.tables rfl
  have hne : fs ≠ [] := by
    rintro rfl
    simp only [List.length_nil] at hfs
    omega
  have hflat : [fs.map Value.object, gs.map Value.object].flatten = (fs ++ gs).map .object := by
    simp
  have hcount : ((fs ++ gs).map Value.object).length = p.count + p'.count := by simp [hfs, hgs]
  have hwritten := hmain.disk
  have hparts : Style.partTexts { format := .table } entity false
      [fs.map .object, gs.map .object] =
      Table.recordText (firstNames fs) ++ rowsText (firstNames fs) fs ++
        rowsText (firstNames gs) gs := by
    simp [Style.partTexts, text_table, Style.call, hne]
  rw [ByteArray.empty_append, hparts] at hwritten
  have honce : ∀ w, w.disk = d →
      (writeFile { format := .table } entity (p.count + p'.count) path false w
        (Session.start ws functions o w)).2.1.bytes path =
      .ok (Table.recordText (firstNames fs) ++ rowsText (firstNames fs) (fs ++ gs)).toUTF8 := by
    intro w hwd
    obtain ⟨s₁, hv⟩ := (hw { w with disk := d₀ } hself).yields
    rw [hflat] at hv
    have hone := writeFile_emptied ho (by rw [hwd]; exact hopen) hv
    rw [hcount] at hone
    rw [hstart w₀ w, hone, bytes_of_openFile hopen, ← text_headed hne]
    rfl
  refine ⟨fs, gs, hfs, hgs, fun w hwd => ?_, ?_, honce, fun hnames w hwd => ?_⟩
  · obtain ⟨s₁, hv⟩ := (hw w hwd).yields
    rw [hflat] at hv
    have hrows := hv.exec_rows ho
    rw [hcount, List.map_map] at hrows
    rw [hstart w₀ w, hrows]
    rfl
  · rw [hwritten]
    exact bytes_of_openFile hopen _
  · dsimp only
    rw [honce w hwd, hwritten, bytes_of_openFile hopen, rowsText_of_names hnames, rowsText_append,
      String.append_assoc]

/-! ### A column that is lost -/

namespace Turning

/-- What a part of one record and a part of another leave of a table. -/
def twoTables (pairs : List (Schema.NodeId × Schema.NodeId)) :
    List (Except WriteError Metrics) × Disk × Session :=
  writeParts { format := .table } "E" "out.txt" false [part, part] filed
    (session pairs (.literal (.string "b")))

/-- The tables of two parts, of records that have the same names and of records that do not, and
the table of one part of the latter. -/
lemma tables :
    ((twoTables [(4, 5), (6, 7)]).1.map fun r => r.toOption.isSome) = [true, true] ∧
      ((twoTables [(4, 5), (6, 7)]).2.1.text "out.txt").toOption = some "n,x\n1,a\n2,b\n" ∧
      ((twoTables [(4, 5)]).1.map fun r => r.toOption.isSome) = [true, true] ∧
      ((twoTables [(4, 5)]).2.1.text "out.txt").toOption = some "n,x\n1,a\n2\n" ∧
      ((writeFile { format := .table } "E" 2 "out.txt" false { world with disk := filed }
          (session [(4, 5)] (.literal (.string "b")))).2.1.text "out.txt").toOption =
        some "n,x\n1,a\n2,\n" := by
  decide +kernel

end Turning

/-- Results of two parts that are there. -/
lemma oks_of_two {ε α : Type} {l : List (Except ε α)}
    (h : (l.map fun r => r.toOption.isSome) = [true, true]) : ∃ a b : α, l = [.ok a, .ok b] := by
  rcases l with _ | ⟨_ | a, _ | ⟨_ | b, _ | ⟨c, l⟩⟩⟩ <;> cases h
  exact ⟨a, b, rfl⟩

/-- Two records of the same names, one in each part, make the table of two rows. -/
theorem appended_row_has_column :
    ∃ (m m' : Metrics) (fs gs : List (Fields Value)),
      (Turning.twoTables [(4, 5), (6, 7)]).1 = [.ok m, .ok m'] ∧
        fs.length = 1 ∧ gs.length = 1 ∧
        (Turning.twoTables [(4, 5), (6, 7)]).2.1.bytes "out.txt" =
          .ok (Table.recordText (firstNames fs) ++ rowsText (firstNames fs) fs ++
            rowsText (firstNames gs) gs).toUTF8 ∧
        ((Turning.twoTables [(4, 5), (6, 7)]).2.1.text "out.txt").toOption =
          some "n,x\n1,a\n2,b\n" := by
  obtain ⟨hoks, htext, -⟩ := Turning.tables
  obtain ⟨m, m', hm⟩ := oks_of_two hoks
  refine ⟨m, m', ?_⟩
  rw [Turning.twoTables, Turning.session] at hm htext ⊢
  obtain ⟨fs, gs, hfs, hgs, -, hwritten, -⟩ :=
    @appended_rows_have_own_columns (Turning.workspace [(4, 5), (6, 7)] (.literal (.string "b")))
      Schema.CallKind.all Turning.options Turning.world "E" "out.txt" Turning.part Turning.part
      Turning.filed (Turning.filed.set ["d", "out.txt"] (.file .empty)) ["d", "out.txt"] m m'
      rfl rfl (by decide) Turning.openFile_filed
      (Schema.Workspace.spares_of_all rfl) hm
  exact ⟨fs, gs, hm, hfs, hgs, hwritten, htext⟩

/-- A record that lacks a name of the header, appended to the table, has fewer cells than the
header. Written at once, it has an empty cell. -/
theorem appended_row_lacks_column :
    (∃ m m' : Metrics, (Turning.twoTables [(4, 5)]).1 = [.ok m, .ok m']) ∧
      ((Turning.twoTables [(4, 5)]).2.1.text "out.txt").toOption = some "n,x\n1,a\n2\n" ∧
      ((writeFile { format := .table } "E" 2 "out.txt" false
          { Turning.world with disk := Turning.filed }
          (Turning.session [(4, 5)] (.literal (.string "b")))).2.1.text "out.txt").toOption =
        some "n,x\n1,a\n2,\n" := by
  obtain ⟨-, -, hoks, hparts, hone⟩ := Turning.tables
  dsimp only at hone ⊢
  exact ⟨oks_of_two hoks, hparts, hone⟩

end TestData.Output
