import Mathlib.Tactic.Common
import TestData.Table.Reader
import TestData.Table.Writer

/-!
A table that is written reads back.

A written cell holds a comma, a quote or a line break only between quotes, and every quote inside
is doubled, so that a scan leaves a cell with the characters that were written. Every record ends
with a line feed, so that a scan stands at the start of a record between two records. Whatever the
cells hold, the scan of what was written has found the cells.
-/

namespace TestData.Table

namespace Scan

/-- Where a scan stands, the places in the text apart: its phase, the cell and the record in
progress, and the records before. -/
structure At (s : Scan) (phase : Phase) (cell : List Char) (cells : List String)
    (rows : List (List String)) : Prop where
  phase : s.phase = phase
  cell : s.cell = cell.reverse
  cells : s.cells = cells.reverse
  rows : s.records.map (·.cells) = rows.reverse

lemma at_init : init.At .recordStart [] [] [] := ⟨rfl, rfl, rfl, rfl⟩

variable {s : Scan} {p : Phase} {cell : List Char} {cells : List String}
  {rows : List (List String)} {c : Char}

namespace At

lemma count (h : s.At p cell cells rows) (c : Char) : (s.count c).At p cell cells rows :=
  ⟨h.phase, h.cell, h.cells, h.rows⟩

lemma turn (h : s.At p cell cells rows) (q : Phase) : { s with phase := q }.At q cell cells rows :=
  ⟨rfl, h.cell, h.cells, h.rows⟩

lemma push (h : s.At p cell cells rows) (q : Phase) (c : Char) :
    (s.push q c).At q (cell ++ [c]) cells rows :=
  ⟨rfl, by simp [Scan.push, h.cell], h.cells, h.rows⟩

lemma endCell (h : s.At p cell cells rows) :
    s.endCell.At .cellStart [] (cells ++ [String.ofList cell]) rows :=
  ⟨rfl, rfl, by simp [Scan.endCell, h.cell, h.cells], h.rows⟩

lemma endRecord (h : s.At p cell cells rows) :
    s.endRecord.At .recordStart [] [] (rows ++ [cells ++ [String.ofList cell]]) :=
  ⟨rfl, rfl, rfl, by simp [Scan.endRecord, h.endCell.cells, h.rows]⟩

/-! ### Steps -/

lemma unquoted_plain (h : s.At p cell cells rows) (hc : needsQuotes c = false) :
    (s.unquoted comma c).At .plain (cell ++ [c]) cells rows := by
  have hd : isDelimiter comma c = false := by
    rw [Bool.eq_false_iff]
    intro hd
    have : c = ',' := Char.toNat_inj.mp (by simpa [isDelimiter, comma] using hd)
    simp [needsQuotes, this] at hc
  have hb : isBreak c = false := by
    simp only [needsQuotes, Bool.or_eq_false_iff, decide_eq_false_iff_not] at hc
    simp [isBreak, hc.1.2, hc.2]
  rw [unquoted, hd, hb]
  exact h.push .plain c

lemma step_plain (h : s.At p cell cells rows) (hp : p ≠ .quoted) (hq : p ≠ .quote)
    (hc : needsQuotes c = false) : (s.step comma c).At .plain (cell ++ [c]) cells rows := by
  have hplain := (h.count c).unquoted_plain hc
  have hopen : ((s.count c).opening comma c).At .plain (cell ++ [c]) cells rows := by
    have : c ≠ '"' := by
      rintro rfl
      simp [needsQuotes] at hc
    rwa [opening, if_neg this]
  have hb : isBreak c = false := by
    simp only [needsQuotes, Bool.or_eq_false_iff, decide_eq_false_iff_not] at hc
    simp [isBreak, hc.1.2, hc.2]
  have hphase := (h.count c).phase
  unfold Scan.step
  cases p with
  | recordStart => simpa [hphase, hb] using hopen
  | cellStart => simpa [hphase] using hopen
  | plain => simpa [hphase] using hplain
  | quoted => exact absurd rfl hp
  | quote => exact absurd rfl hq

lemma step_open (h : s.At p cell cells rows) (hp : p = .recordStart ∨ p = .cellStart) :
    (s.step comma '"').At .quoted cell cells rows := by
  have hphase := (h.count '"').phase
  have hturn := (h.count '"').turn .quoted
  unfold Scan.step
  rcases hp with rfl | rfl
  · simpa [hphase, isBreak, opening] using hturn
  · simpa [hphase, opening] using hturn

lemma step_close (h : s.At .quoted cell cells rows) :
    (s.step comma '"').At .quote cell cells rows := by
  have hphase := (h.count '"').phase
  unfold Scan.step
  simpa [hphase] using (h.count '"').turn .quote

/-- A comma that is not quoted ends a cell. -/
lemma step_comma (h : s.At p cell cells rows) (hp : p ≠ .quoted) :
    (s.step comma ',').At .cellStart [] (cells ++ [String.ofList cell]) rows := by
  have hphase := (h.count ',').phase
  have hend := (h.count ',').endCell
  have hd : isDelimiter comma ',' = true := by decide
  unfold Scan.step
  cases p with
  | quoted => exact absurd rfl hp
  | _ => simpa [hphase, isBreak, opening, unquoted, hd] using hend

/-- A line feed that is not quoted ends a record that has begun. -/
lemma step_feed (h : s.At p cell cells rows) (hp : p ≠ .quoted) (hr : p ≠ .recordStart) :
    (s.step comma '\n').At .recordStart [] [] (rows ++ [cells ++ [String.ofList cell]]) := by
  have hphase := (h.count '\n').phase
  have hend := (h.count '\n').endRecord
  have hd : isDelimiter comma '\n' = false := by decide
  unfold Scan.step
  cases p with
  | quoted => exact absurd rfl hp
  | recordStart => exact absurd rfl hr
  | _ => simpa [hphase, isBreak, opening, unquoted, hd] using hend

/-! ### Cells -/

lemma run_doubled (h : s.At .quoted cell cells rows) (c : Char) :
    ((doubled c).foldl (Scan.step comma) s).At .quoted (cell ++ [c]) cells rows := by
  by_cases hc : c = '"'
  · subst hc
    have hphase := (h.step_close.count '"').phase
    have hpush := (h.step_close.count '"').push .quoted '"'
    show ((s.step comma '"').step comma '"').At _ _ _ _
    rw [Scan.step]
    simpa [hphase] using hpush
  · have hphase := (h.count c).phase
    have hpush := (h.count c).push .quoted c
    rw [doubled, if_neg hc, List.foldl_cons, List.foldl_nil, Scan.step]
    simpa [hphase, hc] using hpush

lemma run_quoted (h : s.At .quoted cell cells rows) (cs : List Char) :
    ((cs.flatMap doubled).foldl (Scan.step comma) s).At .quoted (cell ++ cs) cells rows := by
  induction cs generalizing s cell with
  | nil => simpa using h
  | cons c cs ih =>
    rw [List.flatMap_cons, List.foldl_append]
    simpa using ih (h.run_doubled c)

lemma run_plain (h : s.At .plain cell cells rows) {cs : List Char}
    (hcs : cs.any needsQuotes = false) :
    (cs.foldl (Scan.step comma) s).At .plain (cell ++ cs) cells rows := by
  induction cs generalizing s cell with
  | nil => simpa using h
  | cons c cs ih =>
    rw [List.any_cons, Bool.or_eq_false_iff] at hcs
    simpa using ih (h.step_plain (by decide) (by decide) hcs.1) hcs.2

/-- After the text of a cell a scan has the cell and waits for its end. An empty cell at the
start of a record has left no trace. -/
lemma run_cell (h : s.At p [] cells rows) (hp : p = .recordStart ∨ p = .cellStart)
    (cs : List Char) :
    ∃ q, ((cellChars cs).foldl (Scan.step comma) s).At q cs cells rows ∧ q ≠ .quoted ∧
      (q = .recordStart → p = .recordStart ∧ cs = []) := by
  unfold cellChars
  split_ifs with hcs
  · refine ⟨.quote, ?_, by decide, by simp⟩
    rw [List.cons_append, List.foldl_cons, List.foldl_append]
    exact ((h.step_open hp).run_quoted cs).step_close
  · rw [Bool.not_eq_true] at hcs
    rcases cs with _ | ⟨c, cs⟩
    · exact ⟨p, h, by rcases hp with rfl | rfl <;> decide, fun hq => ⟨hq, rfl⟩⟩
    · rw [List.any_cons, Bool.or_eq_false_iff] at hcs
      have hplain := h.step_plain (by rcases hp with rfl | rfl <;> decide)
        (by rcases hp with rfl | rfl <;> decide) hcs.1
      exact ⟨.plain, hplain.run_plain hcs.2, by decide, by simp⟩

/-! ### Records -/

lemma run_joined {more : List String} (hm : more ≠ []) (h : s.At p [] cells rows)
    (hp : p = .recordStart ∨ p = .cellStart)
    (hj : p = .recordStart → joined (more.map fun c => cellChars c.toList) ≠ []) :
    ((joined (more.map fun c => cellChars c.toList) ++ ['\n']).foldl (Scan.step comma) s).At
      .recordStart [] [] (rows ++ [cells ++ more]) := by
  induction more generalizing s p cells with
  | nil => exact absurd rfl hm
  | cons c more ih =>
    obtain ⟨q, hq, hquoted, hstart⟩ := h.run_cell hp c.toList
    rcases more with _ | ⟨d, more⟩
    · have hr : q ≠ .recordStart := by
        intro hr
        obtain ⟨rfl, hc⟩ := hstart hr
        exact hj rfl (by simp [joined, hc, cellChars])
      simpa [joined] using hq.step_feed hquoted hr
    · have hnext := ih (List.cons_ne_nil d more) (hq.step_comma hquoted) (.inr rfl) (by simp)
      simpa [joined] using hnext

end At

lemma eq_of_joined_eq_nil {cells : List String} (hc : cells ≠ [])
    (h : joined (cells.map fun c => cellChars c.toList) = []) : cells = [""] := by
  rcases cells with _ | ⟨c, _ | ⟨d, more⟩⟩
  · exact absurd rfl hc
  · have hc : cellChars c.toList = [] := h
    unfold cellChars at hc
    split_ifs at hc
    · simp at hc
    · rw [String.toList_eq_nil_iff.mp hc]
  · simp [joined] at h

/-- The text of a record takes a scan from the start of a record to the start of the next. -/
lemma At.run_record (h : s.At .recordStart [] [] rows) {more : List String} (hm : more ≠ []) :
    ((recordChars more).foldl (Scan.step comma) s).At .recordStart [] [] (rows ++ [more]) := by
  unfold recordChars
  dsimp only
  split_ifs with hj
  · rw [eq_of_joined_eq_nil hm hj]
    exact (h.step_open (.inl rfl)).step_close.step_feed (by decide) (by decide)
  · exact h.run_joined hm (.inl rfl) fun _ => hj

lemma At.run_records (h : s.At .recordStart [] [] rows) {more : List (List String)}
    (hm : ∀ r ∈ more, r ≠ []) :
    ((more.flatMap recordChars).foldl (Scan.step comma) s).At .recordStart [] []
      (rows ++ more) := by
  induction more generalizing s rows with
  | nil => simpa using h
  | cons r more ih =>
    rw [List.forall_mem_cons] at hm
    rw [List.flatMap_cons, List.foldl_append]
    simpa using ih (h.run_record hm.1) hm.2

end Scan

/-! ### Tables -/

/-- A record starts with a quote, with a comma or with the first character of its first cell. -/
lemma head?_recordChars {c : String} {cells : List String} {x : Char}
    (h : (recordChars (c :: cells)).head? = some x) :
    x = '"' ∨ x = ',' ∨ c.toList.head? = some x := by
  have hcell : ∀ y, (cellChars c.toList).head? = some y → y = '"' ∨ c.toList.head? = some y := by
    intro y hy
    unfold cellChars at hy
    split_ifs at hy
    · exact .inl (Option.some.inj hy).symm
    · exact .inr hy
  unfold recordChars at h
  dsimp only at h
  split_ifs at h with hj
  · exact .inl (Option.some.inj h).symm
  · rcases hc : cellChars c.toList with _ | ⟨y, ys⟩
    · rcases cells with _ | ⟨d, more⟩
      · exact absurd (by simpa [joined] using hc) hj
      · exact .inr (.inl (by simpa [joined, hc] using h.symm))
    · have hx : y = x := by
        rcases cells with _ | ⟨d, more⟩ <;> simpa [joined, hc] using h
      rcases hcell y (by rw [hc]; rfl) with hy | hy
      · exact .inl (hx ▸ hy)
      · exact .inr (.inr (hx ▸ hy))

/-- The records of written records are the cells. -/
lemma records_written {rows : List (List String)} (hr : ∀ r ∈ rows, r ≠ [])
    (hb : (rows.flatMap recordChars).head? ≠ some byteOrderMark) :
    (records comma (rows.flatMap recordChars)).map (·.cells) = rows := by
  have hrun := Scan.at_init.run_records hr
  rcases ht : rows.flatMap recordChars with _ | ⟨c, cs⟩
  · rcases rows with _ | ⟨r, rows⟩
    · rfl
    · simp [recordChars] at ht
  · rw [ht] at hrun hb
    have hc : c ≠ byteOrderMark := fun h => hb (by rw [h]; rfl)
    rw [records, if_neg hc, Scan.finish, hrun.phase]
    simpa using congrArg List.reverse hrun.rows

lemma firstRagged_eq_none {n : Nat} {l : List Record} (i : Nat) (h : ∀ r ∈ l, r.cells.length = n) :
    firstRagged n i l = none := by
  induction l generalizing i with
  | nil => rfl
  | cons r l ih =>
    rw [List.forall_mem_cons] at h
    rw [firstRagged, if_pos h.1]
    exact ih (i + 1) h.2

/-- A text whose records are a header and rows of its length is their table. -/
lemma read_of_cells {text : String} {header : List String} {rows : List (List String)}
    (h : (records comma text.toList).map (·.cells) = header :: rows) (hr : rows ≠ [])
    (hl : ∀ r ∈ rows, r.length = header.length) :
    read text (some comma) false = .ok ⟨comma, some header, rows⟩ := by
  rcases hrec : records comma text.toList with _ | ⟨first, rest⟩
  · simp [hrec] at h
  · rw [hrec, List.map_cons, List.cons.injEq] at h
    obtain ⟨rfl, rfl⟩ := h
    have hragged : firstRagged first.cells.length 1 rest = none :=
      firstRagged_eq_none 1 fun r hm => hl _ (List.mem_map_of_mem hm)
    unfold read
    simp only [Option.getD_some, hrec, hragged, Bool.false_eq_true, if_false, if_neg hr]

/-- **A table that is written reads back**: the header and the rows are found as they were,
whatever characters the cells hold. -/
theorem read_written {header : List String} {rows : List (List String)} (hh : header ≠ [])
    (hb : ∀ c, header.head? = some c → c.toList.head? ≠ some byteOrderMark) (hr : rows ≠ [])
    (hl : ∀ r ∈ rows, r.length = header.length) :
    read (String.join ((header :: rows).map recordText)) (some comma) false =
      .ok ⟨comma, some header, rows⟩ := by
  have hlist : (String.join ((header :: rows).map recordText)).toList =
      (header :: rows).flatMap recordChars := by
    simp [String.toList_join, List.flatMap_map, recordText]
  have hne : ∀ r ∈ header :: rows, r ≠ [] := by
    refine List.forall_mem_cons.mpr ⟨hh, fun r hm hn => hh (List.eq_nil_of_length_eq_zero ?_)⟩
    rw [← hl r hm, hn, List.length_nil]
  have hmark : ((header :: rows).flatMap recordChars).head? ≠ some byteOrderMark := by
    obtain ⟨c, cells, rfl⟩ := List.exists_cons_of_ne_nil hh
    have htext : (((c :: cells) :: rows).flatMap recordChars).head? =
        (recordChars (c :: cells)).head? := by
      rcases hc : recordChars (c :: cells) with _ | ⟨y, ys⟩
      · simp [recordChars] at hc
      · simp [hc]
    rw [htext]
    intro h
    rcases head?_recordChars h with h | h | h
    · exact absurd h (by decide)
    · exact absurd h (by decide)
    · exact hb c rfl h
  exact read_of_cells (by rw [hlist]; exact records_written hne hmark) hr hl

end TestData.Table
