import TestData.Proofs.Value.Fields
import TestData.Table.Reader

/-!
Tables that are read are regular.

Reading compares every record with the first, and asks for a row besides the header. So a table
has a row, its rows are as long as its header, and no cell is lost where names and cells are
paired.
-/

namespace TestData

namespace Table

/-- A table with at least one row, whose rows are as long as each other and as its header. -/
structure Regular (t : Table) : Prop where
  nonempty : t.rows ≠ []
  even : ∀ row ∈ t.rows, ∀ other ∈ t.rows, row.length = other.length
  headed : ∀ names, t.headers = some names → ∀ row ∈ t.rows, row.length = names.length

/-! ### Reading -/

lemma length_of_firstRagged {n i : Nat} {l : List Record} (h : firstRagged n i l = none) :
    ∀ r ∈ l, r.cells.length = n := by
  induction l generalizing i with
  | nil => nofun
  | cons r l ih =>
    rw [firstRagged] at h
    split_ifs at h with hr
    exact List.forall_mem_cons.mpr ⟨hr, ih h⟩

variable {text : String} {delimiter : Option Delimiter} {noHeader : Bool} {t : Table}

/-- What is read is the records of the text, all as long as the first, which is the header where
there is one. -/
lemma read_cases (h : read text delimiter noHeader = .ok t) :
    ∃ first rest, records t.delimiter text.toList = first :: rest ∧
      (∀ r ∈ rest, r.cells.length = first.cells.length) ∧
      ((noHeader = true ∧ t.headers = none ∧ t.rows = first.cells :: rest.map (·.cells)) ∨
        (noHeader = false ∧ t.headers = some first.cells ∧ t.rows = rest.map (·.cells) ∧
          t.rows ≠ [])) := by
  unfold read at h
  dsimp only at h
  generalize hrecords : records (delimiter.getD (detectDelimiter text)) text.toList = l at h
  rcases l with _ | ⟨first, rest⟩
  · cases h
  · dsimp only at h
    rcases hragged : firstRagged first.cells.length 1 rest with _ | e <;> rw [hragged] at h
    · have hlength := length_of_firstRagged hragged
      dsimp only at h
      split_ifs at h with hheader hrows
      · obtain rfl := Except.ok.inj h
        exact ⟨first, rest, hrecords, hlength, .inl ⟨hheader, rfl, rfl⟩⟩
      · obtain rfl := Except.ok.inj h
        exact ⟨first, rest, hrecords, hlength, .inr ⟨by simpa using hheader, rfl, rfl, hrows⟩⟩
    · cases h

/-- **A table that is read is regular**, however its text is quoted, parted and broken. -/
theorem regular_of_read (h : read text delimiter noHeader = .ok t) : t.Regular := by
  obtain ⟨first, rest, -, hlength, hmode⟩ := read_cases h
  have hcells : ∀ row ∈ rest.map (·.cells), row.length = first.cells.length := by
    intro row hrow
    obtain ⟨r, hr, rfl⟩ := List.mem_map.mp hrow
    exact hlength r hr
  rcases hmode with ⟨-, hnone, hrows⟩ | ⟨-, hsome, hrows, hne⟩
  · have hall : ∀ row ∈ t.rows, row.length = first.cells.length := by
      rw [hrows]
      exact List.forall_mem_cons.mpr ⟨rfl, hcells⟩
    exact ⟨by simp [hrows], fun row hr other ho => (hall row hr).trans (hall other ho).symm,
      fun names hn => by rw [hnone] at hn; cases hn⟩
  · rw [← hrows] at hcells
    refine ⟨hne, fun row hr other ho => (hcells row hr).trans (hcells other ho).symm, ?_⟩
    rintro names hn row hr
    obtain rfl := Option.some.inj (hsome.symm.trans hn)
    exact hcells row hr

lemma headers_of_read (h : read text delimiter noHeader = .ok t) :
    t.headers.isNone = noHeader := by
  obtain ⟨first, rest, -, -, ⟨rfl, hn, -⟩ | ⟨rfl, hs, -⟩⟩ := read_cases h
  · rw [hn, Option.isNone_none]
  · rw [hs, Option.isNone_some]

/-! ### Rows -/

variable {i : Nat} {row : List String} {names : List String}

lemma isSome_rowValue? (t : Table) (i : Nat) : (t.rowValue? i).isSome ↔ i < t.size := by
  rw [rowValue?, Option.isSome_map, isSome_getElem?, size]

lemma rowValue?_bare (hh : t.headers = none) (hr : t.rows[i]? = some row) :
    t.rowValue? i = some (.array (row.map .string)) := by
  rw [rowValue?, hr, Option.map_some, hh]

/-- The names of a header paired with the cells of a row. -/
lemma zip_fst (hl : row.length = names.length) :
    ((names.zip row).map fun (n, c) => (n, Value.string c)).map (·.1) = names := by
  rw [List.map_map]
  exact List.map_fst_zip (Nat.le_of_eq hl.symm)

/-- Under a header without repetitions a row is an object with its cells in order. -/
lemma rowValue?_headed (ht : t.Regular) (hh : t.headers = some names) (hd : names.Nodup)
    (hr : t.rows[i]? = some row) :
    ∃ f, t.rowValue? i = some (.object f) ∧
      f.entries = (names.zip row).map fun (n, c) => (n, Value.string c) := by
  have hl : row.length = names.length := ht.headed names hh row (List.mem_of_getElem? hr)
  refine ⟨.ofList ((names.zip row).map fun (n, c) => (n, .string c)), ?_, ?_⟩
  · rw [rowValue?, hr, Option.map_some, hh]
  · exact Fields.entries_ofList (by rwa [zip_fst hl])

end Table

end TestData
