import TestData.Files.Disk
import TestData.Proofs.Value.Pairs

/-!
File systems that differ in one file.

What a path names does not depend on what the files hold. Once a file is there, writing it changes
what is read of that file and of nothing else, and its path goes on leading to it.
-/

namespace TestData

namespace Files.Disk

variable {d d' d₁ : Disk} {p q here next : Place} {path : Path}

/-! ### Writing a file -/

lemma at?_set (hq : q ≠ []) (e : Entry) (p : Place) :
    (d.set q e).at? p = if p = q then some e else d.at? p := by
  by_cases hp : p = q
  · simp [at?, set, hp, hq]
  · simp only [at?, set, lookup_cons_if, lookup_filter_ne, hp, if_false]

@[simp] lemma set_set (e e' : Entry) : (d.set q e).set q e' = d.set q e' := by
  simp [set, List.filter_filter]

@[simp] lemma current_set (e : Entry) : (d.set q e).current = d.current := rfl

/-- The root is no file. -/
lemma ne_root {c : ByteArray} (h : d.at? q = some (.file c)) : q ≠ [] := by
  rintro rfl
  cases h

lemma append_of_file {c more : ByteArray} (h : d.at? q = some (.file c)) :
    d.append q more = d.set q (.file (c ++ more)) := by
  rw [append, h]

lemma bytes_of_find {c : ByteArray} (h : d.find path = .ok (q, true))
    (hc : d.at? q = some (.file c)) : d.bytes path = .ok c := by
  simp [bytes, place, h, hc, bind, Except.bind, pure, Except.pure]

lemma text_of_find {s : String} (h : d.find path = .ok (q, true))
    (hs : d.at? q = some (.file s.toUTF8)) : d.text path = .ok s := by
  have hread : String.fromUTF8? s.toUTF8 = some s := by
    unfold String.fromUTF8?
    exact dif_pos s.isValidUTF8
  simp only [text, bytes_of_find h hs, bind, Except.bind, hread]
  rfl

/-! ### File systems that differ in one file -/

/-- Two file systems in which a place is a file, and which are alike but for what it holds. -/
structure AlikeBut (q : Place) (d d' : Disk) : Prop where
  current : d'.current = d.current
  file : ∃ c, d.at? q = some (.file c)
  file' : ∃ c, d'.at? q = some (.file c)
  others : ∀ p, p ≠ q → d'.at? p = d.at? p

namespace AlikeBut

lemma symm (h : AlikeBut q d d') : AlikeBut q d' d :=
  ⟨h.current.symm, h.file', h.file, fun p hp => (h.others p hp).symm⟩

lemma trans (h : AlikeBut q d d') (h' : AlikeBut q d' d₁) : AlikeBut q d d₁ :=
  ⟨h'.current.trans h.current, h.file, h'.file',
    fun p hp => (h'.others p hp).trans (h.others p hp)⟩

lemma set (hq : q ≠ []) (c c' : ByteArray) :
    AlikeBut q (d.set q (.file c)) (d.set q (.file c')) where
  current := rfl
  file := ⟨c, by simp [at?_set hq]⟩
  file' := ⟨c', by simp [at?_set hq]⟩
  others p hp := by simp [at?_set hq, hp]

lemma isDirectoryAt (h : AlikeBut q d d') (p : Place) : d'.isDirectoryAt p = d.isDirectoryAt p := by
  unfold Disk.isDirectoryAt
  by_cases hp : p = q
  · obtain ⟨c, hc⟩ := h.file
    obtain ⟨c', hc'⟩ := h.file'
    rw [hp, hc, hc']
  · rw [h.others p hp]

lemma isNone (h : AlikeBut q d d') (p : Place) : d'.at? p = none ↔ d.at? p = none := by
  by_cases hp : p = q
  · obtain ⟨c, hc⟩ := h.file
    obtain ⟨c', hc'⟩ := h.file'
    simp [hp, hc, hc']
  · rw [h.others p hp]

lemma walk (h : AlikeBut q d d') (here : Place) (names : List String) :
    d'.walk here names = d.walk here names := by
  induction names generalizing here with
  | nil => rfl
  | cons name rest ih =>
    rw [Disk.walk, Disk.walk, h.isDirectoryAt]
    simp only [ih]
    rcases hn : d.at? (here ++ [name]) with _ | e
    · rw [(h.isNone _).mpr hn]
    · rcases hn' : d'.at? (here ++ [name]) with _ | e'
      · rw [(h.isNone _).mp hn'] at hn
        cases hn
      · rfl

lemma find (h : AlikeBut q d d') (path : Path) : d'.find path = d.find path := by
  rw [Disk.find, Disk.find, h.current, h.walk]

lemma place (h : AlikeBut q d d') (path : Path) : d'.place path = d.place path := by
  rw [Disk.place, Disk.place, h.find]

/-- Other files are read alike. -/
lemma text (h : AlikeBut q d d') (hp : d.place path ≠ .ok q) : d'.text path = d.text path := by
  have hbytes : d'.bytes path = d.bytes path := by
    unfold bytes
    rw [h.place]
    rcases hr : d.place path with e | r
    · rfl
    · have hne : r ≠ q := fun he => hp (by rw [hr, he])
      simp only [bind, Except.bind, h.others r hne]
  rw [Disk.text, Disk.text, hbytes]

end AlikeBut

/-! ### Opening a file -/

/-- The path of a file goes on leading to it once the file is made or written. -/
lemma walk_set {names : List String} {b : Bool} {c : ByteArray} (hq : q ≠ [])
    (hfile : d.isDirectoryAt q = false) (h : d.walk here names = .ok (q, b)) :
    (d.set q (.file c)).walk here names = .ok (q, true) := by
  induction names generalizing here with
  | nil =>
    obtain rfl : here = q := (Prod.mk.inj (Except.ok.inj h)).1
    rfl
  | cons name rest ih =>
    rw [walk] at h ⊢
    rcases hdir : d.isDirectoryAt here with _ | _
    · simp [hdir] at h
    have hdir' : (d.set q (.file c)).isDirectoryAt here = true := by
      have hne : here ≠ q := by
        rintro rfl
        rw [hfile] at hdir
        cases hdir
      simpa only [isDirectoryAt, at?_set hq, if_neg hne] using hdir
    simp only [hdir, hdir', Bool.not_true, Bool.false_eq_true, if_false] at h ⊢
    by_cases hdot : name = "."
    · simp only [if_pos hdot] at h ⊢
      exact ih h
    by_cases hdots : name = ".."
    · simp only [if_neg hdot, if_pos hdots] at h ⊢
      exact ih h
    simp only [if_neg hdot, if_neg hdots] at h ⊢
    rcases hn : d.at? (here ++ [name]) with _ | e
    · by_cases hrest : rest = []
      · simp only [hn, if_pos hrest, Except.ok.injEq, Prod.mk.injEq] at h
        simp [at?_set hq, h.1, hrest, walk]
      · simp [hn, hrest] at h
    · simp only [hn] at h
      by_cases hnext : here ++ [name] = q
      · simpa [at?_set hq, hnext] using ih h
      · simpa [at?_set hq, hnext, hn] using ih h

/-- A file that is opened is there afterwards, emptied unless it is opened at its end, and all
else is as before. Its path goes on leading to it, whatever is written. -/
lemma openFile_ok {append : Bool} (h : d.openFile path append = .ok (q, d')) :
    q ≠ [] ∧ (∀ c, (d.set q (.file c)).find path = .ok (q, true)) ∧
      ∃ c, d' = d.set q (.file c) ∧ (append = false → c = .empty) := by
  unfold openFile at h
  rcases hf : d.find path with e | ⟨q', b⟩
  · rw [hf] at h
    cases h
  rw [hf] at h
  have hopened : ∀ c, d.isDirectoryAt q' = false → q' ≠ [] →
      (d.set q' (.file c)).find path = .ok (q', true) := by
    intro c hdir hroot
    unfold find at hf ⊢
    by_cases hp : path = ""
    · rw [if_pos hp] at hf
      cases hf
    · rw [if_neg hp] at hf ⊢
      exact walk_set hroot hdir hf
  rcases he : d.at? q' with _ | ⟨_ | content⟩
  · simp only [bind, Except.bind, he, pure, Except.pure, Except.ok.injEq, Prod.mk.injEq] at h
    obtain ⟨rfl, rfl⟩ := h
    have hroot : q' ≠ [] := by
      rintro rfl
      cases he
    exact ⟨hroot, fun c => hopened c (by simp [isDirectoryAt, he]) hroot, _, rfl, fun _ => rfl⟩
  · simp [bind, Except.bind, he] at h
  · simp only [bind, Except.bind, he, pure, Except.pure, Except.ok.injEq, Prod.mk.injEq] at h
    obtain ⟨rfl, rfl⟩ := h
    refine ⟨ne_root he, fun c => hopened c (by simp [isDirectoryAt, he]) (ne_root he), _, rfl, ?_⟩
    rintro rfl
    rfl

/-- A file that is there opens as it is or emptied. -/
lemma openFile_of_find {append : Bool} {c : ByteArray} (h : d.find path = .ok (q, true))
    (hc : d.at? q = some (.file c)) :
    d.openFile path append = .ok (q, d.set q (.file (if append then c else .empty))) := by
  simp [openFile, h, hc, bind, Except.bind, pure, Except.pure]

end Files.Disk

end TestData
