import Mathlib.Algebra.GroupWithZero.Nat
import TestData.Proofs.Evaluation.Spared
import TestData.Proofs.Output.Columns

/-!
Files that are written in parts.

One session writes to one file in several calls. The first may empty the file and the others add to
it. Between the calls the generators, the random source and the tables carry over, so that the
records go on where the call before left off. What is in the file does not matter for the records
as long as no table is read from it.
-/

namespace TestData.Output

open Engine Files

/-- A call that writes records to a file: how many, and the time and the entropy of that moment. -/
structure Part where
  count : Nat
  time : Calendar.Timestamp
  entropy : UInt64

/-- The world of a part, given the files. -/
def Part.world (p : Part) (d : Disk) : World := { disk := d, time := p.time, entropy := p.entropy }

/-- Writes records to a file in parts. The first part goes after what is there if it is to be
appended; all others do. -/
def writeParts (style : Style) (entity : String) (path : Path) :
    Bool → List Part → Disk → Session → List (Except WriteError Metrics) × Disk × Session
  | _, [], d, s => ([], d, s)
  | append, p :: rest, d, s =>
    let (r, d, s) := writeFile style entity p.count path append (p.world d) s
    let (rs, d, s) := writeParts style entity path true rest d s
    (r :: rs, d, s)

/-- The number of records of all parts. -/
def total (parts : List Part) : Nat := (parts.map (·.count)).sum

/-- The text of parts with their records. -/
def Style.partTexts (style : Style) (entity : String) : Bool → List (List Value) → String
  | _, [] => ""
  | append, vs :: rest => (style.call append).text entity vs ++ style.partTexts entity true rest

section

variable {style : Style} {entity : String} {path : Path} {w : World} {s : Session} {q : Place}
  {d : Disk} {append : Bool}

/-! ### One part -/

/-- A part that ends without an error has taken its records, whatever is in the file, and has added
their text to the file. -/
lemma writeFile_part {p : Part} {d₁ : Disk} {c : ByteArray} {m : Metrics} (hq : q ≠ [])
    (hopen : d₁.openFile path append = .ok (q, d.set q (.file c)))
    (hw : s.Indistinct (p.world (d.set q (.file c))) w)
    (h : (writeFile style entity p.count path append (p.world d₁) s).1 = .ok m) :
    ∃ vs s₁, vs.length = p.count ∧ Yields style.format entity w s vs s₁ ∧
      obstacle? s entity = none ∧
      writeFile style entity p.count path append (p.world d₁) s =
        (.ok { rows := p.count
               bytes := (c ++ ((style.call append).text entity vs).toUTF8).size },
          d.set q (.file (c ++ ((style.call append).text entity vs).toUTF8)), s₁) := by
  obtain ⟨ho, q', d', vs, s₁, hopen', hl, hv⟩ := yields_of_writeFile h
  obtain ⟨rfl, rfl⟩ := Prod.mk.inj (Except.ok.inj (hopen.symm.trans hopen'))
  have hfile : (d.set q (.file c)).at? q = some (.file c) := by simp [Disk.at?_set hq]
  have hend : ∀ x, (d.set q (.file x)).sizeAt q = x.size := by
    intro x
    simp [Disk.sizeAt, Disk.at?_set hq]
  refine ⟨vs, s₁, hl, hv.of_indistinct hw, ho, ?_⟩
  rw [← hl, writeFile_of_yields ho hopen' hv, Disk.append_of_file hfile, Disk.set_set, hend]

/-! ### All parts -/

variable {parts : List Part} {c : ByteArray} {ms : List Metrics}

/-- What parts without an error have done: they have taken the records of each, one after the other,
and their texts stand in the file after what was there. -/
structure Written (style : Style) (entity : String) (append : Bool) (w : World) (s : Session)
    (q : Place) (d : Disk) (c : ByteArray) (parts : List Part) (ms : List Metrics)
    (vss : List (List Value)) (d₁ : Disk) : Prop where
  counts : vss.map List.length = parts.map (·.count)
  yields : ∃ s₁, Yields style.format entity w s vss.flatten s₁
  disk : d₁ = d.set q (.file (c ++ (style.partTexts entity append vss).toUTF8))
  rows : ms.map (·.rows) = parts.map (·.count)
  bytes : ∀ m ∈ ms.getLast?, m.bytes = (c ++ (style.partTexts entity append vss).toUTF8).size

lemma Written.cons {p : Part} {m : Metrics} {vs : List Value} {vss : List (List Value)}
    {s₁ : Session} {d₁ : Disk} (hl : vs.length = p.count)
    (hv : Yields style.format entity w s vs s₁) (hm : m.rows = p.count)
    (hb : m.bytes = (c ++ ((style.call append).text entity vs).toUTF8).size)
    (h : Written style entity true w s₁ q d (c ++ ((style.call append).text entity vs).toUTF8)
      parts ms vss d₁) :
    Written style entity append w s q d c (p :: parts) (m :: ms) (vs :: vss) d₁ := by
  have htext : c ++ ((style.call append).text entity vs).toUTF8 ++
      (style.partTexts entity true vss).toUTF8 =
      c ++ (style.partTexts entity append (vs :: vss)).toUTF8 := by
    simp [Style.partTexts, ByteArray.append_assoc]
  obtain ⟨s₂, hvs⟩ := h.yields
  refine ⟨by simp [hl, h.counts], ⟨s₂, Yields.append_iff.mpr ⟨s₁, hv, hvs⟩⟩, ?_, ?_, ?_⟩
  · rw [h.disk, htext]
  · simp [hm, h.rows]
  · rcases ms with _ | ⟨m', ms⟩
    · obtain rfl : parts = [] := by simpa using h.rows.symm
      obtain rfl : vss = [] := by simpa using h.counts
      simp [hb, Style.partTexts]
    · intro m'' hm''
      rw [← htext]
      exact h.bytes m'' (by simpa using hm'')

/-- The first part and then the rest, of which it is known what they do. -/
lemma written_cons {d₁ : Disk} {p : Part} (hq : q ≠ [])
    (hopen : d₁.openFile path append = .ok (q, d.set q (.file c)))
    (hw : ∀ (p : Part) c, s.Indistinct (p.world (d.set q (.file c))) w)
    (hrest : ∀ s₁ c ms, s₁.setting = s.setting →
      (writeParts style entity path true parts (d.set q (.file c)) s₁).1 = ms.map .ok →
      ∃ vss, Written style entity true w s₁ q d c parts ms vss
        (writeParts style entity path true parts (d.set q (.file c)) s₁).2.1)
    (h : (writeParts style entity path append (p :: parts) d₁ s).1 = ms.map .ok) :
    obstacle? s entity = none ∧ ∃ vss, Written style entity append w s q d c (p :: parts) ms vss
      (writeParts style entity path append (p :: parts) d₁ s).2.1 := by
  rw [writeParts] at h ⊢
  rcases ms with _ | ⟨m, ms⟩
  · simp at h
  · obtain ⟨hm, hms⟩ := List.cons.inj h
    obtain ⟨vs, s₁, hl, hv, ho, hfile⟩ := writeFile_part hq hopen (hw p c) hm
    rw [hfile] at hm hms ⊢
    obtain ⟨vss, hvss⟩ := hrest s₁ _ ms hv.setting hms
    obtain rfl := Except.ok.inj hm
    exact ⟨ho, vs :: vss, .cons hl hv rfl rfl hvss⟩

lemma written_appended (hq : q ≠ []) (hfind : ∀ c, (d.set q (.file c)).find path = .ok (q, true))
    (hw : ∀ (p : Part) c, s.Indistinct (p.world (d.set q (.file c))) w)
    (h : (writeParts style entity path true parts (d.set q (.file c)) s).1 = ms.map .ok) :
    ∃ vss, Written style entity true w s q d c parts ms vss
      (writeParts style entity path true parts (d.set q (.file c)) s).2.1 := by
  induction parts generalizing c s ms with
  | nil =>
    obtain rfl : ms = [] := by simpa [writeParts] using h.symm
    exact ⟨[], rfl, ⟨s, .nil s⟩, by simp [writeParts, Style.partTexts], rfl, by simp⟩
  | cons p rest ih =>
    have hopen : (d.set q (.file c)).openFile path true = .ok (q, d.set q (.file c)) := by
      rw [Disk.openFile_of_find (c := c) (hfind c) (by simp [Disk.at?_set hq]), Disk.set_set]
      rfl
    exact (written_cons hq hopen hw
      (fun s₁ c ms hs => ih fun p c => (hw p c).of_setting hs) h).2

/-- What parts without an error have done, where the first empties the file and no table is read
from it: the records are those of any world that differs at most in what is in the file. -/
theorem written_spared {d₀ d₁ : Disk} {ms : List Metrics} (hparts : parts ≠ [])
    (hnow : s.options.now.isSome) (hopen : d₁.openFile path false = .ok (q, d₀))
    (hspare : s.workspace.Spares d₀ q)
    (h : (writeParts style entity path false parts d₁ s).1 = ms.map .ok) :
    obstacle? s entity = none ∧ ∃ vss, ∀ w, Disk.AlikeBut q d₀ w.disk →
      Written style entity false w s q d₀ .empty parts ms vss
        (writeParts style entity path false parts d₁ s).2.1 := by
  obtain ⟨p, rest, rfl⟩ := List.exists_cons_of_ne_nil hparts
  obtain ⟨hq, hfind, c, rfl, hc⟩ := Disk.openFile_ok hopen
  obtain rfl := hc rfl
  have hself := Disk.AlikeBut.set (d := d₁) hq .empty
  have hindist : ∀ (p' : Part) c,
      s.Indistinct (p'.world (d₁.set q (.file c))) (p.world (d₁.set q (.file .empty))) :=
    fun p' c => indistinct_of_alikeBut hnow (hself c).symm ((hself c).spares hspare)
  obtain ⟨ho, vss, hw⟩ := written_cons hq hopen hindist
    (fun s₁ c ms hs => written_appended hq hfind fun p c => (hindist p c).of_setting hs) h
  refine ⟨ho, vss, fun w hwd => ?_⟩
  obtain ⟨s₁, hv⟩ := hw.yields
  have hdist : s.Indistinct (p.world (d₁.set q (.file .empty))) w :=
    indistinct_of_alikeBut hnow hwd hspare
  exact ⟨hw.counts, ⟨s₁, hv.of_indistinct hdist⟩, by rw [hw.disk, Disk.set_set], hw.rows, hw.bytes⟩

/-- What is in a file that is opened and written. -/
lemma bytes_of_openFile {d₀ d₁ : Disk} (hopen : d₁.openFile path append = .ok (q, d₀))
    (c : ByteArray) : (d₀.set q (.file c)).bytes path = .ok c := by
  obtain ⟨hq, hfind, c₀, rfl, -⟩ := Disk.openFile_ok hopen
  rw [Disk.set_set]
  exact Disk.bytes_of_find (hfind c) (by rw [Disk.at?_set hq, if_pos rfl])

/-- One part that empties the file. -/
lemma writeFile_emptied {d₀ : Disk} {vs : List Value} {s₁ : Session}
    (ho : obstacle? s entity = none) (hopen : w.disk.openFile path false = .ok (q, d₀))
    (hv : Yields style.format entity { w with disk := d₀ } s vs s₁) :
    writeFile style entity vs.length path false w s =
      (.ok { rows := vs.length, bytes := ((style.call false).text entity vs).toUTF8.size },
        d₀.set q (.file ((style.call false).text entity vs).toUTF8), s₁) := by
  have hone := writeFile_of_yields ho hopen hv
  obtain ⟨hq, -, c, rfl, hc⟩ := Disk.openFile_ok hopen
  obtain rfl := hc rfl
  rwa [Disk.append_of_file (by rw [Disk.at?_set hq, if_pos rfl]), ByteArray.empty_append,
    Disk.sizeAt, Disk.at?_set hq, if_pos rfl] at hone

/-- A file that is opened differs from itself in nothing. -/
lemma alikeBut_of_openFile {d₀ d₁ : Disk} (hopen : d₁.openFile path append = .ok (q, d₀)) :
    Disk.AlikeBut q d₀ d₀ := by
  obtain ⟨hq, -, c, rfl, -⟩ := Disk.openFile_ok hopen
  exact .set hq c c

end

end TestData.Output
