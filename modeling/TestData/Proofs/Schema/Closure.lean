import Mathlib.Data.List.Nodup
import Mathlib.Data.List.Perm.Subperm
import Mathlib.Logic.Relation
import TestData.Proofs.Files.Disk
import TestData.Proofs.Files.Spelling
import TestData.Proofs.Schema.Moved
import TestData.Schema.Workspace

/-!
A workspace that is loaded is the import closure of its root.

Files are told apart by the places that their paths lead to, and the queue of the search holds
paths as they are spelled, joined to the directories of the documents that import them. Two
spellings of one file are read alike, and what they import is spelled to the same files, so that
the search need not look at the second.
-/

namespace TestData.Schema

namespace Workspace

open Files (Disk Path)

section

variable {disk : Disk} {p p' q root : Path} {d e : Document} {docs : List Document}
  {seen : List PathKey} {queue skipped rest : List Path}

/-! ### Spellings of one file -/

/-- Two paths of one file. -/
def SameFile (disk : Disk) (p p' : Path) : Prop :=
  ∃ place c, disk.place p = .ok place ∧ disk.place p' = .ok place ∧
    disk.at? place = some (.file c)

lemma SameFile.symm (h : SameFile disk p p') : SameFile disk p' p := by
  obtain ⟨place, c, hp, hp', hc⟩ := h
  exact ⟨place, c, hp', hp, hc⟩

lemma SameFile.trans (h : SameFile disk p p') (h' : SameFile disk p' q) : SameFile disk p q := by
  obtain ⟨place, c, hp, hp', hc⟩ := h
  obtain ⟨place', c', hq, hq', -⟩ := h'
  obtain rfl : place = place' := Except.ok.inj (hp'.symm.trans hq)
  exact ⟨place, c, hp, hq', hc⟩

lemma isFile_iff : disk.isFile p = true ↔ SameFile disk p p := by
  unfold Disk.isFile SameFile
  rcases hp : disk.place p with t | place
  · simp
  · rcases hc : disk.at? place with _ | ⟨_ | c⟩ <;> simp [hc]

lemma SameFile.key (h : SameFile disk p p') : PathKey.of disk p = PathKey.of disk p' := by
  obtain ⟨place, c, hp, hp', -⟩ := h
  rw [PathKey.of, PathKey.of, hp, hp']

/-- Files are told apart by their keys. -/
lemma sameFile_of_key (hp : disk.isFile p = true) (hp' : disk.isFile p' = true)
    (h : PathKey.of disk p = PathKey.of disk p') : SameFile disk p p' := by
  obtain ⟨place, c, hplace, -, hc⟩ := isFile_iff.mp hp
  obtain ⟨place', c', hplace', -, -⟩ := isFile_iff.mp hp'
  rw [PathKey.of, PathKey.of, hplace, hplace'] at h
  obtain rfl := (List.cons.inj h).2
  exact ⟨place, c, hplace, hplace', hc⟩

/-! ### What is read of a file -/

lemma text_of_place (h : disk.place p = disk.place p') : disk.text p = disk.text p' := by
  rw [Disk.text, Disk.text, Disk.bytes, Disk.bytes, h]

lemma isFile_of_text {text : String} (h : disk.text p = .ok text) : disk.isFile p = true := by
  unfold Disk.text Disk.bytes at h
  rw [isFile_iff, SameFile]
  rcases hp : disk.place p with t | place
  · rw [hp] at h
    cases h
  · rcases hc : disk.at? place with _ | ⟨_ | c⟩
    · simp [hp, hc, bind, Except.bind] at h
    · simp [hp, hc, bind, Except.bind] at h
    · exact ⟨place, c, rfl, rfl, hc⟩

lemma ofFile_of_text {text : String} (h : disk.text p = .ok text) :
    Document.ofFile disk p = Document.ofText p text := by
  rw [Document.ofFile, h]

lemma text_of_ofFile (h : Document.ofFile disk p = .ok d) :
    ∃ text, disk.text p = .ok text ∧ Document.ofText p text = .ok d := by
  rcases ht : disk.text p with t | text
  · rw [Document.ofFile, ht] at h
    cases h
  · exact ⟨text, rfl, (ofFile_of_text ht).symm.trans h⟩

lemma ofFile_ok (h : Document.ofFile disk p = .ok d) : disk.isFile p = true ∧ d.path = p := by
  obtain ⟨text, ht, h⟩ := text_of_ofFile h
  refine ⟨isFile_of_text ht, ?_⟩
  have hmoved := Document.ofText_moved p p text
  rw [h] at hmoved
  exact congrArg Document.path (Except.ok.inj hmoved)

/-- A file is read alike under each of its paths. -/
lemma SameFile.ofFile (hs : SameFile disk p p') (h : Document.ofFile disk p = .ok d) :
    Document.ofFile disk p' = .ok { d with path := p' } := by
  obtain ⟨place, c, hp, hp', -⟩ := hs
  obtain ⟨text, ht, h⟩ := text_of_ofFile h
  have ht' : disk.text p' = .ok text := (text_of_place (hp'.trans hp.symm)).trans ht
  rw [ofFile_of_text ht', Document.ofText_moved p p', h]
  rfl

/-- What a path written in a document names does not depend on the spelling of the document. -/
lemma place_resolvePath (hdisk : disk.Grounded) (hs : SameFile disk d.path p') (r : Path) :
    disk.place (Document.resolvePath { d with path := p' } r) = disk.place (d.resolvePath r) := by
  unfold Document.resolvePath
  by_cases hr : Path.isAbsolute r = true
  · rw [if_pos hr, if_pos hr]
  · rw [if_neg hr, if_neg hr]
    obtain ⟨place, c, hp, hp', hc⟩ := hs
    rw [Bool.not_eq_true] at hr
    have hfind := Disk.find_joined hdisk hp hc hr
    have hfind' := Disk.find_joined hdisk hp' hc hr
    rw [Disk.place, Disk.place, Document.directory, Document.directory, hfind, hfind']

/-! ### Reachable files -/

/-- The document at the first path imports the second, which names a file. -/
def Links (disk : Disk) (p q : Path) : Prop :=
  ∃ d, Document.ofFile disk p = .ok d ∧ q ∈ importedFiles disk d

/-- Imports lead from the first path to the second. -/
def Reaches (disk : Disk) : Path → Path → Prop := Relation.ReflTransGen (Links disk)

lemma mem_importedFiles : q ∈ importedFiles disk d ↔
    disk.isFile q = true ∧ ∃ i ∈ d.imports, d.resolvePath i.path = q := by
  simp [importedFiles, and_comm]

/-- Spellings of one file import the same files. -/
lemma links_same (hdisk : disk.Grounded) (hs : SameFile disk p p') (h : Links disk p q) :
    ∃ q', Links disk p' q' ∧ SameFile disk q' q := by
  obtain ⟨d, hd, hq⟩ := h
  obtain ⟨hfile, i, hi, rfl⟩ := mem_importedFiles.mp hq
  obtain rfl := (ofFile_ok hd).2
  have hplace := place_resolvePath hdisk hs i.path
  obtain ⟨place, c, hp, -, hc⟩ := isFile_iff.mp hfile
  have hsame : SameFile disk (Document.resolvePath { d with path := p' } i.path)
      (d.resolvePath i.path) := ⟨place, c, hplace.trans hp, hp, hc⟩
  have hfile' := isFile_iff.mpr (hsame.trans hsame.symm)
  exact ⟨_, ⟨_, hs.ofFile hd, mem_importedFiles.mpr ⟨hfile', i, hi, rfl⟩⟩, hsame⟩

/-! ### The search -/

lemma gather_nil (disk : Disk) (fuel : Nat) (seen : List PathKey) :
    gather disk fuel seen [] = .ok [] := by
  rcases fuel with _ | fuel <;> rfl

/-- A file that was seen is passed over. -/
lemma gather_seen (fuel : Nat) (h : PathKey.of disk p ∈ seen) (queue : List Path) :
    gather disk fuel seen (p :: queue) = gather disk fuel seen queue := by
  rcases fuel with _ | fuel
  · rfl
  · rw [gather, gather, List.dropWhile_cons_of_pos (by simpa using h)]

/-- A file that was not seen is read, and what it imports is put at the end of the queue. -/
lemma gather_next (fuel : Nat) (h : PathKey.of disk p ∉ seen) (queue : List Path) :
    gather disk (fuel + 1) seen (p :: queue) =
      (Document.ofFile disk p).bind fun d =>
        (gather disk fuel (PathKey.of disk p :: seen) (queue ++ importedFiles disk d)).map
          (d :: ·) := by
  rw [gather, List.dropWhile_cons_of_neg (by simpa using h)]
  change (Document.ofFile disk p).bind _ = _
  rcases Document.ofFile disk p with err | d
  · rfl
  · change (gather disk fuel (PathKey.of disk p :: seen) (queue ++ importedFiles disk d)).bind
      (fun more => .ok (d :: more)) = (gather disk fuel _ _).map _
    rcases gather disk fuel (PathKey.of disk p :: seen) (queue ++ importedFiles disk d) <;> rfl

lemma gather_read (fuel : Nat) (h : PathKey.of disk p ∉ seen)
    (hd : Document.ofFile disk p = .ok d) (queue : List Path) :
    gather disk (fuel + 1) seen (p :: queue) =
      (gather disk fuel (PathKey.of disk p :: seen) (queue ++ importedFiles disk d)).map
        (d :: ·) := by
  rw [gather_next fuel h, hd]
  rfl

/-- One step of the search: it is done, or it reads the first file that was not seen. -/
lemma gather_step (disk : Disk) (fuel : Nat) (seen : List PathKey) (queue : List Path) :
    (∀ p ∈ queue, PathKey.of disk p ∈ seen) ∧ gather disk (fuel + 1) seen queue = .ok [] ∨
    ∃ skipped next rest, queue = skipped ++ next :: rest ∧
      (∀ p ∈ skipped, PathKey.of disk p ∈ seen) ∧ PathKey.of disk next ∉ seen ∧
      gather disk (fuel + 1) seen queue =
        (Document.ofFile disk next).bind fun d =>
          (gather disk fuel (PathKey.of disk next :: seen) (rest ++ importedFiles disk d)).map
            (d :: ·) := by
  induction queue with
  | nil => exact .inl ⟨by simp, gather_nil disk _ seen⟩
  | cons p queue ih =>
    by_cases hp : PathKey.of disk p ∈ seen
    · rw [gather_seen _ hp]
      obtain ⟨hall, hdone⟩ | ⟨skipped, next, rest, rfl, hskipped, hnext, hstep⟩ := ih
      · exact .inl ⟨by simpa [hp] using hall, hdone⟩
      · exact .inr ⟨p :: skipped, next, rest, rfl, by simpa [hp] using hskipped, hnext, hstep⟩
    · exact .inr ⟨[], p, queue, rfl, by simp, hp, gather_next fuel hp queue⟩

/-- What the search has found, from a queue and from keys that were seen. -/
structure Gathered (disk : Disk) (seen : List PathKey) (queue : List Path)
    (docs : List Document) : Prop where
  read : ∀ d ∈ docs, Document.ofFile disk d.path = .ok d
  reached : ∀ d ∈ docs, ∃ p ∈ queue, Reaches disk p d.path
  fresh : ∀ d ∈ docs, PathKey.of disk d.path ∉ seen
  once : (docs.map fun d => PathKey.of disk d.path).Nodup
  queued : ∀ p ∈ queue, PathKey.of disk p ∈ seen ∨
    PathKey.of disk p ∈ docs.map fun d => PathKey.of disk d.path
  closed : ∀ d ∈ docs, ∀ p ∈ importedFiles disk d, PathKey.of disk p ∈ seen ∨
    PathKey.of disk p ∈ docs.map fun d => PathKey.of disk d.path

lemma gathered_nil (h : ∀ p ∈ queue, PathKey.of disk p ∈ seen) : Gathered disk seen queue [] :=
  ⟨by simp, by simp, by simp, by simp, fun p hp => .inl (h p hp), by simp⟩

lemma gathered_cons {next : Path} (hskipped : ∀ p ∈ skipped, PathKey.of disk p ∈ seen)
    (hnext : PathKey.of disk next ∉ seen) (hd : Document.ofFile disk next = .ok d)
    (h : Gathered disk (PathKey.of disk next :: seen) (rest ++ importedFiles disk d) docs) :
    Gathered disk seen (skipped ++ next :: rest) (d :: docs) := by
  obtain rfl := (ofFile_ok hd).2
  -- What the rest of the search counts as seen is seen here or is the document that is read.
  have hseen : ∀ k, k ∈ PathKey.of disk d.path :: seen ∨
      k ∈ docs.map (fun d => PathKey.of disk d.path) →
      k ∈ seen ∨ k ∈ (d :: docs).map fun d => PathKey.of disk d.path := by
    rintro k (hk | hk)
    · rcases List.mem_cons.mp hk with rfl | hk
      · exact .inr (by simp)
      · exact .inl hk
    · exact .inr (by simp [hk])
  refine ⟨?_, ?_, ?_, ?_, ?_, ?_⟩
  · rintro e he
    rcases List.mem_cons.mp he with rfl | he
    · exact hd
    · exact h.read e he
  · rintro e he
    rcases List.mem_cons.mp he with rfl | he
    · exact ⟨e.path, by simp, .refl⟩
    · obtain ⟨p, hp, hpe⟩ := h.reached e he
      rcases List.mem_append.mp hp with hp | hp
      · exact ⟨p, by simp [hp], hpe⟩
      · exact ⟨d.path, by simp, hpe.head ⟨d, hd, hp⟩⟩
  · rintro e he
    rcases List.mem_cons.mp he with rfl | he
    · exact hnext
    · exact fun hk => h.fresh e he (List.mem_cons_of_mem _ hk)
  · rw [List.map_cons, List.nodup_cons]
    refine ⟨fun hk => ?_, h.once⟩
    obtain ⟨e, he, hkey⟩ := List.mem_map.mp hk
    exact h.fresh e he (by simp [hkey])
  · rintro p hp
    rcases List.mem_append.mp hp with hp | hp
    · exact .inl (hskipped p hp)
    · rcases List.mem_cons.mp hp with rfl | hp
      · exact .inr (by simp)
      · exact hseen _ (h.queued p (List.mem_append_left _ hp))
  · rintro e he p hp
    rcases List.mem_cons.mp he with rfl | he
    · exact hseen _ (h.queued p (List.mem_append_right _ hp))
    · exact hseen _ (h.closed e he p hp)

/-- Keys of files, each once. -/
structure Seen (disk : Disk) (seen : List PathKey) : Prop where
  nodup : seen.Nodup
  entries : ∀ k ∈ seen, k ∈ disk.entries.map fun e => "/" :: e.1

lemma Seen.length_le (h : Seen disk seen) : seen.length ≤ disk.entries.length := by
  simpa using (List.subperm_of_subset h.nodup h.entries).length_le

lemma Seen.cons (h : Seen disk seen) (hnew : PathKey.of disk p ∉ seen)
    (hp : disk.isFile p = true) : Seen disk (PathKey.of disk p :: seen) where
  nodup := List.nodup_cons.mpr ⟨hnew, h.nodup⟩
  entries k hk := by
    rcases List.mem_cons.mp hk with rfl | hk
    · obtain ⟨place, c, hplace, -, hc⟩ := isFile_iff.mp hp
      have hne := Disk.ne_root hc
      rw [Disk.at?, if_neg hne] at hc
      obtain ⟨l, r, hentries, -⟩ := List.lookup_eq_some_iff.mp hc
      rw [PathKey.of, hplace, hentries]
      simp
    · exact h.entries k hk

/-- The fuel of the search is enough, as each step sees another file of the disk. -/
lemma gathered {fuel : Nat} (hseen : Seen disk seen)
    (hfuel : disk.entries.length < fuel + seen.length)
    (h : gather disk fuel seen queue = .ok docs) : Gathered disk seen queue docs := by
  induction fuel generalizing seen queue docs with
  | zero =>
    have := hseen.length_le
    omega
  | succ fuel ih =>
    obtain ⟨hall, hdone⟩ | ⟨skipped, next, rest, rfl, hskipped, hnext, hstep⟩ :=
      gather_step disk fuel seen queue
    · rw [hdone] at h
      obtain rfl := Except.ok.inj h
      exact gathered_nil hall
    rw [hstep] at h
    rcases hd : Document.ofFile disk next with e | d <;> rw [hd] at h
    · cases h
    · change (gather disk fuel _ _).map _ = _ at h
      rcases hg : gather disk fuel (PathKey.of disk next :: seen)
        (rest ++ importedFiles disk d) with e | more <;> rw [hg] at h
      · cases h
      · obtain rfl := Except.ok.inj h
        have hlength : disk.entries.length < fuel + (PathKey.of disk next :: seen).length := by
          rw [List.length_cons]
          omega
        exact gathered_cons hskipped hnext hd (ih (hseen.cons hnext (ofFile_ok hd).1) hlength hg)

/-! ### Documents by their keys -/

lemma document_ofDocuments (disk : Disk) (l : List Document) (i : Nat) :
    (ofDocuments disk l).documents[i]? = l[i]? := by
  simp [ofDocuments]

lemma load_eq : load disk root =
    (gather disk (disk.entries.length + 1) [] [root]).map (ofDocuments disk) := by
  rw [load]
  rcases gather disk (disk.entries.length + 1) [] [root] <;> rfl

/-- A file that imports nothing is a workspace of its own. -/
lemma load_alone (hread : Document.ofFile disk root = .ok d) (himports : d.imports = []) :
    load disk root = .ok (ofDocuments disk [d]) := by
  have hnone : importedFiles disk d = [] := by simp [importedFiles, himports]
  rw [load_eq, gather_read _ (by simp) hread, hnone, List.append_nil, gather_nil]
  rfl

/-- Every file that is reached is read. -/
lemma Gathered.complete (hdisk : disk.Grounded) (h : Gathered disk [] [root] docs)
    (hroot : ∃ d ∈ docs, d.path = root) (hp : Reaches disk root p) :
    ∃ d ∈ docs, SameFile disk d.path p := by
  induction hp with
  | refl =>
    obtain ⟨d, hd, rfl⟩ := hroot
    exact ⟨d, hd, isFile_iff.mp (ofFile_ok (h.read d hd)).1⟩
  | tail _ hlink ih =>
    obtain ⟨d, hd, hsame⟩ := ih
    obtain ⟨q', ⟨d', hread, hq'⟩, hsame'⟩ := links_same hdisk hsame.symm hlink
    obtain rfl : d = d' := Except.ok.inj ((h.read d hd).symm.trans hread)
    rcases h.closed d hd q' hq' with hnil | hkey
    · cases hnil
    obtain ⟨e, he, hkey⟩ := List.mem_map.mp hkey
    have hfile := (ofFile_ok (h.read e he)).1
    exact ⟨e, he, (sameFile_of_key hfile (mem_importedFiles.mp hq').1 hkey).trans hsame'⟩

end

namespace Trailing

/-- A schema that imports another, and that again with a slash after its path. -/
def text : String := "imports:\n- path: b\n- path: b/\n"

/-- A directory with the schema and an empty one. -/
def disk : Disk :=
  ((Disk.ofDirectory ["d"]).set ["d", "a"] (.file text.toUTF8)).set ["d", "b"]
    (.file "".toUTF8)

/-- The document of a text. -/
def document (path : Path) (text : String) : Document :=
  (Document.ofText path text).toOption.getD default

/-- The workspace of the two schemas. -/
def workspace : Workspace := ofDocuments disk [document "/d/a" text, document "/d/b" ""]

/-- Both schemas are read, the first leads to the second, and its import that names no file does so
too. -/
lemma facts :
    (Document.ofText "/d/a" text).toOption.isSome = true ∧
      (Document.ofText "/d/b" "").toOption.isSome = true ∧
      importedFiles disk (document "/d/a" text) = ["/d/b"] ∧
      importedFiles disk (document "/d/b" "") = [] ∧
      PathKey.of disk "/d/b" ∉ [PathKey.of disk "/d/a"] ∧
      ∃ m ∈ (workspace.document 0).imports,
        disk.isFile ((workspace.document 0).resolvePath m.path) = false ∧
          workspace.imported? disk 0 m = some 1 := by
  decide +kernel

end Trailing

end Workspace

end TestData.Schema
