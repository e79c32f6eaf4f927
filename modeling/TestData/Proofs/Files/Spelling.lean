import Mathlib.Data.List.Induction
import TestData.Files.Disk

/-!
Spellings of a path.

A file can be spelled in many ways. What it is read for, and what a relative path written in it
names, depends on the place alone: the directory of a path of a file leads to what holds the place,
and a path that is joined to it is walked from there.
-/

namespace TestData.Files

namespace Disk

variable {d : Disk} {here next p q : Place} {names names' xs ys : List String} {b : Bool}

/-! ### Walks -/

/-- A place with directories on the way to it, spelled with ordinary names. -/
structure Proper (d : Disk) (p : Place) : Prop where
  directories : ∀ q, q <+: p → q ≠ p → d.isDirectoryAt q = true
  ordinary : ∀ n ∈ p, n ≠ "." ∧ n ≠ ".."

/-- The current directory is there. -/
def Grounded (d : Disk) : Prop := d.walk [] d.current = .ok (d.current, true)

lemma proper_root : d.Proper [] where
  directories q hq hne := absurd (List.prefix_nil.mp hq) hne
  ordinary n hn := by cases hn

lemma Proper.dropLast (h : d.Proper p) : d.Proper p.dropLast where
  directories q hq hne := by
    refine h.directories q (hq.trans (List.dropLast_prefix p)) fun he => hne ?_
    have hle := hq.length_le
    rw [he, List.length_dropLast] at hle
    have hnil : p = [] := List.length_eq_zero_iff.mp (by omega)
    rw [he, hnil]
    rfl
  ordinary n hn := h.ordinary n ((List.dropLast_prefix p).subset hn)

lemma Proper.snoc {name : String} (h : d.Proper p) (hp : d.isDirectoryAt p = true)
    (hdot : name ≠ ".") (hdots : name ≠ "..") : d.Proper (p ++ [name]) where
  directories q hq hne := by
    rcases List.prefix_concat_iff.mp hq with rfl | hq
    · exact absurd rfl hne
    · by_cases he : q = p
      · rw [he, hp]
      · exact h.directories q hq he
  ordinary n hn := by
    rcases List.mem_append.mp hn with hn | hn
    · exact h.ordinary n hn
    · obtain rfl := List.mem_singleton.mp hn
      exact ⟨hdot, hdots⟩

lemma walk_barred {name : String} (h : d.isDirectoryAt here = false) (rest : List String) :
    d.walk here (name :: rest) = .error .barred := by
  simp [walk, h]

/-- A walk from a directory goes on to the name that comes first, if something is there. -/
lemma walk_step {name : String} (h : d.isDirectoryAt here = true) (rest : List String) :
    d.walk here (name :: rest) =
      if name = "." then d.walk here rest
      else if name = ".." then d.walk here.dropLast rest
      else
        match d.at? (here ++ [name]) with
        | some _ => d.walk (here ++ [name]) rest
        | none => if rest = [] then .ok (here ++ [name], false) else .error .missing := by
  rw [walk, h]
  rfl

/-- One step of a walk to a place. -/
lemma walk_cons {name : String} {rest : List String}
    (h : d.walk here (name :: rest) = .ok (q, b)) :
    d.isDirectoryAt here = true ∧
      (name = "." ∧ d.walk here rest = .ok (q, b) ∨
      name = ".." ∧ d.walk here.dropLast rest = .ok (q, b) ∨
      name ≠ "." ∧ name ≠ ".." ∧
        (d.at? (here ++ [name]) ≠ none ∧ d.walk (here ++ [name]) rest = .ok (q, b) ∨
        d.at? (here ++ [name]) = none ∧ rest = [] ∧ q = here ++ [name] ∧ b = false)) := by
  rcases hdir : d.isDirectoryAt here with _ | _
  · rw [walk_barred hdir] at h
    cases h
  rw [walk_step hdir] at h
  refine ⟨rfl, ?_⟩
  by_cases hdot : name = "."
  · exact .inl ⟨hdot, by simpa [hdot] using h⟩
  by_cases hdots : name = ".."
  · exact .inr (.inl ⟨hdots, by simpa [hdots] using h⟩)
  refine .inr (.inr ⟨hdot, hdots, ?_⟩)
  simp only [if_neg hdot, if_neg hdots] at h
  rcases he : d.at? (here ++ [name]) with _ | e
  · by_cases hrest : rest = []
    · simp only [he, if_pos hrest, Except.ok.injEq, Prod.mk.injEq] at h
      exact .inr ⟨rfl, hrest, h.1.symm, h.2.symm⟩
    · simp [he, hrest] at h
  · simp only [he] at h
    exact .inl ⟨by simp, h⟩

lemma walk_dot (h : d.isDirectoryAt here = true) (rest : List String) :
    d.walk here ("." :: rest) = d.walk here rest := by
  rw [walk_step h, if_pos rfl]

lemma walk_name {name : String} (h : d.isDirectoryAt here = true) (hdot : name ≠ ".")
    (hdots : name ≠ "..") (hthere : d.at? (here ++ [name]) ≠ none) (rest : List String) :
    d.walk here (name :: rest) = d.walk (here ++ [name]) rest := by
  obtain ⟨e, he⟩ := Option.ne_none_iff_exists'.mp hthere
  rw [walk_step h, if_neg hdot, if_neg hdots, he]

lemma walk_dots (h : d.isDirectoryAt here = true) (rest : List String) :
    d.walk here (".." :: rest) = d.walk here.dropLast rest := by
  rw [walk_step h, if_neg (by decide), if_pos rfl]

lemma walk_proper (hp : d.Proper here) (h : d.walk here names = .ok (q, b)) : d.Proper q := by
  induction names generalizing here with
  | nil =>
    obtain rfl := (Prod.mk.inj (Except.ok.inj h)).1
    exact hp
  | cons name rest ih =>
    obtain ⟨hdir, ⟨-, h⟩ | ⟨-, h⟩ | ⟨hdot, hdots, ⟨-, h⟩ | ⟨-, -, rfl, -⟩⟩⟩ := walk_cons h
    · exact ih hp h
    · exact ih hp.dropLast h
    · exact ih (hp.snoc hdir hdot hdots) h
    · exact hp.snoc hdir hdot hdots

lemma walk_append (h : d.walk here xs = .ok (q, true)) (ys : List String) :
    d.walk here (xs ++ ys) = d.walk q ys := by
  induction xs generalizing here with
  | nil =>
    obtain rfl := (Prod.mk.inj (Except.ok.inj h)).1
    rfl
  | cons name rest ih =>
    obtain ⟨hdir, ⟨rfl, hw⟩ | ⟨rfl, hw⟩ | ⟨hdot, hdots, ⟨he, hw⟩ | ⟨-, -, -, hw⟩⟩⟩ := walk_cons h
    · rw [List.cons_append, walk_dot hdir, ih hw]
    · rw [List.cons_append, walk_dots hdir, ih hw]
    · rw [List.cons_append, walk_name hdir hdot hdots he, ih hw]
    · cases hw

/-- A walk that goes on has come to something. -/
lemma walk_of_append (hys : ys ≠ []) (h : d.walk here (xs ++ ys) = .ok (q, b)) :
    ∃ m, d.walk here xs = .ok (m, true) ∧ d.walk m ys = .ok (q, b) := by
  induction xs generalizing here with
  | nil => exact ⟨here, rfl, h⟩
  | cons name rest ih =>
    rw [List.cons_append] at h
    obtain ⟨hdir, ⟨rfl, hw⟩ | ⟨rfl, hw⟩ | ⟨hdot, hdots, ⟨he, hw⟩ | ⟨-, hnil, -⟩⟩⟩ := walk_cons h
    · rw [walk_dot hdir]
      exact ih hw
    · rw [walk_dots hdir]
      exact ih hw
    · rw [walk_name hdir hdot hdots he]
      exact ih hw
    · simp [hys] at hnil

/-- Single dots can be left out. -/
lemma walk_undotted (h : d.walk here names = .ok (q, true)) :
    d.walk here (names.filter (· ≠ ".")) = .ok (q, true) := by
  induction names generalizing here with
  | nil => exact h
  | cons name rest ih =>
    obtain ⟨hdir, ⟨rfl, hw⟩ | ⟨rfl, hw⟩ | ⟨hdot, hdots, ⟨he, hw⟩ | ⟨-, -, -, hw⟩⟩⟩ := walk_cons h
    · rw [List.filter_cons_of_neg (by simp)]
      exact ih hw
    · rw [List.filter_cons_of_pos (by simp), walk_dots hdir]
      exact ih hw
    · rw [List.filter_cons_of_pos (by simpa using hdot), walk_name hdir hdot hdots he]
      exact ih hw
    · cases hw

/-- Single dots can be put in on the way to a directory. -/
lemma walk_dotted (hq : d.isDirectoryAt q = true)
    (h : d.walk here (names.filter (· ≠ ".")) = .ok (q, true)) :
    d.walk here names = .ok (q, true) := by
  induction names generalizing here with
  | nil => exact h
  | cons name rest ih =>
    by_cases hname : name = "."
    · rw [List.filter_cons_of_neg (by simpa using hname)] at h
      have hdir : d.isDirectoryAt here = true := by
        rcases hrest : rest.filter (· ≠ ".") with _ | ⟨n, more⟩
        · rw [hrest] at h
          obtain rfl := (Prod.mk.inj (Except.ok.inj h)).1
          exact hq
        · rw [hrest] at h
          exact (walk_cons h).1
      rw [hname, walk_dot hdir]
      exact ih h
    · rw [List.filter_cons_of_pos (by simpa using hname)] at h
      obtain ⟨hdir, ⟨rfl, -⟩ | ⟨rfl, hw⟩ | ⟨hdot, hdots, ⟨he, hw⟩ | ⟨-, -, -, hw⟩⟩⟩ := walk_cons h
      · exact absurd rfl hname
      · rw [walk_dots hdir]
        exact ih hw
      · rw [walk_name hdir hdot hdots he]
        exact ih hw
      · cases hw

/-- The last step of a walk to a file. -/
lemma walk_file {last : String} {c : ByteArray} (hp : d.Proper here)
    (h : d.walk here (xs ++ [last]) = .ok (q, true)) (hq : d.at? q = some (.file c)) :
    last ≠ "." ∧ last ≠ ".." ∧ d.walk here xs = .ok (q.dropLast, true) ∧
      d.isDirectoryAt q.dropLast = true ∧ q = q.dropLast ++ [last] := by
  obtain ⟨m, hm, h⟩ := walk_of_append (by simp) h
  have hfile : d.isDirectoryAt q = false := by simp [isDirectoryAt, hq]
  obtain ⟨hdir, ⟨-, h⟩ | ⟨-, h⟩ | ⟨hdot, hdots, ⟨-, h⟩ | ⟨-, -, -, h⟩⟩⟩ := walk_cons h
  · obtain rfl : m = q := (Prod.mk.inj (Except.ok.inj h)).1
    rw [hfile] at hdir
    cases hdir
  · obtain rfl : m.dropLast = q := (Prod.mk.inj (Except.ok.inj h)).1
    have hup : d.isDirectoryAt m.dropLast = true := by
      by_cases he : m.dropLast = m
      · rw [he, hdir]
      · exact (walk_proper hp hm).directories _ (List.dropLast_prefix m) he
    rw [hfile] at hup
    cases hup
  · obtain rfl : m ++ [last] = q := (Prod.mk.inj (Except.ok.inj h)).1
    rw [List.dropLast_concat]
    exact ⟨hdot, hdots, hm, hdir, rfl⟩
  · cases h

end Disk

/-! ### Directories and joined paths -/

namespace Path

variable {p r base : Path} {cs : List Char}

/-- The names between the slashes of characters, as far as they matter. -/
def marks (cs : List Char) : List String :=
  ((cs.splitOn '/').map String.ofList).filter fun s => s ≠ "" && s ≠ "."

lemma marks_slash : marks (cs ++ ['/']) = marks cs := by
  simp [marks, List.splitOn_append_cons_self cs []]

lemma marks_slash_dot : marks (cs ++ ['/', '.']) = marks cs := by
  simp [marks, List.splitOn_append_cons_self cs ['.'], List.splitOn_cons_eq_if_modifyHead]

/-- What is stripped from an end does not matter. -/
lemma stripTail_spec (cs : List Char) :
    marks (stripTail cs).reverse = marks cs.reverse ∧ (stripTail cs).getLast? = cs.getLast? := by
  induction cs using stripTail.induct with
  | case1 c rest ih =>
    rw [stripTail]
    refine ⟨ih.1.trans ?_, ih.2.trans (by simp)⟩
    rw [List.reverse_cons (a := '/'), marks_slash]
  | case2 rest ih =>
    rw [stripTail]
    refine ⟨ih.1.trans ?_, ih.2.trans (by simp)⟩
    rw [List.reverse_cons, marks_slash, List.reverse_cons, List.reverse_cons, List.append_assoc]
    exact marks_slash_dot.symm
  | case3 cs h h' =>
    rw [stripTail]
    · exact ⟨rfl, rfl⟩
    · exact h
    · exact h'

/-- What ends in a name is not stripped. -/
lemma stripTail_name {t u : List Char} (ht : '/' ∉ t) (hnil : t ≠ []) (hdot : t ≠ ['.']) :
    stripTail (t ++ u) = t ++ u := by
  obtain ⟨c, t, rfl⟩ := List.exists_cons_of_ne_nil hnil
  rw [stripTail]
  · rintro c' rest h
    obtain rfl := (List.cons.inj h).1
    exact ht (by simp)
  · rintro rest h
    obtain ⟨rfl, hrest⟩ := List.cons.inj h
    rcases t with _ | ⟨c', t⟩
    · exact hdot rfl
    · have hc : c' = '/' := (List.cons.inj hrest).1
      exact ht (by simp [hc])

lemma dropWhile_name {t : List Char} (ht : '/' ∉ t) (u : List Char) :
    (t ++ u).dropWhile (· ≠ '/') = u.dropWhile (· ≠ '/') :=
  List.dropWhile_append_of_pos fun c hc => by
    have hne : c ≠ '/' := fun he => ht (he ▸ hc)
    simpa using hne

lemma directory_of_slash {t u : List Char} (hback : p.toList.reverse = t ++ '/' :: u)
    (ht : '/' ∉ t) (hnil : t ≠ []) (hdot : t ≠ ['.']) :
    directory p = String.ofList (stripTail ('/' :: u)).reverse := by
  have hstrip : stripTail p.toList.reverse = t ++ '/' :: u := by
    rw [hback, stripTail_name ht hnil hdot]
  have hdrop : (t ++ '/' :: u).dropWhile (· ≠ '/') = '/' :: u := by
    rw [dropWhile_name ht]
    rfl
  have hmore : t ++ '/' :: u ≠ ['/'] := by
    obtain ⟨c, t, rfl⟩ := List.exists_cons_of_ne_nil hnil
    simp
  have hparent : parent? p = some (String.ofList (stripTail ('/' :: u)).reverse) := by
    simp only [parent?, hstrip, hdrop]
    rw [if_neg (by simpa using hmore)]
  have hne : String.ofList (stripTail ('/' :: u)).reverse ≠ "" := by
    intro he
    have hend := (stripTail_spec ('/' :: u)).2
    have hempty : stripTail ('/' :: u) = [] := by simpa using congrArg String.toList he
    rw [hempty, List.getLast?_cons] at hend
    cases hend
  simp only [directory, hparent]
  rw [if_neg hne]

lemma directory_of_name (hslash : '/' ∉ p.toList.reverse) (hnil : p ≠ "") (hdot : p ≠ ".") :
    directory p = "." := by
  have hchars : p.toList.reverse ≠ [] := fun he => hnil (by simpa using he)
  have hstrip : stripTail p.toList.reverse = p.toList.reverse := by
    have hdots : p.toList.reverse ≠ ['.'] := fun he => hdot (by
      simpa using congrArg (fun l => String.ofList l.reverse) he)
    simpa using stripTail_name (u := []) hslash hchars hdots
  have hdrop : p.toList.reverse.dropWhile (· ≠ '/') = [] := by
    simpa using dropWhile_name hslash []
  have hparent : parent? p = some "" := by
    simp only [parent?, hstrip, hdrop]
    rw [if_neg]
    · rfl
    · simp only [Bool.or_eq_true, decide_eq_true_eq, not_or]
      exact ⟨hchars, fun he => hslash (by simp [he])⟩
  simp [directory, hparent]

/-- The directory of a path whose last piece is a name. -/
lemma directory_spec {xs : List String} {last : String} (hp : pieces p = xs ++ [last])
    (hlast : last ≠ "") (hdot : last ≠ ".") :
    directory p ≠ "" ∧ isAbsolute (directory p) = isAbsolute p ∧
      marks (directory p).toList = xs.filter fun s => s ≠ "" && s ≠ "." := by
  by_cases hslash : '/' ∈ p.toList.reverse
  · obtain ⟨t, u, hback, ht⟩ := List.eq_append_cons_of_mem hslash
    have htext : p.toList = u.reverse ++ '/' :: t.reverse := by
      simpa using congrArg List.reverse hback
    have hname : t.reverse.splitOn '/' = [t.reverse] :=
      List.splitOn_eq_singleton (by simpa using ht)
    have hpieces : pieces p =
        (u.reverse.splitOn '/').map String.ofList ++ [String.ofList t.reverse] := by
      rw [pieces, htext, List.splitOn_append_cons_self, hname, List.map_append]
      rfl
    obtain ⟨hxs, hend⟩ := List.append_inj' (hpieces.symm.trans hp) rfl
    obtain rfl := List.singleton_inj.mp hend
    have hdir := directory_of_slash hback ht (by rintro rfl; exact hlast rfl)
      (by rintro rfl; exact hdot rfl)
    obtain ⟨hmarks, hend⟩ := stripTail_spec ('/' :: u)
    rw [hdir]
    refine ⟨fun he => ?_, ?_, ?_⟩
    · have hempty : stripTail ('/' :: u) = [] := by simpa using congrArg String.toList he
      rw [hempty, List.getLast?_cons] at hend
      cases hend
    · have hhead : p.toList.head? = ('/' :: u).getLast? := by
        rw [htext, List.head?_append, List.head?_reverse, List.getLast?_cons]
        cases u.getLast? <;> rfl
      rw [isAbsolute, isAbsolute, String.toList_ofList, List.head?_reverse, hend, hhead]
    · rw [String.toList_ofList, hmarks, List.reverse_cons, marks_slash, ← hxs]
      rfl
  · have hpieces : pieces p = [p] := by
      rw [pieces, List.splitOn_eq_singleton (by simpa using hslash)]
      simp
    obtain ⟨hnil, rfl⟩ : xs = [] ∧ last = p := by
      rw [hpieces, ← List.nil_append [p]] at hp
      obtain ⟨h, h'⟩ := List.append_inj' hp rfl
      exact ⟨h.symm, (List.singleton_inj.mp h').symm⟩
    have habs : isAbsolute last = false := by
      rw [isAbsolute, decide_eq_false_iff_not]
      intro hh
      exact hslash (List.mem_reverse.mpr (List.mem_of_mem_head? hh))
    rw [directory_of_name hslash hlast hdot, habs, hnil]
    exact ⟨by decide, rfl, rfl⟩

/-! ### Joined paths -/

lemma pieces_ne_nil (p : Path) : pieces p ≠ [] := by simp [pieces]

lemma join_spec (hbase : base ≠ "") (hr : isAbsolute r = false) :
    join base r ≠ "" ∧ isAbsolute (join base r) = isAbsolute base ∧
      ∃ xs, pieces (join base r) = xs ++ pieces r ∧
        xs.filter (· ≠ "") = (pieces base).filter (· ≠ "") := by
  have hchars : base.toList ≠ [] := fun he => hbase (by simpa using he)
  have hhead : ∀ cs : List Char, (base.toList ++ cs).head? = base.toList.head? := by
    obtain ⟨c, l, hc⟩ := List.exists_cons_of_ne_nil hchars
    simp [hc]
  rcases List.eq_nil_or_concat base.toList with he | ⟨l, c, hc⟩
  · exact absurd he hchars
  have hend : base.toList.getLast? = some c := by simp [hc]
  by_cases hslash : c = '/'
  · have hjoin : (join base r).toList = base.toList ++ r.toList := by
      simp [join, hr, hbase, hend, hslash]
    refine ⟨fun he => hchars ?_, ?_, (l.splitOn '/').map String.ofList, ?_, ?_⟩
    · rw [he] at hjoin
      exact (List.append_eq_nil_iff.mp hjoin.symm).1
    · rw [isAbsolute, hjoin, hhead, isAbsolute]
    · rw [pieces, hjoin, hc, hslash, List.concat_eq_append, List.append_assoc,
        List.singleton_append, List.splitOn_append_cons_self, List.map_append]
      rfl
    · rw [pieces, hc, hslash, List.concat_eq_append, List.splitOn_append_cons_self]
      simp
  · have hjoin : (join base r).toList = base.toList ++ '/' :: r.toList := by
      simp [join, hr, hbase, hend, hslash]
    refine ⟨fun he => hchars ?_, ?_, pieces base, ?_, rfl⟩
    · rw [he] at hjoin
      exact (List.append_eq_nil_iff.mp hjoin.symm).1
    · rw [isAbsolute, hjoin, hhead, isAbsolute]
    · rw [pieces, hjoin, List.splitOn_append_cons_self, List.map_append]
      rfl

end Path

namespace Disk

variable {d : Disk} {p r base : Path} {q : Place}

open Files.Path

/-- Where the walk along a path starts. -/
def start (d : Disk) (p : Path) : Place := if isAbsolute p then [] else d.current

lemma proper_current (hd : d.Grounded) : d.Proper d.current := walk_proper proper_root hd

lemma proper_start (hd : d.Grounded) (p : Path) : d.Proper (d.start p) := by
  rw [start]
  split
  · exact proper_root
  · exact proper_current hd

lemma find_eq (hp : p ≠ "") : d.find p = d.walk (d.start p) (route p) := if_neg hp

lemma route_join (hbase : base ≠ "") (hr : isAbsolute r = false) :
    route (join base r) = (pieces base).filter (· ≠ "") ++ route r := by
  obtain ⟨-, -, xs, hpieces, hxs⟩ := join_spec hbase hr
  have hlast : (xs ++ pieces r).getLast? = (pieces r).getLast? := by
    rw [List.getLast?_append]
    rcases hl : (pieces r).getLast? with _ | s
    · exact absurd (List.getLast?_eq_none_iff.mp hl) (pieces_ne_nil r)
    · rfl
  simp only [route, hpieces, hlast, List.filter_append, hxs]
  split
  · rw [List.append_assoc]
  · rfl

lemma find_of_place (h : d.place p = .ok q) : p ≠ "" ∧ d.find p = .ok (q, true) := by
  unfold place at h
  rcases hf : d.find p with e | ⟨q', _ | _⟩ <;> rw [hf] at h
  · cases h
  · cases h
  · obtain rfl := Except.ok.inj h
    refine ⟨?_, rfl⟩
    rintro rfl
    cases hf

/-- The path of a file, taken apart. -/
lemma place_file {c : ByteArray} (hd : d.Grounded) (h : d.place p = .ok q)
    (hq : d.at? q = some (.file c)) :
    ∃ xs last, pieces p = xs ++ [last] ∧ last ≠ "" ∧ last ≠ "." ∧
      d.walk (d.start p) (xs.filter (· ≠ "")) = .ok (q.dropLast, true) ∧
      d.isDirectoryAt q.dropLast = true := by
  obtain ⟨hne, hfind⟩ := find_of_place h
  rw [find_eq hne] at hfind
  obtain hnil | ⟨xs, last, hpieces⟩ := List.eq_nil_or_concat (pieces p)
  · exact absurd hnil (pieces_ne_nil p)
  rw [List.concat_eq_append] at hpieces
  rcases eq_or_ne last "" with rfl | hlast
  · have hroute : route p = xs.filter (· ≠ "") ++ ["."] := by simp [route, hpieces]
    rw [hroute] at hfind
    exact absurd rfl (walk_file (proper_start hd p) hfind hq).1
  · have hroute : route p = xs.filter (· ≠ "") ++ [last] := by simp [route, hpieces, hlast]
    rw [hroute] at hfind
    obtain ⟨hdot, -, hwalk, hdir, -⟩ := walk_file (proper_start hd p) hfind hq
    exact ⟨xs, last, hpieces, hlast, hdot, hwalk, hdir⟩

/-- **A path that is joined to the directory of a file** is walked from what holds the file. -/
theorem find_joined {c : ByteArray} (hd : d.Grounded) (h : d.place p = .ok q)
    (hq : d.at? q = some (.file c)) (hr : isAbsolute r = false) :
    d.find (join (directory p) r) = d.walk q.dropLast (route r) := by
  obtain ⟨xs, last, hpieces, hlast, hdot, hwalk, hdir⟩ := place_file hd h hq
  obtain ⟨hbase, habs, hmarks⟩ := directory_spec hpieces hlast hdot
  obtain ⟨hjoin, hjoined, -⟩ := join_spec hbase hr
  have hstart : d.start (join (directory p) r) = d.start p := by
    rw [start, start, hjoined, habs]
  have hnames : ((pieces (directory p)).filter (· ≠ "")).filter (· ≠ ".") =
      (xs.filter (· ≠ "")).filter (· ≠ ".") := by
    have hboth : ∀ l : List String, (l.filter (· ≠ "")).filter (· ≠ ".") =
        l.filter fun s => s ≠ "" && s ≠ "." := fun l => by
      rw [List.filter_filter]
      exact List.filter_congr fun s _ => by rw [Bool.and_comm]
    rw [hboth, hboth, ← hmarks]
    rfl
  have hthere : d.walk (d.start p) ((pieces (directory p)).filter (· ≠ "")) =
      .ok (q.dropLast, true) := by
    refine walk_dotted hdir ?_
    rw [hnames]
    exact walk_undotted hwalk
  rw [find_eq hjoin, hstart, route_join hbase hr, walk_append hthere]

end Disk

end TestData.Files
