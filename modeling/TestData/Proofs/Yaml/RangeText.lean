import TestData.Proofs.Yaml.Numeral

/-!
The text of a document whose only value is a range, from its characters to its tree.

The bounds are any texts with the characters of numbers, each bare or in quotes. No such character
ends a scalar between brackets or is read as anything but itself, so the scan reads every bound
whole, one token for each, and the tree has the two bounds as they are written.
-/

namespace TestData.Yaml

open Decimal (isNumeral ne_of_isNumeral toNat_of_isNumeral)

/-! ### Scalars between brackets -/

section Scalars

variable {c d : Char} {cs : List Char} {g : Glyph} {gs : List Glyph} {column fuel : Nat}

lemma isPrintable_of_isNumeral (h : isNumeral c) : isPrintable c := by
  obtain ⟨hlow, hhigh⟩ := toNat_of_isNumeral h
  have hleast : 0x20 ≤ c.toNat := by omega
  have hmost : c.toNat ≤ 0x7E := by omega
  simp [isPrintable, hleast, hmost]

lemma isSpace_of_isNumeral (h : isNumeral c) : isSpace c = false := by
  have hne {d : Char} (hd : isNumeral d = false) : c ≠ d := ne_of_isNumeral h hd
  simp [isSpace, isBlank, isBreak, hne, isNumeral]

lemma isFlowMark_of_isNumeral (h : isNumeral c) : isFlowMark c = false := by
  have hne {d : Char} (hd : isNumeral d = false) : c ≠ d := ne_of_isNumeral h hd
  simp [isFlowMark, hne, isNumeral]

lemma place_of_isNumeral (h : isNumeral c) (index line column : Nat) (rest : List Char) :
    place index line column (c :: rest) =
      ⟨c, index, line, column⟩ :: place (index + 1) line (column + 1) rest := by
  have hne {d : Char} (hd : isNumeral d = false) : c ≠ d := ne_of_isNumeral h hd
  rw [place]
  · simp [hne, isNumeral]
  · rintro rest rfl
    exact absurd rfl (hne rfl)

lemma isFlowMark_cases (h : isFlowMark c) : c = ',' ∨ c = '[' ∨ c = ']' ∨ c = '{' ∨ c = '}' := by
  simpa [isFlowMark, or_assoc] using h

lemma place_of_isFlowMark (h : isFlowMark c) (index line column : Nat) (rest : List Char) :
    place index line column (c :: rest) =
      ⟨c, index, line, column⟩ :: place (index + 1) line (column + 1) rest := by
  rcases isFlowMark_cases h with rfl | rfl | rfl | rfl | rfl
  all_goals rfl

lemma isSpace_of_isFlowMark (h : isFlowMark c) : isSpace c = false := by
  rcases isFlowMark_cases h with rfl | rfl | rfl | rfl | rfl
  all_goals rfl

lemma isMarker_of_column (h : g.column ≠ 0) : isMarker c (g :: gs) = false := by
  rcases gs with _ | ⟨b, _ | ⟨d, gs⟩⟩
  · rfl
  · rfl
  · simp [isMarker, h]

lemma isDocumentMarker_of_column (h : g.column ≠ 0) : isDocumentMarker (g :: gs) = false := by
  simp [isDocumentMarker, isMarker_of_column h]

lemma plainPart_place (h : ∀ c ∈ cs, isNumeral c) (hd : isFlowMark d) (index line column : Nat)
    (rest : List Char) :
    plainPart true (place index line column (cs ++ d :: rest)) =
      some (cs, place (index + cs.length) line (column + cs.length) (d :: rest)) := by
  induction cs generalizing index column with
  | nil =>
    have hcolon : d ≠ ':' := by
      rintro rfl
      cases hd
    rw [List.nil_append, place_of_isFlowMark hd, plainPart]
    simp [isSpace_of_isFlowMark hd, hd, hcolon, place_of_isFlowMark]
  | cons c cs ih =>
    obtain ⟨hc, hcs⟩ := List.forall_mem_cons.mp h
    have hcolon : c ≠ ':' := ne_of_isNumeral hc rfl
    rw [List.cons_append, place_of_isNumeral hc, plainPart, ih hcs]
    simp [isSpace_of_isNumeral hc, isFlowMark_of_isNumeral hc, hcolon, Nat.add_assoc,
      Nat.add_comm 1]

/-- A bare scalar with the characters of numbers is read up to the mark behind it. -/
lemma plain_place (h : ∀ b ∈ c :: cs, isNumeral b) (hcol : column ≠ 0) (hd : isFlowMark d)
    (least : Int) (fuel index line : Nat) (rest : List Char) :
    plain true least (fuel + 1) (place index line column (c :: cs ++ d :: rest)) =
      some (c :: cs, false,
        place (index + (c :: cs).length) line (column + (c :: cs).length) (d :: rest)) := by
  have hc : isNumeral c := h c List.mem_cons_self
  have hcomment : c ≠ '#' := ne_of_isNumeral hc rfl
  have hpart := plainPart_place h hd index line column rest
  rw [List.cons_append, place_of_isNumeral hc] at hpart ⊢
  rw [plain, hpart]
  simp [isDocumentMarker_of_column, hcol, place_of_isFlowMark hd, isSpace_of_isFlowMark hd,
    front?, hcomment]

/-- A scalar with the characters of numbers in quotes is read up to the second quote. -/
lemma quoted_place (h : ∀ c ∈ cs, isNumeral c) (hcol : column ≠ 0) (hf : cs.length < fuel)
    (index line : Nat) (rest : List Char) :
    quoted '"' fuel (place index line column (cs ++ '"' :: rest)) =
      some (cs, place (index + cs.length + 1) line (column + cs.length + 1) rest) := by
  induction cs generalizing index column fuel with
  | nil =>
    obtain ⟨fuel, rfl⟩ := Nat.exists_eq_succ_of_ne_zero (Nat.ne_of_gt hf)
    have hplace : place index line column ('"' :: rest) =
      ⟨'"', index, line, column⟩ :: place (index + 1) line (column + 1) rest := rfl
    rw [List.nil_append, hplace, quoted]
    simp [isDocumentMarker_of_column, hcol, show isSpace '"' = false from rfl]
  | cons c cs ih =>
    obtain ⟨fuel, rfl⟩ := Nat.exists_eq_succ_of_ne_zero (Nat.ne_zero_of_lt hf)
    obtain ⟨hc, hcs⟩ := List.forall_mem_cons.mp h
    have hquote : c ≠ '"' := ne_of_isNumeral hc rfl
    have hslash : c ≠ '\\' := ne_of_isNumeral hc rfl
    have hrest := ih hcs (Nat.add_one_ne_zero column) (Nat.succ_lt_succ_iff.mp hf) (index + 1)
    rw [List.cons_append, place_of_isNumeral hc, quoted]
    simp [isDocumentMarker_of_column, hcol, hrest, isSpace_of_isNumeral hc, hquote, hslash,
      Nat.add_assoc, Nat.add_comm 1]

lemma length_place (h : ∀ b ∈ cs, isNumeral b) (index line column : Nat) (rest : List Char) :
    cs.length < (place index line column (cs ++ '"' :: rest)).length := by
  induction cs generalizing index column with
  | nil => exact Nat.succ_pos _
  | cons c cs ih =>
    obtain ⟨hc, hcs⟩ := List.forall_mem_cons.mp h
    rw [List.cons_append, place_of_isNumeral hc]
    exact Nat.succ_lt_succ (ih hcs _ _)

lemma front?_place (h : ∀ c ∈ cs, isNumeral c) (hd : isFlowMark d) (index line column : Nat)
    (rest : List Char) :
    ∃ b, front? (place index line column (cs ++ d :: rest)) = some b ∧ isSpace b = false := by
  cases cs with
  | nil =>
    rw [List.nil_append, place_of_isFlowMark hd]
    exact ⟨d, rfl, isSpace_of_isFlowMark hd⟩
  | cons c cs =>
    have hc := h c List.mem_cons_self
    rw [List.cons_append, place_of_isNumeral hc]
    exact ⟨c, rfl, isSpace_of_isNumeral hc⟩

end Scalars

/-! ### The text and its tokens -/

/-- A scalar as it is written: bare or in quotes. -/
def spelled (plain : Bool) (t : String) : String := if plain then t else "\"" ++ t ++ "\""

/-- What stands before the bounds of the range. -/
def frontText : String := "entities:\n  E:\n    x: !range ["

/-- A document with one entity that has one property, a range. -/
def rangeText (plain plain' : Bool) (t u : String) : String :=
  frontText ++ spelled plain t ++ ", " ++ spelled plain' u ++ "]\n"

/-- The tokens before the bounds. -/
def frontTokens : List Token :=
  [.mappingStart, .key, .scalar true "entities", .value, .mappingStart, .key, .scalar true "E",
    .value, .mappingStart, .key, .scalar true "x", .value, .tag "!" "range", .openBracket]

/-- The tokens of the document. -/
def rangeTokens (plain plain' : Bool) (t u : String) : List Token :=
  frontTokens ++ [.scalar plain t, .comma, .scalar plain' u, .closeBracket, .blockEnd, .blockEnd,
    .blockEnd]

/-- Outside brackets, behind a word that may be a key. -/
def afterWord (l : List Token) (indent : Int) (outer : List Int) (k : Candidate) : Scan :=
  { tokens := l.toArray, indent, outer, keys := [some k], keyAllowed := false }

/-- Outside brackets, behind a key and what its value starts with. -/
def afterKey (l : List Token) (indent : Int) (outer : List Int) : Scan :=
  { tokens := l.toArray, indent, outer, keys := [none], keyAllowed := false }

/-- Behind the word `w`, which stands behind the first `n` tokens. -/
def atKey (n : Nat) (w : String) (indent : Int) (outer : List Int) (index line column : Nat) :
    Scan :=
  afterWord (frontTokens.take n ++ [.scalar true w]) indent outer ⟨false, n, index, line, column⟩

/-- What stands behind the first `n` characters before the bounds, with `cs` for the rest. -/
def frontFrom (cs : List Char) (n line column : Nat) : List Glyph :=
  place n line column (frontText.toList.drop n ++ cs)

/-- The keys before the only value of a document. -/
def keysText : String := "entities:\n  E:\n    x: "

/-- What stands behind the first `n` characters of the keys, with `cs` for the rest. -/
def keysFrom (cs : List Char) (n line column : Nat) : List Glyph :=
  place n line column (keysText.toList.drop n ++ cs)

/-- Inside the brackets of the range. -/
def inBrackets (l : List Token) (k : Option Candidate) (allowed : Bool) : Scan :=
  { tokens := l.toArray, indent := 4, outer := [2, 0, -1], keys := [k, none]
    keyAllowed := allowed }

/-- No key has to be where one may be. -/
def Spare (k : Option Candidate) : Prop := ∀ c ∈ k, c.required = false

section Steps

variable {l : List Token} {k : Option Candidate} {g : Glyph} {gs after : List Glyph}
  {cs rest : List Char} {c d : Char} {allowed : Bool} {fuel : Nat}

/-- A scan goes on behind the token that it reads. -/
lemma run?_of_step {s t u : Scan} {next : List Glyph}
    (hskip : skipToToken s.inFlow false s.keyAllowed gs = (allowed, g :: after))
    (hkeys : ({ s with keyAllowed := allowed } : Scan).expireKeys? g = some t)
    (hstep : (t.dedentTo g.column).step? g after = some (u, next)) :
    s.run? (fuel + 1) gs = u.run? fuel next := by
  rw [Scan.run?, hskip]
  simp [hkeys, hstep]

lemma skipToToken_cons {flow : Bool} (hs : isSpace g.char = false) (hc : g.char ≠ '#')
    (hm : g.char ≠ '\ufeff') : skipToToken flow false allowed (g :: gs) = (allowed, g :: gs) := by
  obtain ⟨⟨hb, ht⟩, hbreak⟩ : (g.char ≠ ' ' ∧ g.char ≠ '\t') ∧ isBreak g.char = false := by
    simpa [isSpace, isBlank] using hs
  simp [skipToToken, hb, ht, hbreak, hc, hm]

lemma closeTo_of_le {tokens : Array Token} {column indent : Int} (h : indent ≤ column)
    (outer : List Int) : Scan.closeTo tokens column indent outer = (tokens, indent, outer) := by
  cases outer with
  | nil => rfl
  | cons o outer => rw [Scan.closeTo, if_neg (Int.not_lt.mpr h)]

/-- The word before a colon is a key. -/
lemma run?_colon {indent : Int} {outer : List Int} {k : Candidate} {index column : Nat}
    (hk : indent < k.column) (hcol : k.column < column) (hindex : index ≤ k.index + 1024)
    (hends : endsWord gs) :
    (afterWord l indent outer k).run? (fuel + 1) (⟨':', index, k.line, column⟩ :: gs) =
      (afterKey ((l.insertIdx k.number .key).insertIdx k.number .mappingStart ++ [Token.value])
        k.column (indent :: outer)).run? fuel gs := by
  have hkeys : (afterWord l indent outer k).expireKeys? ⟨':', index, k.line, column⟩ =
      some (afterWord l indent outer k) := by
    simp [Scan.expireKeys?, afterWord, Nat.not_lt.mpr hindex]
  have hdedent : (afterWord l indent outer k).dedentTo column = afterWord l indent outer k := by
    have hle : indent ≤ (column : Int) := by omega
    simp [Scan.dedentTo, afterWord, Scan.inFlow, closeTo_of_le hle]
  refine run?_of_step (skipToToken_cons rfl (ne_of_beq_false rfl) (ne_of_beq_false rfl)) hkeys ?_
  rw [hdedent]
  simp [Scan.step?, Nat.ne_zero_of_lt hcol, isMarker_of_column, hends, afterWord, afterKey,
    Scan.value?, Scan.indentTo, Scan.inFlow, Scan.push, Int.not_le.mpr hk]

lemma run?_open {index line column : Nat} (hcol : 4 ≤ column) :
    (afterKey l 4 [2, 0, -1]).run? (fuel + 1) (⟨'[', index, line, column⟩ :: gs) =
      (inBrackets (l ++ [.openBracket]) none true).run? fuel gs := by
  have hzero : column ≠ 0 := by omega
  have hkeys : (afterKey l 4 [2, 0, -1]).expireKeys? ⟨'[', index, line, column⟩ =
    some (afterKey l 4 [2, 0, -1]) := rfl
  have hdedent : (afterKey l 4 [2, 0, -1]).dedentTo column = afterKey l 4 [2, 0, -1] := by
    have hle : (4 : Int) ≤ (column : Int) := by omega
    simp [Scan.dedentTo, afterKey, Scan.inFlow, closeTo_of_le hle]
  refine run?_of_step (skipToToken_cons rfl (ne_of_beq_false rfl) (ne_of_beq_false rfl)) hkeys ?_
  rw [hdedent]
  simp [Scan.step?, hzero, isMarker_of_column, Scan.open?, Scan.saveKey?, Scan.push, afterKey,
    inBrackets]

/-- The scan of the keys. Each key is a word, which is read as it stands, and a colon. -/
lemma run?_keys (fuel : Nat) (cs : List Char) :
    Scan.start.run? (fuel + 7) (place 0 0 0 (keysText.toList ++ cs)) =
      (afterKey (frontTokens.take 12) 4 [2, 0, -1]).run? (fuel + 1) (place 22 2 7 cs) := by
  have hentities n : Scan.start.run? (n + 2) (place 0 0 0 (keysText.toList ++ cs)) =
      (afterKey (frontTokens.take 4) 0 [-1]).run? n (keysFrom cs 9 0 9) := calc
    _ = (atKey 0 "entities" (-1) [] 0 0 0).run? (n + 1)
          (⟨':', 8, 0, 8⟩ :: keysFrom cs 9 0 9) := rfl
    _ = _ := run?_colon (by decide) (by decide) (by decide) rfl
  have hname n : (afterKey (frontTokens.take 4) 0 [-1]).run? (n + 2) (keysFrom cs 9 0 9) =
      (afterKey (frontTokens.take 8) 2 [0, -1]).run? n (keysFrom cs 14 1 4) := calc
    _ = (atKey 4 "E" 0 [-1] 12 1 2).run? (n + 1) (⟨':', 13, 1, 3⟩ :: keysFrom cs 14 1 4) := rfl
    _ = _ := run?_colon (by decide) (by decide) (by decide) rfl
  have hproperty n :
      (afterKey (frontTokens.take 8) 2 [0, -1]).run? (n + 2) (keysFrom cs 14 1 4) =
        (afterKey (frontTokens.take 12) 4 [2, 0, -1]).run? n (keysFrom cs 21 2 6) := calc
    _ = (atKey 8 "x" 2 [0, -1] 19 2 4).run? (n + 1) (⟨':', 20, 2, 5⟩ :: keysFrom cs 21 2 6) := rfl
    _ = _ := run?_colon (by decide) (by decide) (by decide) rfl
  rw [hentities, hname, hproperty]
  rfl

/-- The scan up to the bounds. -/
lemma run?_front (fuel : Nat) (cs : List Char) :
    Scan.start.run? (fuel + 8) (place 0 0 0 (frontText.toList ++ cs)) =
      (inBrackets frontTokens none true).run? fuel (place 30 2 15 cs) := by
  have hkeys : frontText.toList ++ cs = keysText.toList ++ ("!range [".toList ++ cs) := rfl
  have htag n : (afterKey (frontTokens.take 12) 4 [2, 0, -1]).run? (n + 1) (frontFrom cs 22 2 7) =
    (afterKey (frontTokens.take 13) 4 [2, 0, -1]).run? n (frontFrom cs 28 2 13) := rfl
  have hblank n :
    (afterKey (frontTokens.take 13) 4 [2, 0, -1]).run? (n + 1) (frontFrom cs 28 2 13) =
      (afterKey (frontTokens.take 13) 4 [2, 0, -1]).run? (n + 1)
        (⟨'[', 29, 2, 14⟩ :: place 30 2 15 cs) := rfl
  rw [hkeys, run?_keys]
  show (afterKey (frontTokens.take 12) 4 [2, 0, -1]).run? (fuel + 2) (frontFrom cs 22 2 7) = _
  rw [htag, hblank, run?_open (by decide)]
  rfl

lemma node?_inBrackets (l : List Token) (g : Glyph) (t : Token) :
    (inBrackets l none true).node? g t =
      some (inBrackets (l ++ [t]) (some ⟨false, l.length, g.index, g.line, g.column⟩) false) := by
  simp [Scan.node?, Scan.saveKey?, Scan.dropKey?, Scan.push, Scan.inFlow, inBrackets]

lemma startsPlain_of_isNumeral (hc : isNumeral c) (hfront : front? gs = some d)
    (hd : isSpace d = false) : startsPlain true c gs := by
  have hne {d : Char} (hd : isNumeral d = false) : c ≠ d := ne_of_isNumeral hc hd
  by_cases hdash : c = '-'
  · have hblank : isBlank d = false := (by simpa [isSpace] using hd : isBlank d = false ∧ _).1
    simp [startsPlain, hdash, hfront, hblank]
  · simp [startsPlain, isIndicator, hdash, hne, isNumeral]

lemma step?_plain {s : Scan} (hflow : s.inFlow) (hcol : g.column ≠ 0) (hg : isNumeral g.char)
    (hfront : front? gs = some d) (hd : isSpace d = false) :
    s.step? g gs = (do
      let (text, crossed, rest) ← plain true (s.indent + 1) ((g :: gs).length + 1) (g :: gs)
      let s ← s.node? g (.scalar true (String.ofList text))
      some ({ s with keyAllowed := crossed }, rest)) := by
  have hends : endsWord gs = false := by simp [endsWord, hfront, hd]
  have hne {d : Char} (hd : isNumeral d = false) : g.char ≠ d := ne_of_isNumeral hg hd
  unfold Scan.step?
  rw [if_neg (by simp [hcol]), if_neg (by simp [isMarker_of_column hcol]),
    if_neg (by simp [isMarker_of_column hcol])]
  split
  case h_6 =>
    rw [if_neg (by simp [hends]), if_neg (by simp [hne, isNumeral]),
      if_neg (by simp [hne, isNumeral]), if_neg (by simp [hne, isNumeral]),
      if_neg (by simp [hne, isNumeral]), if_neg (by simp [hflow]),
      if_neg (by simp [hne, isNumeral]), hflow,
      if_pos (startsPlain_of_isNumeral hg hfront hd)]
  all_goals exact absurd ‹g.char = _› (hne rfl)

lemma run?_plain (h : ∀ b ∈ c :: cs, isNumeral b) (hd : isFlowMark d) (index line : Nat)
    {column : Nat} (hcol : column ≠ 0) :
    (inBrackets l none true).run? (fuel + 1) (place index line column (c :: cs ++ d :: rest)) =
      (inBrackets (l ++ [.scalar true (String.ofList (c :: cs))])
        (some ⟨false, l.length, index, line, column⟩) false).run? fuel
          (place (index + (c :: cs).length) line (column + (c :: cs).length) (d :: rest)) := by
  obtain ⟨hc, hcs⟩ := List.forall_mem_cons.mp h
  obtain ⟨b, hb, hspace⟩ := front?_place hcs hd (index + 1) line (column + 1) rest
  have hplain (n : Nat) := plain_place h hcol hd 5 n index line rest
  rw [List.cons_append, place_of_isNumeral hc] at hplain ⊢
  refine run?_of_step (skipToToken_cons (isSpace_of_isNumeral hc) (ne_of_isNumeral hc rfl)
    (ne_of_isNumeral hc rfl)) (t := inBrackets l none true) rfl ?_
  change (inBrackets l none true).step? _ _ = _
  rw [step?_plain (g := ⟨c, index, line, column⟩) rfl hcol hc hb hspace,
    show (inBrackets l none true).indent + 1 = 5 from rfl, hplain]
  simp [node?_inBrackets]
  rfl

lemma run?_quoted (h : ∀ b ∈ cs, isNumeral b) (index line : Nat) {column : Nat}
    (hcol : column ≠ 0) :
    (inBrackets l none true).run? (fuel + 1)
        (place index line column ('"' :: (cs ++ '"' :: rest))) =
      (inBrackets (l ++ [.scalar false (String.ofList cs)])
        (some ⟨false, l.length, index, line, column⟩) false).run? fuel
          (place (index + 1 + cs.length + 1) line (column + 1 + cs.length + 1) rest) := by
  have hlength := length_place h (index + 1) line (column + 1) rest
  have hquoted := quoted_place h (Nat.add_one_ne_zero column) (Nat.lt_succ_of_lt hlength)
    (index + 1) line rest
  have hplace : place index line column ('"' :: (cs ++ '"' :: rest)) =
    ⟨'"', index, line, column⟩ ::
      place (index + 1) line (column + 1) (cs ++ '"' :: rest) := rfl
  rw [hplace]
  refine run?_of_step (skipToToken_cons rfl (ne_of_beq_false rfl) (ne_of_beq_false rfl))
    (t := inBrackets l none true) rfl ?_
  change (inBrackets l none true).step? _ _ = _
  simp [Scan.step?, hcol, isMarker_of_column, hquoted, node?_inBrackets]

/-- A bound is one token, however it is spelled. -/
lemma run?_spelled (plain : Bool) {t : String} (ht : Numeral t) (hd : isFlowMark d)
    (l : List Token) (fuel index line : Nat) {column : Nat} (hcol : column ≠ 0)
    (rest : List Char) :
    ∃ k index' column', Spare k ∧ column' ≠ 0 ∧
      (inBrackets l none true).run? (fuel + 1)
          (place index line column ((spelled plain t).toList ++ d :: rest)) =
        (inBrackets (l ++ [.scalar plain t]) k false).run? fuel
          (place index' line column' (d :: rest)) := by
  have hspare : Spare (some ⟨false, l.length, index, line, column⟩) := fun k hk => by
    obtain rfl := Option.mem_some_iff.mp hk
    rfl
  obtain ⟨c, cs, hcs⟩ : ∃ c cs, t.toList = c :: cs :=
    List.exists_cons_of_ne_nil (mt String.toList_eq_nil_iff.mp ht.1)
  have hnumeral : ∀ b ∈ c :: cs, isNumeral b := hcs ▸ ht.2
  obtain rfl : t = String.ofList (c :: cs) := by rw [← hcs, String.ofList_toList]
  cases plain with
  | true =>
    have hspelled : (spelled true (String.ofList (c :: cs))).toList = c :: cs := hcs
    rw [hspelled]
    exact ⟨_, _, column + (c :: cs).length, hspare, by omega,
      run?_plain hnumeral hd index line hcol⟩
  | false =>
    have hspelled : (spelled false (String.ofList (c :: cs))).toList ++ d :: rest =
        '"' :: (c :: cs ++ '"' :: d :: rest) := by
      simp [spelled]
    rw [hspelled]
    exact ⟨_, _, _, hspare, Nat.add_one_ne_zero _, run?_quoted hnumeral index line hcol⟩

lemma expireKeys?_inBrackets (l : List Token) (allowed : Bool) (hk : Spare k) (g : Glyph) :
    ∃ k', Spare k' ∧ (inBrackets l k allowed).expireKeys? g = some (inBrackets l k' allowed) := by
  rcases k with _ | k
  · exact ⟨none, hk, rfl⟩
  · have hrequired : k.required = false := hk k rfl
    by_cases hold : k.line < g.line ∨ k.index + 1024 < g.index
    · refine ⟨none, fun c hc => absurd hc (Option.not_mem_none c), ?_⟩
      simp [Scan.expireKeys?, inBrackets, hold, hrequired]
    · refine ⟨some k, hk, ?_⟩
      simp [Scan.expireKeys?, inBrackets, hold]

lemma dropKey?_inBrackets (hk : Spare k) :
    (inBrackets l k allowed).dropKey? = some (inBrackets l none allowed) := by
  rcases k with _ | k
  · rfl
  · simp [Scan.dropKey?, inBrackets, hk k rfl]

lemma run?_comma (hk : Spare k) (index line : Nat) {column : Nat} (hcol : column ≠ 0) :
    (inBrackets l k allowed).run? (fuel + 1) (place index line column (',' :: rest)) =
      (inBrackets (l ++ [.comma]) none true).run? fuel
        (place (index + 1) line (column + 1) rest) := by
  obtain ⟨k', hk', hkeys⟩ := expireKeys?_inBrackets l allowed hk ⟨',', index, line, column⟩
  have hplace : place index line column (',' :: rest) =
    ⟨',', index, line, column⟩ :: place (index + 1) line (column + 1) rest := rfl
  rw [hplace]
  refine run?_of_step (skipToToken_cons rfl (ne_of_beq_false rfl) (ne_of_beq_false rfl)) hkeys ?_
  have hcomma :
      (inBrackets l k' allowed).comma? = some (inBrackets (l ++ [.comma]) none true) := by
    rw [Scan.comma?, dropKey?_inBrackets hk']
    simp [inBrackets, Scan.push]
  change (inBrackets l k' allowed).step? _ _ = _
  simp [Scan.step?, hcol, isMarker_of_column, hcomma]

lemma run?_blank (index line column : Nat) :
    (inBrackets l k allowed).run? (fuel + 1) (place index line column (' ' :: rest)) =
      (inBrackets l k allowed).run? (fuel + 1) (place (index + 1) line (column + 1) rest) :=
  rfl

lemma run?_end (hk : Spare k) (index line : Nat) {column : Nat} (hcol : column ≠ 0) :
    (inBrackets l k allowed).run? (fuel + 2) (place index line column [']', '\n']) =
      some (l ++ [.closeBracket, .blockEnd, .blockEnd, .blockEnd]) := by
  obtain ⟨k', hk', hkeys⟩ := expireKeys?_inBrackets l allowed hk ⟨']', index, line, column⟩
  have hplace : place index line column [']', '\n'] =
    [⟨']', index, line, column⟩, ⟨'\n', index + 1, line, column + 1⟩] := rfl
  have hclose : (inBrackets l k' allowed).close? .closeBracket =
      some (afterKey (l ++ [.closeBracket]) 4 [2, 0, -1]) := by
    rw [Scan.close?, dropKey?_inBrackets hk']
    simp [inBrackets, afterKey, Scan.push, Scan.inFlow]
  have hstep : ((inBrackets l k' allowed).dedentTo column).step? ⟨']', index, line, column⟩
      [⟨'\n', index + 1, line, column + 1⟩] =
      some (afterKey (l ++ [.closeBracket]) 4 [2, 0, -1],
        [⟨'\n', index + 1, line, column + 1⟩]) := by
    change (inBrackets l k' allowed).step? _ _ = _
    simp [Scan.step?, hcol, isMarker_of_column, hclose]
  rw [hplace, run?_of_step
    (skipToToken_cons rfl (ne_of_beq_false rfl) (ne_of_beq_false rfl)) hkeys hstep]
  simp [Scan.run?, afterKey, skipToToken, Scan.dedentTo, Scan.inFlow, Scan.closeTo,
    Scan.dropKey?, isBreak]

end Steps

section Document

variable {t u : String} (plain plain' : Bool)

lemma rangeText_toList (t u : String) :
    (rangeText plain plain' t u).toList = frontText.toList ++ ((spelled plain t).toList ++
      ',' :: ' ' :: ((spelled plain' u).toList ++ [']', '\n'])) := by
  simp [rangeText]

lemma glyphs?_rangeText (ht : Numeral t) (hu : Numeral u) :
    glyphs? (rangeText plain plain' t u).toList =
      some (place 0 0 0 (rangeText plain plain' t u).toList) := by
  have hspelled (b : Bool) {s : String} (hs : Numeral s) :
      ∀ c ∈ (spelled b s).toList, isPrintable c := by
    have hall : ∀ c ∈ s.toList, isPrintable c := fun c hc => isPrintable_of_isNumeral (hs.2 c hc)
    cases b with
    | true => exact hall
    | false =>
      rw [show (spelled false s).toList = '"' :: (s.toList ++ ['"']) by simp [spelled]]
      exact List.forall_mem_cons.mpr
        ⟨rfl, List.forall_mem_append.mpr ⟨hall, List.forall_mem_singleton.mpr rfl⟩⟩
  have hfront : ∀ c ∈ frontText.toList, isPrintable c := List.all_eq_true.mp (by decide)
  have hend : ∀ c ∈ [']', '\n'], isPrintable c := List.all_eq_true.mp (by decide)
  refine if_pos (List.all_eq_true.mpr ?_)
  rw [rangeText_toList]
  exact List.forall_mem_append.mpr ⟨hfront, List.forall_mem_append.mpr ⟨hspelled plain ht,
    List.forall_mem_cons.mpr ⟨rfl, List.forall_mem_cons.mpr ⟨rfl,
      List.forall_mem_append.mpr ⟨hspelled plain' hu, hend⟩⟩⟩⟩⟩

/-- The tokens of the document have the bounds as they are written. -/
lemma tokens?_rangeText (ht : Numeral t) (hu : Numeral u) :
    tokens? (rangeText plain plain' t u).toList = some (rangeTokens plain plain' t u) := by
  rw [tokens?, glyphs?_rangeText plain plain' ht hu, Option.bind_eq_bind, Option.bind_some,
    rangeText_toList]
  -- the text before the bounds alone gives enough fuel
  obtain ⟨fuel, hfuel⟩ : ∃ fuel, (place 0 0 0 (frontText.toList ++ ((spelled plain t).toList ++
      ',' :: ' ' :: ((spelled plain' u).toList ++ [']', '\n'])))).length + 1 = fuel + 13 :=
    ⟨(place 30 2 15 ((spelled plain t).toList ++
      ',' :: ' ' :: ((spelled plain' u).toList ++ [']', '\n']))).length + 18, rfl⟩
  obtain ⟨k, i, c, hk, hc, hfirst⟩ := run?_spelled plain ht (d := ',') rfl frontTokens
    (fuel + 4) 30 2 (by decide : 15 ≠ 0) (' ' :: ((spelled plain' u).toList ++ [']', '\n']))
  obtain ⟨k', i', c', hk', hc', hsecond⟩ := run?_spelled plain' hu (d := ']') rfl
    (frontTokens ++ [.scalar plain t] ++ [.comma]) (fuel + 2) (i + 1 + 1) 2
    (Nat.add_one_ne_zero (c + 1)) ['\n']
  rw [hfuel, run?_front, hfirst, run?_comma hk _ _ hc, run?_blank, hsecond,
    run?_end hk' _ _ hc']
  rfl

end Document

/-! ### The tree -/

/-- The node of the document. -/
def rangeNode (plain plain' : Bool) (t u : String) : Node :=
  .mapping none [(.scalar none true "entities", .mapping none [(.scalar none true "E",
    .mapping none [(.scalar none true "x",
      .sequence (some "!range") [.scalar none plain t, .scalar none plain' u])])])]

/-- The tree of the document, given the trees of the bounds. -/
def rangeTree (a b : Tree) : Tree :=
  .mapping [(.string "entities", .mapping [(.string "E", .mapping [(.string "x",
    .tagged "range" (.sequence [a, b]))])])]

lemma read?_rangeText {t u : String} (plain plain' : Bool) (ht : Numeral t) (hu : Numeral u) :
    Document.read? (rangeText plain plain' t u) = some ⟨some (rangeNode plain plain' t u), []⟩ := by
  rw [Document.read?, tokens?_rangeText plain plain' ht hu]
  rfl

section Nodes

variable {marks : List (Nat × Node)} {depth left : Nat} {m n : Node} {a b : Tree}

lemma ofNode_scalar {bare plain : Bool} {s : String} (h : Tree.ofScalar? none plain s = some a) :
    (Tree.ofNode marks depth bare (.scalar none plain s)).run left = some (a, left) := by
  unfold Tree.ofNode
  cases bare
  all_goals
    change ((Tree.ofScalar? none plain s).bind fun a => some (a, left)) = _
    rw [h]
    rfl

lemma ofNode_pair (hm : (Tree.ofNode marks depth false m).run left = some (a, left))
    (hn : (Tree.ofNode marks depth false n).run left = some (b, left)) :
    (Tree.ofNode marks (depth + 1) false (.mapping none [(m, n)])).run left =
      some (.mapping [(a, b)], left) := by
  unfold Tree.ofNode
  simp [Tree.target, keptTag?, hm, hn, Tree.addPair]

lemma ofNode_sequence (hm : (Tree.ofNode marks depth false m).run left = some (a, left))
    (hn : (Tree.ofNode marks depth false n).run left = some (b, left)) {tag kept : String}
    (htag : keptTag? (some tag) = some kept) :
    (Tree.ofNode marks (depth + 1) false (.sequence (some tag) [m, n])).run left =
      some (.tagged kept (.sequence [a, b]), left) := by
  unfold Tree.ofNode
  simp [Tree.target, htag, hm, hn]

end Nodes

/-- The tree of the document has the trees of the bounds. -/
lemma tree?_rangeText {plain plain' : Bool} {t u : String} {a b : Tree} (ht : Numeral t)
    (hu : Numeral u) (ha : Tree.ofScalar? none plain t = some a)
    (hb : Tree.ofScalar? none plain' u = some b) :
    Document.read? (rangeText plain plain' t u) >>= Document.tree? = some (rangeTree a b) := by
  have hroot (left : Nat) :
      (Tree.ofNode [] Document.maxDepth false (rangeNode plain plain' t u)).run left =
        some (rangeTree a b, left) :=
    ofNode_pair (ofNode_scalar rfl) (ofNode_pair (ofNode_scalar rfl)
      (ofNode_pair (ofNode_scalar rfl) (ofNode_sequence (ofNode_scalar ha) (ofNode_scalar hb) rfl)))
  rw [read?_rangeText plain plain' ht hu, Option.bind_eq_bind, Option.bind_some, Document.tree?]
  simp [hroot]

end TestData.Yaml
