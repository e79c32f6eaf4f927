import TestData.Proofs.Yaml.RangeText

/-!
The text of a document whose only value is a plain scalar, with or without a tag.

The scalar has the characters of numbers and ends with its line, which is the last one.
-/

namespace TestData.Yaml

open Decimal (isNumeral ne_of_isNumeral)

/-- What may stand before the scalar: the tag of a sequence, or nothing. -/
def tagText (tagged : Bool) : String := if tagged then "!sequence " else ""

/-- A document with one entity that has one property, a plain scalar. -/
def propertyText (tagged : Bool) (t : String) : String := keysText ++ tagText tagged ++ t ++ "\n"

section Steps

variable {l : List Token} {g : Glyph} {gs : List Glyph} {c : Char} {cs : List Char} {fuel : Nat}

/-- A line break. -/
def lineEnd (index line column : Nat) : Glyph := ⟨'\n', index, line, column⟩

lemma plainPart_line (h : ∀ c ∈ cs, isNumeral c) (index line column : Nat) :
    plainPart false (place index line column (cs ++ ['\n'])) =
      some (cs, [lineEnd (index + cs.length) line (column + cs.length)]) := by
  induction cs generalizing index column with
  | nil => rfl
  | cons c cs ih =>
    obtain ⟨hc, hcs⟩ := List.forall_mem_cons.mp h
    have hcolon : c ≠ ':' := ne_of_isNumeral hc rfl
    rw [List.cons_append, place_of_isNumeral hc, plainPart, ih hcs]
    simp [isSpace_of_isNumeral hc, hcolon, Nat.add_assoc, Nat.add_comm 1]

/-- A plain scalar ends with the text. -/
lemma plain_line (h : ∀ b ∈ c :: cs, isNumeral b) {column : Nat} (hcol : column ≠ 0) (least : Int)
    (fuel index line : Nat) :
    plain false least (fuel + 2) (place index line column (c :: cs ++ ['\n'])) =
      some (c :: cs, true, []) := by
  have hc : isNumeral c := h c List.mem_cons_self
  have hcomment : c ≠ '#' := ne_of_isNumeral hc rfl
  have hpart := plainPart_line h index line column
  have hrest : plain false least (fuel + 1) [] = some ([], false, []) := rfl
  rw [List.cons_append, place_of_isNumeral hc] at hpart ⊢
  rw [plain, isDocumentMarker_of_column hcol, if_neg (by simp [front?, hcomment]), hpart]
  simp [lineEnd, front?, Gap.tabbed, Gap.read, isSpace, isBlank, isBreak, hrest]

/-- A plain scalar outside brackets. -/
lemma step?_line {s : Scan} (hflow : s.inFlow = false) (hcol : g.column ≠ 0) (hg : isNumeral g.char)
    (hdash : g.char = '-' → endsWord gs = false) :
    s.step? g gs = (do
      let (text, crossed, rest) ← plain false (s.indent + 1) ((g :: gs).length + 1) (g :: gs)
      let s ← s.node? g (.scalar true (String.ofList text))
      some ({ s with keyAllowed := crossed }, rest)) := by
  have hne {d : Char} (hd : isNumeral d = false) : g.char ≠ d := ne_of_isNumeral hg hd
  have hstarts : startsPlain false g.char gs := by
    by_cases hc : g.char = '-'
    · obtain ⟨d, hd, hspace⟩ : ∃ d, front? gs = some d ∧ isSpace d = false := by
        have hends := hdash hc
        rcases hfront : front? gs with _ | d <;> rw [endsWord, hfront] at hends
        · cases hends
        · exact ⟨d, rfl, hends⟩
      have hblank : isBlank d = false := (by simpa [isSpace] using hspace : isBlank d = false ∧ _).1
      simp [startsPlain, hc, hd, hblank]
    · simp [startsPlain, isIndicator, hc, hne, isNumeral]
  unfold Scan.step?
  rw [if_neg (by simp [hcol]), if_neg (by simp [isMarker_of_column hcol]),
    if_neg (by simp [isMarker_of_column hcol])]
  split
  case h_6 =>
    rw [if_neg (by simpa using hdash), if_neg (by simp [hne, isNumeral]),
      if_neg (by simp [hne, isNumeral]), if_neg (by simp [hne, isNumeral]),
      if_neg (by simp [hne, isNumeral]), if_neg (by simp [hne, isNumeral]),
      if_neg (by simp [hne, isNumeral]), hflow, if_pos hstarts]
  all_goals exact absurd ‹g.char = _› (hne rfl)

/-- A plain scalar that ends with the text is the last token before the ends of the blocks. -/
lemma run?_line (h : ∀ b ∈ c :: cs, isNumeral b) (hdash : c = '-' → cs ≠ []) (index : Nat)
    {column : Nat} (hcol : 4 ≤ column) :
    (afterKey l 4 [2, 0, -1]).run? (fuel + 2) (place index 2 column (c :: cs ++ ['\n'])) =
      some (l ++ [.scalar true (String.ofList (c :: cs)), .blockEnd, .blockEnd, .blockEnd]) := by
  have hzero : column ≠ 0 := by omega
  have hc : isNumeral c := h c List.mem_cons_self
  have hends : c = '-' → endsWord (place (index + 1) 2 (column + 1) (cs ++ ['\n'])) = false := by
    intro hminus
    obtain ⟨b, bs, rfl⟩ := List.exists_cons_of_ne_nil (hdash hminus)
    have hb : isNumeral b := h b (List.mem_cons_of_mem c List.mem_cons_self)
    rw [List.cons_append, place_of_isNumeral hb]
    simp [endsWord, front?, isSpace_of_isNumeral hb]
  have hplain (n : Nat) := plain_line h hzero 5 n index 2
  rw [List.cons_append, place_of_isNumeral hc] at hplain ⊢
  have hdedent : (afterKey l 4 [2, 0, -1]).dedentTo column = afterKey l 4 [2, 0, -1] := by
    have hle : (4 : Int) ≤ (column : Int) := by omega
    simp [Scan.dedentTo, afterKey, Scan.inFlow, closeTo_of_le hle]
  have hstep : ((afterKey l 4 [2, 0, -1]).dedentTo column).step? ⟨c, index, 2, column⟩
      (place (index + 1) 2 (column + 1) (cs ++ ['\n'])) =
      some ({ afterKey (l ++ [.scalar true (String.ofList (c :: cs))]) 4 [2, 0, -1] with
        keyAllowed := true }, []) := by
    rw [hdedent, step?_line (g := ⟨c, index, 2, column⟩) rfl hzero hc hends,
      show (afterKey l 4 [2, 0, -1]).indent + 1 = 5 from rfl, List.length_cons, hplain]
    simp [Scan.node?, Scan.saveKey?, Scan.push, afterKey]
  have hskip : skipToToken (afterKey l 4 [2, 0, -1]).inFlow false false
      (⟨c, index, 2, column⟩ :: place (index + 1) 2 (column + 1) (cs ++ ['\n'])) =
      (false, ⟨c, index, 2, column⟩ :: place (index + 1) 2 (column + 1) (cs ++ ['\n'])) :=
    skipToToken_cons (isSpace_of_isNumeral hc) (ne_of_isNumeral hc rfl) (ne_of_isNumeral hc rfl)
  have hkeys : (afterKey l 4 [2, 0, -1]).expireKeys? ⟨c, index, 2, column⟩ =
    some (afterKey l 4 [2, 0, -1]) := rfl
  rw [run?_of_step (s := afterKey l 4 [2, 0, -1]) hskip hkeys hstep]
  simp [Scan.run?, afterKey, skipToToken, Scan.dedentTo, Scan.inFlow, Scan.closeTo, Scan.dropKey?]

end Steps

/-! ### The document -/

section Document

variable {t : String} {a : Tree}

/-- The token of the tag. -/
def tagTokens (tagged : Bool) : List Token := if tagged then [.tag "!" "sequence"] else []

/-- The tokens of the document. -/
def propertyTokens (tagged : Bool) (t : String) : List Token :=
  frontTokens.take 12 ++ tagTokens tagged ++ [.scalar true t, .blockEnd, .blockEnd, .blockEnd]

lemma propertyText_toList (tagged : Bool) (t : String) : (propertyText tagged t).toList =
    keysText.toList ++ ((tagText tagged).toList ++ (t.toList ++ ['\n'])) := by
  simp [propertyText]

lemma glyphs?_propertyText (tagged : Bool) (ht : Numeral t) :
    glyphs? (propertyText tagged t).toList = some (place 0 0 0 (propertyText tagged t).toList) := by
  have hkeys : ∀ c ∈ keysText.toList, isPrintable c := List.all_eq_true.mp (by decide)
  have htag : ∀ c ∈ (tagText tagged).toList, isPrintable c := by
    cases tagged <;> exact List.all_eq_true.mp (by decide)
  refine if_pos (List.all_eq_true.mpr ?_)
  rw [propertyText_toList]
  exact List.forall_mem_append.mpr ⟨hkeys, List.forall_mem_append.mpr ⟨htag,
    List.forall_mem_append.mpr ⟨fun c hc => isPrintable_of_isNumeral (ht.2 c hc),
      List.forall_mem_singleton.mpr rfl⟩⟩⟩

/-- The scan of what stands before the scalar. -/
lemma run?_tag (tagged : Bool) (fuel : Nat) (cs : List Char) :
    ∃ n index column, 4 ≤ column ∧
      (afterKey (frontTokens.take 12) 4 [2, 0, -1]).run? (fuel + 2)
          (place 22 2 7 ((tagText tagged).toList ++ cs)) =
        (afterKey (frontTokens.take 12 ++ tagTokens tagged) 4 [2, 0, -1]).run? (n + 1)
          (place index 2 column cs) ∧ fuel ≤ n := by
  cases tagged with
  | true => exact ⟨fuel, 32, 17, by decide, rfl, le_rfl⟩
  | false => exact ⟨fuel + 1, 22, 7, by decide, rfl, Nat.le_succ fuel⟩

/-- The tokens of the document have the scalar as it is written. -/
lemma tokens?_propertyText (tagged : Bool) (ht : Numeral t) (hdash : t ≠ "-") :
    tokens? (propertyText tagged t).toList = some (propertyTokens tagged t) := by
  obtain ⟨c, cs, hcs⟩ : ∃ c cs, t.toList = c :: cs :=
    List.exists_cons_of_ne_nil (mt String.toList_eq_nil_iff.mp ht.1)
  have hnumeral : ∀ b ∈ c :: cs, isNumeral b := hcs ▸ ht.2
  have hminus : c = '-' → cs ≠ [] := by
    rintro rfl rfl
    exact hdash (String.toList_inj.mp hcs)
  obtain rfl : t = String.ofList (c :: cs) := by rw [← hcs, String.ofList_toList]
  rw [tokens?, glyphs?_propertyText tagged ht, Option.bind_eq_bind, Option.bind_some,
    propertyText_toList, hcs]
  -- the keys alone give enough fuel
  obtain ⟨fuel, hfuel⟩ : ∃ fuel, (place 0 0 0 (keysText.toList ++ ((tagText tagged).toList ++
      (c :: cs ++ ['\n'])))).length + 1 = fuel + 2 + 7 :=
    ⟨(place 22 2 7 ((tagText tagged).toList ++ (c :: cs ++ ['\n']))).length + 14, rfl⟩
  obtain ⟨n, index, column, hcol, htag, hn⟩ := run?_tag tagged (fuel + 1) (c :: cs ++ ['\n'])
  obtain ⟨m, rfl⟩ : ∃ m, n = m + 1 := ⟨n - 1, by omega⟩
  rw [hfuel, run?_keys, htag, run?_line hnumeral hminus index hcol]
  rfl

/-- The node of the document. -/
def propertyNode (tagged : Bool) (t : String) : Node :=
  .mapping none [(.scalar none true "entities", .mapping none [(.scalar none true "E",
    .mapping none [(.scalar none true "x",
      .scalar (if tagged then some "!sequence" else none) true t)])])]

/-- The tree of the document, given the tree of the value. -/
def propertyTree (a : Tree) : Tree :=
  .mapping [(.string "entities", .mapping [(.string "E", .mapping [(.string "x", a)])])]

lemma read?_propertyText (tagged : Bool) (ht : Numeral t) (hdash : t ≠ "-") :
    Document.read? (propertyText tagged t) = some ⟨some (propertyNode tagged t), []⟩ := by
  rw [Document.read?, tokens?_propertyText tagged ht hdash]
  cases tagged <;> rfl

/-- The tree of a scalar behind the tag, or of the scalar alone. -/
def taggedTree (tagged : Bool) (a : Tree) : Tree := if tagged then .tagged "sequence" a else a

/-- The tree of the document has the tree of the scalar. -/
lemma tree?_propertyText (tagged : Bool) (ht : Numeral t) (hdash : t ≠ "-")
    (ha : Tree.ofPlain? t = some a) :
    Document.read? (propertyText tagged t) >>= Document.tree? =
      some (propertyTree (taggedTree tagged a)) := by
  have hvalue (depth left : Nat) :
      (Tree.ofNode [] depth false (.scalar (if tagged then some "!sequence" else none) true t)).run
        left = some (taggedTree tagged a, left) := by
    cases tagged with
    | false => exact ofNode_scalar ha
    | true =>
      unfold Tree.ofNode
      have hkept : keptTag? (some "!sequence") = some "sequence" := rfl
      simp [Tree.target, hkept, ha, taggedTree]
  have hroot (left : Nat) :
      (Tree.ofNode [] Document.maxDepth false (propertyNode tagged t)).run left =
        some (propertyTree (taggedTree tagged a), left) :=
    ofNode_pair (ofNode_scalar rfl) (ofNode_pair (ofNode_scalar rfl)
      (ofNode_pair (ofNode_scalar rfl) (hvalue _ left)))
  rw [read?_propertyText tagged ht hdash, Option.bind_eq_bind, Option.bind_some, Document.tree?]
  simp [hroot]

end Document

end TestData.Yaml
