import TestData.Text.Case.Table

/-!
Changing the case of text.

A character may become several characters. The Greek capital sigma becomes the final form at the
end of a word: after a cased character and not before one, characters that case ignores left
out.
-/

namespace TestData.Text

/-- The property `Uppercase`. -/
def uppercase : CodeSet := CodeSet.ofText uppercaseText

/-- The property `Cased`. -/
def cased : CodeSet := CodeSet.ofText casedText

/-- The property `Case_Ignorable`. -/
def caseIgnorable : CodeSet := CodeSet.ofText caseIgnorableText

/-- Whether a character is a capital letter. -/
def isUpper (c : Char) : Bool := uppercase.has c.toNat

/-- The shift of the run that holds a code point. -/
def shiftOf? (n : Nat) (runs : List CaseRun) : Option Int :=
  (runs.find? fun (a, b, step, _) => a ≤ n && n ≤ b && (n - a) % step == 0).map (·.2.2.2)

/-- The counterpart of a character, or itself. -/
def mapCase (runs : List CaseRun) (entries : List (Nat × List Nat)) (c : Char) : List Char :=
  let n := c.toNat
  match entries.lookup n with
  | some ns => ns.map Char.ofNat
  | none =>
    match shiftOf? n runs with
    | some d => [Char.ofNat (Int.ofNat n + d).toNat]
    | none => [c]

/-- The capital form of a character. -/
def upperChar (c : Char) : List Char := mapCase upperRuns upperEntries c

/-- The small form of a character that stands alone. -/
def lowerChar (c : Char) : List Char := mapCase lowerRuns lowerEntries c

/-- Text in capitals. -/
def upper (cs : List Char) : List Char := cs.flatMap upperChar

/-- Whether the first character that case does not ignore is cased. -/
def startsCased (cs : List Char) : Bool :=
  match cs.dropWhile fun c => caseIgnorable.has c.toNat with
  | c :: _ => cased.has c.toNat
  | [] => false

/-- Small letters for a text; `seen` holds what stands before it, last character first. -/
def lowerAfter (seen : List Char) : List Char → List Char
  | [] => []
  | c :: rest =>
    let small :=
      if c = 'Σ' then
        [if startsCased seen && !startsCased rest then 'ς' else 'σ']
      else lowerChar c
    small ++ lowerAfter (c :: seen) rest

/-- Text in small letters. -/
def lower (cs : List Char) : List Char := lowerAfter [] cs

/-- Text whose first character is in its capital form. -/
def capitalize : List Char → List Char
  | [] => []
  | c :: rest => upperChar c ++ rest

end TestData.Text
