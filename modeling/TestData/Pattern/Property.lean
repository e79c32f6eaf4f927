import TestData.Pattern.Property.Table
import TestData.Text.Blank

/-!
Sets of characters by property, and sets closed under case.

A name of a property is looked up among the properties a character has or lacks, then among the
general categories and then among the scripts. Case, blanks, hyphens, underscores and a leading
`is` do not matter in names.
-/

namespace TestData.Pattern

open Text

/-- The greatest code point. -/
def lastCode : Nat := 0x10FFFF

/-- The names of a property and its members. -/
abbrev Entry := List String × CodeSet

/-- Reads one entry of a table. -/
def readEntry (cs : List Char) : Entry :=
  let trimmedNames := (trim (cs.takeWhile (· ≠ ':'))).splitOn ','
  (trimmedNames.map String.ofList,
    CodeSet.ofText (String.ofList ((cs.dropWhile (· ≠ ':')).drop 1)))

/-- Reads a table. -/
def readTable (s : String) : List Entry :=
  ((s.toList.splitOn ';').filter fun cs => trim cs ≠ []).map readEntry

/-- The general categories of two letters. -/
def categories : List Entry := readTable categoryText

/-- The scripts. -/
def scripts : List Entry := readTable scriptText

/-- The properties that a character has or lacks. -/
def properties : List Entry := readTable propertyText

/-- The members of the entry with a given name. -/
def memberOf? (table : List Entry) (name : String) : Option CodeSet :=
  (table.find? fun e => e.1.contains name).map (·.2)

/-- The members of any of some categories. -/
def anyCategory (names : List String) : CodeSet :=
  CodeSet.ofRanges (names.flatMap fun n => ((memberOf? categories n).getD .empty).ranges)

/-- The code points without a category in the table, surrogates left out. -/
def unassigned : CodeSet :=
  (CodeSet.ofRanges ((0xD800, 0xDFFF) :: categories.flatMap (·.2.ranges))).complement lastCode

/-- The members of a general category or group of categories. -/
def category? (name : String) : Option CodeSet :=
  match name with
  | "any" => some (.range 0 lastCode)
  | "ascii" => some (.range 0 0x7F)
  | "assigned" => some (unassigned.complement lastCode)
  | "cn" | "unassigned" => some unassigned
  | "c" | "other" => some ((anyCategory ["cc", "cf", "co"]).union unassigned)
  | "l" | "letter" => some (anyCategory ["lu", "ll", "lt", "lm", "lo"])
  | "lc" | "casedletter" => some (anyCategory ["lu", "ll", "lt"])
  | "m" | "mark" | "combiningmark" => some (anyCategory ["mn", "mc", "me"])
  | "n" | "number" => some (anyCategory ["nd", "nl", "no"])
  | "p" | "punctuation" | "punct" =>
    some (anyCategory ["pc", "pd", "pe", "pf", "pi", "po", "ps"])
  | "s" | "symbol" => some (anyCategory ["sc", "sk", "sm", "so"])
  | "z" | "separator" => some (anyCategory ["zl", "zp", "zs"])
  | _ => memberOf? categories name

/-- A name in the form that is looked up. -/
def looseName (s : String) : String :=
  let small := s.toList.map lowerAscii
  let kept (cs : List Char) :=
    cs.filter fun c => c ≠ ' ' && c ≠ '_' && c ≠ '-' && c.toNat < 128
  let core := if small.take 2 = ['i', 's'] then kept (small.drop 2) else kept small
  String.ofList (if small.take 2 = ['i', 's'] && core = ['c'] then ['i', 's', 'c'] else core)

/-- The members of a property that is given by one name. -/
def property? (s : String) : Option CodeSet :=
  let name := looseName s
  let asProperty :=
    if name = "cf" || name = "sc" || name = "lc" then none else memberOf? properties name
  asProperty <|> category? name <|> memberOf? scripts name

/-- The members of a property that is given by a kind and a name. -/
def propertyOfKind? (kind s : String) : Option CodeSet :=
  match looseName kind with
  | "gc" | "generalcategory" => category? (looseName s)
  | "sc" | "script" => memberOf? scripts (looseName s)
  | _ => none

/-- The decimal digits. -/
def digits : CodeSet := anyCategory ["nd"]

/-- White space. -/
def blanks : CodeSet := (memberOf? properties "whitespace").getD .empty

/-- The characters of words: letters and what belongs to them, marks, digits and connectors. -/
def wordCharacters : CodeSet :=
  ((memberOf? properties "alphabetic").getD .empty).union
    (((memberOf? properties "joincontrol").getD .empty).union
      (anyCategory ["mn", "mc", "me", "nd", "pc"]))

/-- The groups of characters that differ only in case. -/
def foldGroups : List (List Nat) :=
  (foldText.toList.splitOn ';').map fun cs => (words cs).map ofHex

/-- The members of a set and all characters that differ from them only in case. -/
def foldCase (s : CodeSet) : CodeSet :=
  s.union (CodeSet.ofRanges
    ((foldGroups.filter fun g => g.any s.has).flatten.map fun n => (n, n)))

/-- `foldCase` for the letters of ASCII only. -/
def foldAsciiCase (s : CodeSet) : CodeSet :=
  let lower := (s.inter (.range 0x41 0x5A)).ranges.map fun (a, b) => (a + 32, b + 32)
  let upper := (s.inter (.range 0x61 0x7A)).ranges.map fun (a, b) => (a - 32, b - 32)
  s.union (CodeSet.ofRanges (lower ++ upper))

end TestData.Pattern
