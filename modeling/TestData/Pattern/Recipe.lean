import TestData.Pattern.Parser
import TestData.Pattern.Property
import TestData.Random.Draw

/-!
Recipes: how to draw texts that match a pattern.

A pattern is turned into texts, sequences, choices, sets of characters and repeats. A repeat
that has nothing but a repeat inside is merged with it and a choice that is a branch of a choice
is merged with that. Characters outside ASCII cannot be drawn while Unicode is switched off.
-/

namespace TestData.Pattern

open Text TestData.Random

/-- How to draw a text. -/
inductive Recipe
  | text (cs : List Char)
  | sequence (parts : List Recipe)
  | choice (options : List Recipe)
  /-- A member of a set; the position is drawn from a word of 64 bits or one of 32. -/
  | member (s : CodeSet) (long : Bool)
  /-- As often as the product of `factor` and one number from each range says. -/
  | times (factor : Nat) (ranges : List (Nat × Nat)) (body : Recipe)
  deriving Inhabited

/-- The switches in effect. -/
structure Mode where
  ignoreCase : Bool := false
  dotAll : Bool := false
  unicode : Bool := true

/-- Turns switches. -/
def Mode.set (m : Mode) (f : Flags) : Mode :=
  { ignoreCase := f.ignoreCase.getD m.ignoreCase
    dotAll := f.dotAll.getD m.dotAll
    unicode := f.unicode.getD m.unicode }

/-- The greatest code point of the characters a class is made of. -/
def Mode.last (m : Mode) : Nat := if m.unicode then lastCode else 0xFF

/-- Members and everything that differs from them only in case. -/
def Mode.fold (m : Mode) (s : CodeSet) : CodeSet :=
  if m.ignoreCase then (if m.unicode then foldCase s else foldAsciiCase s) else s

/-- The surrogates, which are no characters. -/
def surrogates : CodeSet := .range 0xD800 0xDFFF

/-- A class that is finished: negated if it has to be, neither empty nor beyond ASCII while
Unicode is off. -/
def Mode.finish? (m : Mode) (negated : Bool) (s : CodeSet) : Option CodeSet :=
  let s := if negated then s.complement m.last else s
  if m.unicode then (if (s.diff lastCode surrogates).ranges = [] then none else some s)
  else if s.ranges.any fun (_, b) => 0x7F < b then none
  else some s

/-- The ranges of the classes between colons. -/
def asciiRanges : String → List (Char × Char)
  | "alnum" => [('0', '9'), ('A', 'Z'), ('a', 'z')]
  | "alpha" => [('A', 'Z'), ('a', 'z')]
  | "ascii" => [('\x00', '\x7f')]
  | "blank" => [('\t', '\t'), (' ', ' ')]
  | "cntrl" => [('\x00', '\x1f'), ('\x7f', '\x7f')]
  | "digit" => [('0', '9')]
  | "graph" => [('!', '~')]
  | "lower" => [('a', 'z')]
  | "print" => [(' ', '~')]
  | "punct" => [('!', '/'), (':', '@'), ('[', '\x60'), ('\x7b', '~')]
  | "space" => [('\t', '\r'), (' ', ' ')]
  | "upper" => [('A', 'Z')]
  | "word" => [('0', '9'), ('A', 'Z'), ('_', '_'), ('a', 'z')]
  | "xdigit" => [('0', '9'), ('A', 'F'), ('a', 'f')]
  | _ => []

/-- The set of some ranges of characters. -/
def setOf (rs : List (Char × Char)) : CodeSet :=
  CodeSet.ofRanges (rs.map fun (a, b) => (a.toNat, b.toNat))

/-- The members of a class with a backslash and one letter. -/
def perlSet (unicode : Bool) : Perl → CodeSet
  | .digit => if unicode then digits else setOf (asciiRanges "digit")
  | .blank => if unicode then blanks else setOf (asciiRanges "space")
  | .word => if unicode then wordCharacters else setOf (asciiRanges "word")

/-- The members of a property. -/
def PropertyName.members? : PropertyName → Option CodeSet
  | .single name => property? name
  | .ofKind kind name => propertyOfKind? kind name

/-- Whether a character may stand in a class. -/
def Mode.admits (m : Mode) (c : Char) : Bool := m.unicode || c.toNat ≤ 0x7F

/-- Applies an operation. -/
def ClassOp.apply (last : Nat) (op : ClassOp) (s t : CodeSet) : CodeSet :=
  match op with
  | .intersection => s.inter t
  | .difference => s.diff last t
  | .symmetricDifference => (s.diff last t).union (t.diff last s)

mutual
/-- The members of a class. -/
def members? (m : Mode) : ClassSet → Option CodeSet
  | .literal c => if m.admits c then some (.range c.toNat c.toNat) else none
  | .range a b => if m.admits a && m.admits b then some (.range a.toNat b.toNat) else none
  | .ascii name negated => m.finish? negated (m.fold (setOf (asciiRanges name)))
  | .perl kind negated =>
    let s := perlSet m.unicode kind
    if m.unicode then some (if negated then s.complement m.last else s)
    else m.finish? negated s
  | .property name negated => do
    let s ← name.members?
    if m.unicode then m.finish? negated (m.fold s) else none
  | .nested negated body => do
    let s ← members? m body
    m.finish? negated (m.fold s)
  | .union items => unionMembers? m items
  | .operation op left right => do
    let s ← members? m left
    let t ← members? m right
    return op.apply m.last (m.fold s) (m.fold t)
/-- The members of any of some classes. -/
def unionMembers? (m : Mode) : List ClassSet → Option CodeSet
  | [] => some .empty
  | s :: rest => do
    let a ← members? m s
    let b ← unionMembers? m rest
    return a.union b
end

/-- The greatest size of a set whose positions are drawn from long words. -/
def smallSet : Nat := 64

/-- The recipe for a member of a set. -/
def memberOf (m : Mode) (s : CodeSet) : Recipe :=
  let s := s.diff lastCode surrogates
  .member s (!m.unicode || s.size ≤ smallSet)

/-- The recipe for a character. -/
def literalRecipe? (m : Mode) (c : Char) (asByte : Bool) : Option Recipe :=
  if m.unicode || c.toNat ≤ 0x7F || !asByte then
    let s := m.fold (.range c.toNat c.toNat)
    if !m.unicode && m.ignoreCase && 0x7F < c.toNat then none
    else some (if s.size = 1 then .text [c] else memberOf m s)
  else none

/-- The recipe for any character, or any but a line feed. -/
def dotRecipe? (m : Mode) : Option Recipe :=
  if !m.unicode then none
  else
    let s := if m.dotAll then CodeSet.range 0 lastCode
      else (CodeSet.range 0x0A 0x0A).complement lastCode
    some (memberOf m s)

/-- Repeats a recipe from `least` to `most` times. -/
def repeatRecipe (least most : Nat) (r : Recipe) : Recipe :=
  if least = most then
    match r with
    | .times f rs body => .times (f * most) rs body
    | r => if most = 1 then r else .times most [] r
  else
    match r with
    | .times f rs body => .times f (rs ++ [(least, most)]) body
    | r => .times 1 [(least, most)] r

/-- The options of a choice, or a recipe as the only option. -/
def Recipe.options : Recipe → List Recipe
  | .choice os => os
  | r => [r]

/-- The recipe of a sequence. -/
def sequenceRecipe : List Recipe → Recipe
  | [] => .text []
  | [r] => r
  | rs => .sequence rs

/-- Whether a part of a pattern only turns switches. -/
def Tree.isSwitch : Tree → Bool
  | .flags _ => true
  | _ => false

/-- The upper bound of a repeat; without one, so many more than the lower. -/
def upperBound (maxRepeat least : Nat) (most : Option Nat) : Nat :=
  most.getD (least + maxRepeat)

mutual
/-- The recipe of a pattern and the switches after it. A repeat that is empty is not looked
into, but its body must still be a valid pattern. -/
def recipe? (maxRepeat : Nat) (m : Mode) : Tree → Option (Option Recipe × Mode)
  | .empty => some (some (.text []), m)
  | .flags f => some (some (.text []), m.set f)
  | .literal c b => (literalRecipe? m c b).map (some ·, m)
  | .dot => (dotRecipe? m).map (some ·, m)
  | .assertion => some (none, m)
  | .charClass s => (members? m s).map fun s => (some (memberOf m s), m)
  | .repetition least most body => do
    let (r, m) ← recipe? maxRepeat m body
    let upper := upperBound maxRepeat least most
    return (if upper = 0 then some (.text []) else r.map (repeatRecipe least upper), m)
  | .group f body => do
    let (r, _) ← recipe? maxRepeat (m.set (f.getD {})) body
    return (r, m)
  | .sequence parts => do
    let (rs, m) ← recipes? maxRepeat m true parts
    return (rs.map sequenceRecipe, m)
  | .alternation branches => do
    let (rs, m) ← recipes? maxRepeat m false branches
    return (rs.map fun rs => .choice (rs.flatMap (·.options)), m)
/-- The recipes of patterns that share their switches; in a sequence the switches themselves
are no part. -/
def recipes? (maxRepeat : Nat) (m : Mode) (inSequence : Bool) :
    List Tree → Option (Option (List Recipe) × Mode)
  | [] => some (some [], m)
  | t :: rest => do
    let (r, m) ← recipe? maxRepeat m t
    let (rs, m) ← recipes? maxRepeat m inSequence rest
    return (if inSequence && t.isSwitch then rs else r.bind fun r => rs.map (r :: ·), m)
end

/-- The recipe of a pattern as text, if it is valid and nothing can be drawn but text. Anchors
and word boundaries have no recipe. -/
def compile? (pattern : String) (maxRepeat : Nat) : Option Recipe := do
  let tree ← parse? pattern
  let (r, _) ← recipe? maxRepeat {} tree
  r

/-- The member at a position. -/
def nthMember : List (Nat × Nat) → Nat → Char
  | [], _ => Char.ofNat 0
  | (a, b) :: rest, i =>
    if i < b + 1 - a then Char.ofNat (a + i) else nthMember rest (i - (b + 1 - a))

/-- A number below `n` from long words. -/
def drawLong (s : Source) (n : Nat) : Nat × Source := s.below64 n (Source.exactZone 64 n) retries

/-- A number below `n` from short words. -/
def drawShort (s : Source) (n : Nat) : Nat × Source := s.below32 n (Source.exactZone 32 n) retries

/-- The product of `factor` and one number from each range. -/
def drawCount (factor : Nat) : List (Nat × Nat) → Source → Nat × Source
  | [], s => (factor, s)
  | (a, b) :: rest, s =>
    let (n, s) := drawShort s (b - a + 1)
    drawCount (factor * (a + n)) rest s

/-- Draws a number of texts one after the other. -/
def drawMany (draw : Source → List Char × Source) : Nat → Source → List Char × Source
  | 0, s => ([], s)
  | n + 1, s =>
    let (a, s) := draw s
    let (b, s) := drawMany draw n s
    (a ++ b, s)

mutual
/-- Draws a text. -/
def Recipe.draw : Recipe → Source → List Char × Source
  | .text cs, s => (cs, s)
  | .sequence parts, s => drawAll parts s
  | .choice options, s =>
    let (i, s) := drawLong s options.length
    drawAt options i s
  | .member set long, s =>
    let (i, s) := if long then drawLong s set.size else drawShort s set.size
    ([nthMember set.ranges i], s)
  | .times factor ranges body, s =>
    let (n, s) := drawCount factor ranges s
    drawMany body.draw n s
/-- Draws the texts of a sequence. -/
def drawAll : List Recipe → Source → List Char × Source
  | [], s => ([], s)
  | r :: rest, s =>
    let (a, s) := r.draw s
    let (b, s) := drawAll rest s
    (a ++ b, s)
/-- Draws from the option at a position. -/
def drawAt : List Recipe → Nat → Source → List Char × Source
  | [], _, s => ([], s)
  | r :: _, 0, s => r.draw s
  | _ :: rest, i + 1, s => drawAt rest i s
end

/-- Draws a text as a string. -/
def Recipe.sample (r : Recipe) (s : Source) : String × Source :=
  let (cs, s) := r.draw s
  (String.ofList cs, s)

end TestData.Pattern
