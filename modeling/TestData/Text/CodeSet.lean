/-!
Sets of code points, as ranges.

A set is a list of inclusive ranges that are sorted and neither overlap nor touch, so that two
sets with the same members are the same list. Tables of Unicode properties are written as text:
ranges of hexadecimal numbers with blanks between.
-/

namespace TestData.Text

/-- The value of a hexadecimal digit; any other character counts as zero. -/
def hexValue (c : Char) : Nat :=
  if '0' ≤ c && c ≤ '9' then c.toNat - '0'.toNat
  else if 'a' ≤ c && c ≤ 'f' then c.toNat - 'a'.toNat + 10
  else if 'A' ≤ c && c ≤ 'F' then c.toNat - 'A'.toNat + 10
  else 0

/-- Whether a character is a hexadecimal digit. -/
def isHex (c : Char) : Bool :=
  ('0' ≤ c && c ≤ '9') || ('a' ≤ c && c ≤ 'f') || ('A' ≤ c && c ≤ 'F')

/-- The number that hexadecimal digits denote. -/
def ofHex (ds : List Char) : Nat :=
  ds.foldl (fun n c => 16 * n + hexValue c) 0

/-- A set of code points. -/
structure CodeSet where
  ranges : List (Nat × Nat)
  deriving DecidableEq, Inhabited

namespace CodeSet

/-- The set without members. -/
def empty : CodeSet := ⟨[]⟩

/-- The members from `a` to `b`. -/
def range (a b : Nat) : CodeSet := ⟨if a ≤ b then [(a, b)] else []⟩

/-- Whether a code point is a member. -/
def has (s : CodeSet) (n : Nat) : Bool :=
  s.ranges.any fun (a, b) => a ≤ n && n ≤ b

/-- Puts a range in front of sorted ranges that start no earlier, joining what overlaps or
touches. -/
def join (r : Nat × Nat) : List (Nat × Nat) → List (Nat × Nat)
  | [] => [r]
  | q :: rest => if q.1 ≤ r.2 + 1 then join (r.1, max r.2 q.2) rest else r :: q :: rest

/-- The set whose members lie in any of some ranges. -/
def ofRanges (rs : List (Nat × Nat)) : CodeSet :=
  ⟨((rs.filter fun (a, b) => a ≤ b).mergeSort fun p q => p.1 ≤ q.1).foldr join []⟩

/-- The members of either set. -/
def union (s t : CodeSet) : CodeSet := ofRanges (s.ranges ++ t.ranges)

/-- The gaps between sorted ranges, from `start` up to `last`. -/
def gaps (last : Nat) : Nat → List (Nat × Nat) → List (Nat × Nat)
  | start, [] => if start ≤ last then [(start, last)] else []
  | start, (a, b) :: rest =>
    (if start < a then [(start, a - 1)] else []) ++ gaps last (b + 1) rest

/-- The code points up to `last` that are not members. -/
def complement (last : Nat) (s : CodeSet) : CodeSet := ⟨gaps last 0 s.ranges⟩

/-- The common members. -/
def inter (s t : CodeSet) : CodeSet :=
  ofRanges (s.ranges.flatMap fun (a, b) =>
    t.ranges.filterMap fun (c, d) =>
      if max a c ≤ min b d then some (max a c, min b d) else none)

/-- The members of `s` that are not members of `t`; all are at most `last`. -/
def diff (last : Nat) (s t : CodeSet) : CodeSet := s.inter (t.complement last)

/-- The number of members. -/
def size (s : CodeSet) : Nat :=
  s.ranges.foldl (fun n (a, b) => n + (b + 1 - a)) 0

/-- Reads one range of a table: a number, or two with a hyphen between. -/
def readRange (cs : List Char) : Nat × Nat :=
  match cs.splitOn '-' with
  | [a, b] => (ofHex a, ofHex b)
  | _ => (ofHex cs, ofHex cs)

/-- Reads a table. -/
def ofText (s : String) : CodeSet :=
  let pieces := s.toList.splitOnP fun c => c = ' ' || c = '\n'
  ⟨(pieces.filter (· ≠ [])).map readRange⟩

end CodeSet

end TestData.Text
