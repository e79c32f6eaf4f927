import TestData.Proofs.Yaml.Mappings
import TestData.Proofs.Yaml.Numeral

/-!
Decimal texts change nothing else in a tree.

Every number in the tree of a document is what its text denotes. So where a text takes the place of
a number it is read as the same number, and the number can be had back from it. The rest of the tree
stays as it is: its keys, the lengths and the order of its parts, and the tags that it has.
-/

namespace TestData.Yaml

open Decimal

/-! ### Words for numbers -/

/-- The number of such a word is written as such a word. -/
lemma text_mem_infinite {w : String} {x : Float} (hw : w ∈ infinite) (h : readReal? w = some x) :
    (Number.real x).text ∈ infinite := by
  have hall : infinite.all fun w =>
      (readReal? w).all fun x => decide ((Number.real x).text ∈ infinite) := by
    decide
  have hx := List.all_eq_true.mp hall w hw
  rw [h] at hx
  exact of_decide_eq_true hx

lemma unreadable_of_infinite {w : String} (hw : w ∈ infinite) (a : Schema.Number) :
    Schema.Number.read w ≠ .ok a := by
  intro ha
  obtain ⟨hnumeral, hnone⟩ := infinite_not_read w hw
  rw [(Schema.Number.read_of_isNumeral hnumeral ha).1] at hnone
  cases hnone

namespace Tree

/-! ### Numbers and their texts -/

/-- A number is what a text denotes as a scalar. -/
inductive Denotes (w : String) : Number → Prop
  | whole {i : Int} (h : readWhole? w = some (some i)) : Denotes w (.whole i)
  | real {x : Float} (h : readReal? w = some x) : Denotes w (.real x)

/-- Every number outside keys is what its text denotes. -/
inductive Denoted : Tree → Prop
  | null : Denoted null
  | bool (b : Bool) : Denoted (bool b)
  | number {n : Number} {w : String} (h : Denotes w n) : Denoted (number n w)
  | string (s : String) : Denoted (string s)
  | sequence {items : List Tree} (h : ∀ t ∈ items, Denoted t) : Denoted (sequence items)
  | mapping {pairs : List (Tree × Tree)} (h : ∀ p ∈ pairs, Denoted p.2) : Denoted (mapping pairs)
  | tagged (tag : String) {t : Tree} (h : Denoted t) : Denoted (tagged tag t)

section Denotes

variable {w : String} {n : Number}

/-- A number with a point in its text is read from it as a literal, unless it is a word and no
literal at all. -/
lemma Denotes.cases_of_point (h : Denotes w n) (hpoint : '.' ∈ w.toList) :
    (∃ x, n = .real x ∧ readReal? w = some x ∧ Schema.Number.read w = .ok ⟨x, w⟩) ∨
      (∀ a, Schema.Number.read w ≠ .ok a) ∧ ∀ a, Schema.Number.read n.text ≠ .ok a := by
  cases h with
  | whole h => exact absurd hpoint (point_notMem_of_readWhole? h)
  | @real x h =>
    rcases readReal?_cases h with hw | ⟨-, hw⟩
    · exact .inr ⟨unreadable_of_infinite hw, unreadable_of_infinite (text_mem_infinite hw h)⟩
    · exact .inl ⟨x, rfl, h, Schema.Number.read_eq_ok hw⟩

end Denotes

lemma denoted_ofPlain? {s : String} : ∀ t ∈ ofPlain? s, t.Denoted := by
  intro t ht
  unfold ofPlain? at ht
  split at ht
  case isTrue =>
    obtain rfl := Option.some.inj ht
    exact .null
  case isFalse =>
    split at ht
    case h_1 b _ =>
      obtain rfl := Option.some.inj ht
      exact .bool b
    case h_2 =>
      split at ht
      case h_1 i hi =>
        obtain ⟨i, rfl, rfl⟩ := Option.map_eq_some_iff.mp ht
        exact .number (.whole hi)
      case h_2 =>
        split at ht
        case isTrue =>
          obtain rfl := Option.some.inj ht
          exact .string s
        case isFalse =>
          split at ht
          case h_1 x hx =>
            obtain rfl := Option.some.inj ht
            exact .number (.real hx)
          case h_2 =>
            obtain rfl := Option.some.inj ht
            exact .string s

lemma denoted_ofScalar? (tag : Option String) (plain : Bool) (s : String) :
    ∀ t ∈ ofScalar? tag plain s, t.Denoted := by
  intro t ht
  unfold ofScalar? at ht
  split at ht
  case h_1 =>
    split at ht
    case isTrue => exact denoted_ofPlain? t ht
    case isFalse =>
      obtain rfl := Option.some.inj ht
      exact .string s
  case h_2 =>
    obtain ⟨b, -, rfl⟩ := Option.map_eq_some_iff.mp ht
    exact .bool b
  case h_3 =>
    obtain ⟨i, hi, rfl⟩ := Option.map_eq_some_iff.mp ht
    exact .number (.whole (Option.join_eq_some_iff.mp hi))
  case h_4 =>
    obtain ⟨x, hx, rfl⟩ := Option.map_eq_some_iff.mp ht
    exact .number (.real hx)
  case h_5 =>
    split at ht
    · obtain rfl := Option.some.inj ht
      exact .null
    · cases ht
  case h_6 =>
    obtain rfl := Option.some.inj ht
    exact .string s

lemma built_denoted : Built Denoted where
  scalar := denoted_ofScalar?
  tagged tag _ h := .tagged tag h
  sequence := .sequence
  empty := .mapping (List.forall_mem_nil _)
  pair h _ hv _ := by
    cases h with
    | mapping h => exact .mapping (List.forall_mem_append.mpr ⟨h, List.forall_mem_singleton.mpr hv⟩)

lemma denoted_tree? {d : Document} {t : Tree} (h : d.tree? = some t) : t.Denoted :=
  built_denoted.tree? .null h

/-! ### Replaced numbers -/

/-- Some numbers of a tree are replaced by their texts, tagged: those that have a point in the text
and are not written so, if the text is a literal at all. It is the same number, in the tree and as a
literal. The rest is left as it is, with its keys, its order and its tags. -/
inductive Retagged : Tree → Tree → Prop
  | null : Retagged null null
  | bool (b : Bool) : Retagged (bool b) (bool b)
  | string (s : String) : Retagged (string s) (string s)
  | kept {n : Number} {w : String}
      (h : '.' ∉ w.toList ∨ w = n.text ∨ ∀ a, Schema.Number.read w ≠ .ok a) :
      Retagged (number n w) (number n w)
  | replaced {n : Number} {w : String} (hpoint : '.' ∈ w.toList) (htext : w ≠ n.text)
      (hdenotes : Denotes w n) (hread : Schema.Number.read w = .ok ⟨n.toFloat, w⟩) :
      Retagged (number n w) (tagged decimalTag (string w))
  | sequence {items items' : List Tree} (h : List.Forall₂ Retagged items items') :
      Retagged (sequence items) (sequence items')
  | mapping {pairs pairs' : List (Tree × Tree)} (hkeys : pairs.map (·.1) = pairs'.map (·.1))
      (hvalues : List.Forall₂ Retagged (pairs.map (·.2)) (pairs'.map (·.2))) :
      Retagged (mapping pairs) (mapping pairs')
  | tagged (tag : String) {t t' : Tree} (h : Retagged t t') :
      Retagged (tagged tag t) (tagged tag t')

lemma retagged_ofNumber {n : Number} {w : String} (h : Denotes w n) :
    Retagged (number n w) (ofNumber n w) := by
  unfold ofNumber
  rw [String.contains_char_eq]
  by_cases hpoint : '.' ∈ w.toList
  · rcases h.cases_of_point hpoint with ⟨x, rfl, hx, hread⟩ | ⟨hread, -⟩
    · by_cases htext : w = (Number.real x).text
      · simpa [← htext] using Retagged.kept (.inr (.inl htext))
      · simpa [hpoint, htext, hread] using Retagged.replaced hpoint htext h hread
    · cases hw : Schema.Number.read w with
      | ok a => exact absurd hw (hread a)
      | error e => simpa using Retagged.kept (.inr (.inr hread))
  · simpa [hpoint] using Retagged.kept (.inl hpoint)

mutual
lemma retagged_withDecimals : ∀ {t : Tree}, t.Denoted → Retagged t t.withDecimals
  | null, _ => .null
  | bool b, _ => .bool b
  | string s, _ => .string s
  | number _ _, .number h => retagged_ofNumber h
  | sequence _, .sequence h => .sequence (retagged_items h)
  | mapping _, .mapping h =>
    have ⟨hkeys, hvalues⟩ := retagged_pairs h
    .mapping hkeys hvalues
  | tagged tag _, .tagged _ h => .tagged tag (retagged_withDecimals h)
lemma retagged_items : ∀ {items : List Tree}, (∀ t ∈ items, t.Denoted) →
    List.Forall₂ Retagged items (withDecimalsItems items)
  | [], _ => .nil
  | _ :: _, h =>
    have ⟨ht, hrest⟩ := List.forall_mem_cons.mp h
    .cons (retagged_withDecimals ht) (retagged_items hrest)
lemma retagged_pairs : ∀ {pairs : List (Tree × Tree)}, (∀ p ∈ pairs, p.2.Denoted) →
    pairs.map (·.1) = (withDecimalsPairs pairs).map (·.1) ∧
      List.Forall₂ Retagged (pairs.map (·.2)) ((withDecimalsPairs pairs).map (·.2))
  | [], _ => ⟨rfl, .nil⟩
  | (k, _) :: _, h =>
    have ⟨hv, hrest⟩ := List.forall_mem_cons.mp h
    have ⟨hkeys, hvalues⟩ := retagged_pairs hrest
    ⟨congrArg (k :: ·) hkeys, .cons (retagged_withDecimals hv) hvalues⟩
end

/-! ### Removing tags -/

/-- What is directly inside a tree, outside keys. -/
def parts : Tree → List Tree
  | sequence items => items
  | mapping pairs => pairs.map (·.2)
  | tagged _ content => [content]
  | _ => []

/-- The part at an address, which says from the outside in which part to go to. -/
def partAt (t : Tree) : List Nat → Option Tree
  | [] => some t
  | i :: address => t.parts[i]?.bind (partAt · address)

/-- Whether a tree has a tag where another has a number. -/
def isNewTag (t t' : Tree) (address : List Nat) : Bool :=
  match t.partAt address, t'.partAt address with
  | some (number _ _), some (tagged _ _) => true
  | _, _ => false

/-- The number that a text denotes. -/
def readAgain : Tree → Tree
  | string w => (readReal? w).elim (string w) fun x => number (.real x) w
  | t => t

mutual
/-- The tree without the tags at the addresses that are marked; what they stand on is read again. -/
def untagAt (marked : List Nat → Bool) : Tree → Tree
  | sequence items => sequence (untagItems (fun i address => marked (i :: address)) items)
  | mapping pairs => mapping (untagPairs (fun i address => marked (i :: address)) pairs)
  | tagged tag content =>
    if marked [] then readAgain content
    else tagged tag (untagAt (fun address => marked (0 :: address)) content)
  | t => t
/-- `untagAt` on the items of a sequence. -/
def untagItems (marked : Nat → List Nat → Bool) : List Tree → List Tree
  | [] => []
  | t :: rest => untagAt (marked 0) t :: untagItems (fun i => marked (i + 1)) rest
/-- `untagAt` on the values of a mapping. -/
def untagPairs (marked : Nat → List Nat → Bool) : List (Tree × Tree) → List (Tree × Tree)
  | [] => []
  | (k, v) :: rest => (k, untagAt (marked 0) v) :: untagPairs (fun i => marked (i + 1)) rest
end

/-- Whether one of some trees has a tag where another has a number. -/
def isNewTagIn (ts ts' : List Tree) (i : Nat) : List Nat → Bool
  | address => isNewTag (sequence ts) (sequence ts') (i :: address)

mutual
lemma Retagged.untagAt : ∀ {t t' : Tree}, Retagged t t' → t'.untagAt (isNewTag t t') = t
  | null, _, .null | bool _, _, .bool _ | string _, _, .string _ | number _ _, _, .kept _ => rfl
  | number n w, _, .replaced hpoint _ hdenotes _ => by
    have hread : (Tree.string w).readAgain = number n w := by
      cases hdenotes with
      | whole h => exact absurd hpoint (point_notMem_of_readWhole? h)
      | real h => rw [readAgain, h]; rfl
    exact hread
  | sequence _, _, .sequence h => congrArg sequence (untagItems_of_retagged h)
  | mapping _, _, .mapping hkeys hvalues => congrArg mapping (untagPairs_of_retagged hkeys hvalues)
  | tagged tag _, _, .tagged _ h => congrArg (tagged tag) h.untagAt
lemma untagItems_of_retagged : ∀ {items items' : List Tree}, List.Forall₂ Retagged items items' →
    untagItems (isNewTagIn items items') items' = items
  | [], _, .nil => rfl
  | _ :: _, _ :: _, .cons h hrest => congrArg₂ List.cons h.untagAt (untagItems_of_retagged hrest)
lemma untagPairs_of_retagged : ∀ {pairs pairs' : List (Tree × Tree)},
    pairs.map (·.1) = pairs'.map (·.1) →
    List.Forall₂ Retagged (pairs.map (·.2)) (pairs'.map (·.2)) →
    untagPairs (isNewTagIn (pairs.map (·.2)) (pairs'.map (·.2))) pairs' = pairs
  | [], [], _, .nil => rfl
  | _ :: _, _ :: _, hkeys, .cons h hrest => by
    obtain ⟨hk, hkeys⟩ := List.cons.inj hkeys
    exact congrArg₂ List.cons (congrArg₂ Prod.mk hk.symm h.untagAt)
      (untagPairs_of_retagged hkeys hrest)
end

end Tree

end TestData.Yaml
