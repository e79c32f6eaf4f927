import TestData.Proofs.Decimal.Integer
import TestData.Proofs.Evaluation.Lasting
import TestData.Proofs.Session.Known

/-!
Keys that are numbers.

Two numbers match as keys if the same floating-point number is nearest to both. For numbers with at
most 53 binary digits that is equality; beyond, an integer matches its neighbours. A dictionary is
searched in order, so where its keys are integers it gives what stands under the first one that has
the nearest number of the source.
-/

namespace TestData

namespace Value

open Decimal

variable {a b : Value}

/-- An integer of 64 bits or a finite floating-point number. -/
def IsNumber : Value → Prop
  | int z => leastInteger ≤ z ∧ z ≤ greatestInteger
  | float x => x.isFinite
  | _ => False

/-- The number that a value is, in units of the least positive floating-point number. -/
def ticks : Value → Int
  | int z => z * oneTicks
  | float x => Decimal.ticks x
  | _ => 0

/-- An integer, if the value is one, has at most 53 binary digits before its zeros. -/
def IsShort : Value → Prop
  | int z => Representable z.natAbs
  | _ => True

lemma natAbs_le_of_bounds {z : Int} (h : leastInteger ≤ z ∧ z ≤ greatestInteger) :
    z.natAbs ≤ 2 ^ 63 := by
  unfold leastInteger greatestInteger at h
  omega

/-- A number is compared as the floating-point number that is nearest to it. -/
lemma exists_number? (h : a.IsNumber) : ∃ x, a.number? = some x ∧ x.isNaN = false ∧
    Decimal.ticks x = nearestTicks a.ticks 1 := by
  rcases a with _ | _ | z | x | _ | _ | _ | _ | _
  case int =>
    have hz := natAbs_le_of_bounds h
    obtain ⟨hnan, ht⟩ := ticks_ofInt hz
    exact ⟨_, rfl, hnan, ht.trans (nearestTicks_mul_oneTicks hz).symm⟩
  case float =>
    obtain ⟨hnan, -⟩ := isNaN_of_isFinite h
    have hself := nearestTicks_ticks hnan one_pos
    rw [Nat.cast_one, mul_one] at hself
    exact ⟨x, rfl, hnan, hself.symm⟩
  all_goals exact h.elim

/-- **Numbers match** if the same floating-point number is nearest to both. -/
theorem matchesKey_iff (ha : a.IsNumber) (hb : b.IsNumber) :
    a.matchesKey b = true ↔ nearestTicks a.ticks 1 = nearestTicks b.ticks 1 := by
  obtain ⟨x, hx, hxn, hxt⟩ := exists_number? ha
  obtain ⟨y, hy, hyn, hyt⟩ := exists_number? hb
  unfold matchesKey
  rw [hx, hy, ← hxt, ← hyt]
  exact beq_iff_ticks_eq hxn hyn

/-- Rounding keeps a number with few digits. -/
lemma nearestTicks_of_isShort (h : a.IsNumber) (hs : a.IsShort) :
    nearestTicks a.ticks 1 = a.ticks := by
  rcases a with _ | _ | z | x | _ | _ | _ | _ | _
  case int =>
    have hz := natAbs_le_of_bounds h
    exact (nearestTicks_mul_oneTicks hz).trans
      (congrArg (· * (oneTicks : Int)) (nearestInteger_eq_self_iff.mpr hs))
  case float =>
    have hself := nearestTicks_ticks (isNaN_of_isFinite h).1 one_pos
    rwa [Nat.cast_one, mul_one] at hself
  all_goals exact h.elim

/-- Integers match if the same integer of 53 binary digits is nearest to both. -/
lemma matchesKey_int_iff {k z : Int} (hk : (int k).IsNumber) (hz : (int z).IsNumber) :
    (int k).matchesKey (int z) = true ↔ nearestInteger k = nearestInteger z := by
  have hone : (oneTicks : Int) ≠ 0 := by exact_mod_cast oneTicks_pos.ne'
  rw [matchesKey_iff hk hz, ticks, ticks, nearestTicks_mul_oneTicks (natAbs_le_of_bounds hk),
    nearestTicks_mul_oneTicks (natAbs_le_of_bounds hz), mul_left_inj' hone]

end Value

namespace Engine

open Schema Decimal

variable {w : World} {s s₁ s₂ : Session} {m n source : NodeRef} {c : Call} {z : Int}
  {keys : List (Int × NodeRef)}

/-! ### Dictionaries -/

/-- The entries of a dictionary whose keys are integers. -/
def integerEntries (keys : List (Int × NodeRef)) : List (Value × NodeRef) :=
  keys.map fun e => (.int e.1, e.2)

/-- The first entry whose key has the nearest number of an integer. -/
def nearestOf? (keys : List (Int × NodeRef)) (z : Int) : Option NodeRef :=
  (keys.find? fun e => nearestInteger e.1 = nearestInteger z).map Prod.snd

/-- How a request for an entry ends. Without an entry the value is absent. -/
def entryValue (w : World) (s : Session) : Option NodeRef → Except Failure (Option Value)
  | some n => ((Eval.value n).exec w s).1
  | none => .ok none

lemma find?_integerEntries (hkeys : ∀ e ∈ keys, (Value.int e.1).IsNumber)
    (hz : (Value.int z).IsNumber) :
    ((integerEntries keys).find? fun e => e.1.matchesKey (.int z)).map Prod.snd =
      nearestOf? keys z := by
  induction keys with
  | nil => rfl
  | cons e rest ih =>
    obtain ⟨he, hrest⟩ := List.forall_mem_cons.mp hkeys
    have hmatch := Value.matchesKey_int_iff he hz
    have ih := ih hrest
    unfold integerEntries nearestOf? at ih ⊢
    rw [List.map_cons, List.find?_cons, List.find?_cons]
    by_cases h : nearestInteger e.1 = nearestInteger z
    · simp [hmatch.mpr h, h]
    · simpa [Bool.eq_false_iff.mpr (mt hmatch.mp h), h] using ih

/-- For keys with few digits the nearest entry is the one under the integer itself. -/
lemma nearestOf?_of_short (hkeys : ∀ e ∈ keys, Representable e.1.natAbs)
    (hz : Representable z.natAbs) : nearestOf? keys z = keys.lookup z := by
  induction keys with
  | nil => rfl
  | cons e rest ih =>
    obtain ⟨he, hrest⟩ := List.forall_mem_cons.mp hkeys
    have ih := ih hrest
    obtain ⟨k, node⟩ := e
    have hk : nearestInteger k = k := nearestInteger_eq_self_iff.mpr he
    have hz' : nearestInteger z = z := nearestInteger_eq_self_iff.mpr hz
    unfold nearestOf? at ih ⊢
    rw [hz'] at ih ⊢
    by_cases h : k = z
    · subst h
      simp [hk]
    · simpa [hk, h, List.lookup_cons, beq_false_of_ne (Ne.symm h)] using ih

lemma exec_look (entries : List (Value × NodeRef))
    (hv : (Eval.value source).exec w s = (.ok (some (.int z)), s₂)) :
    (((Plan.look source entries).script.run Eval.value).exec w s).1 =
      entryValue w s₂ ((entries.find? fun e => e.1.matchesKey (.int z)).map Prod.snd) := by
  obtain ⟨rest, hscript, hrest⟩ : ∃ rest, (Plan.look source entries).script = .ask source rest ∧
      ∀ key, rest (some key) =
        ((entries.find? fun e => e.1.matchesKey key).map Prod.snd).elim (pure none) .value := by
    refine ⟨_, rfl, fun key => ?_⟩
    rw [Script.bind]
    dsimp only
    cases entries.find? fun e => e.1.matchesKey key <;> rfl
  rw [hscript, Script.exec_ask, hv]
  dsimp only
  rw [hrest]
  cases (entries.find? fun e => e.1.matchesKey (.int z)).map Prod.snd with
  | none => rfl
  | some n => exact congrArg Prod.fst (Script.exec_value Eval.value n)

lemma valueVia_own_fst {value : NodeRef → Eval (Option Value)}
    (hr : (s.scope w).resolve m = .ok (.value n)) (hv : s.values.lookup n = none)
    (ha : n ∉ s.active) :
    ((valueVia value m).exec w s).1 = ((ownValue value n).exec w (s.enter n)).1 := by
  rw [valueVia_own hr hv ha]
  rcases (ownValue value n).exec w (s.enter n) with ⟨_ | _, _⟩ <;> rfl

/-- **Keys match by their nearest numbers.** Two numbers match if the same floating-point number is
nearest to both; so equal numbers match, and if their integers have at most 53 binary digits then no
others do. A request for a dictionary whose keys are integers, where its source has an integer, ends
as a request for what stands under the first key with the same nearest number, and the value is
absent if there is none. With at most 53 binary digits that is the key which is the integer. -/
theorem dictionary_gives_nearest_key (hs : s.Guarded)
    (hr : (s.scope w).resolve m = .ok (.value n)) (hv : s.values.lookup n = none)
    (ha : n ∉ s.active) (hk : s.workspace.kind n = .call c)
    (hg : (generatorOf Eval.value n c).exec w (s.enter n) =
      (.ok (.dict source (integerEntries keys)), s₁))
    (hsource : (Eval.value source).exec w (s₁.withoutGenerator n) = (.ok (some (.int z)), s₂))
    (hkeys : ∀ e ∈ keys, (Value.int e.1).IsNumber) (hz : (Value.int z).IsNumber) :
    (∀ a b : Value, a.IsNumber → b.IsNumber →
      (a.matchesKey b = true ↔ nearestTicks a.ticks 1 = nearestTicks b.ticks 1) ∧
      (a.ticks = b.ticks → a.matchesKey b = true) ∧
      (a.IsShort → b.IsShort → (a.matchesKey b = true ↔ a.ticks = b.ticks))) ∧
    ((Eval.value m).exec w s).1 = entryValue w s₂ (nearestOf? keys z) ∧
    ((∀ e ∈ keys, (Value.int e.1).IsShort) → (Value.int z).IsShort →
      ((Eval.value m).exec w s).1 = entryValue w s₂ (keys.lookup z)) := by
  have hvalue : ((Eval.value m).exec w s).1 = entryValue w s₂ (nearestOf? keys z) := by
    have hk' : (s.enter n).workspace.kind n = .call c := hk
    rw [exec_value_eq_valueVia hs, valueVia_own_fst hr hv ha, exec_ownValue_call hk',
      exec_callValue, hg, ← find?_integerEntries hkeys hz]
    exact exec_look (integerEntries keys) hsource
  refine ⟨fun a b ha hb => ⟨Value.matchesKey_iff ha hb, fun h => ?_, fun hsa hsb => ?_⟩, hvalue,
    fun hshort hzshort => ?_⟩
  · rw [Value.matchesKey_iff ha hb, h]
  · rw [Value.matchesKey_iff ha hb, Value.nearestTicks_of_isShort ha hsa,
      Value.nearestTicks_of_isShort hb hsb]
  · rw [hvalue, nearestOf?_of_short hshort hzshort]

namespace Neighbours

/-- A dictionary with the key 2⁵³, whose source is a sequence that starts with the next integer. -/
def document : Document :=
  { path := "a.yaml", imports := [], entities := [6]
    nodes := #[{ kind := .call (.sequence 9007199254740993), parent := some 3 },
      { kind := .literal (.number ⟨9007199254740992, "9007199254740992"⟩), parent := some 3 },
      { kind := .literal (.string "hit"), parent := some 3 },
      { kind := .call (.dict 0 [(1, 2)]), parent := some 4 },
      { kind := .property "x" 3, parent := some 5 }, { kind := .object [4], parent := some 6 },
      { kind := .entity "E" 5 }] }

/-- A world without files. -/
def world : World := { disk := .ofDirectory [], time := default, entropy := 0 }

/-- A new engine for the document. -/
def session : Session := .start (.ofDocuments world.disk [document]) CallKind.all {} world

/-- The node of the dictionary. -/
def node : NodeRef := ⟨0, 3⟩

/-- The generator of the dictionary. -/
def made : Except Failure Generator × Session :=
  (generatorOf Eval.value node (.dict 0 [(1, 2)])).exec world (session.enter node)

/-- The value of its source. -/
def drawn : Except Failure (Option Value) × Session :=
  (Eval.value ⟨0, 0⟩).exec world (made.2.withoutGenerator node)

/-- The source, the key and the node under it of a dictionary with one key. -/
def singleKey? : Except Failure Generator → Option (NodeRef × Int × NodeRef)
  | .ok (.dict source [(.int k, n)]) => some (source, k, n)
  | _ => none

/-- The integer that a request ends with. -/
def integer? : Except Failure (Option Value) → Option Int
  | .ok (some (.int z)) => some z
  | _ => none

lemma eq_of_singleKey? {r : Except Failure Generator} {k : Int}
    (h : singleKey? r = some (source, k, n)) :
    r = .ok (.dict source (integerEntries [(k, n)])) := by
  unfold singleKey? at h
  split at h
  · cases h
    rfl
  · cases h

lemma eq_of_integer? {r : Except Failure (Option Value)} (h : integer? r = some z) :
    r = .ok (some (.int z)) := by
  unfold integer? at h
  split at h
  · cases h
    rfl
  · cases h

lemma facts :
    ((session.scope world).resolve node).toOption = some (.value node) ∧
      singleKey? made.1 = some (⟨0, 0⟩, 9007199254740992, ⟨0, 2⟩) ∧
      integer? drawn.1 = some 9007199254740993 ∧
      nearestOf? [(9007199254740992, ⟨0, 2⟩)] 9007199254740993 = some ⟨0, 2⟩ := by
  decide +kernel

end Neighbours

open Neighbours in
/-- The dictionary has no key for the integer of its source, and gives what stands under the one
before it. -/
theorem dictionary_gives_key_before :
    ((Eval.value node).exec world session).1 = entryValue world drawn.2 (some ⟨0, 2⟩) ∧
      [((9007199254740992 : Int), (⟨0, 2⟩ : NodeRef))].lookup 9007199254740993 = none := by
  obtain ⟨hr, hkey, hz, hnear⟩ := facts
  have hmade : made = (.ok (.dict ⟨0, 0⟩ (integerEntries [(9007199254740992, ⟨0, 2⟩)])), made.2) :=
    Prod.ext (eq_of_singleKey? hkey) rfl
  have hdrawn : drawn = (.ok (some (.int 9007199254740993)), drawn.2) :=
    Prod.ext (eq_of_integer? hz) rfl
  obtain ⟨-, hvalue, -⟩ := dictionary_gives_nearest_key (w := world) (s := session) (m := node)
    (n := node) (.of_idle rfl) (ok_of_toOption hr) rfl List.not_mem_nil rfl hmade hdrawn
    (by simp [Value.IsNumber, leastInteger, greatestInteger])
    (by simp [Value.IsNumber, leastInteger, greatestInteger])
  exact ⟨by rw [hvalue, hnear], rfl⟩

/-- Two integers match that are not the same. -/
theorem neighbours_match :
    (Value.int 9007199254740992).matchesKey (.int 9007199254740993) = true ∧
      (9007199254740992 : Int) ≠ 9007199254740993 := by
  decide +kernel

end Engine

end TestData
