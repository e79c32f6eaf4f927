import TestData.Proofs.Evaluation.Fit
import TestData.Proofs.Random.Fraction

/-!
Choices by weight.

A draw picks the first choice whose running sum is above it and the last choice where there is none.
A weight of zero leaves the running sum as it is, so a choice without weight is picked only in the
latter case, as the last one (`picks_positive_iff`). A draw is a fraction of the total weight, and
it is below the total unless that is infinite or at most the least number with 53 digits
(`weighted_picks_positive`).
-/

namespace TestData.Engine

open Schema Decimal TestData.Random

/-! ### Running sums -/

/-- A weight that can be accepted: finite and not negative. -/
def IsWeight (x : Float) : Prop := x.isFinite ∧ ¬x < 0

/-- A sum of weights. -/
def IsSum (x : Float) : Prop := x.isNaN = false ∧ 0 ≤ ticks x

variable {t x : Float} {weights : List Float}

lemma IsWeight.isSum (h : IsWeight x) : IsSum x := by
  obtain ⟨hnan, -⟩ := isNaN_of_isFinite h.1
  exact ⟨hnan, by simpa [ticks_zero] using (not_lt_iff_ticks_le hnan isNaN_zero).mp h.2⟩

lemma isSum_zero : IsSum 0 := ⟨isNaN_zero, ticks_zero.ge⟩

lemma IsSum.add {w : Float} (ht : IsSum t) (hw : IsWeight w) :
    IsSum (t + w) ∧ ticks t ≤ ticks (t + w) := by
  obtain ⟨hnan, hle⟩ := ticks_le_add ht.1 ht.2 hw.1 hw.isSum.2
  exact ⟨⟨hnan, ht.2.trans hle⟩, hle⟩

lemma length_runningSums (t : Float) (weights : List Float) :
    (runningSums t weights).length = weights.length := by
  induction weights generalizing t with
  | nil => rfl
  | cons w rest ih => simp [runningSums, ih]

/-- The last running sum is the total. -/
lemma getLastD_runningSums (t : Float) (weights : List Float) :
    (runningSums t weights).getLastD t = weights.foldl (· + ·) t := by
  induction weights generalizing t with
  | nil => rfl
  | cons w rest ih =>
    rw [runningSums, List.getLastD_cons, ih]
    rfl

/-- No running sum is above the total. -/
lemma ticks_runningSums_le (ht : IsSum t) (hw : ∀ w ∈ weights, IsWeight w) :
    IsSum (weights.foldl (· + ·) t) ∧ ticks t ≤ ticks (weights.foldl (· + ·) t) ∧
      ∀ b ∈ runningSums t weights, IsSum b ∧ ticks b ≤ ticks (weights.foldl (· + ·) t) := by
  induction weights generalizing t with
  | nil => exact ⟨ht, le_rfl, nofun⟩
  | cons w rest ih =>
    obtain ⟨hs, hle⟩ := ht.add (hw w (by simp))
    obtain ⟨h₁, h₂, h₃⟩ := ih hs fun v hv => hw v (by simp [hv])
    refine ⟨h₁, hle.trans h₂, fun b hb => ?_⟩
    rcases List.mem_cons.mp hb with rfl | hb
    · exact ⟨hs, h₂⟩
    · exact h₃ b hb

/-! ### The choice that is picked -/

/-- The choice at an index has a positive weight. -/
def HasWeight (weights : List Float) (i : Nat) : Prop := ∃ w, weights[i]? = some w ∧ 0 < w

/-- The first running sum above a number that is not below the start belongs to a positive
weight. -/
lemma hasWeight_of_findIdx {i : Nat} (ht : IsSum t) (hw : ∀ w ∈ weights, IsWeight w) (hx : ¬x < t)
    (h : (runningSums t weights).findIdx? (x < ·) = some i) : HasWeight weights i := by
  induction weights generalizing t i with
  | nil => cases h
  | cons w rest ih =>
    obtain ⟨hs, hle⟩ := ht.add (hw w (by simp))
    rw [runningSums, List.findIdx?_cons] at h
    split_ifs at h with hlt
    · obtain rfl := Option.some.inj h
      have hlt : x < t + w := of_decide_eq_true hlt
      obtain ⟨hxn, -⟩ := isNaN_of_lt hlt
      have hwn := (hw w (by simp)).isSum
      rw [lt_iff_ticks_lt hxn hs.1] at hlt
      rw [not_lt_iff_ticks_le hxn ht.1] at hx
      refine ⟨w, rfl, ?_⟩
      rw [lt_iff_ticks_lt isNaN_zero hwn.1, ticks_zero]
      by_contra hc
      -- a weight of zero does not change the sum
      have hzero := (ticks_add_zero ht.1 hwn.1 (by have := hwn.2; omega)).2
      omega
    · obtain ⟨j, hj, rfl⟩ := Option.map_eq_some_iff.mp h
      exact ih hs (fun v hv => hw v (by simp [hv])) (by simpa using hlt) hj

lemma findIdx_eq_none (ht : IsSum t) (hw : ∀ w ∈ weights, IsWeight w)
    (hx : ¬x < weights.foldl (· + ·) t) :
    (runningSums t weights).findIdx? (x < ·) = none := by
  obtain ⟨hs, -, hle⟩ := ticks_runningSums_le ht hw
  refine List.findIdx?_eq_none_iff.mpr fun b hb => decide_eq_false fun hlt => hx ?_
  obtain ⟨hxn, hbn⟩ := isNaN_of_lt hlt
  rw [lt_iff_ticks_lt hxn hbn] at hlt
  rw [lt_iff_ticks_lt hxn hs.1]
  exact hlt.trans_le (hle b hb).2

lemma exists_findIdx (hne : weights ≠ []) (hx : x < weights.foldl (· + ·) t) :
    ∃ i, (runningSums t weights).findIdx? (x < ·) = some i := by
  have hne' : runningSums t weights ≠ [] := by
    intro h
    have := length_runningSums t weights
    rw [h] at this
    exact hne (List.length_eq_zero_iff.mp this.symm)
  rw [← Option.isSome_iff_exists, List.findIdx?_isSome, List.any_eq_true]
  rw [← getLastD_runningSums, List.getLastD_eq_getLast?, List.getLast?_eq_some_getLast hne',
    Option.getD_some] at hx
  exact ⟨_, List.getLast_mem hne', by simpa using hx⟩

/-- **What is picked has weight** exactly where the draw is below the total or the last choice,
which is picked otherwise, has weight. -/
theorem picks_positive_iff (hne : weights ≠ []) (hw : ∀ w ∈ weights, IsWeight w) (hx : ¬x < 0) :
    HasWeight weights (bucketIndex (runningSums 0 weights) x) ↔
      x < weights.foldl (· + ·) 0 ∨ HasWeight weights (weights.length - 1) := by
  by_cases hlt : x < weights.foldl (· + ·) 0
  · obtain ⟨i, hi⟩ := exists_findIdx hne hlt
    rw [bucketIndex, hi]
    exact iff_of_true (hasWeight_of_findIdx isSum_zero hw hx hi) (.inl hlt)
  · rw [bucketIndex, findIdx_eq_none isSum_zero hw hlt, Option.getD_none, length_runningSums]
    exact (or_iff_right hlt).symm

lemma bucketIndex_lt {buckets : List Float} (h : buckets ≠ []) (x : Float) :
    bucketIndex buckets x < buckets.length := by
  have hpos : 0 < buckets.length := List.length_pos_iff.mpr h
  unfold bucketIndex
  cases hi : buckets.findIdx? (x < ·) with
  | none =>
    rw [Option.getD_none]
    omega
  | some i => exact (List.findIdx?_eq_some_iff_getElem.mp hi).1

/-! ### Accepted weights -/

variable {value : NodeRef → Eval (Option Value)} {w : World} {s s' : Session} {n : NodeRef}
  {values : List NodeId} {g : Generator}

lemma exec_create_weighted :
    (Generator.create value .weighted n (.weighted values weights)).exec w s =
      if values = [] then (.error (.error (.emptyList ((s.setting w).location n))), s)
      else match bucketsOf values.length weights with
        | .ok buckets => (.ok (.weighted (values.map n.at) buckets), s)
        | .error why => (.error (.error (.badWeights ((s.setting w).location n) why)), s) := by
  have hstart : (Generator.create value .weighted n (.weighted values weights)).exec w s =
      ((if values.isEmpty then Script.fail (.emptyList ((s.setting w).location n))
        else match bucketsOf values.length weights with
          | .ok buckets => return .weighted (values.map n.at) buckets
          | .error why => .fail (.badWeights ((s.setting w).location n) why) :
        Script Generator).run value).exec w s := rfl
  rw [hstart]
  simp only [List.isEmpty_iff]
  split_ifs
  · rfl
  · rcases bucketsOf values.length weights with _ | _ <;> rfl

/-- What is known of weights once their generator has been created. -/
lemma weighted_accepted
    (h : (Generator.create value .weighted n (.weighted values weights)).exec w s = (.ok g, s')) :
    values.length = weights.length ∧ weights ≠ [] ∧ (∀ w ∈ weights, IsWeight w) ∧
      g = .weighted (values.map n.at) (runningSums 0 weights) := by
  rw [exec_create_weighted] at h
  split_ifs at h with hv
  · cases (Prod.mk.inj h).1
  rcases hb : bucketsOf values.length weights with why | buckets <;> rw [hb] at h
  · cases (Prod.mk.inj h).1
  obtain rfl := Except.ok.inj (Prod.mk.inj h).1
  unfold bucketsOf at hb
  split_ifs at hb with hlen
  have hlen : values.length = weights.length := not_not.mp hlen
  have hne : weights ≠ [] := by rintro rfl; exact hv (List.length_eq_zero_iff.mp hlen)
  split at hb
  · cases hb
  · rename_i hw
    dsimp only at hb
    split_ifs at hb
    cases hb
    refine ⟨hlen, hne, fun x hx => ?_, rfl⟩
    have := List.find?_eq_none.mp hw x hx
    simpa [IsWeight] using this

/-- The index that a draw from 0 to before 1 picks among weights. -/
def weightedIndex (weights : List Float) (u : Float) : Nat :=
  bucketIndex (runningSums 0 weights) (u * weights.foldl (· + ·) 0)

/-- **Choices without weight are never picked**, whatever is drawn, exactly where the last choice
has weight or the total is finite and above the least number with 53 digits. -/
theorem weighted_picks_positive
    (h : (Generator.create value .weighted n (.weighted values weights)).exec w s = (.ok g, s')) :
    (∀ src, ∃ m, values[weightedIndex weights src.unit.1]? = some m ∧
      g.step src = some ((.node (n.at m), g), src.unit.2)) ∧
    [∀ u, 0 ≤ u → u < 1 → HasWeight weights (weightedIndex weights u),
      ∀ src : Source, HasWeight weights (weightedIndex weights src.unit.1),
      HasWeight weights (weights.length - 1) ∨
        (weights.foldl (· + ·) 0).isFinite ∧ leastNormal < weights.foldl (· + ·) 0].TFAE := by
  obtain ⟨hlen, hne, hw, rfl⟩ := weighted_accepted h
  obtain ⟨hsum, -, -⟩ := ticks_runningSums_le isSum_zero hw
  have htotal : 0 ≤ weights.foldl (· + ·) 0 := by
    rw [le_iff_ticks_le isNaN_zero hsum.1, ticks_zero]
    exact hsum.2
  have hpick {u : Float} (h0 : 0 ≤ u) (h1 : u < 1) := picks_positive_iff hne hw
    (not_mul_lt_zero h0 h1 hsum.1 hsum.2)
  have hlast := getLastD_runningSums 0 weights
  refine ⟨fun src => ?_, ?_⟩
  · have hlt : weightedIndex weights src.unit.1 < values.length := by
      rw [hlen, ← length_runningSums 0 weights]
      exact bucketIndex_lt
        (by rwa [← List.length_pos_iff, length_runningSums, List.length_pos_iff]) _
    refine ⟨_, List.getElem?_eq_getElem hlt, ?_⟩
    rw [Generator.step, hlast]
    show some ((Plan.at _ (weightedIndex weights src.unit.1), _), _) = _
    rw [Plan.at, List.getElem?_map, List.getElem?_eq_getElem hlt]
    rfl
  · tfae_have 1 → 2 := fun h src => h _ src.unit_bounds.1 src.unit_bounds.2
    tfae_have 2 → 3 := by
      intro h
      have htop := (Source.top (Key.ofSeed 0)).unit_bounds
      by_contra hc
      rw [not_or] at hc
      exact ((hpick htop.1 htop.2).mp (h _)).elim (unit_mul_top _ htotal hc.2) hc.1
    tfae_have 3 → 1 := fun h u h0 h1 =>
      (hpick h0 h1).mpr (h.symm.imp_left fun hc => mul_lt_self h0 h1 hc.1 hc.2)
    tfae_finish

/-! ### Two lists of weights -/

namespace Weighing

/-- A world without files. -/
def world : World := { disk := .ofDirectory [], time := default, entropy := 0 }

/-- An engine without documents: weights are numbers, and no node is read for them. -/
def session : Session := .start (.ofDocuments world.disk []) CallKind.all {} world

/-- Three weights, of which two have an infinite sum. -/
@[irreducible] def huge : List Float := [1e308, 1e308, 0]

lemma facts :
    (bucketsOf 3 huge).toOption = some (runningSums 0 huge) ∧
      (huge.foldl (· + ·) 0).isNaN = false ∧ ¬(huge.foldl (· + ·) 0).isFinite ∧
      huge.length = 3 ∧ huge[2]? = some 0 := by
  decide +kernel

end Weighing

/-- From small weights a last choice without weight is never picked. -/
theorem weighted_coin_picks_positive :
    ∃ g, (Generator.create Eval.value .weighted ⟨0, 2⟩ (.weighted [0, 1] [0.5, 0])).exec
      Weighing.world Weighing.session = (.ok g, Weighing.session) ∧
    ∀ u, 0 ≤ u → u < 1 → HasWeight [0.5, 0] (weightedIndex [0.5, 0] u) := by
  have h : (Generator.create Eval.value .weighted ⟨0, 2⟩ (.weighted [0, 1] [0.5, 0])).exec
      Weighing.world Weighing.session =
        (.ok (.weighted [⟨0, 0⟩, ⟨0, 1⟩] [0.5, 0.5]), Weighing.session) := rfl
  have hsum : ([0.5, 0].foldl (· + ·) 0 : Float).isFinite ∧
      leastNormal < [0.5, 0].foldl (· + ·) 0 := by decide +kernel
  have hiff := (weighted_picks_positive h).2.out 0 2
  exact ⟨_, h, hiff.mpr (.inr hsum)⟩

/-- **Weights that are accepted though their sum is infinite**: whatever is drawn, the last choice
is picked, which has no weight. -/
theorem weighted_overflow_picks_last :
    ∃ g, (Generator.create Eval.value .weighted ⟨0, 3⟩ (.weighted [0, 1, 2] Weighing.huge)).exec
      Weighing.world Weighing.session = (.ok g, Weighing.session) ∧
    ∀ u, 0 ≤ u → u < 1 → weightedIndex Weighing.huge u = 2 ∧ ¬HasWeight Weighing.huge 2 := by
  obtain ⟨hbuckets, hnan, hinf, hlength, hlast⟩ := Weighing.facts
  have h : (Generator.create Eval.value .weighted ⟨0, 3⟩
      (.weighted [0, 1, 2] Weighing.huge)).exec Weighing.world Weighing.session =
        (.ok (.weighted [⟨0, 0⟩, ⟨0, 1⟩, ⟨0, 2⟩] (runningSums 0 Weighing.huge)),
          Weighing.session) := by
    rw [exec_create_weighted, if_neg (List.cons_ne_nil _ _),
      show [0, 1, 2].length = 3 from rfl, ok_of_toOption hbuckets]
    rfl
  obtain ⟨-, -, hw, -⟩ := weighted_accepted h
  refine ⟨_, h, fun u h0 h1 => ⟨?_, ?_⟩⟩
  · have hlt : ¬u * Weighing.huge.foldl (· + ·) 0 < Weighing.huge.foldl (· + ·) 0 := by
      rcases mul_of_infinite h0 h1 hnan hinf with hm | ⟨hm, ht⟩
      · intro hc
        rw [(isNaN_of_lt hc).1] at hm
        cases hm
      · rw [not_lt_iff_ticks_le hm hnan, ht]
    rw [weightedIndex, bucketIndex, findIdx_eq_none isSum_zero hw hlt, Option.getD_none,
      length_runningSums, hlength]
  · rintro ⟨x, hx, hpos⟩
    rw [hlast] at hx
    obtain rfl := Option.some.inj hx
    exact lt_irrefl _ ((lt_iff_ticks_lt isNaN_zero isNaN_zero).mp hpos)

end TestData.Engine
