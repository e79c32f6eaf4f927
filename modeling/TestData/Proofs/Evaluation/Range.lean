import TestData.Engine.Creation
import TestData.Proofs.Calendar.Shift
import TestData.Proofs.Random.Uniform
import TestData.Proofs.Random.Width

/-!
Draws from ranges.

Bounds are checked for their order when a range is made, and nothing else is checked. Draws of
integers, dates and points in time always succeed and lie between the bounds; of real numbers there
is none where a bound is not a number, and none between bounds that are infinite or too far apart
(`range_step_eq_none_iff`, `draw_spans`).
-/

namespace TestData.Engine

open Schema Decimal TestData.Random Calendar

namespace Operand

/-- A bound of dates or points in time that can be represented. -/
def Valid : Operand → Prop
  | number _ => True
  | date d => d.inRange
  | time t => t.Valid

/-- A bound that is not in a leap second at the end of the calendar. -/
def HasNext : Operand → Prop
  | time t => t.HasNext
  | _ => True

/-- A bound that is not in a leap second. -/
def Plain : Operand → Prop
  | time t => ¬t.inLeapSecond
  | _ => True

/-- Bounds of real numbers that allow no draw. -/
def Undrawable : Operand → Operand → Prop
  | number a, number b => (a.hasPoint ∨ b.hasPoint) ∧
      (a.value.isNaN ∨ b.value.isNaN ∨ a.value < b.value ∧
        (¬a.value.isFinite ∨ ¬b.value.isFinite ∨ widthLimit ≤ ticks b.value - ticks a.value))
  | _, _ => False

end Operand

/-! ### Integers -/

lemma toInteger_mono {x y : Float} (h : ¬y < x) (hx : x.isNaN = false) (hy : y.isNaN = false) :
    toInteger x ≤ toInteger y := by
  rw [not_lt_iff_ticks_le hy hx] at h
  rw [toInteger_eq hx, toInteger_eq hy]
  have hdiv := Int.tdiv_le_tdiv (by exact_mod_cast oneTicks_pos : (0 : Int) < oneTicks) h
  unfold clampInteger
  omega

lemma toInteger_bounds (x : Float) :
    leastInteger ≤ toInteger x ∧ toInteger x ≤ greatestInteger := by
  unfold toInteger clampInteger leastInteger greatestInteger
  dsimp only
  split_ifs <;> omega

/-! ### Draws -/

variable {a b : Operand} {spec : RangeSpec} {src src' : Source} {v : Value}

lemma clamp_eq_none_iff {x min max : Float} : RangeSpec.clamp? x min max = none ↔ ¬min ≤ max := by
  unfold RangeSpec.clamp?
  split_ifs with h <;> simp [h]

lemma clamp_between {x y min max : Float} (h : RangeSpec.clamp? x min max = some y) :
    ¬y < min ∧ ¬max < y := by
  unfold RangeSpec.clamp? at h
  split_ifs at h with hle hlow hhigh <;> obtain rfl := Option.some.inj h
  all_goals obtain ⟨hmin, hmax⟩ := isNaN_of_le hle
  all_goals rw [le_iff_ticks_le hmin hmax] at hle
  · exact ⟨by rw [not_lt_iff_ticks_le hmin hmin], by rwa [not_lt_iff_ticks_le hmax hmin]⟩
  · exact ⟨by rwa [not_lt_iff_ticks_le hmax hmin], by rw [not_lt_iff_ticks_le hmax hmax]⟩
  · exact ⟨hlow, hhigh⟩

lemma le_iff_not_lt {x y : Float} (h : ¬y < x) : x ≤ y ↔ x.isNaN = false ∧ y.isNaN = false := by
  refine ⟨isNaN_of_le, fun ⟨hx, hy⟩ => ?_⟩
  rwa [le_iff_ticks_le hx hy, ← not_lt_iff_ticks_le hy hx]

/-- The ranges that are made. -/
lemma between_cases (h : RangeSpec.between a b = .ok spec) :
    (∃ x y, a = .number x ∧ b = .number y ∧ ¬y.value < x.value ∧
      ((x.hasPoint ∨ y.hasPoint) ∧ spec = .real x.value y.value (max x.places y.places) ∨
        (¬x.hasPoint ∧ ¬y.hasPoint) ∧ spec = .whole (toInteger x.value) (toInteger y.value))) ∨
    (∃ d e, a = .date d ∧ b = .date e ∧ ¬e.ordinal < d.ordinal ∧
      spec = .date d (e.ordinal - d.ordinal)) ∨
    ∃ t u, a = .time t ∧ b = .time u ∧ ¬t.after u ∧ spec = .time t (t.secondsUntil u) := by
  rcases a with x | d | t <;> rcases b with y | e | u <;> try cases h
  · unfold RangeSpec.between at h
    dsimp only at h
    split_ifs at h with hlt hpoint <;> cases h
    · exact .inl ⟨x, y, rfl, rfl, hlt, .inl ⟨by simpa using hpoint, rfl⟩⟩
    · exact .inl ⟨x, y, rfl, rfl, hlt, .inr ⟨by simpa using hpoint, rfl⟩⟩
  · unfold RangeSpec.between at h
    dsimp only at h
    split_ifs at h with hlt
    cases h
    exact .inr (.inl ⟨d, e, rfl, rfl, hlt, rfl⟩)
  · unfold RangeSpec.between at h
    dsimp only at h
    split_ifs at h with hlt
    cases h
    exact .inr (.inr ⟨t, u, rfl, rfl, hlt, rfl⟩)

lemma draw_whole {x y : Float} (h : ¬y < x) (src : Source) :
    ∃ n src', (RangeSpec.whole (toInteger x) (toInteger y)).draw? src = some (.int n, src') ∧
      (x.isNaN = false → y.isNaN = false → toInteger x ≤ n ∧ n ≤ toInteger y) :=
  ⟨_, _, rfl, fun hx hy =>
    src.intBetween_mem (toInteger_mono h hx hy) (toInteger_bounds x).1 (toInteger_bounds y).2⟩

lemma draw_date {d e : Date} (hd : d.inRange) (he : e.inRange) (h : ¬e.ordinal < d.ordinal)
    (src : Source) :
    ∃ f src', (RangeSpec.date d (e.ordinal - d.ordinal)).draw? src = some (.date f, src') ∧
      d.ordinal ≤ f.ordinal ∧ f.ordinal ≤ e.ordinal := by
  have hd' := Date.inRange_iff.mp hd
  have he' := Date.inRange_iff.mp he
  have hdraw : (RangeSpec.date d (e.ordinal - d.ordinal)).draw? src =
      (d.addDays? (src.intBetween 0 (e.ordinal - d.ordinal)).1).map fun f =>
        (.date f, (src.intBetween 0 (e.ordinal - d.ordinal)).2) := rfl
  have hn := src.intBetween_zero_mem (n := e.ordinal - d.ordinal)
    (by unfold greatestInteger; omega)
  rw [hdraw]
  generalize (src.intBetween 0 (e.ordinal - d.ordinal)).1 = n at *
  have hr : (d.addDays n).inRange :=
    Date.inRange_iff.mpr ⟨show _ ≤ d.ordinal + n by omega, show d.ordinal + n ≤ _ by omega⟩
  refine ⟨d.addDays n, (src.intBetween 0 (e.ordinal - d.ordinal)).2, ?_,
    show d.ordinal ≤ d.ordinal + n by omega,
    show d.ordinal + n ≤ e.ordinal by omega⟩
  rw [Date.addDays?, if_pos hr]
  rfl

lemma draw_time {t u : Timestamp} (ht : t.Valid) (hu : u.Valid) (hnext : u.HasNext)
    (h : ¬t.after u) (src : Source) :
    ∃ r src', (RangeSpec.time t (t.secondsUntil u)).draw? src = some (.timestamp r, src') ∧
      (¬u.inLeapSecond → ¬t.after r ∧ ¬r.after u) := by
  have hdraw : (RangeSpec.time t (t.secondsUntil u)).draw? src =
      (t.addSeconds? (src.intBetween 0 (t.secondsUntil u)).1).map fun r =>
        (.timestamp r, (src.intBetween 0 (t.secondsUntil u)).2) := rfl
  have hlt := Timestamp.secondsUntil_lt ht hu
  obtain ⟨hn, hle⟩ := src.intBetween_zero_mem (n := t.secondsUntil u)
    (by unfold greatestInteger; omega)
  rw [hdraw]
  refine ⟨_, (src.intBetween 0 (t.secondsUntil u)).2, ?_,
    fun hleap => Timestamp.addSeconds_between ht hu hleap h hn hle⟩
  rw [Timestamp.addSeconds?, if_pos (Timestamp.addSeconds_valid ht hu hnext hn hle).date]
  rfl

lemma draw_real_eq_none_iff {x y : Float} {places : Nat} (h : ¬y < x) (src : Source) :
    (RangeSpec.real x y places).draw? src = none ↔ x.isNaN ∨ y.isNaN ∨
      x < y ∧ (¬x.isFinite ∨ ¬y.isFinite ∨ widthLimit ≤ ticks y - ticks x) := by
  have hnan : (x.isNaN ∨ y.isNaN) ↔ ¬x ≤ y := by
    rw [le_iff_not_lt h, not_and_or, Bool.not_eq_false, Bool.not_eq_false]
  rw [← or_assoc, hnan, ← realBetween_eq_none_iff src]
  have hdraw : (RangeSpec.real x y places).draw? src = (src.realBetween x y).bind fun z =>
      (RangeSpec.clamp? (roundTo z.1 places) x y).map fun w => (.float w, z.2) := rfl
  rw [hdraw]
  rcases src.realBetween x y with _ | ⟨z, src'⟩
  · simp
  · rw [Option.bind_some, Option.map_eq_none_iff, clamp_eq_none_iff]
    simp

lemma draw_real {x y : Float} {places : Nat}
    (hd : (RangeSpec.real x y places).draw? src = some (v, src')) :
    ∃ z, v = .float z ∧ ¬z < x ∧ ¬y < z := by
  obtain ⟨⟨z, src''⟩, -, hz⟩ := Option.bind_eq_some_iff.mp hd
  obtain ⟨z', hclamp, hv⟩ := Option.map_eq_some_iff.mp hz
  exact ⟨z', (Prod.mk.inj hv).1.symm, clamp_between hclamp⟩

/-- **Bounds that allow no draw** are the only ones that make a step of an accepted range fail,
whatever the source. -/
theorem range_step_eq_none_iff (h : RangeSpec.between a b = .ok spec) (ha : a.Valid) (hb : b.Valid)
    (hnext : b.HasNext) (src : Source) :
    (Generator.range spec).step src = none ↔ a.Undrawable b := by
  rw [Generator.step, Option.map_eq_none_iff]
  obtain ⟨x, y, rfl, rfl, hlt, ⟨hp, rfl⟩ | ⟨hp, rfl⟩⟩ | ⟨d, e, rfl, rfl, hlt, rfl⟩ |
    ⟨t, u, rfl, rfl, hlt, rfl⟩ := between_cases h
  · rw [draw_real_eq_none_iff hlt, Operand.Undrawable, and_iff_right hp]
  · obtain ⟨n, src', hd, -⟩ := draw_whole hlt src
    rw [hd]
    exact iff_of_false nofun fun hc => hc.1.elim hp.1 hp.2
  · obtain ⟨f, src', hd, -⟩ := draw_date ha hb hlt src
    rw [hd]
    exact iff_of_false nofun id
  · obtain ⟨r, src', hd, -⟩ := draw_time ha hb hnext hlt src
    rw [hd]
    exact iff_of_false nofun id

/-- From a range of real numbers that is not too wide a number is drawn. -/
theorem range_step_of_one_and_two :
    RangeSpec.between (.number ⟨1, "1.0"⟩) (.number ⟨2, "2.0"⟩) = .ok (.real 1 2 1) ∧
      (Generator.range (.real 1 2 1)).step (.ofSeed 1) ≠ none := by
  have h : RangeSpec.between (.number ⟨1, "1.0"⟩) (.number ⟨2, "2.0"⟩) = .ok (.real 1 2 1) := by
    have hfacts : ¬(2 : Float) < 1 ∧ (Number.mk 1 "1.0").hasPoint ∧
        (Number.mk 1 "1.0").places = 1 ∧ (Number.mk 2 "2.0").places = 1 := by decide +kernel
    simp [RangeSpec.between, hfacts]
  refine ⟨h, mt (range_step_eq_none_iff h trivial trivial trivial (.ofSeed 1)).mp ?_⟩
  unfold Operand.Undrawable
  decide +kernel

namespace Wide

/-- The greatest power of ten that is a number. -/
def huge : Number := (Number.read "1.0e308").toOption.getD default

/-- Its negative. -/
def least : Number := (Number.read "-1.0e308").toOption.getD default

lemma facts : (Number.read "1.0e308").toOption.isSome ∧ (Number.read "-1.0e308").toOption.isSome ∧
    ¬huge.value < least.value ∧ least.hasPoint ∧ least.value < huge.value ∧
    widthLimit ≤ ticks huge.value - ticks least.value := by
  decide +kernel

end Wide

/-- **A range that is accepted and from which nothing can be drawn**: the distance of the bounds is
infinite. -/
theorem wide_range_never_steps :
    ∃ a b spec, Number.read "-1.0e308" = .ok a ∧ Number.read "1.0e308" = .ok b ∧
      RangeSpec.between (.number a) (.number b) = .ok spec ∧
      ∀ src, (Generator.range spec).step src = none := by
  obtain ⟨hb, ha, hlt, hpoint, hle, hwide⟩ := Wide.facts
  have hread {s : String} (h : (Number.read s).toOption.isSome) :
      Number.read s = .ok ((Number.read s).toOption.getD default) := by
    rcases hs : Number.read s with _ | x
    · rw [hs] at h
      cases h
    · rfl
  refine ⟨Wide.least, Wide.huge, .real Wide.least.value Wide.huge.value
    (max Wide.least.places Wide.huge.places), hread ha, hread hb, ?_, fun src => ?_⟩
  · simp [RangeSpec.between, hlt, hpoint]
  · rw [Generator.step, Option.map_eq_none_iff, draw_real_eq_none_iff hlt]
    exact .inr (.inr ⟨hle, .inr (.inr hwide)⟩)

end TestData.Engine
