import TestData.Proofs.Evaluation.Range
import TestData.Proofs.Session.Invariant
import TestData.Proofs.Session.Known
import TestData.Proofs.Value.Alike

/-!
Every value of a row is built.

A value that is evaluated is a scalar, an array of values, or an object into which fields were
inserted one after the other. A script gives such a value if it is given such values, and so does
what is read from one of them.
-/

namespace TestData.Engine

open Schema

variable {w : World} {s s' : Session} {n : NodeRef} {v : Value}

/-! ### What a script gives for values that are built -/

namespace Script

variable {α β : Type}

/-- Whatever values that are built a script is given, a result of it satisfies a predicate. -/
def Builds : Script α → (α → Prop) → Prop
  | done a, Q => Q a
  | fail _, _ => True
  | look k, Q => ∀ c, (k c).Builds Q
  | ask _ k, Q => ∀ v, (∀ x, v = some x → x.Built) → (k v).Builds Q
  | selected _ k, Q => ∀ i, (k i).Builds Q
  | table _ _ k, Q => ∀ t, (k t).Builds Q

lemma builds_bind {Q : α → Prop} {Q' : β → Prop} {x : Script α} {f : α → Script β}
    (hx : x.Builds Q) (hf : ∀ a, Q a → (f a).Builds Q') : (x >>= f).Builds Q' := by
  show (x.bind f).Builds Q'
  induction x with
  | done a => exact hf a hx
  | fail e => trivial
  | look k ih => exact fun c => ih c (hx c)
  | ask n k ih => exact fun v hv => ih v (hx v hv)
  | selected n k ih => exact fun i => ih i (hx i)
  | table n source k ih => exact fun t => ih t (hx t)

lemma builds_true (x : Script α) : x.Builds fun _ => True := by
  induction x with
  | done a => trivial
  | fail e => trivial
  | look k ih => exact ih
  | ask n k ih => exact fun v _ => ih v
  | selected n k ih => exact ih
  | table n source k ih => exact ih

end Script

/-- A value that is there is built. -/
def BuiltIfAny (v : Option Value) : Prop := ∀ x, v = some x → x.Built

/-- Every value that is kept is built. -/
def Session.KeepsBuilt (s : Session) : Prop :=
  ∀ t v, s.values.lookup t = some v → BuiltIfAny v

lemma builtIfAny_none : BuiltIfAny none := nofun

lemma builtIfAny_scalar (h : v.isComposite = false) : BuiltIfAny (some v) := by
  rintro x hx
  obtain rfl := Option.some.inj hx
  exact .scalar h

lemma builds_value (n : NodeRef) : (Script.value n).Builds BuiltIfAny := fun _ hv => hv

lemma Built.getD {v : Option Value} (h : BuiltIfAny v) : (v.getD .null).Built := by
  rcases v with _ | v
  · exact .scalar rfl
  · exact h v rfl

/-- What keys lead to in a value that is built is built. -/
lemma built_keysIn {u : Value} {keys : List String} (hu : u.Built) (h : keysIn u keys = .ok v) :
    v.Built := by
  induction keys generalizing u with
  | nil =>
    obtain rfl : u = v := by
      rcases u <;> exact Except.ok.inj h
    exact hu
  | cons key rest ih =>
    rcases u with _ | _ | _ | _ | _ | _ | _ | _ | f
    case object =>
      rw [keysIn] at h
      rcases hget : f.get? key with _ | x <;> rw [hget] at h
      · cases h
      · exact ih (hu.get? hget) h
    all_goals cases h

lemma built_readFrom {u v : Option Value} {keys : List String} (hu : BuiltIfAny u)
    (h : readFrom keys u = .ok v) : BuiltIfAny v := by
  rcases u with _ | x
  · obtain rfl := Except.ok.inj h
    exact builtIfAny_none
  · rw [readFrom] at h
    rcases hk : keysIn x keys with e | y <;> rw [hk] at h
    · cases h
    · obtain rfl := Except.ok.inj h
      rintro z hz
      obtain rfl := Option.some.inj hz
      exact built_keysIn (hu x rfl) hk

lemma builds_itemValues (owner : NodeRef) (ids : List NodeId) :
    (itemValues owner ids).Builds fun items => ∀ v ∈ items, v.Built := by
  induction ids with
  | nil => exact List.forall_mem_nil _
  | cons id rest ih =>
    refine Script.builds_bind (builds_value _) fun v hv => Script.builds_bind ih fun items h => ?_
    exact List.forall_mem_cons.mpr ⟨Built.getD hv, h⟩

lemma builds_fieldValues (owner : NodeRef) {f : Fields Value} (hf : (Value.object f).Built)
    (ids : List NodeId) : (fieldValues owner f ids).Builds fun g => (Value.object g).Built := by
  induction ids generalizing f with
  | nil => exact hf
  | cons id rest ih =>
    refine Script.builds_bind (Script.builds_true _) fun k _ => ?_
    split
    · refine Script.builds_bind (builds_value _) fun v hv => ?_
      rcases v with _ | v
      · exact ih hf
      · exact ih (hf.insert _ (hv v rfl))
    · exact ih hf

lemma builds_plainValue (n : NodeRef) (k : Kind) : (plainValue n k).Builds BuiltIfAny := by
  rcases k with _ | properties | _ | _ | l | items | _
  case literal =>
    rcases l with _ | number | _ | _ | _ | _ | _ | _
    case number =>
      refine builtIfAny_scalar ?_
      show number.toValue.isComposite = false
      unfold Number.toValue
      split <;> rfl
    all_goals exact builtIfAny_scalar rfl
  case list =>
    refine Script.builds_bind (builds_itemValues n items) fun vs hvs => ?_
    rintro x hx
    obtain rfl := Option.some.inj hx
    exact .array hvs
  case object =>
    refine Script.builds_bind
      (builds_fieldValues n (f := .empty) (.object (l := []) nofun) properties) fun f hf => ?_
    rintro x hx
    obtain rfl := Option.some.inj hx
    exact hf
  all_goals exact fun c => trivial

/-! ### Steps -/

/-- What is drawn from a range is a scalar. -/
lemma draw_scalar {spec : RangeSpec} {src src' : Random.Source}
    (h : spec.draw? src = some (v, src')) : v.isComposite = false := by
  rcases spec with ⟨min, max⟩ | ⟨min, max, places⟩ | ⟨min, days⟩ | ⟨min, seconds⟩
  · obtain ⟨rfl, -⟩ := Prod.mk.inj (Option.some.inj h)
    rfl
  · obtain ⟨z, rfl, -⟩ := draw_real h
    rfl
  · obtain ⟨d, -, hd⟩ := Option.map_eq_some_iff.mp h
    obtain ⟨rfl, -⟩ := Prod.mk.inj hd
    rfl
  · obtain ⟨t, -, ht⟩ := Option.map_eq_some_iff.mp h
    obtain ⟨rfl, -⟩ := Prod.mk.inj ht
    rfl

lemma bell_scalar (bell : Bell) (n : Nat) (src : Random.Source) :
    (bell.draw n src).1.isComposite = false := by
  have hout : ∀ x, (bell.output x).isComposite = false := by
    intro x
    unfold Bell.output
    split <;> rfl
  induction n generalizing src with
  | zero => exact hout _
  | succ n ih =>
    rw [Bell.draw]
    dsimp only
    split_ifs
    · exact hout _
    · exact ih _

lemma built_rowValue (t : Table) (i : Nat) : BuiltIfAny (t.rowValue? i) := by
  rintro v hv
  obtain ⟨row, -, rfl⟩ := Option.map_eq_some_iff.mp hv
  dsimp only
  split
  · refine .object fun p hp => ?_
    obtain ⟨⟨name, cell⟩, -, rfl⟩ := List.mem_map.mp hp
    exact .scalar rfl
  · refine .array fun v hv => ?_
    obtain ⟨cell, -, rfl⟩ := List.mem_map.mp hv
    exact .scalar rfl

/-- A value that a step makes itself is built. -/
lemma built_step {g g' : Generator} {src src' : Random.Source} {v : Option Value}
    (h : g.step src = some ((.value v, g'), src')) : BuiltIfAny v := by
  have hvalue : ∀ {u : Option Value} {g₁ : Generator} {r : Random.Source}, BuiltIfAny u →
      some ((Plan.value u, g₁), r) = some ((.value v, g'), src') → BuiltIfAny v := by
    intro u g₁ r hu h
    obtain rfl := Plan.value.inj (Prod.mk.inj (Prod.mk.inj (Option.some.inj h)).1).1
    exact hu
  have hat : ∀ {values : List NodeRef} {i : Nat}, Plan.at values i = .value v → BuiltIfAny v := by
    intro values i h
    unfold Plan.at at h
    split at h
    · cases h
    · obtain rfl := Plan.value.inj h
      exact builtIfAny_none
  rcases g with spec | bell | ⟨values, i⟩ | ⟨values, buckets⟩ | t | _ | _ | k | _ |
    ⟨l, base, offset, day⟩ | recipe | _ | _
  case range =>
    obtain ⟨⟨x, src₁⟩, hd, h₁⟩ := Option.map_eq_some_iff.mp h
    exact hvalue (builtIfAny_scalar (draw_scalar hd)) (congrArg some h₁)
  case normal =>
    simp only [Generator.step, Option.some.injEq, Prod.mk.injEq] at h
    obtain rfl := Plan.value.inj h.1.1
    exact builtIfAny_scalar (bell_scalar bell attempts src)
  case choice =>
    simp only [Generator.step, Option.some.injEq, Prod.mk.injEq] at h
    exact hat h.1.1
  case weighted =>
    rw [Generator.step] at h
    rcases src.unit with ⟨u, src₁⟩
    exact hat (Prod.mk.inj (Prod.mk.inj (Option.some.inj h)).1).1
  case table =>
    simp only [Generator.step, Option.some.injEq, Prod.mk.injEq] at h
    obtain rfl := Plan.value.inj h.1.1
    exact built_rowValue t _
  case sequence => exact hvalue (builtIfAny_scalar rfl) h
  case uuid =>
    rw [Generator.step] at h
    rcases src.identifier with ⟨text, src₁⟩
    exact hvalue (builtIfAny_scalar rfl) h
  case clock =>
    rw [Generator.step] at h
    rcases hs : offset.shift? base with _ | t <;> rw [hs] at h
    · cases h
    · refine hvalue (builtIfAny_scalar ?_) h
      split <;> rfl
  case regex =>
    rw [Generator.step] at h
    rcases recipe.sample src with ⟨text, src₁⟩
    exact hvalue (builtIfAny_scalar rfl) h
  all_goals cases h

lemma builds_plan {plan : Plan} (h : ∀ v, plan = .value v → BuiltIfAny v) :
    plan.script.Builds BuiltIfAny := by
  rcases plan with v | e | n | ⟨source, entries⟩ | ⟨source, selector, targets⟩ |
    ⟨l, t, params, names⟩ | ⟨previous, t⟩
  case value => exact h v rfl
  case fault => trivial
  case node => exact builds_value n
  case look =>
    refine Script.builds_bind (builds_value source) fun v _ => ?_
    rcases v with _ | key
    · exact builtIfAny_none
    · dsimp only
      split
      · exact builds_value _
      · exact builtIfAny_none
  case replay =>
    refine Script.builds_bind (builds_value source) fun _ _ i => ?_
    dsimp only
    split
    · exact builds_value _
    · exact builtIfAny_none
  case render =>
    refine Script.builds_bind (Script.builds_true _) fun data _ =>
      Script.builds_bind (Script.builds_true _) fun data _ => ?_
    rcases t.render? (.object data) with _ | text
    · trivial
    · exact builtIfAny_scalar rfl
  case transform =>
    refine Script.builds_bind (builds_value previous) fun v _ => ?_
    rcases v with _ | v
    · exact builtIfAny_none
    · rcases v <;> exact builtIfAny_scalar rfl

/-! ### What a session keeps -/

/-- What a request ends with is built if all is that is kept then. -/
lemma Session.KeepsBuilt.value {v : Option Value} (hs : s'.KeepsBuilt)
    (h : (Eval.value n).exec w s = (.ok v, s')) : BuiltIfAny v := by
  obtain ⟨r, -, hread⟩ := knownBy_eq_some.mp (known_of_value h)
  rcases r with t | ⟨base, keys⟩
  · exact hs t v hread
  · obtain ⟨u, hu, hk⟩ := read_extract.mp hread
    exact built_readFrom (hs base u hu) hk

/-- What a run ends with is built if all is that is kept then, as what the script was given is
kept. -/
lemma Script.Builds.run {α : Type} {Q : α → Prop} {x : Script α} {a : α} (hx : x.Builds Q)
    (h : (x.run Eval.value).exec w s = (.ok a, s')) (hs : s'.KeepsBuilt) : Q a := by
  have hkeeps : ∀ {s s₁ : Session} {n : NodeRef} {v : Option Value} {y : Script α},
      (Eval.value n).exec w s = (.ok v, s₁) → (y.run Eval.value).exec w s₁ = (.ok a, s') →
        BuiltIfAny v := by
    intro s s₁ n v y hv hy
    have hgrows : Keeps s₁ s' := by
      have hrun := keeps_run w y s₁
      rwa [hy] at hrun
    have hs₁ : s₁.KeepsBuilt := fun t u hu => hs t u (hgrows.values t u hu)
    exact hs₁.value hv
  induction x generalizing s with
  | done b =>
    obtain rfl := Except.ok.inj (Prod.mk.inj h).1
    exact hx
  | fail e => cases (Prod.mk.inj h).1
  | look k ih => exact ih _ (hx _) h
  | selected n k ih => exact ih _ (hx _) h
  | ask n k ih =>
    rw [exec_ask] at h
    rcases hv : (Eval.value n).exec w s with ⟨f | v, s₁⟩ <;> rw [hv] at h
    · cases (Prod.mk.inj h).1
    · exact ih v (hx v (hkeeps hv h)) h
  | table n source k ih =>
    rw [exec_table] at h
    rcases hv : (Eval.table n source).exec w s with ⟨f | t, s₁⟩ <;> rw [hv] at h
    · cases (Prod.mk.inj h).1
    · exact ih t (hx t) h

/-- That what is kept is built outlasts evaluations. -/
lemma lasting_keepsBuilt (w : World) (s₀ : Session) :
    Lasting w fun s => s.setting = s₀.setting ∧ s.KeepsBuilt where
  tables _ _ h := h
  source _ h := h
  own := by
    intro s t hs h hl ha hr hv
    have hR : Passive (Preserves fun s => s.setting = s₀.setting ∧ s.KeepsBuilt) :=
      passive_preserves (fun _ _ h => h) fun _ h => h
    have he : (s.enter t).setting = s₀.setting ∧ (s.enter t).KeepsBuilt := h
    rcases hx : (ownValue Eval.value t).exec w (s.enter t) with ⟨r, s'⟩
    have hown : (s'.setting = s₀.setting ∧ s'.KeepsBuilt) ∧ ∀ v, r = .ok v → BuiltIfAny v := by
      rcases call_or_ne ((s.enter t).workspace.kind t) with ⟨call, hk⟩ | hk'
      · rw [exec_ownValue_call hk] at hx
        cases callEnds hR (fun _ _ h => h) hk (Session.open_enter hl) he hv hx with
        | creation _ hI => exact ⟨hI, nofun⟩
        | stuck _ _ hI => exact ⟨hI, nofun⟩
        | plan _ hst hrun _ _ _ _ hI =>
          refine ⟨hI, ?_⟩
          rintro v rfl
          exact (builds_plan fun u hu => built_step (hu ▸ hst)).run hrun hI.2
      · rw [ownVisits_plain hk'] at hv
        rw [exec_ownValue_plain hk'] at hx
        have hI := Script.run_rel hR _ _ (fun b hb => (hv b hb).2) he
        rw [hx] at hI
        refine ⟨hI, ?_⟩
        rintro v rfl
        exact (builds_plainValue t _).run hx hI.2
    refine ⟨(Session.setting_settle s' t r).trans hown.1.1, ?_⟩
    rcases r with f | v
    · exact hown.1.2
    · intro u x hu
      rw [Session.settle, Session.lookup_keep] at hu
      split_ifs at hu
      · obtain rfl := Option.some.inj hu
        exact hown.2 v rfl
      · exact hown.1.2 u x hu

/-- **Every value that is kept is built**, in every session that can be reached. -/
theorem Reachable.keepsBuilt (h : Reachable s) : s.KeepsBuilt := by
  have hempty : ∀ {s : Session}, s.values = [] → s.KeepsBuilt := by
    intro s hs t v hv
    rw [hs] at hv
    cases hv
  exact h.invariant (P := fun _ => True) (fun hv _ => hempty hv) (fun _ => hempty rfl)
    (fun w s₀ _ => lasting_keepsBuilt w s₀) trivial

end TestData.Engine
