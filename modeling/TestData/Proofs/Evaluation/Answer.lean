import TestData.Proofs.Evaluation.Frame

/-!
What a script ends with, given what it is answered.

A script that asks for the values of nodes and for nothing else depends on the answers alone. So
its result can be read off what is known of the nodes, with no session; a run that succeeds ends
with that result, and where the result is known a run succeeds.
-/

namespace TestData.Engine

open Schema

/-- What is known of the values of nodes. -/
abbrev Knowledge := NodeRef → Option (Option Value)

/-- Two settings that evaluations without tables cannot tell apart. -/
structure Setting.Alike (c c' : Setting) : Prop where
  workspace : c'.workspace = c.workspace
  functions : c'.functions = c.functions
  options : c'.options = c.options
  resolve : c'.scope.resolve = c.scope.resolve
  lookup : c'.scope.lookup? = c.scope.lookup?
  now : c'.now = c.now

lemma Setting.Alike.refl (c : Setting) : c.Alike c := ⟨rfl, rfl, rfl, rfl, rfl, rfl⟩

lemma Setting.Alike.location {c c' : Setting} (h : c.Alike c') (n : NodeRef) :
    c'.location n = c.location n := by
  unfold Setting.location
  rw [h.workspace]

namespace Script

variable {α β : Type}

/-- What a script ends with by what is known of the nodes that it asks for; nothing where it fails,
asks for a node of which nothing is known, or asks for anything but values. -/
def answer (c : Setting) (known : Knowledge) : Script α → Option α
  | done a => some a
  | fail _ => none
  | look k => (k c).answer c known
  | ask n k => (known n).bind fun v => (k v).answer c known
  | selected _ _ | table _ _ _ => none

/-- A script asks for values only, and does not look at what evaluations should not tell apart. -/
def Quiet : Script α → Prop
  | done _ | fail _ => True
  | look k => (∀ c c', c.Alike c' → k c' = k c) ∧ ∀ c, (k c).Quiet
  | ask _ k => ∀ v, (k v).Quiet
  | selected _ _ | table _ _ _ => False

variable {c c' : Setting} {known known' : Knowledge}

/-! ### How answers are put together -/

@[simp] lemma answer_pure (a : α) : (pure a : Script α).answer c known = some a := rfl
@[simp] lemma answer_fail (e : EvalError) : (fail e : Script α).answer c known = none := rfl
@[simp] lemma answer_value (n : NodeRef) : (value n).answer c known = known n := by
  unfold value
  rcases h : known n with _ | v <;> simp [answer, h]
@[simp] lemma answer_setting : setting.answer c known = some c := rfl
@[simp] lemma answer_kind (n : NodeRef) :
    (kind n).answer c known = some (c.workspace.kind n) := rfl

@[simp] lemma answer_bind (x : Script α) (f : α → Script β) :
    (x >>= f).answer c known = (x.answer c known).bind fun a => (f a).answer c known := by
  show (x.bind f).answer c known = _
  induction x with
  | done a => rfl
  | fail e => rfl
  | look k ih => exact ih c
  | ask n k ih =>
    rw [Script.bind, answer, answer, Option.bind_assoc]
    congr 1
    funext v
    exact ih v
  | selected n k ih => rfl
  | table n source k ih => rfl

/-- More knowledge gives the same answer. -/
lemma answer_mono (h : ∀ n v, known n = some v → known' n = some v) {x : Script α} {a : α}
    (hx : x.answer c known = some a) : x.answer c known' = some a := by
  induction x with
  | done b => exact hx
  | fail e => cases hx
  | look k ih => exact ih c hx
  | ask n k ih =>
    obtain ⟨v, hv, hk⟩ := Option.bind_eq_some_iff.mp hx
    exact Option.bind_eq_some_iff.mpr ⟨v, h n v hv, ih v hk⟩
  | selected n k ih => cases hx
  | table n source k ih => cases hx

/-- Knowledge that agrees as far as it goes gives answers that agree. -/
lemma answer_agree (h : ∀ n u v, known n = some u → known' n = some v → u = v) {x : Script α}
    {a b : α} (ha : x.answer c known = some a) (hb : x.answer c known' = some b) : a = b := by
  induction x with
  | done d => exact Option.some.inj (ha.symm.trans hb)
  | fail e => cases ha
  | look k ih => exact ih c ha hb
  | ask n k ih =>
    obtain ⟨u, hu, hka⟩ := Option.bind_eq_some_iff.mp ha
    obtain ⟨v, hv, hkb⟩ := Option.bind_eq_some_iff.mp hb
    obtain rfl := h n u v hu hv
    exact ih u hka hkb
  | selected n k ih => cases ha
  | table n source k ih => cases ha

/-! ### Quiet scripts -/

@[simp] lemma quiet_pure (a : α) : (pure a : Script α).Quiet := trivial
@[simp] lemma quiet_fail (e : EvalError) : (fail e : Script α).Quiet := trivial
@[simp] lemma quiet_value (n : NodeRef) : (value n).Quiet := fun _ => trivial

lemma quiet_bind {x : Script α} {f : α → Script β} (hx : x.Quiet) (hf : ∀ a, (f a).Quiet) :
    (x >>= f).Quiet := by
  show (x.bind f).Quiet
  induction x with
  | done a => exact hf a
  | fail e => trivial
  | look k ih =>
    exact ⟨fun c c' h => congrArg (Script.bind · f) (hx.1 c c' h), fun c => ih c (hx.2 c)⟩
  | ask n k ih => exact fun v => ih v (hx v)
  | selected n k ih => exact hx
  | table n source k ih => exact hx

lemma quiet_setting {f : Setting → Script α} (h : ∀ c c', c.Alike c' → f c' = f c)
    (hf : ∀ c, (f c).Quiet) : (setting >>= f).Quiet := ⟨h, hf⟩

@[simp] lemma quiet_location (n : NodeRef) : (location n).Quiet :=
  quiet_setting (fun _ _ h => by rw [h.location]) fun _ => trivial

@[simp] lemma quiet_kind (n : NodeRef) : (kind n).Quiet :=
  quiet_setting (fun _ _ h => by rw [h.workspace]) fun _ => trivial

/-! ### Runs -/

section

variable {value : NodeRef → Eval (Option Value)} {w : World}

/-- **A run that succeeds** ends with the answer, if what it was answered is known. -/
theorem answer_of_run {x : Script α} (hx : x.Quiet) {s s' : Session} {a : α}
    (hk : ∀ b ∈ x.visits value w s, Keeps b.session (b.outcome value w).2)
    (hK : ∀ b ∈ x.visits value w s, ∀ v s₁, b.outcome value w = (.ok v, s₁) →
      known b.node = some v)
    (h : (x.run value).exec w s = (.ok a, s')) : x.answer (s.setting w) known = some a := by
  induction x generalizing s with
  | done b =>
    obtain rfl := Except.ok.inj (Prod.mk.inj h).1
    rfl
  | fail e => cases (Prod.mk.inj h).1
  | look k ih => exact ih _ (hx.2 _) hk hK h
  | ask n k ih =>
    rw [exec_ask] at h
    rcases hv : (value n).exec w s with ⟨f | v, s₁⟩ <;> rw [hv] at h
    · cases (Prod.mk.inj h).1
    · have hn : known n = some v := hK ⟨n, s⟩ (by simp [visits]) v s₁ hv
      have hs : Keeps s s₁ := by
        have := hk ⟨n, s⟩ (by simp [visits])
        rwa [Visit.outcome, hv] at this
      have hrest := ih v (hx v) (fun b hb => hk b (by simp [visits, hv, hb]))
        (fun b hb => hK b (by simp [visits, hv, hb])) h
      rw [hs.setting] at hrest
      rw [answer, hn]
      exact hrest
  | selected n k ih => exact hx.elim
  | table n source k ih => exact hx.elim

/-- **A run succeeds** where the answer is known, if every request for what is known succeeds, in
any session in which it may be made. -/
theorem run_of_answer {I : Session → Prop} (hc : ∀ {s}, I s → s.setting w = c)
    (hask : ∀ {s n v}, I s → known n = some v → ∃ s', (value n).exec w s = (.ok v, s') ∧ I s')
    {x : Script α} {a : α} (hx : x.answer c known = some a) {s : Session} (hs : I s) :
    ∃ s', (x.run value).exec w s = (.ok a, s') ∧ I s' := by
  induction x generalizing s with
  | done b =>
    obtain rfl := Option.some.inj hx
    exact ⟨s, rfl, hs⟩
  | fail e => cases hx
  | look k ih =>
    rw [exec_look, hc hs]
    exact ih c hx hs
  | ask n k ih =>
    obtain ⟨v, hv, hk⟩ := Option.bind_eq_some_iff.mp hx
    obtain ⟨s₁, h₁, hs₁⟩ := hask hs hv
    rw [exec_ask, h₁]
    exact ih v hk hs₁
  | selected n k ih => cases hx
  | table n source k ih => cases hx

end

end Script

/-! ### The scripts of nodes -/

section

variable {c : Setting} {known : Knowledge}

open Script

lemma quiet_itemValues (owner : NodeRef) (ids : List NodeId) : (itemValues owner ids).Quiet := by
  induction ids with
  | nil => exact quiet_pure _
  | cons id rest ih =>
    exact quiet_bind (quiet_value _) fun v => quiet_bind ih fun vs => quiet_pure _

lemma quiet_fieldValues (owner : NodeRef) (f : Fields Value) (ids : List NodeId) :
    (fieldValues owner f ids).Quiet := by
  induction ids generalizing f with
  | nil => exact quiet_pure _
  | cons id rest ih =>
    refine quiet_bind (quiet_kind _) fun k => ?_
    rcases k with _ | _ | ⟨name, _⟩ | _ | _ | _ | _
    case property =>
      refine quiet_bind (quiet_value _) fun v => ?_
      rcases v with _ | v <;> exact ih _
    all_goals exact ih f

/-- The evaluation of a node that is no call asks for values only. -/
lemma quiet_plainValue (n : NodeRef) (k : Kind) : (plainValue n k).Quiet := by
  have hno : (do .fail (.badArgument (← .location n) (.noValue k.describe)) :
      Script (Option Value)).Quiet := quiet_bind (quiet_location n) fun l => quiet_fail _
  rcases k with _ | _ | _ | _ | _ | _ | _
  case list => exact quiet_bind (quiet_itemValues n _) fun vs => quiet_pure _
  case object => exact quiet_bind (quiet_fieldValues n _ _) fun f => quiet_pure _
  case literal => exact quiet_pure _
  all_goals exact hno

end

end TestData.Engine
