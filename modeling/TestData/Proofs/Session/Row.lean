import TestData.Proofs.Evaluation.Depth
import TestData.Proofs.Session.Request

/-!
One value in a row.

What a node stands for is kept once it is evaluated, and a call that names are read from is kept
with it. So a later request in the row ends with the same value and changes nothing at all, as
long as the node still stands for the same. That is for the disk to say: a name that is imported
is looked up through the paths of files each time.
-/

namespace TestData.Engine

open Schema

variable {value : NodeRef → Eval (Option Value)} {w : World} {s s₁ s₂ : Session}
  {n t base : NodeRef} {keys : List String} {v : Option Value}

/-- What names lead to in the value that they are read from; nothing in nothing. -/
def readFrom (keys : List String) : Option Value → Except String (Option Value)
  | none => .ok none
  | some v => (keysIn v keys).map some

lemma valueVia_extract_ok {u : Option Value}
    (hr : (s.scope w).resolve n = .ok (.extract base keys))
    (hb : (value base).exec w s = (.ok u, s₁)) (hu : readFrom keys u = .ok v) :
    (valueVia value n).exec w s = (.ok v, s₁) := by
  rw [valueVia_extract hr, hb]
  rcases u with _ | x
  · obtain rfl := Except.ok.inj hu
    rfl
  · rw [readFrom] at hu
    rcases hk : keysIn x keys with e | y <;> rw [hk] at hu
    · cases hu
    · obtain rfl := Except.ok.inj hu
      simp only [hk]

lemma readFrom_of_valueVia (hr : (s.scope w).resolve n = .ok (.extract base keys))
    (h : (valueVia value n).exec w s = (.ok v, s₁)) :
    ∃ u, (value base).exec w s = (.ok u, s₁) ∧ readFrom keys u = .ok v := by
  rw [valueVia_extract hr] at h
  rcases hb : (value base).exec w s with ⟨f | _ | x, s'⟩ <;> rw [hb] at h
  · cases (Prod.mk.inj h).1
  · obtain ⟨h₁, rfl⟩ := Prod.mk.inj h
    obtain rfl := Except.ok.inj h₁
    exact ⟨none, rfl, rfl⟩
  · dsimp only at h
    rcases hk : keysIn x keys with e | y <;> rw [hk] at h
    · cases (Prod.mk.inj h).1
    · obtain ⟨h₁, rfl⟩ := Prod.mk.inj h
      obtain rfl := Except.ok.inj h₁
      exact ⟨some x, rfl, by rw [readFrom, hk]; rfl⟩

/-- A node that has been evaluated has its value kept. -/
lemma lookup_of_valueVia (hr : (s.scope w).resolve n = .ok (.value t))
    (h : (valueVia value n).exec w s = (.ok v, s₁)) : s₁.values.lookup t = some v := by
  rcases hl : s.values.lookup t with _ | u
  · by_cases ha : t ∈ s.active
    · rw [valueVia_active hr hl ha] at h
      cases (Prod.mk.inj h).1
    · rw [valueVia_own hr hl ha] at h
      rcases ho : (ownValue value t).exec w (s.enter t) with ⟨_ | u, s'⟩ <;> rw [ho] at h
      · cases (Prod.mk.inj h).1
      · obtain ⟨h₁, rfl⟩ := Prod.mk.inj h
        obtain rfl := Except.ok.inj h₁
        simp
  · rw [valueVia_cached hr hl] at h
    obtain ⟨h₁, rfl⟩ := Prod.mk.inj h
    obtain rfl := Except.ok.inj h₁
    exact hl

/-! ### What a request leaves for the row -/

/-- The value of what a node stands for is kept. -/
def Session.Knows (s : Session) (r : Resolution) (v : Option Value) : Prop :=
  match r with
  | .value t => s.values.lookup t = some v
  | .extract base keys => ∃ u, s.values.lookup base = some u ∧ readFrom keys u = .ok v

lemma Session.Knows.grows {r : Resolution} (h : s.Knows r v) (hg : Grows s s₁) :
    s₁.Knows r v := by
  cases r with
  | value t => exact hg.values t v h
  | extract base keys =>
    obtain ⟨u, hu, hk⟩ := h
    exact ⟨u, hg.values base u hu, hk⟩

lemma exec_value_layer (w : World) (n : NodeRef) (s : Session) :
    (Eval.value n).exec w s =
      (valueVia (valueWithin Eval.circular (2 * s.workspace.size + 2)) n).exec w s := by
  rw [exec_value]
  rfl

lemma value_cached (hr : (s.scope w).resolve n = .ok (.value t))
    (hl : s.values.lookup t = some v) : (Eval.value n).exec w s = (.ok v, s) := by
  rw [exec_value_layer, valueVia_cached hr hl]

/-- A request that ends with a value leaves it known. -/
lemma knows_of_value {r : Resolution} (hr : (s.scope w).resolve n = .ok r)
    (h : (Eval.value n).exec w s = (.ok v, s₁)) : s₁.Knows r v := by
  rw [exec_value_layer] at h
  cases r with
  | value t => exact lookup_of_valueVia hr h
  | extract base keys =>
    obtain ⟨u, hu, hk⟩ := readFrom_of_valueVia hr h
    obtain ⟨⟨c, hc⟩, -⟩ := Session.resolve_extract hr
    exact ⟨u, lookup_of_valueVia (Session.resolve_call hc) hu, hk⟩

/-- A request for what is known ends with it and changes nothing. -/
lemma value_of_knows {r : Resolution} (hr : (s.scope w).resolve n = .ok r) (h : s.Knows r v) :
    (Eval.value n).exec w s = (.ok v, s) := by
  cases r with
  | value t => exact value_cached hr h
  | extract base keys =>
    obtain ⟨u, hu, hk⟩ := h
    obtain ⟨⟨c, hc⟩, -⟩ := Session.resolve_extract hr
    rw [exec_value_layer]
    exact valueVia_extract_ok hr (valueVia_cached (Session.resolve_call hc) hu) hk

lemma resolve_of_value (h : (Eval.value n).exec w s = (.ok v, s₁)) :
    ∃ r, (s.scope w).resolve n = .ok r := by
  rcases hr : (s.scope w).resolve n with e | r
  · rw [exec_value_layer, valueVia_unresolved hr] at h
    cases (Prod.mk.inj h).1
  · exact ⟨r, rfl⟩

/-! ### A file that goes away -/

namespace Borrowed

/-- An entity that stands for one of another document. -/
def borrower : Document :=
  { path := "a.yaml", imports := [{ path := "b.yaml", entities := ["B"] }], entities := [1]
    nodes := #[{ kind := .reference [{ name := "B" }], parent := some 1 },
      { kind := .entity "A" 0 }] }

/-- An entity that stands for a truth value. -/
def lender : Document :=
  { path := "b.yaml", imports := [], entities := [1]
    nodes := #[{ kind := .literal (.bool true), parent := some 1 }, { kind := .entity "B" 0 }] }

/-- A world with the given entries of the current directory. -/
def world (entries : List (Files.Place × Files.Entry)) : World :=
  { disk := { current := [], entries }, time := default, entropy := 0 }

/-- The world that has the file of the lender. -/
def present : World := world [(["b.yaml"], .file .empty)]

/-- The world that has it no more. -/
def absent : World := world []

/-- An engine for the two documents. -/
def session : Session :=
  .start (.ofDocuments present.disk [borrower, lender]) CallKind.all {} present

lemma resolve_present : (session.scope present).resolve ⟨0, 1⟩ = .ok (.value ⟨1, 0⟩) :=
  ok_of_toOption (by decide)

lemma resolve_absent : ∃ e, (session.scope absent).resolve ⟨0, 1⟩ = .error e :=
  error_of_toOption (by decide)

lemma resolve_lender : (session.scope absent).resolve ⟨1, 1⟩ = .ok (.value ⟨1, 0⟩) :=
  ok_of_toOption (by decide)

/-- The session after the value of the borrower. -/
def after : Session := ((session.enter ⟨1, 0⟩).leave ⟨1, 0⟩).keep ⟨1, 0⟩ (some (.bool true))

lemma exec_present :
    (Eval.value ⟨0, 1⟩).exec present session = (.ok (some (.bool true)), after) := by
  rw [exec_value_layer, valueVia_own resolve_present rfl (by decide)]
  rfl

end Borrowed

/-! ### A row -/

/-- **One value in a row.** Once a request for a node has ended with a value, every later request
of the row for a node that stands for the same ends with that value and leaves the session as it
is, whatever was asked in between, in whatever worlds and with whatever end. Where names were read
from the value of a call, that value is the one they were read from. Only another disk can make
nodes stand for something else. -/
theorem value_stays_in_row (hv : (Eval.value n).exec w s = (.ok v, s₁)) (hrow : Row s₁ s₂)
    (w' : World) :
    (∀ m, (s₂.scope w').resolve m = (s.scope w).resolve n →
        (Eval.value m).exec w' s₂ = (.ok v, s₂)) ∧
      (∀ base keys, (s.scope w).resolve n = .ok (.extract base keys) →
        ∃ u, (Eval.value base).exec w' s₂ = (.ok u, s₂) ∧ readFrom keys u = .ok v) ∧
      (w'.disk = w.disk → ∀ m, (s₂.scope w').resolve m = (s.scope w).resolve m) := by
  -- what the first request leaves known grows through the row
  obtain ⟨r, hr⟩ := resolve_of_value hv
  have hg : Grows s s₂ := by
    have h := grows_value w n s
    rw [hv] at h
    exact h.trans hrow.grows
  have hk : s₂.Knows r v := (knows_of_value hr hv).grows hrow.grows
  refine ⟨fun m hm => value_of_knows (hm.trans hr) hk, fun base keys hx => ?_, fun hd m => ?_⟩
  · obtain rfl : r = .extract base keys := Except.ok.inj (hr.symm.trans hx)
    obtain ⟨u, hu, hu'⟩ := hk
    obtain ⟨⟨c, hc⟩, -⟩ := Session.resolve_extract hx
    exact ⟨u, value_cached (Session.resolve_call (by rw [hg.workspace]; exact hc)) hu, hu'⟩
  · rw [← hg.scope w]
    simp only [Session.scope, Setting.scope, Session.setting, hd]

/-- The entity that lends a value has it for the row, also when its file is gone and the borrower
has failed for that. -/
theorem value_stays_for_lender :
    let s := ((Request.value ⟨0, 1⟩).exec Borrowed.absent Borrowed.after).2
    (Eval.value ⟨1, 1⟩).exec Borrowed.absent s = (.ok (some (.bool true)), s) := by
  have hrow : Row Borrowed.after ((Request.value ⟨0, 1⟩).exec Borrowed.absent Borrowed.after).2 :=
    .step (.refl _) _ rfl _
  refine (value_stays_in_row Borrowed.exec_present hrow Borrowed.absent).1 _ ?_
  rw [hrow.grows.scope]
  exact Borrowed.resolve_lender.trans Borrowed.resolve_present.symm

/-- When the file of the lender is gone, a second request in the row fails for the borrower. -/
theorem value_goes_with_file :
    Reachable Borrowed.session ∧
      (Eval.value ⟨0, 1⟩).exec Borrowed.present Borrowed.session =
        (.ok (some (.bool true)), Borrowed.after) ∧
      ∃ e, (Eval.value ⟨0, 1⟩).exec Borrowed.absent Borrowed.after =
        (.error (.error e), Borrowed.after) := by
  obtain ⟨e, he⟩ := Borrowed.resolve_absent
  have he' : (Borrowed.after.scope Borrowed.absent).resolve ⟨0, 1⟩ = .error e := he
  refine ⟨.start _ _ _ _, Borrowed.exec_present, e, ?_⟩
  rw [exec_value_layer, valueVia_unresolved he']

end TestData.Engine
