import TestData.Proofs.Evaluation.Visit
import TestData.Proofs.Files.Disk

/-!
What an evaluation does to a session, whether it ends with a value or an error.

The nodes that are being evaluated are the same afterwards, a value that is kept stays as it is,
a node that is being evaluated gets no value from inside, and a node that has a generator has one
afterwards.
-/

namespace TestData.Engine

open Schema

/-! ### Looking up -/

namespace Session

variable (s : Session) (n t : NodeRef)

@[simp] lemma lookup_withoutGenerator :
    (s.withoutGenerator n).generators.lookup t =
      if t = n then none else s.generators.lookup t :=
  lookup_filter_ne _ n t

@[simp] lemma lookup_withGenerator (g : Generator) :
    (s.withGenerator n g).generators.lookup t =
      if t = n then some g else s.generators.lookup t := by
  rw [withGenerator, lookup_cons_if, lookup_filter_ne]
  split_ifs <;> rfl

@[simp] lemma lookup_keep (v : Option Value) :
    (s.keep n v).values.lookup t = if t = n then some v else s.values.lookup t :=
  lookup_cons_if n v s.values t

end Session

/-! ### The frame -/

lemma workspace_of_setting {s s' : Session} (h : s'.setting = s.setting) :
    s'.workspace = s.workspace := by
  have w : World := ⟨.ofDirectory [], default, 0⟩
  exact congrArg Setting.workspace (congrFun h w)

/-- What an evaluation keeps in a session. -/
structure Keeps (s s' : Session) : Prop where
  workspace : s'.workspace = s.workspace
  functions : s'.functions = s.functions
  options : s'.options = s.options
  active : s'.active = s.active
  values : ∀ t v, s.values.lookup t = some v → s'.values.lookup t = some v
  held : ∀ t ∈ s.active, s'.values.lookup t = s.values.lookup t

namespace Keeps

variable {s s' s₁ s₂ s₃ : Session} {n : NodeRef}

protected lemma refl (s : Session) : Keeps s s :=
  ⟨rfl, rfl, rfl, rfl, fun _ _ h => h, fun _ _ => rfl⟩

protected lemma trans (h : Keeps s₁ s₂) (h' : Keeps s₂ s₃) : Keeps s₁ s₃ where
  workspace := h'.workspace.trans h.workspace
  functions := h'.functions.trans h.functions
  options := h'.options.trans h.options
  active := h'.active.trans h.active
  values t v hv := h'.values t v (h.values t v hv)
  held t ht := (h'.held t (by rwa [h.active])).trans (h.held t ht)

lemma setting (h : Keeps s s') (w : World) : s'.setting w = s.setting w := by
  simp only [Session.setting, h.workspace, h.functions, h.options]

lemma setting_eq {s₀ : Session} (h : Keeps s s') (hs : s.setting = s₀.setting) :
    s'.setting = s₀.setting :=
  funext fun w => (h.setting w).trans (congrFun hs w)

lemma scope (h : Keeps s s') (w : World) : s'.scope w = s.scope w := by
  rw [Session.scope, Session.scope, h.setting]

lemma passive : Passive Keeps where
  refl := Keeps.refl
  trans := Keeps.trans
  tables _ _ _ := ⟨rfl, rfl, rfl, rfl, fun _ _ h => h, fun _ _ => rfl⟩
  source _ _ := ⟨rfl, rfl, rfl, rfl, fun _ _ h => h, fun _ _ => rfl⟩

lemma without (s : Session) (n : NodeRef) : Keeps s (s.withoutGenerator n) :=
  ⟨rfl, rfl, rfl, rfl, fun _ _ h => h, fun _ _ => rfl⟩

lemma insert (s : Session) (n : NodeRef) (g : Generator) : Keeps s (s.withGenerator n g) :=
  ⟨rfl, rfl, rfl, rfl, fun _ _ h => h, fun _ _ => rfl⟩

lemma leave (h : Keeps (s.enter n) s') : Keeps s (s'.leave n) where
  workspace := h.workspace
  functions := h.functions
  options := h.options
  active := by
    have : s'.active = n :: s.active := h.active
    simp [Session.leave, this]
  values := h.values
  held t ht := h.held t (List.mem_cons_of_mem n ht)

/-- A value that is new is that of no other node and of none that is being evaluated. -/
lemma keep (v : Option Value) (hn : s.values.lookup n = none) (ha : n ∉ s.active)
    (h : Keeps (s.enter n) s') : Keeps s ((s'.leave n).keep n v) where
  workspace := h.workspace
  functions := h.functions
  options := h.options
  active := h.leave.active
  values t u ht := by
    have hne : t ≠ n := by rintro rfl; rw [hn] at ht; cases ht
    simpa [hne] using h.leave.values t u ht
  held t ht := by
    have hne : t ≠ n := by rintro rfl; exact ha ht
    simpa [hne] using h.leave.held t ht

end Keeps

/-- What an evaluation does to a session: of the generators it keeps that they are there. -/
structure Grows (s s' : Session) : Prop extends Keeps s s' where
  generators : ∀ t, s.generators.lookup t ≠ none → s'.generators.lookup t ≠ none

namespace Grows

variable {s s' s₁ s₂ s₃ : Session} {n : NodeRef}

protected lemma refl (s : Session) : Grows s s := ⟨.refl s, fun _ h => h⟩

protected lemma trans (h : Grows s₁ s₂) (h' : Grows s₂ s₃) : Grows s₁ s₃ :=
  ⟨h.toKeeps.trans h'.toKeeps, fun t ht => h'.generators t (h.generators t ht)⟩

lemma passive : Passive Grows where
  refl := Grows.refl
  trans := Grows.trans
  tables s t r := ⟨Keeps.passive.tables s t r, fun _ h => h⟩
  source s src := ⟨Keeps.passive.source s src, fun _ h => h⟩

lemma out (g : Generator) (h : Grows (s.withoutGenerator n) s') :
    Grows s (s'.withGenerator n g) where
  toKeeps := (Keeps.without s n).trans (h.toKeeps.trans (.insert s' n g))
  generators t ht := by
    by_cases hn : t = n
    · simp [hn]
    · have := h.generators t (by simpa [hn] using ht)
      simpa [hn] using this

lemma bracketed (n : NodeRef) : Bracketed Grows n where
  out := out
  leave h := ⟨h.toKeeps.leave, h.generators⟩
  keep v hn ha h := ⟨h.toKeeps.keep v hn ha, h.generators⟩

end Grows

/-- **The frame of an evaluation**, at any depth and whatever its outcome. -/
theorem grows_valueWithin {beyond : NodeRef → Eval (Option Value)} {w : World}
    (hb : ∀ n s, Grows s ((beyond n).exec w s).2) (fuel : Nat) (n : NodeRef) (s : Session) :
    Grows s ((valueWithin beyond fuel n).exec w s).2 :=
  valueWithin_rel Grows.passive Grows.bracketed hb fuel n s

lemma exec_circular (w : World) (n : NodeRef) (s : Session) :
    (Eval.circular n).exec w s = (.error (.error (.circular (s.location n))), s) := rfl

lemma exec_value (w : World) (n : NodeRef) (s : Session) :
    (Eval.value n).exec w s = (valueWithin Eval.circular s.fuel n).exec w s := by
  unfold Eval.value
  rw [Eval.exec_bind, Eval.exec_get]

lemma grows_value (w : World) (n : NodeRef) (s : Session) :
    Grows s ((Eval.value n).exec w s).2 := by
  rw [exec_value]
  exact grows_valueWithin (fun n s => by rw [exec_circular]; exact Grows.refl s) _ n s

lemma keeps_table (w : World) (n : NodeRef) (source : TableSource) (s : Session) :
    Keeps s ((Eval.table n source).exec w s).2 := by
  obtain ⟨t, r, ht⟩ := Eval.exec_table w s n source
  rw [ht]
  exact Keeps.passive.tables s t r

lemma keeps_value (w : World) (n : NodeRef) (s : Session) :
    Keeps s ((Eval.value n).exec w s).2 :=
  (grows_value w n s).toKeeps

lemma keeps_run {α : Type} (w : World) (x : Script α) (s : Session) :
    Keeps s ((x.run Eval.value).exec w s).2 :=
  Script.run_rel Keeps.passive x s fun b _ => keeps_value w b.node b.session

lemma keeps_generatorOf (w : World) (n : NodeRef) (c : Call) (s : Session) :
    Keeps s ((generatorOf Eval.value n c).exec w s).2 :=
  generatorOf_rel Keeps.passive fun b _ => keeps_value w b.node b.session

lemma grows_ownValue (w : World) (n : NodeRef) (s : Session) :
    Grows s ((ownValue Eval.value n).exec w s).2 :=
  ownValue_rel Grows.passive (Grows.bracketed n) fun b _ => grows_value w b.node b.session

end TestData.Engine
