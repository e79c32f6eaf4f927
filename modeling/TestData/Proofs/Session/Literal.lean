import TestData.Proofs.Evaluation.Origin
import TestData.Proofs.Session.Invariant
import TestData.Proofs.Session.Run

/-!
Literals over whole runs.

A literal asks for nothing. So no request can find it being evaluated, no other value ever comes to
be kept for it, and every request for it ends with what it stands for, in whatever row and at
whatever depth.
-/

namespace TestData.Engine

open Schema

variable {t n : NodeRef} {l : Literal} {s s₀ : Session} {w : World}

/-- No other value is kept for a node than that of a literal. -/
def Session.KeepsLiteral (t : NodeRef) (l : Literal) (s : Session) : Prop :=
  ∀ v, s.values.lookup t = some v → v = some (literalValue l)

/-- Every request of a run for a node, at whatever depth and through whatever reference, succeeds
with a value. -/
def Session.Answers (s : Session) (t : NodeRef) (v : Value) : Prop :=
  ∀ (w : World) (r : Request) (a b : Visit), r.ofRun = true → r.root? s = some a →
    a.Reaches w b → (s.scope w).resolve b.node = .ok (.value t) →
    (b.outcome Eval.value w).1 = .ok (some v)

lemma Session.Answers.value {v : Value} (h : s.Answers t v)
    (hr : (s.scope w).resolve n = .ok (.value t)) :
    ((Eval.value n).exec w s).1 = .ok (some v) :=
  h w (.value n) ⟨n, s⟩ ⟨n, s⟩ rfl rfl .refl hr

/-! ### The evaluation of a literal -/

section

variable {value : NodeRef → Eval (Option Value)}

lemma exec_ownValue_literal (hk : s.workspace.kind t = .literal l) :
    (ownValue value t).exec w s = (.ok (some (literalValue l)), s) := by
  rw [exec_ownValue_plain (by simp [hk]), hk]
  rfl

/-- A literal asks for nothing. -/
lemma ownVisits_literal (hk : s.workspace.kind t = .literal l) : ownVisits value w t s = [] := by
  rw [ownVisits_plain (by simp [hk]), hk]
  rfl

end

lemma value_of_literal (hs : s.Guarded) (hk : s.workspace.kind t = .literal l)
    (hl : s.KeepsLiteral t l) (hidle : t ∉ s.active)
    (hr : (s.scope w).resolve n = .ok (.value t)) :
    ((Eval.value n).exec w s).1 = .ok (some (literalValue l)) := by
  rw [exec_value_eq_valueVia hs]
  rcases hv : s.values.lookup t with _ | v
  · have hk' : (s.enter t).workspace.kind t = .literal l := hk
    rw [valueVia_own hr hv hidle, exec_ownValue_literal hk']
  · rw [valueVia_cached hr hv, hl v hv]

lemma Untouched.keepsLiteral {s' : Session} (h : Untouched t s s') :
    Preserves (Session.KeepsLiteral t l) s s' :=
  fun hs v hv => hs v (h.values ▸ hv)

lemma passive_keepsLiteral : Passive (Preserves (Session.KeepsLiteral t l)) :=
  passive_preserves (fun {s} tables r => (Untouched.passive.tables s tables r).keepsLiteral)
    fun {s} src => (Untouched.passive.source s src).keepsLiteral

lemma bracketed_keepsLiteral (h : n ≠ t) : Bracketed (Preserves (Session.KeepsLiteral t l)) n :=
  Indifferent.bracketed passive_keepsLiteral
    { without := fun s => ((Untouched.indifferent h).without s).keepsLiteral
      insert := fun s g => ((Untouched.indifferent h).insert s g).keepsLiteral
      enter := fun s => ((Untouched.indifferent h).enter s).keepsLiteral
      leave := fun s => ((Untouched.indifferent h).leave s).keepsLiteral
      keep := fun s v => ((Untouched.indifferent h).keep s v).keepsLiteral }

/-- That no other value is kept outlasts evaluations. -/
lemma lasting_keepsLiteral (hk : s₀.workspace.kind t = .literal l) :
    Lasting w fun s => s.setting = s₀.setting ∧ s.KeepsLiteral t l where
  tables _ _ h := h
  source _ h := h
  own := by
    intro s n hs h hl ha hr hv
    have hset : (s.enter n).setting = s₀.setting := h.1
    have hkeep := grows_ownValue w n (s.enter n)
    refine ⟨(Session.setting_settle _ n _).trans (hkeep.toKeeps.setting_eq h.1), ?_⟩
    by_cases hn : n = t
    · obtain rfl := hn
      rw [exec_ownValue_literal (l := l) (by rw [workspace_of_setting hset, hk])]
      intro v hv
      rw [Session.settle, Session.lookup_keep, if_pos rfl] at hv
      exact (Option.some.inj hv).symm
    · have hbracket := bracketed_keepsLiteral (l := l) hn
      have hown : Preserves (Session.KeepsLiteral t l) (s.enter n)
          ((ownValue Eval.value n).exec w (s.enter n)).2 := by
        refine ownValue_rel passive_keepsLiteral hbracket fun b hb hs => ?_
        have hkeep := ownVisits_keeps (keeps_value w) hb
        exact ((hv b hb).2 ⟨hkeep.setting_eq hset, hs⟩).2
      rcases ((ownValue Eval.value n).exec w (s.enter n)).1 with _ | v
      · exact hbracket.leave hown h.2
      · exact hbracket.keep v hl ha hown h.2

/-- No other value is kept in any session that can be reached. -/
lemma Reachable.keepsLiteral (h : Reachable s) (hk : s.workspace.kind t = .literal l) :
    s.KeepsLiteral t l :=
  h.invariant (P := fun ws => ws.kind t = .literal l)
    (fun hv _ v hl => by rw [hv] at hl; cases hl) (fun _ v hv => by cases hv)
    (fun _ _ hk => lasting_keepsLiteral hk) hk

/-! ### Requests at any depth -/

namespace Visit

variable {a b : Visit}

/-- What asks for others is not the literal. -/
lemma Asks.ne_literal (h : a.Asks w b) (hk : a.session.workspace.kind t = .literal l) {u : NodeRef}
    (hr : (a.session.scope w).resolve a.node = .ok (.value u)) : u ≠ t := by
  rintro rfl
  have hk' : (a.session.enter u).workspace.kind u = .literal l := hk
  unfold Asks at h
  by_cases hsettled : a.session.values.lookup u ≠ none ∨ u ∈ a.session.active
  · rw [valueVisits_settled hr hsettled] at h
    cases h
  · obtain ⟨hl, hact⟩ := not_or.mp hsettled
    rw [valueVisits_own hr (not_ne_iff.mp hl) hact, ownVisits_literal hk'] at h
    cases h

/-- A literal is not being evaluated inside of a request. -/
lemma Reaches.idle_literal (h : a.Reaches w b) (hk : a.session.workspace.kind t = .literal l)
    (ha : t ∉ a.session.active) : t ∉ b.session.active := by
  induction h with
  | refl => exact ha
  | @tail c d hc hd ih =>
    have hc : a.Reaches w c := hc
    rcases hd.cases with ⟨-, -, hs⟩ | ⟨u, hr, -, -, -, hkeep⟩
    · rwa [hs]
    · rw [hkeep.active]
      exact List.not_mem_cons_of_ne_of_not_mem (hd.ne_literal (hc.workspace ▸ hk) hr).symm ih

end Visit

/-- **A literal is what it stands for**: every request for the node in a session that can be
reached, whatever was asked before, succeeds with that value. -/
theorem Reachable.literal (h : Reachable s) (hk : s.workspace.kind t = .literal l) :
    s.Answers t (literalValue l) := by
  intro w r a b hr ha hab ht
  have hbegun : a.session = r.begun s := Request.session_of_root ha hr
  have hidle : a.session.active = [] := by rw [hbegun, r.begun_idle h.idle]
  have hguard : a.session.Guarded := .of_idle hidle
  have hk' : a.session.workspace.kind t = .literal l := by
    rw [hbegun, Request.workspace_begun, hk]
  have hkeeps : a.session.KeepsLiteral t l := by
    rw [hbegun]
    unfold Request.begun
    split_ifs
    · exact fun v hv => by cases hv
    · exact h.keepsLiteral hk
  have hin := (lasting_keepsLiteral hk').reaches (w := w) ⟨fun _ h => h, fun _ h => h⟩ hguard
    ⟨rfl, hkeeps⟩ hab
  refine value_of_literal (hab.guarded hguard) (hab.workspace ▸ hk') hin.2
    (hab.idle_literal hk' (by rw [hidle]; exact List.not_mem_nil)) ?_
  rw [hab.scope, Request.scope_root ha hr]
  exact ht

end TestData.Engine
