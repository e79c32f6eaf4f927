import TestData.Proofs.Evaluation.Frame
import TestData.Proofs.Resolution.Chain

/-!
How deep evaluations are nested.

The nodes that are being evaluated are different nodes of the workspace, and every second nesting
of requests adds one. So a request needs no more fuel than the workspace has nodes left, twice;
the fuel of `Eval.value` is enough, and requests stop asking.
-/

namespace TestData.Schema.Workspace

/-- The nodes of all documents. -/
def refs (w : Workspace) : List NodeRef :=
  w.documents.toList.zipIdx.flatMap fun (d, i) => (List.range d.nodes.size).map (NodeRef.mk i)

variable {w : Workspace}

lemma length_refs : w.refs.length = w.size := by
  have h : ∀ (l : List Document) (k m : Nat),
      ((l.zipIdx k).flatMap fun (d, i) => (List.range d.nodes.size).map (NodeRef.mk i)).length + m =
        l.foldl (fun n d => n + d.nodes.size) m := by
    intro l
    induction l with
    | nil => intro k m; simp
    | cons d l ih =>
      intro k m
      rw [List.foldl_cons, ← ih (k + 1)]
      simp only [List.zipIdx_cons, List.flatMap_cons, List.length_append, List.length_map,
        List.length_range]
      omega
  have := h w.documents.toList 0 0
  rw [size, ← Array.foldl_toList, ← this]
  rfl

/-- What is no node of a document is null. -/
lemma kind_of_not_mem_refs {t : NodeRef} (h : t ∉ w.refs) : w.kind t = .literal .null := by
  unfold kind node document Document.node
  rcases hd : w.documents[t.document]? with _ | d
  · rfl
  · rcases hn : d.nodes[t.node]? with _ | nd
    · simp only [Option.getD_some, hn]
      rfl
    · refine absurd ?_ h
      obtain ⟨hlt, -⟩ := Array.getElem?_eq_some_iff.mp hn
      refine List.mem_flatMap.mpr ⟨(d, t.document), ?_, List.mem_map.mpr ⟨t.node, ?_, rfl⟩⟩
      · rw [List.mem_zipIdx_iff_getElem?]
        simpa using hd
      · simpa using hlt

end TestData.Schema.Workspace

namespace TestData.Engine

open Schema

/-! ### The nodes that are being evaluated -/

/-- The nodes that are being evaluated are different nodes of the workspace. -/
structure Session.Guarded (s : Session) : Prop where
  nodup : s.active.Nodup
  known : ∀ t ∈ s.active, t ∈ s.workspace.refs

namespace Session.Guarded

variable {s s' : Session} {t : NodeRef}

lemma of_idle (h : s.active = []) : s.Guarded := ⟨by simp [h], by simp [h]⟩

lemma length_le (h : s.Guarded) : s.active.length ≤ s.workspace.size := by
  rw [← Workspace.length_refs]
  exact h.nodup.length_le_of_subset h.known

lemma enter (h : s.Guarded) (ht : t ∉ s.active) (hw : t ∈ s.workspace.refs) :
    (s.enter t).Guarded where
  nodup := List.nodup_cons.mpr ⟨ht, h.nodup⟩
  known u hu := by
    rcases List.mem_cons.mp hu with rfl | hu
    · exact hw
    · exact h.known u hu

lemma keeps (h : s.Guarded) (hk : Keeps s s') : s'.Guarded where
  nodup := hk.active ▸ h.nodup
  known u hu := by
    rw [hk.workspace]
    exact h.known u (hk.active ▸ hu)

end Session.Guarded

/-- Fuel for a request. -/
def Session.need (s : Session) (n : NodeRef) : Nat :=
  2 * (s.workspace.size - s.active.length) +
    match s.workspace.kind n with
    | .call _ => 1
    | _ => 2

namespace Session

variable {s : Session} {n : NodeRef}

lemma need_le (s : Session) (n : NodeRef) :
    s.need n ≤ 2 * (s.workspace.size - s.active.length) + 2 := by
  unfold need
  split <;> omega

lemma le_need (s : Session) (n : NodeRef) :
    2 * (s.workspace.size - s.active.length) + 1 ≤ s.need n := by
  unfold need
  split <;> omega

lemma need_of_call {c : Call} (hk : s.workspace.kind n = .call c) :
    s.need n = 2 * (s.workspace.size - s.active.length) + 1 := by
  simp only [need, hk]

lemma need_of_not_call (hk : ∀ c, s.workspace.kind n ≠ .call c) :
    s.need n = 2 * (s.workspace.size - s.active.length) + 2 := by
  unfold need
  split
  · exact absurd ‹_› (hk _)
  · rfl

lemma need_le_fuel (s : Session) (n : NodeRef) : s.need n + 1 ≤ s.fuel := by
  have := s.need_le n
  unfold fuel
  omega

end Session

/-! ### Requests inside requests -/

variable {value : NodeRef → Eval (Option Value)} {w : World} {s : Session} {n : NodeRef}

lemma Session.resolve_call {c : Call} (hk : s.workspace.kind n = .call c) :
    (s.scope w).resolve n = .ok (.value n) :=
  Scope.resolve_call (s := s.scope w) hk

/-- Names are read from a call, and the node that reads them is none. -/
lemma Session.resolve_extract {base : NodeRef} {keys : List String}
    (hr : (s.scope w).resolve n = .ok (.extract base keys)) :
    (∃ c, s.workspace.kind base = .call c) ∧ ∀ c, s.workspace.kind n ≠ .call c := by
  have hf : (s.scope w).Final (.extract base keys) := Scope.resolve_final hr
  refine ⟨hf.1, fun c hc => ?_⟩
  rw [resolve_call hc] at hr
  cases hr

lemma ownVisits_keeps (hv : ∀ n s, Keeps s ((value n).exec w s).2) {b : Visit}
    (hb : b ∈ ownVisits value w n s) : Keeps s b.session :=
  (ownValue_rel_visit Keeps.passive (fun s => .without s n) (fun s => .insert s n)
    (fun b _ => hv b.node b.session) b hb).1

lemma mem_refs_of_ownVisits {b : Visit} (hb : b ∈ ownVisits value w n s) :
    n ∈ s.workspace.refs := by
  by_contra h
  have hk := Workspace.kind_of_not_mem_refs h
  rw [ownVisits, hk] at hb
  cases hb

/-- A request is made for the call that names are read from, or inside the evaluation of a node
that is not being evaluated. -/
lemma valueVisits_cases (hv : ∀ n s, Keeps s ((value n).exec w s).2) {b : Visit}
    (hb : b ∈ valueVisits value w n s) :
    (∃ keys, (s.scope w).resolve n = .ok (.extract b.node keys) ∧ b.session = s) ∨
      ∃ t, (s.scope w).resolve n = .ok (.value t) ∧ s.values.lookup t = none ∧ t ∉ s.active ∧
        t ∈ s.workspace.refs ∧ Keeps (s.enter t) b.session := by
  rcases hr : (s.scope w).resolve n with e | ⟨t⟩ | ⟨base, keys⟩
  · simp [valueVisits_unresolved hr] at hb
  · by_cases hx : s.values.lookup t ≠ none ∨ t ∈ s.active
    · simp [valueVisits_settled hr hx] at hb
    · obtain ⟨hl, ha⟩ := not_or.mp hx
      rw [not_not] at hl
      rw [valueVisits_own hr hl ha] at hb
      have hw : t ∈ (s.enter t).workspace.refs := mem_refs_of_ownVisits hb
      exact .inr ⟨t, rfl, hl, ha, hw, ownVisits_keeps hv hb⟩
  · obtain rfl : b = ⟨base, s⟩ := by simpa [valueVisits_extract hr] using hb
    exact .inl ⟨keys, rfl, rfl⟩

/-- A request inside a request needs less fuel. -/
lemma need_lt_of_valueVisits (hv : ∀ n s, Keeps s ((value n).exec w s).2) (hs : s.Guarded)
    {b : Visit} (hb : b ∈ valueVisits value w n s) :
    b.session.Guarded ∧ b.session.need b.node < s.need n := by
  rcases valueVisits_cases hv hb with ⟨keys, hr, rfl⟩ | ⟨t, -, -, ha, hw, hk⟩
  -- reading names evaluates nothing new, but it is done once: what is read from is a call
  · obtain ⟨⟨c, hc⟩, hn⟩ := Session.resolve_extract hr
    refine ⟨hs, ?_⟩
    rw [Session.need_of_call hc, Session.need_of_not_call hn]
    omega
  · have hg := hs.enter ha hw
    refine ⟨hg.keeps hk, ?_⟩
    have hle := (hg.keeps hk).length_le
    have hlen : b.session.active.length = s.active.length + 1 := by rw [hk.active]; rfl
    have h1 := b.session.need_le b.node
    have h2 := s.le_need n
    rw [hk.workspace] at h1 hle
    change _ ≤ s.workspace.size at hle
    change _ ≤ 2 * (s.workspace.size - _) + 2 at h1
    omega

/-! ### Fuel -/

lemma keeps_valueWithin (fuel : Nat) (n : NodeRef) (s : Session) :
    Keeps s ((valueWithin Eval.circular fuel n).exec w s).2 :=
  (grows_valueWithin (fun n s => by rw [exec_circular]; exact .refl s) fuel n s).toKeeps

/-- **The fuel of an evaluation does not run out**: with as much as is needed or more, what is
said to be beyond does not matter. -/
theorem valueWithin_fuel {beyond : NodeRef → Eval (Option Value)} {fuel fuel' : Nat}
    (hs : s.Guarded) (h : s.need n ≤ fuel) (h' : s.need n ≤ fuel') :
    (valueWithin beyond fuel n).exec w s = (valueWithin Eval.circular fuel' n).exec w s := by
  induction fuel generalizing fuel' n s with
  | zero => have := s.le_need n; omega
  | succ fuel ih =>
    obtain _ | fuel' := fuel'
    · have := s.le_need n; omega
    refine (valueVia_congr fun b hb => ?_).1
    obtain ⟨hg, hlt⟩ := need_lt_of_valueVisits (keeps_valueWithin fuel') hs hb
    exact ih hg (by omega) (by omega)

lemma exec_value_eq {beyond : NodeRef → Eval (Option Value)} {fuel : Nat} (hs : s.Guarded)
    (h : s.need n ≤ fuel) :
    (valueWithin beyond fuel n).exec w s = (Eval.value n).exec w s := by
  rw [exec_value]
  exact valueWithin_fuel hs h (by have := s.need_le_fuel n; omega)

lemma value_eq_valueVia (hs : s.Guarded) :
    (Eval.value n).exec w s = (valueVia Eval.value n).exec w s ∧
      valueVisits Eval.value w n s =
        valueVisits (valueWithin Eval.circular (2 * s.workspace.size + 2)) w n s := by
  have hc : ∀ b ∈ valueVisits (valueWithin Eval.circular (2 * s.workspace.size + 2)) w n s,
      b.outcome Eval.value w =
        b.outcome (valueWithin Eval.circular (2 * s.workspace.size + 2)) w := by
    intro b hb
    obtain ⟨hg, hlt⟩ := need_lt_of_valueVisits (keeps_valueWithin _) hs hb
    have := s.need_le n
    exact (exec_value_eq hg (by omega)).symm
  obtain ⟨h1, h2⟩ := valueVia_congr hc
  rw [exec_value]
  exact ⟨h1.symm, h2⟩

/-- The value of a node is what one layer makes of the values of others. -/
theorem exec_value_eq_valueVia (hs : s.Guarded) :
    (Eval.value n).exec w s = (valueVia Eval.value n).exec w s :=
  (value_eq_valueVia hs).1

/-! ### Requests -/

namespace Visit

/-- A request makes another one. -/
def Asks (w : World) (a b : Visit) : Prop := b ∈ valueVisits Eval.value w a.node a.session

variable {a b : Visit}

lemma Asks.need_lt (ha : a.session.Guarded) (hb : a.Asks w b) :
    b.session.Guarded ∧ b.session.need b.node < a.session.need a.node :=
  need_lt_of_valueVisits (keeps_value w) ha hb

/-- **Requests stop asking**: there is no endless sequence of requests, each inside the one
before. -/
theorem acc_asks (ha : a.session.Guarded) : Acc (fun b a : Visit => a.Asks w b) a := by
  induction hm : a.session.need a.node using Nat.strongRecOn generalizing a with
  | _ m ih =>
    subst hm
    refine ⟨_, fun b hb => ?_⟩
    obtain ⟨hg, hlt⟩ := hb.need_lt ha
    exact ih _ hlt hg rfl

end Visit

end TestData.Engine
