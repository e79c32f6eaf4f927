import TestData.Proofs.Evaluation.Settled
import TestData.Proofs.Session.Run

/-!
Sequences over whole runs.

A node with a sequence is at some number when a row begins. The first request for the node in a
row gives that number and moves the sequence on; every further request in the row gives the same
number; and nothing else touches it. So the rows that ask for the node count it up.
-/

namespace TestData.Engine

open Schema

/-- The number of a sequence after some steps. It stays at the greatest number. -/
def sequenceAt (first : Int) (k : Nat) : Int := min (first + k) Decimal.greatestInteger

lemma sequenceAt_zero {first : Int} (h : first ≤ Decimal.greatestInteger) :
    sequenceAt first 0 = first := by
  unfold sequenceAt
  omega

lemma clamp_sequenceAt {first : Int} (h : Decimal.leastInteger ≤ first) (k : Nat) :
    Decimal.clampInteger (sequenceAt first k + 1) = sequenceAt first (k + 1) := by
  unfold Decimal.clampInteger sequenceAt Decimal.greatestInteger
  unfold Decimal.leastInteger at *
  omega

/-! ### The state of a sequence -/

section

variable (t : NodeRef) (first : Int)

/-- The sequence of a node has made some steps. -/
def Session.StandsAt (k : Nat) (s : Session) : Prop :=
  s.generators.lookup t = if k = 0 then none else some (.sequence (sequenceAt first k))

/-- The node has not been asked for in the row. -/
def Session.Fresh (k : Nat) (s : Session) : Prop :=
  s.values.lookup t = none ∧ s.StandsAt t first k

/-- The node has been asked for in the row. -/
def Session.Drawn (k : Nat) (s : Session) : Prop :=
  s.values.lookup t = some (some (.int (sequenceAt first k))) ∧ s.StandsAt t first (k + 1)

/-- A sequence makes its step of the row or makes none. -/
structure Stepped (k : Nat) (s s' : Session) : Prop where
  fresh : s.Fresh t first k → s'.Fresh t first k ∨ s'.Drawn t first k
  drawn : s.Drawn t first k → s'.Drawn t first k

end

variable {t n : NodeRef} {first : Int} {k : Nat} {s s' : Session} {w : World}

namespace Untouched

lemma fresh (h : Untouched t s s') (hs : s.Fresh t first k) : s'.Fresh t first k :=
  ⟨h.values.trans hs.1, h.generators.trans hs.2⟩

lemma drawn (h : Untouched t s s') (hs : s.Drawn t first k) : s'.Drawn t first k :=
  ⟨h.values.trans hs.1, h.generators.trans hs.2⟩

lemma state {asked : Bool} (h : Untouched t s s')
    (hs : if asked then s.Drawn t first k else s.Fresh t first k) :
    if asked then s'.Drawn t first k else s'.Fresh t first k := by
  cases asked with
  | true => exact h.drawn hs
  | false => exact h.fresh hs

lemma stepped (h : Untouched t s s') : Stepped t first k s s' :=
  ⟨fun hs => .inl (h.fresh hs), h.drawn⟩

end Untouched

namespace Stepped

lemma passive : Passive (Stepped t first k) where
  refl s := (Untouched.passive.refl s).stepped
  trans h h' := ⟨fun hs => (h.fresh hs).elim h'.fresh fun hd => .inr (h'.drawn hd),
    fun hs => h'.drawn (h.drawn hs)⟩
  tables s tables r := (Untouched.passive.tables s tables r).stepped
  source s src := (Untouched.passive.source s src).stepped

lemma indifferent (h : n ≠ t) : Indifferent (Stepped t first k) n where
  without s := ((Untouched.indifferent h).without s).stepped
  insert s g := ((Untouched.indifferent h).insert s g).stepped
  enter s := ((Untouched.indifferent h).enter s).stepped
  leave s := ((Untouched.indifferent h).leave s).stepped
  keep s v := ((Untouched.indifferent h).keep s v).stepped

end Stepped

/-! ### The step of a sequence -/

section

variable {value : NodeRef → Eval (Option Value)}
  (hk : s.workspace.kind t = .call (.sequence first)) (hf : CallKind.sequence ∈ s.functions)
  (hle : first ≤ Decimal.greatestInteger)

include hf hle

lemma generatorOf_sequence (h : s.StandsAt t first k) :
    (generatorOf value t (.sequence first)).exec w s =
      (.ok (.sequence (sequenceAt first k)), s) := by
  unfold Session.StandsAt at h
  split_ifs at h with hzero
  · have hf' : (Call.sequence first).kind ∈ s.functions := hf
    rw [generatorOf_new h hf', hzero, sequenceAt_zero hle]
    rfl
  · exact generatorOf_kept h

include hk

lemma exec_ownValue_sequence (h : s.StandsAt t first k) :
    (ownValue value t).exec w s =
      (.ok (some (.int (sequenceAt first k))),
        (s.withoutGenerator t).withGenerator t
          (.sequence (Decimal.clampInteger (sequenceAt first k + 1)))) := by
  rw [exec_ownValue_call hk, exec_callValue, generatorOf_sequence hf hle h]
  rfl

/-- A sequence asks for nothing. -/
lemma ownVisits_sequence (h : s.StandsAt t first k) : ownVisits value w t s = [] := by
  rw [ownVisits_call hk, planVisits, generatorOf_sequence hf hle h]
  unfold creationVisits
  split <;> rfl

end

/-- What is known of a session in which the requests for a sequence are counted. -/
structure Session.Tracks (t : NodeRef) (first : Int) (k : Nat) (s : Session) : Prop where
  guarded : s.Guarded
  kind : s.workspace.kind t = .call (.sequence first)
  function : CallKind.sequence ∈ s.functions
  idle : t ∉ s.active
  state : s.Fresh t first k ∨ s.Drawn t first k

section

variable (hge : Decimal.leastInteger ≤ first) (hle : first ≤ Decimal.greatestInteger)

include hge hle

/-- The first request of the row. -/
lemma value_of_fresh (hs : s.Tracks t first k) (h : s.Fresh t first k)
    (hr : (s.scope w).resolve n = .ok (.value t)) :
    ((Eval.value n).exec w s).1 = .ok (some (.int (sequenceAt first k))) ∧
      ((Eval.value n).exec w s).2.Drawn t first k := by
  have ho : (ownValue Eval.value t).exec w (s.enter t) = _ :=
    exec_ownValue_sequence hs.kind hs.function hle h.2
  rw [clamp_sequenceAt hge] at ho
  rw [exec_value_eq_valueVia hs.guarded, valueVia_own hr h.1 hs.idle, ho]
  refine ⟨rfl, by simp, ?_⟩
  show (((s.enter t).withoutGenerator t).withGenerator t _).generators.lookup t = _
  simp

omit hge hle in
/-- A later request of the row. -/
lemma value_of_drawn (hg : s.Guarded) (h : s.Drawn t first k)
    (hr : (s.scope w).resolve n = .ok (.value t)) :
    (Eval.value n).exec w s = (.ok (some (.int (sequenceAt first k))), s) := by
  rw [exec_value_eq_valueVia hg, valueVia_cached hr h.1]

lemma value_of_tracks (hs : s.Tracks t first k) (hr : (s.scope w).resolve n = .ok (.value t)) :
    ((Eval.value n).exec w s).1 = .ok (some (.int (sequenceAt first k))) ∧
      ((Eval.value n).exec w s).2.Drawn t first k := by
  rcases hs.state with h | h
  · exact value_of_fresh hge hle hs h hr
  · rw [value_of_drawn hs.guarded h hr]
    exact ⟨rfl, h⟩

end

/-! ### A request -/

namespace Visit

variable {a b : Visit}

section

variable (hge : Decimal.leastInteger ≤ first) (hle : first ≤ Decimal.greatestInteger)

include hle

/-- What asks for others is not the sequence. -/
lemma Asks.ne_sequence (h : a.Asks w b) (ha : a.session.Tracks t first k) {u : NodeRef}
    (hr : (a.session.scope w).resolve a.node = .ok (.value u)) : u ≠ t := by
  rintro rfl
  unfold Asks at h
  rcases ha.state with hs | hs
  · have hv : ownVisits Eval.value w u (a.session.enter u) = [] :=
      ownVisits_sequence ha.kind ha.function hle hs.2
    rw [valueVisits_own hr hs.1 ha.idle, hv] at h
    cases h
  · rw [valueVisits_settled hr (.inl (by rw [hs.1]; simp))] at h
    cases h

include hge

/-- A request makes the step of the row or makes none. -/
lemma stepped (ha : a.session.Guarded)
    (hk : a.session.workspace.kind t = .call (.sequence first))
    (hf : CallKind.sequence ∈ a.session.functions) :
    Stepped t first k a.session (a.outcome Eval.value w).2 := by
  induction acc_asks (w := w) ha with
  | intro a _ ih =>
    by_cases hr : (a.session.scope w).resolve a.node = .ok (.value t)
    · unfold outcome
      refine ⟨fun hs => ?_, fun hs => by rwa [value_of_drawn ha hs hr]⟩
      by_cases hact : t ∈ a.session.active
      · rw [exec_value_eq_valueVia ha, valueVia_active hr hs.1 hact]
        exact .inl hs
      · exact .inr (value_of_fresh hge hle ⟨ha, hk, hf, hact, .inl hs⟩ hs hr).2
    · unfold outcome
      rw [exec_value_eq_valueVia ha]
      refine valueVia_rel Stepped.passive (fun u hu => ?_) fun b hb => ?_
      · have hne : u ≠ t := by
          rintro rfl
          exact hr hu
        exact (Stepped.indifferent hne).bracketed Stepped.passive
      · have hab : a.Asks w b := hb
        have hset : b.session.setting w = a.session.setting w := hab.setting
        have hws : b.session.workspace = a.session.workspace := congrArg Setting.workspace hset
        have hfs : b.session.functions = a.session.functions := congrArg Setting.functions hset
        exact ih b hab (hab.need_lt ha).1 (hws ▸ hk) (hfs ▸ hf)

/-- Counting goes on inside a request, and what is counted inside is counted outside. -/
lemma Asks.tracks (h : a.Asks w b) (ha : a.session.Tracks t first k) :
    b.session.Tracks t first k ∧
      Stepped t first k (b.outcome Eval.value w).2 (a.outcome Eval.value w).2 := by
  have hset : ∀ {c}, a.Asks w c → c.session.workspace = a.session.workspace ∧
      c.session.functions = a.session.functions := fun hc =>
    ⟨congrArg Setting.workspace hc.setting, congrArg Setting.functions hc.setting⟩
  have hall : ∀ c ∈ valueVisits Eval.value w a.node a.session,
      Stepped t first k c.session (c.outcome Eval.value w).2 := fun c (hc : a.Asks w c) =>
    stepped hge hle (hc.need_lt ha.guarded).1 ((hset hc).1 ▸ ha.kind) ((hset hc).2 ▸ ha.function)
  obtain ⟨h₁, h₂⟩ := valueVia_rel_visit Stepped.passive
    (fun u hu => Stepped.indifferent (h.ne_sequence hle ha hu)) hall b h
  rw [← exec_value_eq_valueVia ha.guarded] at h₂
  refine ⟨⟨(h.need_lt ha.guarded).1, (hset h).1 ▸ ha.kind, (hset h).2 ▸ ha.function, ?_,
    ha.state.elim h₁.fresh fun hd => .inr (h₁.drawn hd)⟩, h₂⟩
  rcases h.cases with ⟨-, -, hs⟩ | ⟨u, hu, -, -, -, hk⟩
  · rw [hs]
    exact ha.idle
  · rw [hk.active]
    exact fun hm => (List.mem_cons.mp hm).elim (h.ne_sequence hle ha hu).symm ha.idle

lemma Reaches.tracks (h : a.Reaches w b) (ha : a.session.Tracks t first k) :
    b.session.Tracks t first k ∧
      Stepped t first k (b.outcome Eval.value w).2 (a.outcome Eval.value w).2 := by
  induction h using Relation.ReflTransGen.head_induction_on with
  | refl => exact ⟨ha, Stepped.passive.refl _⟩
  | head hac _ ih =>
    obtain ⟨hc, h₁⟩ := hac.tracks hge hle ha
    obtain ⟨hb, h₂⟩ := ih hc
    exact ⟨hb, Stepped.passive.trans h₂ h₁⟩

/-- **The requests of a row** for a sequence end with its number, at any depth, and leave it
drawn. -/
lemma Reaches.sequence (h : a.Reaches w b) (ha : a.session.Tracks t first k)
    (hr : (a.session.scope w).resolve b.node = .ok (.value t)) :
    (b.outcome Eval.value w).1 = .ok (some (.int (sequenceAt first k))) ∧
      (a.outcome Eval.value w).2.Drawn t first k := by
  obtain ⟨hb, hs⟩ := h.tracks hge hle ha
  obtain ⟨hv, hd⟩ := value_of_tracks hge hle hb (by rw [h.scope]; exact hr)
  exact ⟨hv, hs.drawn hd⟩

end

end Visit

/-! ### Runs -/

/-- What is known of a session of a run. -/
structure Session.Counts (t : NodeRef) (first : Int) (rows : Nat) (asked : Bool) (s : Session) :
    Prop where
  active : s.active = []
  function : CallKind.sequence ∈ s.functions
  state : if asked then s.Drawn t first rows else s.Fresh t first rows

namespace Session.Counts

variable {rows : Nat} {asked : Bool}

lemma tracks (h : s.Counts t first rows asked)
    (hk : s.workspace.kind t = .call (.sequence first)) : s.Tracks t first rows where
  guarded := .of_idle h.active
  kind := hk
  function := h.function
  idle := by simp [h.active]
  state := by
    have hs := h.state
    cases asked with
    | true => exact .inr hs
    | false => exact .inl hs

/-- A new row begins with the number after that of the last row that asked. -/
lemma reset (h : s.Counts t first rows asked) :
    s.reset.Counts t first (rows + asked.toNat) false where
  active := rfl
  function := h.function
  state := by
    have hs := h.state
    cases asked with
    | true => exact ⟨rfl, hs.2⟩
    | false => exact ⟨rfl, hs.2⟩

/-- How a request goes on from the row in which it begins. -/
lemma begun (h : s.Counts t first rows asked) (r : Request) :
    (r.begun s).Counts t first (r.rowsBefore rows asked) (asked && !r.newRow) := by
  unfold Request.begun Request.rowsBefore
  rcases r.newRow with _ | _
  · simpa using h
  · simpa using h.reset

/-- The node that a request evaluates finds the sequence counted up to the row of the request. -/
lemma tracks_root {r : Request} {a : Visit} (h : s.Counts t first rows asked)
    (hk : s.workspace.kind t = .call (.sequence first)) (hr : r.ofRun = true)
    (ha : r.root? s = some a) : a.session.Tracks t first (r.rowsBefore rows asked) := by
  rw [Request.session_of_root ha hr]
  exact (h.begun r).tracks (by rw [Request.workspace_begun]; exact hk)

end Session.Counts

section

variable {rows : Nat} {asked now : Bool} (hge : Decimal.leastInteger ≤ first)
  (hle : first ≤ Decimal.greatestInteger)

include hge hle

/-- One request of a run. -/
lemma counts_exec {r : Request} (h : s.Counts t first rows asked) (hr : r.ofRun = true)
    (hk : s.workspace.kind t = .call (.sequence first))
    (hnow : now = true ↔ r.AsksFor w s t) :
    (r.exec w s).2.Counts t first (r.rowsBefore rows asked) (now || (asked && !r.newRow)) := by
  have hb := h.begun r
  have hg := Request.grows_begun hr w s
  refine ⟨hg.active.trans hb.active, hg.functions ▸ hb.function, ?_⟩
  rcases hroot : r.root? s with _ | a
  · have hfalse : now = false := by
      rw [← Bool.not_eq_true, hnow]
      rintro ⟨a, b, ha, -⟩
      cases hroot.symm.trans ha
    rw [Request.exec_snd_of_no_root hroot hr, hfalse, Bool.false_or]
    exact hb.state
  · have htracks := h.tracks_root hk hr hroot
    have hscope : a.session.scope w = s.scope w := Request.scope_root hroot hr
    rw [Request.exec_snd_of_root hroot]
    rcases now with _ | _
    -- nothing in the request is for the sequence
    · have hun : Untouched t a.session (a.outcome Eval.value w).2 := by
        refine Visit.untouched htracks.guarded fun b hab hr => ?_
        rw [hscope] at hr
        exact absurd (hnow.mpr ⟨a, b, hroot, hab, hr⟩) Bool.false_ne_true
      rw [Bool.false_or]
      have hst := hb.state
      rw [← Request.session_of_root hroot hr] at hst
      exact hun.state hst
    · obtain ⟨a', b, ha', hab, hr⟩ := hnow.mp rfl
      obtain rfl : a = a' := Option.some.inj (hroot.symm.trans ha')
      rw [Bool.true_or, if_pos rfl]
      exact (hab.sequence hge hle htracks (by rw [hscope]; exact hr)).2

/-- **What a run has counted** is where the sequence stands. -/
theorem Run.counts (h : Run t s rows asked) (hk : s.workspace.kind t = .call (.sequence first)) :
    s.Counts t first rows asked := by
  induction h with
  | start ws o world => exact ⟨rfl, by simp [Session.start, CallKind.all], rfl, rfl⟩
  | step _ r hr world _ now hnow ih =>
    rw [Request.workspace_exec hr] at hk
    exact counts_exec hge hle (ih hk) hr hk hnow

/-- **The law of sequences.** In a run with all functions, every request for a node with a sequence,
at whatever depth and through whatever reference, ends with the number that is as many steps from
the first as there were rows before that asked for the node; and the generator has made one step
for each row that asked. -/
theorem sequence_counts_rows (h : Run t s rows asked)
    (hk : s.workspace.kind t = .call (.sequence first)) :
    (∀ (r : Request) (w : World) (a b : Visit), r.ofRun = true → r.root? s = some a →
        a.Reaches w b → (s.scope w).resolve b.node = .ok (.value t) →
        (b.outcome Eval.value w).1 =
          .ok (some (.int (min (first + r.rowsBefore rows asked) Decimal.greatestInteger)))) ∧
      s.generators.lookup t =
        if rows + asked.toNat = 0 then none
        else some (.sequence (min (first + (rows + asked.toNat : Nat))
          Decimal.greatestInteger)) := by
  have hc := h.counts hge hle hk
  refine ⟨fun r w a b hr ha hab hres => ?_, ?_⟩
  · have hres' : (a.session.scope w).resolve b.node = .ok (.value t) := by
      rw [Request.scope_root ha hr]
      exact hres
    exact (hab.sequence hge hle (hc.tracks_root hk hr ha) hres').1
  · have hst := hc.state
    cases asked with
    | true => exact hst.2
    | false => exact hst.2

end

/-! ### Two rows -/

namespace Counting

/-- A world without files. -/
def world : World := { disk := .ofDirectory [], time := default, entropy := 0 }

/-- A sequence that starts at 5. -/
def document : Document :=
  { path := "a.yaml", imports := [], entities := [1]
    nodes := #[{ kind := .call (.sequence 5), parent := some 1 }, { kind := .entity "A" 0 }] }

/-- An engine for the document. -/
def session : Session := .start (.ofDocuments world.disk [document]) CallKind.all {} world

/-- The session after a row that asks for the sequence. -/
def next : Session := ((Request.value ⟨0, 1⟩).exec world session).2.reset

lemma kind_sequence : session.workspace.kind ⟨0, 0⟩ = .call (.sequence 5) := rfl

lemma resolve_entity : (session.scope world).resolve ⟨0, 1⟩ = .ok (.value ⟨0, 0⟩) := rfl

lemma grows_row : Grows session ((Request.value ⟨0, 1⟩).exec world session).2 :=
  Request.grows_exec rfl

lemma kind_next : next.workspace.kind ⟨0, 0⟩ = .call (.sequence 5) := by
  have hw : next.workspace = session.workspace := grows_row.workspace
  rw [hw, kind_sequence]

lemma resolve_next : (next.scope world).resolve ⟨0, 1⟩ = .ok (.value ⟨0, 0⟩) := by
  have hs : next.scope world = session.scope world := grows_row.scope world
  rw [hs, resolve_entity]

lemma run_next : Run ⟨0, 0⟩ next 1 false := by
  have hstart : Run ⟨0, 0⟩ session 0 false := .start _ _ _
  have htracks : session.Tracks ⟨0, 0⟩ 5 0 :=
    (hstart.counts (by decide) (by decide) kind_sequence).tracks kind_sequence
  have hv := (value_of_tracks (by decide) (by decide) htracks resolve_entity).1
  have hok : ((Request.value ⟨0, 1⟩).exec world session).1 ≠ some .stuck := by
    rw [Request.exec]
    rcases hx : (Eval.value ⟨0, 1⟩).exec world session with ⟨_ | _, _⟩ <;> rw [hx] at hv
    · cases hv
    · simp [ended]
  have hasks : (Request.value ⟨0, 1⟩).AsksFor world session ⟨0, 0⟩ :=
    ⟨_, _, rfl, .refl, resolve_entity⟩
  have hreset : ¬ Request.reset.AsksFor world ((Request.value ⟨0, 1⟩).exec world session).2
      ⟨0, 0⟩ := by
    rintro ⟨a, b, h, -⟩
    cases h
  have hrow := hstart.step (.value ⟨0, 1⟩) rfl world hok true (by simp [hasks])
  exact hrow.step .reset rfl world (by simp [Request.exec]) false (by simp [hreset])

end Counting

/-- A sequence that starts at 5 is at 6 in the second row that asks for it. -/
theorem sequence_counts_second_row :
    ((Eval.value ⟨0, 1⟩).exec Counting.world Counting.next).1 = .ok (some (.int 6)) := by
  obtain ⟨h, -⟩ :=
    sequence_counts_rows (by decide) (by decide) Counting.run_next Counting.kind_next
  have hv := h (.value ⟨0, 1⟩) Counting.world ⟨⟨0, 1⟩, Counting.next⟩ ⟨⟨0, 1⟩, Counting.next⟩ rfl
    rfl .refl Counting.resolve_next
  have hmin : min (5 + ((Request.value ⟨0, 1⟩).rowsBefore 1 false : Int))
      Decimal.greatestInteger = 6 := by decide
  rw [hmin] at hv
  exact hv

end TestData.Engine
