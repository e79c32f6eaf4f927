import TestData.Proofs.Session.Steady

/-!
Maps follow the choices that they are over.

A map looks up which index its choice has drawn. Once the choice has a value in a row, its
generator is not stepped again in that row; so every map over it, evaluated before or after it,
gives the target at the index whose node gave the choice its value. The choice of a map is found
when the generator of the map is made, but its source is looked up again for every value: the two
go together as long as the source stands for the same.
-/

namespace TestData.Engine

open Schema

variable {resolve : NodeRef → Except EvalError Resolution} {w : World} {s s₀ s₁ : Session}
  {m n r : NodeRef} {choices targets : List NodeId} {v : Option Value}

/-- A node is a map with targets over a choice, and has been from when its generator was made. -/
structure MapOver (resolve : NodeRef → Except EvalError Resolution) (s : Session) (m r : NodeRef)
    (targets : List NodeId) : Prop where
  call : ∃ source, s.workspace.kind m = .call (.map source targets) ∧
    resolve (m.at source) = .ok (.value r)
  generator : ∀ source selector ts, s.generators.lookup m = some (.map source selector ts) →
    selector = r

/-- A map has the value of its target at an index, or no value if it has no target there. -/
def Replays (w : World) (s : Session) (m : NodeRef) (targets : List NodeId) (i : Nat)
    (v : Option Value) : Prop :=
  match targets[i]? with
  | some t => (Eval.value (m.at t)).exec w s = (.ok v, s)
  | none => v = none

/-! ### Generators of maps -/

/-- The source of a map stands for the choice of its generator. -/
lemma MapOver.aimed (hm : MapOver resolve s m r targets) (hs : s.Fitted) {g : Generator}
    (hg : s.generators.lookup m = some g) : g.Aimed resolve := by
  obtain ⟨source, hk, hsrc⟩ := hm.call
  obtain ⟨c, hk', hfit⟩ := hs m g hg
  obtain rfl := Kind.call.inj (hk.symm.trans hk')
  obtain ⟨selector, rfl⟩ := hfit.map source targets rfl
  intro source' selector' targets' h
  obtain ⟨rfl, rfl, -⟩ := Generator.map.inj h
  rw [hsrc, hm.generator _ _ _ hg]

/-- In a steady row generators stay aimed. -/
lemma SteadyRow.aimed (h : SteadyRow resolve s₀ s) (hs : s₀.active = [])
    (hm : ∀ g, s₀.generators.lookup m = some g → g.Aimed resolve) {g : Generator}
    (hg : s.generators.lookup m = some g) : g.Aimed resolve := by
  have hlast : s.setting = s₀.setting ∧ s.Holds fun n g => n = m → g.Aimed resolve := by
    refine h.keeps hs (I := fun s => s.setting = s₀.setting ∧
      s.Holds fun n g => n = m → g.Aimed resolve) (fun w hw => ?_)
      ⟨rfl, fun n g hg hn => hm g (hn ▸ hg)⟩
    refine lasting_holds (fun n call _ => ?_) fun ha hst hn => (ha hn).step hst
    refine (Generator.aimed_ofCallAs (s₀.setting w) call.kind n call).mono fun g hg _ => ?_
    rw [← hw]
    exact hg
  exact hlast.2 m g hg rfl

/-! ### The index of a choice -/

/-- A choice with a value has drawn an index, and the value is that of the node there. -/
lemma drawn_of_choice (hs : s.Fitted) (ha : s.Accounts resolve)
    (hk : s.workspace.kind r = .call (.choice choices)) {u : Option Value}
    (hu : s.values.lookup r = some u) :
    ∃ i c, choices[i]? = some c ∧ s.selected? r = some i ∧ s.known resolve (r.at c) = some u := by
  obtain ⟨g, hg, hd⟩ := (accounted_call hk).mp (ha r u hu)
  obtain ⟨c, hk', hfit⟩ := hs r g hg
  obtain rfl := Kind.call.inj (hk.symm.trans hk')
  obtain ⟨-, j, rfl⟩ := hfit.choice choices rfl
  obtain ⟨i, n, rfl, hn, hv⟩ := hd.choice _ _ rfl
  rw [List.getElem?_map] at hn
  obtain ⟨c, hc, rfl⟩ := Option.map_eq_some_iff.mp hn
  exact ⟨i, c, hc, by rw [Session.selected?, hg]; rfl, hv⟩

/-- A map with a value has that of its target at the index of its choice, which has a value. -/
lemma drawn_of_map (hs : s.Fitted) (ha : s.Accounts resolve) {source : NodeId}
    (hk : s.workspace.kind m = .call (.map source targets))
    (hsrc : resolve (m.at source) = .ok (.value r))
    (haim : ∀ g, s.generators.lookup m = some g → g.Aimed resolve)
    (hv : s.values.lookup m = some v) :
    (∃ u, s.values.lookup r = some u) ∧ ∀ i, s.selected? r = some i →
      match targets[i]? with
      | some t => s.known resolve (m.at t) = some v
      | none => v = none := by
  obtain ⟨g, hg, hd⟩ := (accounted_call hk).mp (ha m v hv)
  obtain ⟨c, hk', hfit⟩ := hs m g hg
  obtain rfl := Kind.call.inj (hk.symm.trans hk')
  obtain ⟨selector, rfl⟩ := hfit.map source targets rfl
  have hsel : resolve (m.at source) = .ok (.value selector) := haim _ hg _ _ _ rfl
  obtain rfl : r = selector := Resolution.value.inj (Except.ok.inj (hsrc.symm.trans hsel))
  obtain ⟨hu, ht⟩ := hd.map _ _ _ rfl hsrc
  refine ⟨hu, fun i hi => ?_⟩
  rw [hi, Option.bind_some, List.getElem?_map] at ht
  rcases hti : targets[i]? with _ | t <;> rw [hti] at ht <;> exact ht

/-- A map over a choice with its value, in the session of a steady row. -/
lemma SteadyRow.replays (h : SteadyRow resolve s₀ s) (hs : Reachable s₀) (hv₀ : s₀.values = [])
    (hw : (s.scope w).resolve = resolve) (hm : MapOver resolve s₀ m r targets)
    (hv : s.values.lookup m = some v) :
    (∃ u, s.values.lookup r = some u) ∧
      ∀ i, s.selected? r = some i → Replays w s m targets i v := by
  obtain ⟨hsound, ha⟩ := h.accounts hs hv₀
  obtain ⟨source, hk, hsrc⟩ := hm.call
  rw [← workspace_of_setting hsound.1] at hk
  obtain ⟨hu, ht⟩ := drawn_of_map hsound.2 ha hk hsrc
    (fun g hg => h.aimed hs.idle (fun g hg => hm.aimed hs.fitted hg) hg) hv
  refine ⟨hu, fun i hi => ?_⟩
  have hti := ht i hi
  unfold Replays
  rcases htarget : targets[i]? with _ | t <;> rw [htarget] at hti
  · exact hti
  · exact value_of_known (by rw [hw]; exact hti)

/-! ### A file that goes away -/

namespace Misled

/-- A map over what an entity of one of two other documents has under a name. -/
def follower : Document :=
  { path := "main.yaml"
    imports := [{ path := "a.yaml", entities := ["X"] }, { path := "b.yaml", entities := ["X"] }]
    entities := [3]
    nodes := #[{ kind := .reference [{ name := "X" }, { name := "p" }], parent := some 2 },
      { kind := .literal (.string "t"), parent := some 2 },
      { kind := .call (.map 0 [1]), parent := some 3 }, { kind := .entity "M" 2 }] }

/-- A choice without values. -/
def barren : Document :=
  { path := "a.yaml", imports := [], entities := [3]
    nodes := #[{ kind := .call (.choice []), parent := some 1 },
      { kind := .property "p" 0, parent := some 2 }, { kind := .object [1], parent := some 3 },
      { kind := .entity "X" 2 }] }

/-- A choice of one value. -/
def fruitful : Document :=
  { path := "b.yaml", imports := [], entities := [4]
    nodes := #[{ kind := .literal (.string "y"), parent := some 1 },
      { kind := .call (.choice [0]), parent := some 2 },
      { kind := .property "p" 1, parent := some 3 }, { kind := .object [2], parent := some 4 },
      { kind := .entity "X" 3 }] }

/-- An engine for the three documents. -/
def session : Session :=
  .start (.ofDocuments twoFiles.disk [follower, barren, fruitful]) CallKind.all {} twoFiles

/-- The session after a request for the map, which fails as its choice has no values. -/
def failed : Session := ((Request.value ⟨0, 2⟩).exec twoFiles session).2

/-- The session after a second request for the map, when the file of that choice is gone. -/
def replayed : Session := ((Eval.value ⟨0, 2⟩).exec oneFile failed).2

lemma reachable_failed : Reachable failed :=
  .step (.start _ _ _ _) _ _ (ne_stuck_of_isError rfl)

end Misled

/-! ### Maps and choices -/

/-- **Maps follow their choices.** In a row in which nodes stand for the same at every request, let
a request for a map over a choice end with a value. Then there is an index of the choice such that,
from then on in the row, the choice has drawn that index, requests for the choice and for its node
at the index end with one value, and the map has the value of its target at the index, or none if
it has no target there; and the same index holds for every map over the choice, evaluated before or
after. -/
theorem map_follows_choice (h₀ : Reachable s₀) (hv₀ : s₀.values = [])
    (hs : SteadyRow resolve s₀ s) (hr : s₀.workspace.kind r = .call (.choice choices))
    (hm : MapOver resolve s₀ m r targets) (hw : (s.scope w).resolve = resolve)
    (hn : resolve n = .ok (.value m)) (hv : (Eval.value n).exec w s = (.ok v, s₁)) :
    ∃ i c u, choices[i]? = some c ∧ ∀ s₂ w', SteadyRow resolve s₁ s₂ →
      (s₂.scope w').resolve = resolve →
      s₂.selected? r = some i ∧
        (Eval.value r).exec w' s₂ = (.ok u, s₂) ∧ (Eval.value (r.at c)).exec w' s₂ = (.ok u, s₂) ∧
        Replays w' s₂ m targets i v ∧
        ∀ m' targets' n' v' s₃, MapOver resolve s₀ m' r targets' →
          resolve n' = .ok (.value m') → (Eval.value n').exec w' s₂ = (.ok v', s₃) →
          Replays w' s₃ m' targets' i v' := by
  have hs₁ : SteadyRow resolve s₀ s₁ := hs.trans (.value hw hv)
  have hkept : ∀ {k t : NodeRef} {x : Option Value} {w : World} {s s' : Session},
      (s.scope w).resolve = resolve → resolve k = .ok (.value t) →
      (Eval.value k).exec w s = (.ok x, s') → s'.values.lookup t = some x := by
    intro k t x w s s' hw hk hx
    have hknown := known_of_value hx
    rw [hw, knownBy_of_ok hk] at hknown
    exact hknown
  -- the choice has a value and an index when the request for the map ends
  obtain ⟨hsound, ha⟩ := hs₁.accounts h₀ hv₀
  have hw₁ : (s₁.scope w).resolve = resolve := by
    rw [← hw, (SteadyRow.value hw hv).row.grows.scope]
  have hm₁ := hkept hw hn hv
  obtain ⟨⟨u, hu⟩, -⟩ := hs₁.replays h₀ hv₀ hw₁ hm hm₁
  have hr₁ : s₁.workspace.kind r = .call (.choice choices) := by
    rw [workspace_of_setting hsound.1, hr]
  obtain ⟨i, c, hc, hi, hknown⟩ := drawn_of_choice hsound.2 ha hr₁ hu
  refine ⟨i, c, u, hc, fun s₂ w' h₂ hw₂ => ?_⟩
  -- from then on nothing of this changes in the row
  have hidle : s₁.active = [] := hs₁.row.grows.active.trans h₀.idle
  have hset := h₂.settles hidle
  have hi₂ : s₂.selected? r = some i := (hset.selected hu).trans hi
  have hr₂ : s₂.workspace.kind r = .call (.choice choices) := by rw [hset.workspace, hr₁]
  have hs₂ := hs₁.trans h₂
  refine ⟨hi₂, value_cached (Session.resolve_call hr₂) (hset.lookup hu),
    value_of_known (by rw [hw₂]; exact hset.known hknown),
    (hs₂.replays h₀ hv₀ hw₂ hm (hset.lookup hm₁)).2 i hi₂, ?_⟩
  intro m' targets' n' v' s₃ hm' hn' hv'
  have h₃ : SteadyRow resolve s₂ s₃ := .value hw₂ hv'
  have hw₃ : (s₃.scope w').resolve = resolve := by rw [← hw₂, h₃.row.grows.scope]
  have hset₃ := h₃.settles (h₂.row.grows.active.trans hidle)
  have hi₃ : s₃.selected? r = some i := (hset₃.selected (hset.lookup hu)).trans hi₂
  exact ((hs₂.trans h₃).replays h₀ hv₀ hw₃ hm' (hkept hw₂ hn' hv')).2 i hi₃

/-- When the file of a choice that could not be made is gone, the source of a map stands for another
choice, which draws its only index; but the map looks to the choice that it was made for, and has no
value where it has a target. -/
theorem map_misses_new_choice :
    Reachable Misled.failed ∧
      Misled.failed.workspace.kind ⟨0, 2⟩ = .call (.map 0 [1]) ∧
      (Misled.failed.scope oneFile).resolve ⟨0, 0⟩ = .ok (.value ⟨2, 1⟩) ∧
      Misled.failed.workspace.kind ⟨2, 1⟩ = .call (.choice [0]) ∧
      (Eval.value ⟨0, 2⟩).exec oneFile Misled.failed = (.ok none, Misled.replayed) ∧
      Misled.replayed.selected? ⟨2, 1⟩ = some 0 ∧
      (Eval.value ⟨0, 1⟩).exec oneFile Misled.replayed =
        (.ok (some (.string "t")), ((Eval.value ⟨0, 1⟩).exec oneFile Misled.replayed).2) := by
  have hws : Misled.failed.workspace = Misled.session.workspace :=
    (Request.grows_exec rfl : Grows Misled.session Misled.failed).workspace
  have htexts : textOf ((Eval.value ⟨0, 2⟩).exec oneFile Misled.failed).1 = some none ∧
      textOf ((Eval.value ⟨0, 1⟩).exec oneFile Misled.replayed).1 = some (some "t") ∧
      Misled.replayed.selected? ⟨2, 1⟩ = some 0 := by
    decide +kernel
  refine ⟨Misled.reachable_failed, ?_, ok_of_toOption rfl, ?_,
    exec_of_textOf htexts.1, htexts.2.2, exec_of_textOf htexts.2.1⟩
  · rw [hws]
    rfl
  · rw [hws]
    rfl

namespace Followed

/-- An entity with a choice of one value and a map over it. -/
def document : Document :=
  { path := "a.yaml", imports := [], entities := [8]
    nodes := #[{ kind := .literal (.string "y"), parent := some 1 },
      { kind := .call (.choice [0]), parent := some 5 },
      { kind := .reference [{ name := "c" }], parent := some 4 },
      { kind := .literal (.string "t"), parent := some 4 },
      { kind := .call (.map 2 [3]), parent := some 6 },
      { kind := .property "c" 1, parent := some 7 }, { kind := .property "m" 4, parent := some 7 },
      { kind := .object [5, 6], parent := some 8 }, { kind := .entity "M" 7 }] }

/-- A world without files. -/
def world : World := { disk := .ofDirectory [], time := default, entropy := 0 }

/-- An engine for the document. -/
def session : Session := .start (.ofDocuments world.disk [document]) CallKind.all {} world

/-- The session after a request for the map. -/
def mapped : Session := ((Eval.value ⟨0, 6⟩).exec world session).2

lemma mapOver : MapOver (session.scope world).resolve session ⟨0, 4⟩ ⟨0, 1⟩ [3] :=
  ⟨⟨2, rfl, ok_of_toOption rfl⟩, fun _ _ _ h => by cases h⟩

end Followed

/-- A map over a choice of one value is evaluated first: the choice has drawn its only index, and
the map has the value of its only target. -/
theorem map_follows_only_choice :
    Followed.mapped.selected? ⟨0, 1⟩ = some 0 ∧
      (Eval.value ⟨0, 1⟩).exec Followed.world Followed.mapped =
        (Eval.value ⟨0, 0⟩).exec Followed.world Followed.mapped ∧
      (Eval.value ⟨0, 3⟩).exec Followed.world Followed.mapped =
        (.ok (some (.string "t")), Followed.mapped) := by
  have hv : (Eval.value ⟨0, 6⟩).exec Followed.world Followed.session =
      (.ok (some (.string "t")), Followed.mapped) := by
    have htext : textOf ((Eval.value ⟨0, 6⟩).exec Followed.world Followed.session).1 =
        some (some "t") := by decide +kernel
    exact exec_of_textOf htext
  obtain ⟨i, c, u, hc, h⟩ := map_follows_choice (.start _ _ _ _) rfl (.refl Followed.session) rfl
    Followed.mapOver rfl (ok_of_toOption rfl) hv
  obtain ⟨hi, hr, hn, ht, -⟩ := h Followed.mapped Followed.world (.refl _) (by
    rw [(SteadyRow.value rfl hv).row.grows.scope])
  obtain rfl : i = 0 := by
    rcases i with _ | i
    · rfl
    · cases hc
  obtain rfl : c = 0 := (Option.some.inj hc).symm
  exact ⟨hi, hr.trans hn.symm, ht⟩

end TestData.Engine
