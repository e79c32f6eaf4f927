import TestData.Proofs.Output.Call

/-!
Runs that fail.

A run that fails has taken some records before the one that fails or is refused, and it has
written these: what the run for just these records writes, with no part of another record and
without a header where there is no record.
-/

namespace TestData.Output

open Engine

/-- A record fails to generate or is refused, records counting from one. -/
def FailsAt (format : Format) (entity : String) (w : World) (s : Session) (k : Nat)
    (e : WriteError) : Prop :=
  ∃ vs s₁ s₂, vs.length + 1 = k ∧ Yields format entity w s vs s₁ ∧ Stops format entity w s₁ e s₂

/-- What a run that fails has written, if a run that gets its records writes them and a run that
does not writes those before. -/
lemma failed_run {format : Format} {entity : String} {w : World} {s : Session} {α : Type}
    {run : Nat → Except WriteError Metrics × α × Session} (print : List Value → α)
    (bytes : α → Nat)
    (hyields : ∀ vs s₁, Yields format entity w s vs s₁ →
      run vs.length = (.ok { rows := vs.length, bytes := bytes (print vs) }, print vs, s₁))
    (hstops : ∀ vs s₁ e s₂ count, Yields format entity w s vs s₁ → Stops format entity w s₁ e s₂ →
      vs.length < count → run count = (.error e, print vs, s₂))
    {count : Nat} {e : WriteError} (he : (run count).1 = .error e) :
    ∃ k, 1 ≤ k ∧ k ≤ count ∧ FailsAt format entity w s k e ∧
      (run (k - 1)).1 = .ok { rows := k - 1, bytes := bytes (run count).2.1 } ∧
      (run count).2.1 = (run (k - 1)).2.1 ∧ (k = 1 → (run count).2.1 = print []) := by
  rcases yields_or_stops format entity w count s with
    ⟨vs, s', rfl, hv⟩ | ⟨vs, s₁, e', s₂, hn, hv, hs⟩
  · rw [hyields vs s' hv] at he
    cases he
  · rw [hstops vs s₁ e' s₂ count hv hs hn] at he ⊢
    obtain rfl := Except.error.inj he
    refine ⟨vs.length + 1, Nat.succ_pos _, hn, ⟨vs, s₁, s₂, rfl, hv, hs⟩, ?_, ?_, fun hk => ?_⟩
    · rw [Nat.add_sub_cancel, hyields vs s₁ hv]
    · rw [Nat.add_sub_cancel, hyields vs s₁ hv]
    · obtain rfl := List.eq_nil_of_length_eq_zero (Nat.succ.inj hk)
      rfl

/-- **A failed run leaves only whole records.** Where a run of an entity that is there ends with
an error, some record that it was asked for fails or is refused, and the run has written what the
run for the records before writes, which succeeds; if it is the first record, it has written
nothing. This holds for texts, and for files once they are opened. -/
theorem failed_run_leaves_whole_records (style : Style) (entity : String) (count : Nat) (w : World)
    (s : Session) (ho : obstacle? s entity = none) :
    (∀ e, (writeText style entity count w s).1 = .error e →
      ∃ k, 1 ≤ k ∧ k ≤ count ∧ FailsAt style.format entity w s k e ∧
        (writeText style entity (k - 1) w s).1 = .ok
          { rows := k - 1, bytes := (writeText style entity count w s).2.1.utf8ByteSize } ∧
        (writeText style entity count w s).2.1 = (writeText style entity (k - 1) w s).2.1 ∧
        (k = 1 → (writeText style entity count w s).2.1 = "")) ∧
    ∀ path append q d e, w.disk.openFile path append = .ok (q, d) →
      (writeFile style entity count path append w s).1 = .error e →
      ∃ k, 1 ≤ k ∧ k ≤ count ∧ FailsAt style.format entity { w with disk := d } s k e ∧
        (writeFile style entity (k - 1) path append w s).1 = .ok
          { rows := k - 1, bytes := (writeFile style entity count path append w s).2.1.sizeAt q } ∧
        (writeFile style entity count path append w s).2.1 =
          (writeFile style entity (k - 1) path append w s).2.1 ∧
        (k = 1 → (writeFile style entity count path append w s).2.1 = d.append q .empty) := by
  constructor
  · intro e he
    exact failed_run (style.text entity) String.utf8ByteSize
      (fun vs s₁ hv => writeText_of_yields ho hv)
      (fun vs s₁ e s₂ n hv hs hn => writeText_of_stops ho hv hs hn) he
  · intro path append q d e hd he
    exact failed_run (fun vs => d.append q ((style.call append).text entity vs).toUTF8)
      (fun d' => d'.sizeAt q)
      (fun vs s₁ hv => writeFile_of_yields ho hd hv)
      (fun vs s₁ e s₂ n hv hs hn => writeFile_of_stops ho hd hv hs hn) he

/-! ### A record that fails -/

namespace Turning

/-- An entity whose records have a number, which counts them, and what the number is looked up to
be. The value for the second record is given. -/
def document (pairs : List (Schema.NodeId × Schema.NodeId)) (second : Schema.Kind) :
    Schema.Document :=
  { path := "main.yaml", imports := [], entities := [11]
    nodes := #[{ kind := .call (.sequence 1), parent := some 1 },
      { kind := .property "n" 0, parent := some 10 },
      { kind := .reference [{ name := "n" }], parent := some 3 },
      { kind := .call (.pipe 2 .upper), parent := some 8 },
      { kind := .literal (.string "1"), parent := some 8 },
      { kind := .literal (.string "a"), parent := some 8 },
      { kind := .literal (.string "2"), parent := some 8 },
      { kind := second, parent := some 8 },
      { kind := .call (.dict 3 pairs), parent := some 9 },
      { kind := .property "x" 8, parent := some 10 },
      { kind := .object [1, 9], parent := some 11 }, { kind := .entity "E" 10 }] }

/-- A directory without files. -/
def world : World := { disk := .ofDirectory ["d"], time := default, entropy := 0 }

/-- The workspace of the entity. -/
def workspace (pairs : List (Schema.NodeId × Schema.NodeId)) (second : Schema.Kind) :
    Schema.Workspace :=
  .ofDocuments world.disk [document pairs second]

/-- A seed, and a clock that stands still. -/
def options : Engine.Options := { seed := some 1, now := some default }

/-- An engine for the entity. -/
def session (pairs : List (Schema.NodeId × Schema.NodeId)) (second : Schema.Kind) : Session :=
  .start (workspace pairs second) Schema.CallKind.all options world

end Turning

/-- Of three records the second one chooses from an empty list. The run leaves the text that the
run for one record leaves. -/
theorem failed_run_leaves_first_record :
    let s := Turning.session [(4, 5), (6, 7)] (.call (.choice []))
    obstacle? s "E" = none ∧
      ∃ e, (writeText { format := .table } "E" 3 Turning.world s).1 = .error e ∧
        (writeText { format := .table } "E" 3 Turning.world s).2.1 = "n,x\n1,a\n" ∧
        ∃ k, 1 ≤ k ∧ k ≤ 3 ∧ FailsAt .table "E" Turning.world s k e ∧
          (writeText { format := .table } "E" 3 Turning.world s).2.1 =
            (writeText { format := .table } "E" (k - 1) Turning.world s).2.1 := by
  intro s
  have hends : (writeText { format := .table } "E" 3 Turning.world s).1.toOption = none ∧
      (writeText { format := .table } "E" 3 Turning.world s).2.1 = "n,x\n1,a\n" := by
    decide +kernel
  obtain ⟨e, he⟩ := error_of_toOption hends.1
  obtain ⟨k, hk, hk', hfails, -, htext, -⟩ :=
    (failed_run_leaves_whole_records { format := .table } "E" 3 Turning.world s rfl).1 e he
  exact ⟨rfl, e, he, hends.2, k, hk, hk', hfails, htext⟩

end TestData.Output
