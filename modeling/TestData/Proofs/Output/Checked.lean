import TestData.Output.Run
import TestData.Proofs.Check.Report
import TestData.Proofs.Output.Lines
import TestData.Proofs.Schema.Closure

/-!
Runs that check before they write.

A run loads the schema, checks its root document and looks for the entity before it opens the
output; until then the disk is as it was. With a seed and a clock that stands still, the check
leaves no trace in what is written: a run ends as a new engine that writes without a check, at any
time. What a run does not survive is a check in which a draw is not possible.
-/

namespace TestData.Output

open Engine Schema

/-- The error of a run for records that are not written. -/
def RunError.ofWrite (format : Format) (output : Files.Path) : WriteError → RunError
  | .stuck => .stuck
  | e => .write format output e

/-- The end of a run whose records are written to a file. -/
def endOf (format : Format) (output : Files.Path)
    (call : Except WriteError Metrics × Files.Disk × Session) :
    Except RunError Metrics × Files.Disk :=
  (call.1.mapError (.ofWrite format output), call.2.1)

section

variable {w w' : World} {s s₀ : Session} {style : Style} {entity : String}

/-- With a clock that stands still, evaluations see of a world only its disk. -/
lemma indistinct_of_disk (hnow : s.options.now.isSome) (h : w'.disk = w.disk) :
    s.Indistinct w w' := by
  have hscope : s.scope w' = s.scope w := by
    simp only [Session.scope, Setting.scope, Session.setting, h]
  obtain ⟨t, ht⟩ := Option.isSome_iff_exists.mp hnow
  refine ⟨⟨rfl, rfl, rfl, ?_, ?_, ?_⟩, fun n source _ s₁ _ => ?_⟩
  · exact congrArg Scope.resolve hscope
  · exact congrArg Scope.lookup? hscope
  · simp [Setting.now, Session.setting, ht]
  · simp only [Eval.table, Eval.exec_bind, Eval.exec_get, Eval.exec_read, h, Eval.exec_set]
    rcases (s₁.loadTable w.disk _ source.delimiter source.noHeader).1 with
      (_ | _ | _ | _) | _ <;> rfl

lemma batch_world (hw : s₀.Indistinct w w') (n : Nat) (columns : Option (List String))
    (hs : s.setting = s₀.setting) :
    batch style entity w' n columns s = batch style entity w n columns s := by
  induction n generalizing columns s with
  | zero => rfl
  | succ n ih =>
    rw [batch, batch, record_world hw entity hs]
    rcases hv : (Eval.record entity).exec w s with ⟨f | v, s₁⟩
    · rfl
    · have hs₁ : s₁.setting = s₀.setting := (setting_record hv).trans hs
      dsimp only
      rcases recordTexts style columns entity v with e | ⟨texts, columns'⟩
      · rfl
      · simp only [ih columns' hs₁]

/-- What is written to a file depends on a world only by its disk. -/
lemma writeFile_world (hnow : s.options.now.isSome) (h : w'.disk = w.disk) (count : Nat)
    (path : Files.Path) (append : Bool) :
    writeFile style entity count path append w' s =
      writeFile style entity count path append w s := by
  rw [writeFile, writeFile, h]
  rcases obstacle? s entity with _ | e
  · rcases w.disk.openFile path append with t | ⟨q, d⟩
    · rfl
    · have hw : s.Indistinct { w with disk := d } { w' with disk := d } :=
        indistinct_of_disk hnow rfl
      simp only [batch_world hw count none rfl]
  · rfl

end

section

variable {schema output : Files.Path} {o : Options} {format : Format} {w : World}
  {ws : Workspace} {issues : List Issue}

/-! ### The ends of a run -/

lemma openSchema_eq {o : Engine.Options} :
    openSchema schema o w =
      match Workspace.load w.disk schema with
      | .error e => .error (.load schema e)
      | .ok ws =>
        match (Session.start ws CallKind.all o w).check w Workspace.root with
        | .ok issues => .ok (Session.start ws CallKind.all o w, issues)
        | .error _ => .error .stuck := by
  rw [openSchema, loadSchema]
  rcases Workspace.load w.disk schema with e | ws <;> rfl

lemma openSchema_loaded {o : Engine.Options} (h : Workspace.load w.disk schema = .ok ws) :
    openSchema schema o w =
      match (Session.start ws CallKind.all o w).check w Workspace.root with
      | .ok issues => .ok (Session.start ws CallKind.all o w, issues)
      | .error _ => .error .stuck := by
  rw [openSchema_eq, h]

/-- A run ends where its schema is not opened, ends with the errors that are found in it, or is a
call that writes the file. -/
lemma run_eq :
    run schema o format output w =
      match openSchema schema o.engineOptions w with
      | .error e => (.error e, w.disk)
      | .ok (s, issues) =>
        match issues.filter (·.severity = .error) with
        | [] => endOf format output
          (writeFile { format, header := o.header } o.entity o.rows output false w s)
        | errors => (.error (.invalid schema errors), w.disk) := by
  rw [run]
  rcases openSchema schema o.engineOptions w with e | ⟨s, issues⟩
  · rfl
  · rcases herrors : issues.filter (·.severity = .error) with _ | ⟨i, rest⟩ <;>
      simp only [herrors]
    rcases writeFile { format, header := o.header } o.entity o.rows output false w s with
      ⟨(_ | _ | _ | _ | _) | m, disk, s⟩ <;> rfl

lemma run_unloaded {e : ReadError} (h : Workspace.load w.disk schema = .error e) :
    run schema o format output w = (.error (.load schema e), w.disk) := by
  rw [run_eq, openSchema_eq, h]

lemma run_stuck {f : Failure} (h : Workspace.load w.disk schema = .ok ws)
    (hcheck : (Session.start ws CallKind.all o.engineOptions w).check w Workspace.root = .error f) :
    run schema o format output w = (.error .stuck, w.disk) := by
  rw [run_eq, openSchema_loaded h, hcheck]

section

variable (h : Workspace.load w.disk schema = .ok ws)
  (hcheck : (Session.start ws CallKind.all o.engineOptions w).check w Workspace.root = .ok issues)

include h hcheck

lemma run_invalid (hbad : ∃ i ∈ issues, i.severity = .error) :
    run schema o format output w =
      (.error (.invalid schema (issues.filter (·.severity = .error))), w.disk) := by
  obtain ⟨i, hi, hsev⟩ := hbad
  have hmem : i ∈ issues.filter (·.severity = .error) := List.mem_filter.mpr ⟨hi, by simpa⟩
  rw [run_eq, openSchema_loaded h, hcheck]
  rcases herrors : issues.filter (·.severity = .error) with _ | ⟨j, rest⟩
  · rw [herrors] at hmem
    cases hmem
  · simp only [herrors]

/-- Without errors, a run is a call that writes the file. -/
lemma run_checked (hgood : ∀ i ∈ issues, i.severity ≠ .error) :
    run schema o format output w =
      endOf format output (writeFile { format, header := o.header } o.entity o.rows output false w
        (Session.start ws CallKind.all o.engineOptions w)) := by
  have hnone : issues.filter (·.severity = .error) = [] :=
    List.filter_eq_nil_iff.mpr fun i hi => by simpa using hgood i hi
  rw [run_eq, openSchema_loaded h, hcheck]
  simp only [hnone]

end

/-- Without the entity, a run fails and leaves the disk, whatever the check finds. -/
lemma run_undeclared (h : Workspace.load w.disk schema = .ok ws)
    (hentity : ws.entity? Workspace.root o.entity = none) :
    ∃ e, run schema o format output w = (.error e, w.disk) := by
  rcases hcheck : (Session.start ws CallKind.all o.engineOptions w).check w Workspace.root with
    f | issues
  · exact ⟨_, run_stuck h hcheck⟩
  · by_cases hbad : ∃ i ∈ issues, i.severity = .error
    · exact ⟨_, run_invalid h hcheck hbad⟩
    · rw [run_checked h hcheck fun i hi hsev => hbad ⟨i, hi, hsev⟩]
      have hobstacle : ∃ e, obstacle?
          (Session.start ws CallKind.all o.engineOptions w) o.entity = some e := by
        simp only [obstacle?, Session.start, hentity]
        split
        · exact ⟨_, rfl⟩
        · exact ⟨_, rfl⟩
      obtain ⟨e, he⟩ := hobstacle
      simp only [writeFile, he]
      exact ⟨_, rfl⟩

/-- **A run is all or nothing up front, and its check leaves no trace.** Let the options have a seed
and a clock that stands still. If the schema cannot be loaded, if its root document has an issue
that is an error, if the root document does not declare the entity, or if the check draws what
cannot be drawn, then the run fails and the disk is as it was. In all other cases it ends with the
result and the disk of one call that writes the file, of a new engine in any world with the same
disk. -/
theorem run_checks_first (schema output : Files.Path) (o : Options) (format : Format) (w : World)
    (hseed : o.engineOptions.seed.isSome) (hnow : o.engineOptions.now.isSome) :
    (∀ e, Workspace.load w.disk schema = .error e →
      run schema o format output w = (.error (.load schema e), w.disk)) ∧
    ∀ ws, Workspace.load w.disk schema = .ok ws →
      let s := Session.start ws CallKind.all o.engineOptions w
      (∀ f, s.check w Workspace.root = .error f →
        run schema o format output w = (.error .stuck, w.disk)) ∧
      (∀ issues, s.check w Workspace.root = .ok issues → (∃ i ∈ issues, i.severity = .error) →
        run schema o format output w =
          (.error (.invalid schema (issues.filter (·.severity = .error))), w.disk)) ∧
      (ws.entity? Workspace.root o.entity = none →
        ∃ e, run schema o format output w = (.error e, w.disk)) ∧
      ∀ issues, s.check w Workspace.root = .ok issues → (∀ i ∈ issues, i.severity ≠ .error) →
        ∀ w' : World, w'.disk = w.disk →
          run schema o format output w =
            endOf format output (writeFile { format, header := o.header } o.entity o.rows output
              false w' (Session.start ws CallKind.all o.engineOptions w')) := by
  refine ⟨fun e h => run_unloaded h, fun ws h => ⟨fun f hcheck => run_stuck h hcheck,
    fun issues hcheck hbad => run_invalid h hcheck hbad, run_undeclared h,
    fun issues hcheck hgood w' hdisk => ?_⟩⟩
  have hstart : Session.start ws CallKind.all o.engineOptions w' =
      Session.start ws CallKind.all o.engineOptions w := start_seeded ws _ hseed w w'
  have hfile : writeFile { format, header := o.header } o.entity o.rows output false w'
      (Session.start ws CallKind.all o.engineOptions w) =
      writeFile { format, header := o.header } o.entity o.rows output false w
        (Session.start ws CallKind.all o.engineOptions w) :=
    writeFile_world hnow hdisk o.rows output false
  rw [run_checked h hcheck hgood, hstart, hfile]

end

namespace Ranged

/-- A schema of an entity without fields and one with the fields that are given. -/
def text (fields : String) : String :=
  "entities:\n A:\n B:" ++ fields

/-- A directory with the schema. -/
def world (fields : String) : World :=
  { disk := (Files.Disk.ofDirectory ["d"]).set ["d", "s.yaml"] (.file (text fields).toUTF8)
    time := default, entropy := 0 }

/-- A record of the first entity, with a seed and a clock that stands still. -/
def options : Options :=
  { entity := "A", rows := 1, engine := { seed := some 1, now := some default } }

/-- The document of the schema. -/
def document (fields : String) : Document :=
  (Document.ofText "s.yaml" (text fields)).toOption.getD default

/-- The workspace of the schema. -/
def workspace (fields : String) : Workspace := .ofDocuments (world fields).disk [document fields]

/-- An engine for the schema. -/
def session (fields : String) : Session :=
  .start (workspace fields) CallKind.all options.engineOptions (world fields)

lemma workspace_session (fields : String) : (session fields).workspace = workspace fields :=
  Check.workspace_start _ _ _

lemma document_session (fields : String) :
    (session fields).workspace.document Workspace.root = document fields := by
  rw [workspace_session]
  simp [workspace, Workspace.document, Workspace.ofDocuments, Workspace.root]

/-- A range whose width is no number of its type. -/
def wide : String := "\n  y: !range ['-1.0e308', '1.0e308']"

lemma load_world {fields : String}
    (hfile : (Document.ofText "s.yaml" (text fields)).toOption.isSome = true)
    (himports : (document fields).imports.length = 0) :
    Workspace.load (world fields).disk "s.yaml" = .ok (workspace fields) := by
  obtain ⟨d, hd⟩ := Option.isSome_iff_exists.mp hfile
  have hdoc : Document.ofText "s.yaml" (text fields) = .ok (document fields) := by
    rw [document, hd]
    exact ok_of_toOption hd
  have htext : (world fields).disk.text "s.yaml" = .ok (text fields) :=
    Files.Disk.text_of_find (q := ["d", "s.yaml"]) rfl rfl
  exact Workspace.load_alone ((Workspace.ofFile_of_text htext).trans hdoc)
    (List.length_eq_zero_iff.mp himports)

/-- Without fields the schema has no errors. With a range that is too wide its check does not end
in a report, and a record of the first entity is written. -/
lemma facts :
    ((Document.ofText "s.yaml" (text "")).toOption.isSome = true ∧
      (document "").imports.length = 0 ∧
      Check.distinctNames (session "").workspace Workspace.root = true ∧
      Check.findsNothing ((session "").fresh (world "")) (world "") Workspace.root = true) ∧
    (Document.ofText "s.yaml" (text wide)).toOption.isSome = true ∧
      (document wide).imports.length = 0 ∧
      ((session wide).check (world wide) Workspace.root).toOption.isNone = true ∧
      (writeFile { format := .lines } "A" 1 "out" false (world wide)
        (session wide)).1.toOption.isSome = true := by
  decide +kernel

end Ranged

open Ranged in
/-- A schema without errors is run as a new engine writes it, also one that draws another number
from the world. -/
theorem plain_run_checks_first :
    run "s.yaml" options .lines "out" (world "") =
      endOf .lines "out" (writeFile { format := .lines } "A" 1 "out" false
        { world "" with entropy := 1 } (session "")) := by
  obtain ⟨hfile, himports, hnames, hnothing⟩ := facts.1
  have hnone : ((session "").workspace.document Workspace.root).imports = [] := by
    rw [document_session]
    exact List.length_eq_zero_iff.mp himports
  obtain ⟨issues, hcheck, hgood⟩ := Check.cleanAt_of_findsNothing hnames hnone hnothing
  exact ((run_checks_first "s.yaml" "out" options .lines (world "") rfl rfl).2 _
    (load_world hfile himports)).2.2.2 issues hcheck hgood { world "" with entropy := 1 } rfl

open Ranged in
/-- Where the range of another entity cannot be drawn from, a run fails, and a new engine writes
the record. -/
theorem wide_range_stops_run :
    Workspace.load (world wide).disk "s.yaml" = .ok (workspace wide) ∧
      run "s.yaml" options .lines "out" (world wide) = (.error .stuck, (world wide).disk) ∧
      ∃ m, (writeFile { format := .lines } "A" 1 "out" false (world wide) (session wide)).1 =
        .ok m := by
  obtain ⟨hfile, himports, hcheck, hwritten⟩ := facts.2
  have hload := load_world hfile himports
  obtain ⟨f, hf⟩ := error_of_toOption (Option.isNone_iff_eq_none.mp hcheck)
  obtain ⟨m, hm⟩ := Option.isSome_iff_exists.mp hwritten
  exact ⟨hload, run_stuck hload hf, m, ok_of_toOption hm⟩

end TestData.Output
