import TestData.Proofs.Evaluation.World
import TestData.Proofs.Files.Disk

/-!
Worlds that differ in a file that no table is read from.

What names mean depends on which files are there and not on what they hold, and a table depends on
its own file only. With a clock that stands still, evaluations cannot tell apart two worlds that
differ in another file.
-/

namespace TestData

open Files Schema

/-- No table of a workspace is read from the file at a place. -/
def Schema.Workspace.Spares (ws : Workspace) (d : Disk) (q : Place) : Prop :=
  ∀ n source r, ws.kind n = .call (.table source) →
    d.place ((ws.document n.document).resolvePath source.path) = .ok r →
    d.place (Disk.pathOf r) ≠ .ok q

/-- A workspace without tables spares every file. -/
lemma Schema.Workspace.spares_of_all {ws : Workspace} {d : Disk} {q : Place}
    (h : (ws.refs.all fun n =>
      match ws.kind n with
      | .call (.table _) => false
      | _ => true) = true) : ws.Spares d q := by
  intro n source r hk
  by_cases hn : n ∈ ws.refs
  · have hall := List.all_eq_true.mp h n hn
    rw [hk] at hall
    cases hall
  · cases (Workspace.kind_of_not_mem_refs hn).symm.trans hk

namespace Files.Disk.AlikeBut

variable {q : Place} {d d' : Disk} (h : AlikeBut q d d')

include h

lemma spares {ws : Workspace} (hs : ws.Spares d q) : ws.Spares d' q := by
  intro n source r hk hr
  rw [h.place] at hr ⊢
  exact hs n source r hk hr

/-! ### Names -/

lemma pathKey (p : Path) : PathKey.of d' p = PathKey.of d p := by
  rw [PathKey.of, PathKey.of, h.place]

lemma importedEntity (ws : Workspace) (i : DocumentId) (name : String) :
    ws.importedEntity? d' i name = ws.importedEntity? d i name := by
  simp only [Workspace.importedEntity?, Workspace.imported?, Workspace.documentAt?, h.pathKey]

end Files.Disk.AlikeBut

namespace Engine

namespace Scope

variable {c c' : Scope}

lemma descend_scope (hw : c'.workspace = c.workspace)
    (resolve : NodeRef → Nat → Except EvalError (Resolution × Nat)) (origin target : NodeRef)
    (segments : List Segment) (steps : Nat) :
    c'.descend resolve origin target segments steps =
      c.descend resolve origin target segments steps := by
  induction segments generalizing target steps with
  | nil => rfl
  | cons seg rest ih =>
    simp only [descend, property?, unresolved, location, hw, ih]

/-- What nodes stand for depends on a scope only in what names mean. -/
lemma dereference_scope (hw : c'.workspace = c.workspace) (hm : c'.maxDepth = c.maxDepth)
    (hl : c'.lookup? = c.lookup?) (fuel : Nat) :
    c'.dereference c'.tooLong fuel = c.dereference c.tooLong fuel := by
  have hlong : c'.tooLong = c.tooLong := by
    funext origin
    simp only [tooLong, location, hw]
  rw [hlong]
  induction fuel with
  | zero => rfl
  | succ fuel ih =>
    funext origin current steps
    have hfollow : c'.follow (c.dereference c.tooLong fuel current) =
        c.follow (c.dereference c.tooLong fuel current) := by
      funext at_ segments steps
      simp only [follow, hl, unresolved, location, hw, descend_scope hw]
    simp only [dereference, ih, hfollow, hw, hm, hlong]

lemma resolve_scope (hw : c'.workspace = c.workspace) (hm : c'.maxDepth = c.maxDepth)
    (hl : c'.lookup? = c.lookup?) : c'.resolve = c.resolve := by
  funext n
  have hf : c'.fuel = c.fuel := by rw [fuel, fuel, hm]
  rw [resolve, resolve, hf, dereference_scope hw hm hl]

end Scope

variable {s : Session} {w w' : World} {q : Place}

lemma loadTable_alikeBut (h : Disk.AlikeBut q w.disk w'.disk) {p : Path}
    (hp : ∀ r, w.disk.place p = .ok r → w.disk.place (Disk.pathOf r) ≠ .ok q)
    (delimiter : Option Table.Delimiter) (noHeader : Bool) :
    s.loadTable w'.disk p delimiter noHeader = s.loadTable w.disk p delimiter noHeader := by
  have hget : ∀ (c : Table.Cache) (now : Nat),
      c.get w'.disk now p delimiter noHeader = c.get w.disk now p delimiter noHeader := by
    intro c now
    unfold Table.Cache.get
    rw [h.place]
    rcases hr : w.disk.place p with e | r
    · rfl
    · have hload : Table.load w'.disk (Disk.pathOf r) delimiter noHeader =
          Table.load w.disk (Disk.pathOf r) delimiter noHeader := by
        rw [Table.load, Table.load, h.text (hp r hr)]
      simp only [pure_bind, hload]
  simp only [Session.loadTable, hget]

/-- Evaluations with a clock that stands still cannot tell apart two worlds that differ in a file
from which no table is read. -/
theorem indistinct_of_alikeBut (hnow : s.options.now.isSome) (h : Disk.AlikeBut q w.disk w'.disk)
    (hs : s.workspace.Spares w.disk q) : s.Indistinct w w' := by
  have hlookup : (s.scope w').lookup? = (s.scope w).lookup? := by
    funext origin name
    simp only [Scope.lookup?, Session.scope, Setting.scope, Session.setting, h.importedEntity]
    rfl
  refine ⟨⟨rfl, rfl, rfl, ?_, hlookup, ?_⟩, fun n source hk s₁ hw => ?_⟩
  · exact Scope.resolve_scope rfl rfl hlookup
  · obtain ⟨t, ht⟩ := Option.isSome_iff_exists.mp hnow
    simp [Setting.now, Session.setting, ht]
  · have hload := loadTable_alikeBut (s := s₁) h
      (fun r hr => hs n source r hk (by rw [← hw]; exact hr)) source.delimiter source.noHeader
    simp only [Eval.table, Eval.exec_bind, Eval.exec_get, Eval.exec_read, hload, Eval.exec_set]
    rcases (s₁.loadTable w.disk _ source.delimiter source.noHeader).1 with (_ | _ | _ | _) | _ <;>
      rfl

end Engine

end TestData
