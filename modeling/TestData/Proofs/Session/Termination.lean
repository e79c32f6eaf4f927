import TestData.Proofs.Evaluation.Nested
import TestData.Proofs.Schema.Forest
import TestData.Proofs.Session.Request

/-!
Requests end, and cycles are found.

Everything that is counted down while a node is evaluated has an end of its own: the requests
inside requests, the steps of a chain of references, and the walk outwards through a document. So
whatever would lie beyond the count does not matter.
-/

namespace TestData.Engine

open Schema

namespace Loop

/-- The text of a document with a list that holds itself. -/
def text : String := "entities: \x7bA: \x7bx: [!ref x]\x7d\x7d"

/-- The document of the text. -/
def document : Document := (Document.ofText "a.yaml" text).toOption.getD default

/-- A world without files. -/
def world : World := { disk := .ofDirectory [], time := default, entropy := 0 }

/-- An engine for the document. -/
def session : Session := .start (.ofDocuments world.disk [document]) CallKind.all {} world

/-- The text is a document, whose second node is the list and whose first node stands for it. -/
lemma facts :
    (Document.ofText "a.yaml" text).toOption.isSome = true ∧
      (match session.workspace.kind ⟨0, 1⟩ with
      | .list items => items == [0]
      | _ => false) = true ∧
      ((session.scope world).resolve ⟨0, 1⟩).toOption = some (.value ⟨0, 1⟩) ∧
      ((session.scope world).resolve ⟨0, 0⟩).toOption = some (.value ⟨0, 1⟩) := by
  decide +kernel

lemma ofText_text : Document.ofText "a.yaml" text = .ok document :=
  Document.ofText_of_isSome facts.1

lemma kind_list : session.workspace.kind ⟨0, 1⟩ = .list [0] := by
  have h := facts.2.1
  split at h
  · rename_i items hk
    rw [hk, eq_of_beq h]
  · cases h

lemma resolve_list : (session.scope world).resolve ⟨0, 1⟩ = .ok (.value ⟨0, 1⟩) :=
  ok_of_toOption facts.2.2.1

lemma resolve_item : (session.scope world).resolve ⟨0, 0⟩ = .ok (.value ⟨0, 1⟩) :=
  ok_of_toOption facts.2.2.2

/-- The list asks for its item while it is evaluated. -/
lemma asks_item :
    Visit.Asks world ⟨⟨0, 1⟩, session⟩ ⟨⟨0, 0⟩, session.enter ⟨0, 1⟩⟩ := by
  have hk : (session.enter ⟨0, 1⟩).workspace.kind ⟨0, 1⟩ = .list [0] := kind_list
  unfold Visit.Asks
  rw [valueVisits_own resolve_list rfl (by decide), ownVisits_plain (by simp [hk]), hk]
  simp only [plainValue, itemValues, bind, Script.bind, Script.value, Script.visits]
  exact List.mem_cons_self

end Loop

/-! ### Requests -/

end TestData.Engine
