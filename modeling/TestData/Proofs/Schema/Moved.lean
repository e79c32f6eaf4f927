import TestData.Proofs.Schema.Reading

/-!
What is read of a document does not depend on the document's path.

The path of a draft is only kept. No step of reading looks at it, so the same text read under
another path gives the same document under that path, or no document either.
-/

namespace TestData.Schema

/-- The draft of a document that stands elsewhere. -/
def Draft.moved (d : Draft) (p : Files.Path) : Draft := { d with path := p }

lemma Draft.addProperties_moved (d : Draft) (p : Files.Path) (l : List (String × NodeId)) :
    (d.moved p).addProperties l = ((d.addProperties l).1, (d.addProperties l).2.moved p) := by
  induction l generalizing d with
  | nil => rfl
  | cons q l ih =>
    obtain ⟨name, value⟩ := q
    have hadd : (d.moved p).add (.property name value) =
        ((d.add (.property name value)).1, (d.add (.property name value)).2.moved p) := rfl
    simp only [addProperties, hadd, ih]

open Yaml (Tree)

namespace Build

variable {α β γ : Type}

/-- A step that does the same wherever the document stands. -/
def Blind (x : Build α) : Prop :=
  ∀ (p : Files.Path) (d : Draft), x (d.moved p) = (x d).map fun r => (r.1, r.2.moved p)

lemma blind_pure (a : α) : (pure a : Build α).Blind := fun _ _ => rfl

lemma blind_bind {x : Build α} {f : α → Build β} (hx : x.Blind)
    (hf : ∀ a, x.Ends a → (f a).Blind) : (x >>= f).Blind := by
  intro p d
  change (x (d.moved p)).bind (fun r => f r.1 r.2) =
    ((x d).bind fun r => f r.1 r.2).map fun r => (r.1, r.2.moved p)
  rw [hx p d]
  rcases hd : x d with e | ⟨a, d₁⟩
  · rfl
  · exact hf a ⟨d, d₁, hd⟩ p d₁

lemma blind_addObject (l : List (String × NodeId)) : (draw (·.addObject l)).Blind := by
  intro p d
  change Except.ok ((d.moved p).addObject l) = _
  simp only [Draft.addObject, Draft.addProperties_moved]
  rfl

/-- No step of reading looks at the path. -/
lemma constructive_blind : Constructive Blind fun _ => True where
  result := blind_pure
  fail _ _ _ := rfl
  bind := blind_bind
  add _ _ _ := rfl
  object _ _ := blind_addObject _

end Build

open Build

lemma blind_readEntity (depth : Nat) (key body : Tree) :
    (readEntity (readValue depth) key body).Blind := by
  rw [readEntity_eq]
  exact blind_bind (constructive_blind.readKey [] key) fun name _ =>
    blind_bind (constructive_blind.readBody trivial depth name fun _ _ => trivial)
      fun id _ _ _ => rfl

/-! ### Documents -/

namespace Document

lemma blind_entities (entities : Pairs) :
    (entities.forM fun (k, v) => do
      let _ ← readEntity (readValue v.height) k v : Build Unit).Blind := by
  induction entities with
  | nil => exact blind_pure _
  | cons e entities ih =>
    rw [List.forM]
    exact blind_bind (blind_bind (blind_readEntity _ e.1 e.2) fun _ _ => blind_pure _) fun _ _ => ih

/-- A draft that is built alike under every path is finished alike. -/
lemma finish_moved {x : Build Unit} (hblind : x.Blind) (p q : Files.Path) (imports : List Import) :
    (x { path := q, imports }).bind (fun r => (.ok r.2.finish : Except ReadError Document)) =
      ((x { path := p, imports }).bind fun r => .ok r.2.finish).map
        fun d => { d with path := q } := by
  have hx := hblind q { path := p, imports }
  change x { path := q, imports } = _ at hx
  rw [hx]
  rcases x { path := p, imports } with e | ⟨⟨⟩, d⟩ <;> rfl

lemma ofTree_moved (p q : Files.Path) (v : Tree) :
    ofTree q v = (ofTree p v).map fun d => { d with path := q } := by
  unfold ofTree
  rcases outline? v with _ | ⟨imports, entities⟩
  · rfl
  · exact finish_moved (blind_entities entities) p q imports

/-- **A text is read alike under every path.** -/
theorem ofText_moved (p q : Files.Path) (text : String) :
    ofText q text = (ofText p text).map fun d => { d with path := q } := by
  unfold ofText
  split
  · rfl
  · exact ofTree_moved p q _

end Document

end TestData.Schema
