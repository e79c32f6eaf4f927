import TestData.Proofs.Schema.Names
import TestData.Proofs.Session.Known

/-!
Names that are told apart.

A string and a number may be two keys of a mapping and have one text, and then what stands under
them has one name. There is no other way for names to repeat. Where they do not, the record of an
object has under every name the value of the property that is found by the name: the first property
and the last one of a name are the same.
-/

namespace TestData.Engine

open Schema

variable {c : Setting} {known : Knowledge} {owner : NodeRef} {ids : List NodeId} {d : Document}
  {fields : Fields Value} {name : String} {found : NodeId}

lemma findProperty?_some (h : d.findProperty? ids name = some found) :
    found ∈ ids ∧ ∃ x, d.kind found = .property name x := by
  refine ⟨List.mem_of_find?_eq_some h, ?_⟩
  have hname := List.find?_some h
  split at hname
  · rename_i n x hk
    exact ⟨x, of_decide_eq_true hname ▸ hk⟩
  · cases hname

lemma findProperty?_none (h : d.findProperty? ids name = none) : name ∉ d.propertyNames ids := by
  intro hmem
  obtain ⟨id, hid, hname⟩ := List.mem_filterMap.mp hmem
  have hnone := List.find?_eq_none.mp h id hid
  cases hk : d.kind id <;> rw [hk] at hname hnone
  case property n x => exact hnone (decide_eq_true (Option.some.inj hname))
  all_goals cases hname

/-- A record has under a name what the property that is found by it is known to have, if the names
of the properties differ. -/
lemma get?_eq_found (hd : c.workspace.document owner.document = d)
    (hnames : (d.propertyNames ids).Nodup)
    (h : (fieldValues owner .empty ids).answer c known = some fields) (name : String) :
    fields.get? name =
      (d.findProperty? ids name).bind fun found => (known (owner.at found)).join := by
  obtain rfl := hd
  rcases hfound : (c.workspace.document owner.document).findProperty? ids name with _ | found
  · rw [get?_of_answer h (findProperty?_none hfound)]
    rfl
  · obtain ⟨hid, x, hk⟩ := findProperty?_some hfound
    obtain ⟨u, hu, hget⟩ := fields_of_answer h hnames hid hk rfl
    rw [hget, Option.bind_some, hu]
    rfl

/-- **Names repeat only where the keys of a mapping mix strings with others of the same text.** The
names of the entities, and those of the properties of an object, are the texts of the keys of one
mapping of the text, no two of which are the same. Names that do not repeat find the properties
whose values a record has under them. -/
theorem names_distinct_iff_keys_unmixed {path : Files.Path} {text : String}
    (h : Document.ofText path text = .ok d) :
    (∃ keys, Document.Keys text d.entityNames keys ∧
      (d.entityNames.Nodup ↔ ¬Yaml.Tree.Mixed keys)) ∧
    ∀ id ids, d.kind id = .object ids →
      (∃ keys, Document.Keys text (d.propertyNames ids) keys ∧
        ((d.propertyNames ids).Nodup ↔ ¬Yaml.Tree.Mixed keys)) ∧
      ((d.propertyNames ids).Nodup → ∀ (c : Setting) (known : Knowledge) (owner : NodeRef)
        (fields : Fields Value), c.workspace.document owner.document = d →
        (fieldValues owner .empty ids).answer c known = some fields → ∀ name,
        fields.get? name =
          (d.findProperty? ids name).bind fun found => (known (owner.at found)).join) := by
  obtain ⟨⟨keys, hkeys⟩, hobjects⟩ := Document.keys_ofText h
  refine ⟨⟨keys, hkeys, Yaml.Tree.nodup_texts_iff hkeys.2.1 hkeys.2.2⟩, fun id ids hids => ?_⟩
  obtain ⟨keys, hkeys⟩ := hobjects id ids hids
  exact ⟨⟨keys, hkeys, Yaml.Tree.nodup_texts_iff hkeys.2.1 hkeys.2.2⟩,
    fun hnames c known owner fields hd hfields => get?_eq_found hd hnames hfields⟩

/-- The properties of an object. -/
def properties? : Kind → Option (List NodeId)
  | .object ids => some ids
  | _ => none

lemma eq_of_properties? {k : Kind} (h : properties? k = some ids) : k = .object ids := by
  unfold properties? at h
  split at h
  · rw [Option.some.inj h]
  · cases h

namespace Unmixed

/-- The text of a document with a word and a number for keys, and an entity without a body. -/
def text : String := "entities:\n  A:\n    x: a\n    1: b\n  B:\n"

/-- The document of the text. -/
def document : Document := (Document.ofText "a.yaml" text).toOption.getD default

lemma facts : (Document.ofText "a.yaml" text).toOption.isSome = true ∧
    document.entityNames = ["A", "B"] ∧ properties? (document.kind 4) = some [2, 3] ∧
    document.propertyNames [2, 3] = ["x", "1"] ∧ document.findProperty? [2, 3] "1" = some 3 := by
  decide +kernel

end Unmixed

open Unmixed in
/-- The names of the document are told apart, as its keys do not mix. -/
theorem names_of_word_and_number :
    Document.ofText "a.yaml" text = .ok document ∧
      (∃ keys, Document.Keys text ["A", "B"] keys ∧ ¬Yaml.Tree.Mixed keys) ∧
      (∃ keys, Document.Keys text ["x", "1"] keys ∧ ¬Yaml.Tree.Mixed keys) ∧
      ∀ (c : Setting) (known : Knowledge) (owner : NodeRef) (fields : Fields Value),
        c.workspace.document owner.document = document →
        (fieldValues owner .empty [2, 3]).answer c known = some fields →
        fields.get? "1" = (known (owner.at 3)).join := by
  obtain ⟨hsome, hentities, hkind, hnames, hfound⟩ := facts
  have htext : Document.ofText "a.yaml" text = .ok document := Document.ofText_of_isSome hsome
  obtain ⟨⟨keys, hkeys, hmixed⟩, hobjects⟩ := names_distinct_iff_keys_unmixed htext
  obtain ⟨⟨keys', hkeys', hmixed'⟩, hrecord⟩ := hobjects 4 [2, 3] (eq_of_properties? hkind)
  rw [hentities] at hkeys hmixed
  rw [hnames] at hkeys' hmixed'
  refine ⟨htext, ⟨keys, hkeys, hmixed.mp (by decide)⟩, ⟨keys', hkeys', hmixed'.mp (by decide)⟩,
    fun c known owner fields hd hfields => ?_⟩
  have hget := hrecord (hnames ▸ by decide) c known owner fields hd hfields "1"
  rwa [hfound] at hget

namespace Repeated

/-- The text of a document with a number and a string of the same text for keys. -/
def text : String := "entities:\n  E:\n    1: a\n    \"1\": b\n"

/-- The document of the text. -/
def document : Document := (Document.ofText "a.yaml" text).toOption.getD default

/-- A world without files. -/
def world : World := { disk := .ofDirectory [], time := default, entropy := 0 }

/-- A new engine for the document. -/
def session : Session := .start (.ofDocuments world.disk [document]) CallKind.all {} world

lemma facts : (Document.ofText "a.yaml" text).toOption.isSome = true ∧
    properties? (document.kind 4) = some [2, 3] ∧ document.propertyNames [2, 3] = ["1", "1"] ∧
    document.findProperty? [2, 3] "1" = some 2 ∧
    textOf ((Eval.value ⟨0, 2⟩).exec world session).1 = some (some "a") ∧
    textUnder "1" ((Eval.value ⟨0, 4⟩).exec world session).1 = some "b" := by
  decide +kernel

end Repeated

open Repeated in
/-- A document has an object with two properties of one name. The name finds the first of them, and
the record has the value of the other. -/
theorem two_properties_of_one_name :
    Document.ofText "a.yaml" text = .ok document ∧ document.kind 4 = .object [2, 3] ∧
      ¬(document.propertyNames [2, 3]).Nodup ∧ document.findProperty? [2, 3] "1" = some 2 ∧
      textOf ((Eval.value ⟨0, 2⟩).exec world session).1 = some (some "a") ∧
      textUnder "1" ((Eval.value ⟨0, 4⟩).exec world session).1 = some "b" := by
  obtain ⟨hsome, hkind, hnames, hrest⟩ := facts
  exact ⟨Document.ofText_of_isSome hsome, eq_of_properties? hkind, by rw [hnames]; decide, hrest⟩

end TestData.Engine
