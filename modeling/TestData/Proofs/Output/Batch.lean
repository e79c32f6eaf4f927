import TestData.Output.Records
import TestData.Proofs.Evaluation.World

/-!
Batches: taking records and printing them.

What a batch prints never decides which records it takes. So a batch comes in two parts: the
records that an entity yields, one row after another, until one fails or is refused, and the texts
of these records, which depend on nothing else.
-/

namespace TestData.Output

open Engine

/-! ### Taking records -/

lemma exec_attempt {α : Type} {x : Eval α} {a : α} {w : World} {s s₁ : Session}
    (h : x.exec w s = (.ok a, s₁)) : x.attempt.exec w s = (.ok (.ok a), s₁) := by
  have h' : x w s = (.ok a, s₁) := h
  simp only [Eval.attempt, Eval.exec, h']

/-- A record leaves what stays the same from row to row. -/
lemma setting_record {entity : String} {w : World} {s s₁ : Session} {v : Value}
    (h : (Eval.record entity).exec w s = (.ok v, s₁)) : s₁.setting = s.setting := by
  rw [← setting_record_snd w s entity, h]

/-- Why a format does not take a record: a table takes objects only. -/
def Format.refusal? (format : Format) (entity : String) : Value → Option WriteError
  | .object _ => none
  | _ =>
    match format with
    | .lines => none
    | .table => some (.notRecord entity)

/-- The next records of an entity are these, and a format takes them all. -/
inductive Yields (format : Format) (entity : String) (w : World) :
    Session → List Value → Session → Prop
  | nil (s : Session) : Yields format entity w s [] s
  | cons {s s₁ s₂ : Session} {v : Value} {vs : List Value}
    (hv : (Eval.record entity).exec w s = (.ok v, s₁)) (ht : format.refusal? entity v = none)
    (h : Yields format entity w s₁ vs s₂) : Yields format entity w s (v :: vs) s₂

/-- The next record of an entity fails, or a format does not take it. -/
inductive Stops (format : Format) (entity : String) (w : World) (s : Session) :
    WriteError → Session → Prop
  | failure {f : Failure} {s₁ : Session} (h : (Eval.record entity).exec w s = (.error f, s₁)) :
    Stops format entity w s (.ofFailure f) s₁
  | refusal {v : Value} {e : WriteError} {s₁ : Session}
    (hv : (Eval.record entity).exec w s = (.ok v, s₁)) (he : format.refusal? entity v = some e) :
    Stops format entity w s e s₁

variable {format : Format} {entity : String} {w : World} {s s₁ s₂ : Session} {vs us : List Value}

namespace Yields

lemma append_iff : Yields format entity w s (vs ++ us) s₂ ↔
    ∃ s₁, Yields format entity w s vs s₁ ∧ Yields format entity w s₁ us s₂ := by
  constructor
  · induction vs generalizing s with
    | nil => exact fun h => ⟨s, .nil s, h⟩
    | cons v vs ih =>
      rintro (_ | ⟨hv, ht, h⟩)
      obtain ⟨s₁, h₁, h₂⟩ := ih h
      exact ⟨s₁, .cons hv ht h₁, h₂⟩
  · rintro ⟨s₁, h₁, h₂⟩
    induction h₁ with
    | nil => exact h₂
    | cons hv ht _ ih => exact .cons hv ht (ih h₂)

/-- The records that a format takes are the next records of the engine. -/
lemma exec_records (h : Yields format entity w s vs s₁) :
    (Eval.records entity vs.length).exec w s = (.ok (vs.map .ok), s₁) := by
  induction h with
  | nil => rfl
  | @cons s s₁ s₂ v vs hv _ _ ih =>
    rw [List.length_cons, Eval.records, Eval.exec_bind, exec_attempt hv]
    dsimp only
    rw [Eval.exec_bind, ih]
    rfl

lemma setting (h : Yields format entity w s vs s₁) : s₁.setting = s.setting := by
  induction h with
  | nil => rfl
  | cons hv _ _ ih => rw [ih, setting_record hv]

/-- The records are the same in two worlds that cannot be told apart. -/
lemma of_indistinct {w' : World} (h : Yields format entity w s vs s₁) (hw : s.Indistinct w w') :
    Yields format entity w' s vs s₁ := by
  induction h with
  | nil => exact .nil _
  | cons hv ht _ ih =>
    exact .cons (by rw [record_world hw entity rfl, hv]) ht (ih (hw.of_setting (setting_record hv)))

end Yields

/-- An entity yields a number of records, or there are fewer before it stops. -/
lemma yields_or_stops (format : Format) (entity : String) (w : World) (n : Nat) (s : Session) :
    (∃ vs s₁, vs.length = n ∧ Yields format entity w s vs s₁) ∨
      ∃ vs s₁ e s₂, vs.length < n ∧ Yields format entity w s vs s₁ ∧
        Stops format entity w s₁ e s₂ := by
  induction n generalizing s with
  | zero => exact .inl ⟨[], s, rfl, .nil s⟩
  | succ n ih =>
    rcases hv : (Eval.record entity).exec w s with ⟨f | v, s₁⟩
    · exact .inr ⟨[], s, _, s₁, Nat.succ_pos n, .nil s, .failure hv⟩
    · rcases ht : format.refusal? entity v with _ | e
      · rcases ih s₁ with ⟨vs, s₂, hl, h⟩ | ⟨vs, s₂, e, s₃, hl, h, hs⟩
        · exact .inl ⟨v :: vs, s₂, by simp [hl], .cons hv ht h⟩
        · exact .inr ⟨v :: vs, s₂, e, s₃, by simpa using hl, .cons hv ht h, hs⟩
      · exact .inr ⟨[], s, e, s₁, Nat.succ_pos n, .nil s, .refusal hv ht⟩

/-! ### Printing records -/

variable {style : Style}

/-- The texts of records that a style takes. -/
def Style.texts (style : Style) (entity : String) :
    Option (List String) → List Value → List String
  | _, [] => []
  | columns, v :: vs =>
    match recordTexts style columns entity v with
    | .ok (texts, columns) => texts ++ style.texts entity columns vs
    | .error _ => []

lemma recordTexts_taken {v : Value} (columns : Option (List String))
    (h : style.format.refusal? entity v = none) :
    ∃ texts columns', recordTexts style columns entity v = .ok (texts, columns') := by
  obtain ⟨_ | _, header⟩ := style
  · exact ⟨_, _, rfl⟩
  · cases v with
    | object f => cases columns <;> exact ⟨_, _, rfl⟩
    | _ => cases h

lemma recordTexts_refused {columns : Option (List String)} {v : Value} {e : WriteError}
    (h : style.format.refusal? entity v = some e) :
    recordTexts style columns entity v = .error e := by
  obtain ⟨_ | _, header⟩ := style
  · cases v <;> cases h
  · cases v with
    | object f => cases h
    | _ =>
      obtain rfl := Option.some.inj h
      cases columns <;> rfl

/-- A batch whose records are all there prints them. -/
lemma batch_of_yields (h : Yields style.format entity w s vs s₁) (columns : Option (List String)) :
    batch style entity w vs.length columns s =
      ({ texts := style.texts entity columns vs, rows := vs.length }, s₁) := by
  induction h generalizing columns with
  | nil => rfl
  | cons hv ht _ ih =>
    obtain ⟨texts, columns', hr⟩ := recordTexts_taken columns ht
    simp only [List.length_cons, batch, hv, hr, ih, Style.texts, Batch.prepend]

/-- A batch that stops prints the records before. -/
lemma batch_of_stops {e : WriteError} {n : Nat} (h : Yields style.format entity w s vs s₁)
    (hs : Stops style.format entity w s₁ e s₂) (hn : vs.length < n)
    (columns : Option (List String)) :
    batch style entity w n columns s =
      ({ texts := style.texts entity columns vs, rows := vs.length, failure := some e }, s₂) := by
  induction h generalizing columns n with
  | nil =>
    obtain ⟨m, rfl⟩ := Nat.exists_eq_succ_of_ne_zero (Nat.ne_of_gt hn)
    rcases hs with ⟨hf⟩ | ⟨hv, he⟩
    · simp only [batch, hf, Style.texts, List.length_nil]
    · simp only [batch, hv, recordTexts_refused he, Style.texts, List.length_nil]
  | cons hv ht _ ih =>
    obtain ⟨m, rfl⟩ := Nat.exists_eq_succ_of_ne_zero (Nat.ne_of_gt (Nat.zero_lt_of_lt hn))
    obtain ⟨texts, columns', hr⟩ := recordTexts_taken columns ht
    simp only [batch, hv, hr, ih hs (Nat.lt_of_succ_lt_succ hn), Style.texts, Batch.prepend,
      List.length_cons]

end TestData.Output
