import TestData.Proofs.Output.Batch

/-!
Calls that write records: to a text or to a file.

A call takes records until it has as many as it was asked for or until one fails or is refused.
Either way it writes the text of the records that it has taken.
-/

namespace TestData.Output

open Engine

/-- The text of records in a style, from the first on. -/
def Style.text (style : Style) (entity : String) (vs : List Value) : String :=
  String.join (style.texts entity none vs)

/-- The style of a call: what is appended has no header. -/
def Style.call (style : Style) (append : Bool) : Style :=
  { style with header := style.header && !append }

@[simp] lemma Style.format_call (style : Style) (append : Bool) :
    (style.call append).format = style.format := rfl

variable {style : Style} {entity : String} {w : World} {s s₁ s₂ : Session} {vs : List Value}
  {e : WriteError} {count : Nat}

/-! ### To a text -/

lemma writeText_of_yields (ho : obstacle? s entity = none)
    (h : Yields style.format entity w s vs s₁) :
    writeText style entity vs.length w s =
      (.ok { rows := vs.length, bytes := (style.text entity vs).utf8ByteSize },
        style.text entity vs, s₁) := by
  rw [writeText, ho]
  dsimp only
  rw [batch_of_yields h]
  rfl

lemma writeText_of_stops (ho : obstacle? s entity = none)
    (h : Yields style.format entity w s vs s₁) (hs : Stops style.format entity w s₁ e s₂)
    (hn : vs.length < count) :
    writeText style entity count w s = (.error e, style.text entity vs, s₂) := by
  rw [writeText, ho]
  dsimp only
  rw [batch_of_stops h hs hn]
  rfl

/-- A call that writes a text without an error has taken as many records as it was asked for. -/
lemma yields_of_writeText {m : Metrics} {text : String}
    (h : writeText style entity count w s = (.ok m, text, s₁)) :
    obstacle? s entity = none ∧
      ∃ vs, vs.length = count ∧ Yields style.format entity w s vs s₁ ∧
        m = { rows := count, bytes := text.utf8ByteSize } ∧ text = style.text entity vs := by
  rcases ho : obstacle? s entity with _ | e
  · refine ⟨rfl, ?_⟩
    rcases yields_or_stops style.format entity w count s with
      ⟨vs, s', rfl, hv⟩ | ⟨vs, s', e, s'', hn, hv, hs⟩
    · rw [writeText_of_yields ho hv] at h
      cases h
      exact ⟨vs, rfl, hv, rfl, rfl⟩
    · rw [writeText_of_stops ho hv hs hn] at h
      cases h
  · rw [writeText, ho] at h
    cases h

/-! ### To a file -/

section

variable {path : Files.Path} {append : Bool} {q : Files.Place} {d : Files.Disk}

lemma writeFile_opened (ho : obstacle? s entity = none)
    (hd : w.disk.openFile path append = .ok (q, d)) :
    writeFile style entity count path append w s =
      let (b, s') := batch (style.call append) entity { w with disk := d } count none s
      (b.result ((d.append q b.text.toUTF8).sizeAt q), d.append q b.text.toUTF8, s') := by
  rw [writeFile, ho, hd]
  rfl

lemma writeFile_of_yields (ho : obstacle? s entity = none)
    (hd : w.disk.openFile path append = .ok (q, d))
    (h : Yields style.format entity { w with disk := d } s vs s₁) :
    writeFile style entity vs.length path append w s =
      (.ok { rows := vs.length
             bytes := (d.append q ((style.call append).text entity vs).toUTF8).sizeAt q },
        d.append q ((style.call append).text entity vs).toUTF8, s₁) := by
  rw [← style.format_call append] at h
  rw [writeFile_opened ho hd, batch_of_yields h]
  rfl

lemma writeFile_of_stops (ho : obstacle? s entity = none)
    (hd : w.disk.openFile path append = .ok (q, d))
    (h : Yields style.format entity { w with disk := d } s vs s₁)
    (hs : Stops style.format entity { w with disk := d } s₁ e s₂) (hn : vs.length < count) :
    writeFile style entity count path append w s =
      (.error e, d.append q ((style.call append).text entity vs).toUTF8, s₂) := by
  rw [← style.format_call append] at h hs
  rw [writeFile_opened ho hd, batch_of_stops h hs hn]
  rfl

/-- A call that writes a file without an error has opened it and taken as many records as it was
asked for. -/
lemma yields_of_writeFile {m : Metrics}
    (h : (writeFile style entity count path append w s).1 = .ok m) :
    obstacle? s entity = none ∧
      ∃ q d vs s₁, w.disk.openFile path append = .ok (q, d) ∧ vs.length = count ∧
        Yields style.format entity { w with disk := d } s vs s₁ := by
  rcases ho : obstacle? s entity with _ | e
  · refine ⟨rfl, ?_⟩
    rcases hd : w.disk.openFile path append with t | ⟨q, d⟩
    · rw [writeFile, ho, hd] at h
      cases h
    · rcases yields_or_stops style.format entity { w with disk := d } count s with
        ⟨vs, s', hl, hv⟩ | ⟨vs, s', e, s'', hn, hv, hs⟩
      · exact ⟨q, d, vs, s', rfl, hl, hv⟩
      · rw [writeFile_of_stops ho hd hv hs hn] at h
        cases h
  · rw [writeFile, ho] at h
    cases h

end

end TestData.Output
