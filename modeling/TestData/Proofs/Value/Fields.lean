import Mathlib.Data.List.Induction
import TestData.Proofs.Value.Pairs
import TestData.Value.Basic

/-!
Fields are a map that keeps the order of first insertions.

An insertion under a name that is there leaves the names as they are, and any other adds the name at
the end; either way the name has the new value and no other name is touched. So after a history of
insertions the names stand in the order in which the history brings them in, and each has the value
that the history has last under it. Insertions under two names can be swapped unless both are new.
-/

namespace TestData.Fields

variable {α : Type} {f : Fields α} {l history : List (String × α)} {p : String × α}
  {name k m n : String} {a b v : α}

/-! ### One insertion -/

/-- Inserting adds a name only if it is not there. -/
lemma names_put (name : String) (a : α) (l : List (String × α)) :
    (put name a l).map (·.1) =
      if name ∈ l.map (·.1) then l.map (·.1) else l.map (·.1) ++ [name] := by
  induction l with
  | nil => rfl
  | cons q l ih =>
    obtain ⟨n, b⟩ := q
    rw [put]
    by_cases hn : n = name
    · simp [hn]
    · rw [if_neg hn, List.map_cons, ih]
      split_ifs <;> simp_all [Ne.symm hn]

lemma put_of_notMem {name : String} (a : α) (h : name ∉ l.map (·.1)) :
    put name a l = l ++ [(name, a)] := by
  induction l with
  | nil => rfl
  | cons p l ih =>
    rw [List.map_cons, List.mem_cons, not_or] at h
    rw [put, if_neg fun hp => h.1 hp.symm, ih h.2, List.cons_append]

lemma lookup_put (name k : String) (a : α) (l : List (String × α)) :
    (put name a l).lookup k = if k = name then some a else l.lookup k := by
  induction l with
  | nil => exact lookup_cons_if name a [] k
  | cons p rest ih =>
    obtain ⟨n, u⟩ := p
    rw [put]
    split_ifs with hn hk hk
    · rw [lookup_cons_if, if_pos (hk.trans hn.symm)]
    · rw [lookup_cons_if, lookup_cons_if, if_neg (hn ▸ hk), if_neg (hn ▸ hk)]
    · rw [lookup_cons_if, ih, if_pos hk, if_neg (by rw [hk]; exact Ne.symm hn)]
    · rw [lookup_cons_if, lookup_cons_if, ih, if_neg hk]

lemma names_insert (f : Fields α) (name : String) (a : α) :
    (f.insert name a).names = if name ∈ f.names then f.names else f.names ++ [name] :=
  names_put name a f.entries

lemma get?_insert (f : Fields α) (name k : String) (a : α) :
    (f.insert name a).get? k = if k = name then some a else f.get? k :=
  lookup_put name k a f.entries

lemma mem_names_insert : k ∈ (f.insert name a).names ↔ k ∈ f.names ∨ k = name := by
  rw [names_insert]
  split_ifs with h
  · exact ⟨.inl, fun hk => hk.elim id fun hk => hk ▸ h⟩
  · rw [List.mem_append, List.mem_singleton]

/-! ### Two insertions -/

/-- A name that is there keeps its place, whatever is inserted under another name. -/
lemma put_put_of_mem (hne : m ≠ n) (hm : m ∈ l.map (·.1)) :
    put n b (put m a l) = put m a (put n b l) := by
  induction l with
  | nil => cases hm
  | cons p l ih =>
    obtain ⟨i, c⟩ := p
    by_cases him : i = m
    · simp [put, him, hne]
    · have hrest : m ∈ l.map (·.1) := (List.mem_cons.mp hm).resolve_left (Ne.symm him)
      by_cases hin : i = n
      · simp [put, hin, hne.symm]
      · simp [put, him, hin, ih hrest]

/-- **Insertions under two names can be swapped** unless both names are new. -/
theorem insert_insert_comm_iff (hne : m ≠ n) :
    (f.insert m a).insert n b = (f.insert n b).insert m a ↔ m ∈ f.names ∨ n ∈ f.names := by
  constructor
  · intro h
    by_contra hnew
    obtain ⟨hm, hn⟩ := not_or.mp hnew
    have hnames := congrArg names h
    simp [names_insert, hm, hn, hne, hne.symm] at hnames
  · rintro (hm | hn)
    · exact congrArg mk (put_put_of_mem hne hm)
    · exact congrArg mk (put_put_of_mem hne.symm hn).symm

/-! ### Names, values and entries -/

lemma get?_eq_none_iff : f.get? k = none ↔ k ∉ f.names := lookup_eq_none_iff_notMem

lemma has_iff : f.has k = true ↔ k ∈ f.names := by
  rw [has, Option.isSome_iff_ne_none, ne_eq, get?_eq_none_iff, not_not]

/-- Where no name stands twice, the entries are the names in order, each with its value. -/
lemma entries_eq (h : f.names.Nodup) :
    f.entries.map (fun p => (p.1, some p.2)) = f.names.map fun k => (k, f.get? k) := by
  rw [names, List.map_map]
  refine List.map_congr_left fun p hp => ?_
  have hget : f.get? p.1 = some p.2 := (lookup_iff_mem h).mpr hp
  rw [Function.comp_apply, hget]

/-! ### Histories of insertions -/

/-- What holds of fields after a history of insertions, first one first. -/
structure Follows (f : Fields α) (history : List (String × α)) : Prop where
  /-- The names are those that were inserted. -/
  mem_names (k : String) : k ∈ f.names ↔ k ∈ history.map (·.1)
  /-- A name stands before another if it was inserted first. -/
  ordered : f.names.Pairwise fun m n =>
    (history.map (·.1)).idxOf m < (history.map (·.1)).idxOf n
  /-- A name has the value that was inserted last. -/
  get?_eq (k : String) : f.get? k = history.reverse.lookup k

namespace Follows

lemma nodup (h : f.Follows history) : f.names.Nodup := by
  refine h.ordered.imp fun hlt => ?_
  rintro rfl
  exact Nat.lt_irrefl _ hlt

lemma empty : (empty : Fields α).Follows [] := ⟨fun _ => Iff.rfl, .nil, fun _ => rfl⟩

/-- One more insertion. -/
lemma insert (h : f.Follows history) (name : String) (a : α) :
    (f.insert name a).Follows (history ++ [(name, a)]) := by
  -- Where a name was inserted first is not changed by what comes later.
  have hkept : ∀ k ∈ f.names, (history.map (·.1) ++ [name]).idxOf k =
      (history.map (·.1)).idxOf k := fun k hk =>
    List.idxOf_append_of_mem ((h.mem_names k).mp hk)
  have hordered : f.names.Pairwise fun m n =>
      (history.map (·.1) ++ [name]).idxOf m < (history.map (·.1) ++ [name]).idxOf n :=
    h.ordered.imp_of_mem fun hm hn hlt => by rwa [hkept _ hm, hkept _ hn]
  refine ⟨fun k => ?_, ?_, fun k => ?_⟩
  · rw [mem_names_insert, h.mem_names, List.map_append, List.mem_append, List.map_singleton,
      List.mem_singleton]
  · rw [List.map_append, List.map_singleton, names_insert]
    split_ifs with hname
    · exact hordered
    · refine List.pairwise_append.mpr ⟨hordered, List.pairwise_singleton _ _, fun k hk m hm => ?_⟩
      obtain rfl := List.mem_singleton.mp hm
      rw [hkept k hk, List.idxOf_append_of_notMem (mt (h.mem_names m).mpr hname)]
      exact Nat.lt_add_right _ (List.idxOf_lt_length_iff.mpr ((h.mem_names k).mp hk))
  · rw [get?_insert, h.get?_eq, List.reverse_append, List.reverse_singleton,
      List.singleton_append, lookup_cons_if]

end Follows

lemma ofList_snoc (l : List (String × α)) (name : String) (a : α) :
    ofList (l ++ [(name, a)]) = (ofList l).insert name a := by
  simp [ofList, List.foldl_append]

/-- **What is made by inserting follows what was inserted.** -/
theorem ofList_follows (l : List (String × α)) : (ofList l).Follows l := by
  induction l using List.reverseRecOn with
  | nil => exact .empty
  | append_singleton l p ih =>
    obtain ⟨name, a⟩ := p
    rw [ofList_snoc]
    exact ih.insert name a

/-- Only what was inserted is there. -/
lemma mem_of_mem_ofList (h : p ∈ (ofList l).entries) : p ∈ l := by
  have hget : (ofList l).get? p.1 = some p.2 := (lookup_iff_mem (ofList_follows l).nodup).mpr h
  rw [(ofList_follows l).get?_eq] at hget
  obtain ⟨earlier, later, rfl, -⟩ := lookup_reverse_eq_some_iff.mp hget
  simp

/-- Pairs with distinct names are the fields that they make. -/
lemma entries_ofList (h : (l.map (·.1)).Nodup) : (ofList l).entries = l := by
  induction l using List.reverseRecOn with
  | nil => rfl
  | append_singleton l p ih =>
    obtain ⟨name, a⟩ := p
    rw [List.map_append, List.nodup_append] at h
    obtain ⟨hl, -, hdisjoint⟩ := h
    have hname : name ∉ l.map (·.1) := fun hmem => hdisjoint name hmem name (by simp) rfl
    rw [ofList_snoc, Fields.insert, ih hl, put_of_notMem a hname]

/-- **Fields are a map that keeps the order of first insertions.** However names repeat in what is
inserted, each stands once and in the order of the first insertions, with the value of the last.
Lookups, names, entries and size tell the same, and two insertions under different names give the
same fields in either order exactly if one of the names is there. -/
theorem insertions_make_ordered_map (history : List (String × α)) {f : Fields α}
    (hf : history.foldl (fun f p => f.insert p.1 p.2) empty = f) :
    ofList history = f ∧
      (f.names.Nodup ∧ (∀ k, k ∈ f.names ↔ k ∈ history.map (·.1)) ∧
        f.names.Pairwise fun m n =>
          (history.map (·.1)).idxOf m < (history.map (·.1)).idxOf n) ∧
      (∀ k, (f.get? k = none ↔ k ∉ history.map (·.1)) ∧
        ∀ v, f.get? k = some v ↔
          ∃ earlier later, history = earlier ++ (k, v) :: later ∧ k ∉ later.map (·.1)) ∧
      (∀ k, f.has k = true ↔ k ∈ f.names) ∧
      f.entries.map (fun p => (p.1, some p.2)) = f.names.map (fun k => (k, f.get? k)) ∧
      f.size = f.names.length ∧
      ∀ m n, m ≠ n → ∀ a b,
        (f.insert m a).insert n b = (f.insert n b).insert m a ↔ m ∈ f.names ∨ n ∈ f.names := by
  obtain rfl : ofList history = f := hf
  have h := ofList_follows history
  refine ⟨rfl, ⟨h.nodup, h.mem_names, h.ordered⟩, fun k => ⟨?_, fun v => ?_⟩, fun k => has_iff,
    entries_eq h.nodup, (List.length_map _).symm, fun m n hne a b => insert_insert_comm_iff hne⟩
  · rw [get?_eq_none_iff, h.mem_names]
  · rw [h.get?_eq, lookup_reverse_eq_some_iff]

/-- Fields with a value that is inserted twice. -/
def replaced : Fields Value := ofList [("a", .int 1), ("b", .int 2), ("a", .int 3)]

/-- The name with two values keeps its first place and its last value, and the next insertions under
the two names can be swapped. -/
theorem ordered_map_of_replaced_value :
    [("a", Value.int 1), ("b", .int 2), ("a", .int 3)].foldl (fun f p => f.insert p.1 p.2) empty =
        replaced ∧
      replaced.names = ["a", "b"] ∧ replaced.get? "a" = some (.int 3) ∧
      replaced.get? "c" = none ∧ replaced.size = 2 ∧ "a" ≠ "b" ∧
      (replaced.insert "a" .null).insert "b" (.bool true) =
        (replaced.insert "b" (.bool true)).insert "a" .null := by
  have hf : [("a", Value.int 1), ("b", .int 2), ("a", .int 3)].foldl
      (fun f p => f.insert p.1 p.2) empty = replaced := rfl
  obtain ⟨-, -, hget, -, -, hsize, hcomm⟩ := insertions_make_ordered_map _ hf
  refine ⟨hf, rfl, ((hget "a").2 (.int 3)).mpr ?_, (hget "c").1.mpr (by decide), hsize,
    by decide, (hcomm "a" "b" (by decide) _ _).mpr (.inl (by decide))⟩
  exact ⟨[("a", .int 1), ("b", .int 2)], [], rfl, by decide⟩

end TestData.Fields
