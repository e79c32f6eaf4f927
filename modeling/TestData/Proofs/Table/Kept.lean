import Mathlib.Data.List.Nodup
import TestData.Table.Cache

/-!
What a cache of tables keeps over a run of calls.

A request for a table ends in one of four ways: the path leads nowhere, a fresh entry answers it,
the file is loaded, or the file cannot be loaded. From these cases follows what every run keeps:
no key twice, no more entries than there is room for, and each entry as it was loaded.
-/

namespace TestData.Table

open Files

/-- A request for the table of a file, with the disk and the time it is made at. -/
structure Request where
  disk : Disk
  now : Nat
  path : Path
  delimiter : Option Delimiter
  noHeader : Bool

namespace Request

variable (r : Request)

/-- What the table of a place is kept under for a request. -/
def key (place : Place) : CacheKey := ⟨place, r.delimiter, r.noHeader⟩

/-- Reads the table that a request asks for. -/
def load (place : Place) : Except LoadError Table :=
  Table.load r.disk (Disk.pathOf place) r.delimiter r.noHeader

/-- The entry for a table that is loaded at a request. -/
def entry (place : Place) (t : Table) : CacheEntry := ⟨r.key place, t, r.now, r.now⟩

/-- An entry has the table that a request has loaded. -/
def Loads (e : CacheEntry) : Prop :=
  e.loadedAt = r.now ∧ ∃ place, r.disk.place r.path = .ok place ∧ e.key = r.key place ∧
    r.load place = .ok e.table

variable {r}

lemma loads_entry {place : Place} {t : Table} (hplace : r.disk.place r.path = .ok place)
    (ht : r.load place = .ok t) : r.Loads (r.entry place t) :=
  ⟨rfl, place, hplace, rfl, ht⟩

end Request

/-- What a cache is called for. -/
inductive Call
  | get (r : Request)
  | clear

/-- The times of the requests among calls. -/
def times : List Call → List Nat
  | [] => []
  | .get r :: rest => r.now :: times rest
  | .clear :: rest => times rest

@[simp] lemma times_append (calls more : List Call) :
    times (calls ++ more) = times calls ++ times more := by
  induction calls with
  | nil => rfl
  | cons call rest ih => cases call <;> simp [times, ih]

lemma mem_times {calls : List Call} {r : Request} (h : Call.get r ∈ calls) :
    r.now ∈ times calls := by
  induction calls with
  | nil => cases h
  | cons call rest ih =>
    rcases List.mem_cons.mp h with rfl | hrest
    · exact List.mem_cons_self
    · cases call with
      | get q => exact List.mem_cons_of_mem _ (ih hrest)
      | clear => exact ih hrest

namespace Cache

/-- An empty cache with any lifetime. -/
def empty (capacity lifetime : Nat) : Cache := ⟨max capacity 1, lifetime, []⟩

lemma new_eq_empty (capacity seconds : Nat) :
    new capacity seconds = empty capacity (seconds * 1000000000) := rfl

/-- What a cache answers to a request. -/
def answer (c : Cache) (r : Request) : Except LoadError (CacheEntry × Cache) :=
  c.get r.disk r.now r.path r.delimiter r.noHeader

/-- The cache after a call. -/
def serve (c : Cache) : Call → Cache
  | .get r =>
    match c.answer r with
    | .ok (_, c') => c'
    | .error _ => c
  | .clear => c.clear

lemma serve_of_ok {c c' : Cache} {r : Request} {e : CacheEntry} (h : c.answer r = .ok (e, c')) :
    c.serve (.get r) = c' := by
  simp [serve, h]

lemma serve_of_error {c : Cache} {r : Request} {err : LoadError} (h : c.answer r = .error err) :
    c.serve (.get r) = c := by
  simp [serve, h]

/-- The entries that stay when something is put under a key: the fresh ones, without the oldest
of them where it has to make room. -/
def spared (c : Cache) (now : Nat) (key : CacheKey) : List CacheEntry :=
  let fresh := c.entries.filter (c.isFresh now)
  if c.capacity ≤ fresh.length && !fresh.any (·.key = key) then
    match oldest? fresh with
    | some o => fresh.filter (·.key ≠ o.key)
    | none => fresh
  else fresh

lemma put_entries (c : Cache) (now : Nat) (e : CacheEntry) :
    (c.put now e).entries = e :: (c.spared now e.key).filter (·.key ≠ e.key) := rfl

/-! ### The oldest entry -/

lemma exists_oldest {l : List CacheEntry} (h : l ≠ []) : ∃ o, oldest? l = some o := by
  cases l with
  | nil => exact absurd rfl h
  | cons e rest =>
    unfold oldest?
    split
    · exact ⟨e, rfl⟩
    · split <;> exact ⟨_, rfl⟩

lemma oldest?_least {l : List CacheEntry} {o : CacheEntry} (h : oldest? l = some o) :
    o ∈ l ∧ ∀ e ∈ l, o.usedAt ≤ e.usedAt := by
  induction l generalizing o with
  | nil => cases h
  | cons e rest ih =>
    cases hrest : oldest? rest with
    | none =>
      have hnil : rest = [] := by
        by_contra hne
        obtain ⟨f, hf⟩ := exists_oldest hne
        rw [hrest] at hf
        cases hf
      have ho : e = o := by simpa [oldest?, hnil] using h
      simp [hnil, ho]
    | some f =>
      obtain ⟨hmem, hle⟩ := ih hrest
      simp only [oldest?, hrest] at h
      by_cases hef : e.usedAt ≤ f.usedAt
      · have ho : e = o := by simpa [hef] using h
        subst ho
        refine ⟨List.mem_cons_self, fun g hg => ?_⟩
        rcases List.mem_cons.mp hg with rfl | hg
        · omega
        · have := hle g hg
          omega
      · have ho : f = o := by simpa [hef] using h
        subst ho
        refine ⟨List.mem_cons_of_mem _ hmem, fun g hg => ?_⟩
        rcases List.mem_cons.mp hg with rfl | hg
        · omega
        · exact hle g hg

/-! ### The ends of a request -/

/-- The ways in which a request can end. -/
inductive Outcome (c : Cache) (r : Request) : Except LoadError (CacheEntry × Cache) → Prop
  | astray (t : Trouble) (hplace : r.disk.place r.path = .error t) :
    Outcome c r (.error (.ofTrouble r.path t))
  | hit (place : Place) (hplace : r.disk.place r.path = .ok place) (e : CacheEntry)
    (he : e ∈ c.entries) (hkey : e.key = r.key place) (hfresh : c.isFresh r.now e) :
    Outcome c r (.ok (e, c.touch r.now e.key))
  | loaded (place : Place) (hplace : r.disk.place r.path = .ok place) (t : Table)
    (hmiss : ∀ e ∈ c.entries, e.key = r.key place → c.isFresh r.now e = false)
    (ht : r.load place = .ok t) :
    Outcome c r (.ok (r.entry place t, c.put r.now (r.entry place t)))
  | failed (place : Place) (hplace : r.disk.place r.path = .ok place) (err : LoadError)
    (hmiss : ∀ e ∈ c.entries, e.key = r.key place → c.isFresh r.now e = false)
    (herr : r.load place = .error err) :
    Outcome c r (.error err)

/-- No key is kept twice. -/
def Distinct (c : Cache) : Prop := (c.entries.map (·.key)).Nodup

lemma Distinct.eq_of_key {c : Cache} (hc : c.Distinct) {e f : CacheEntry} (he : e ∈ c.entries)
    (hf : f ∈ c.entries) (hkey : e.key = f.key) : e = f :=
  List.inj_on_of_nodup_map hc he hf hkey

lemma outcome_of_miss {c : Cache} {r : Request} {place : Place}
    (hplace : r.disk.place r.path = .ok place)
    (hmiss : ∀ e ∈ c.entries, e.key = r.key place → c.isFresh r.now e = false)
    (hload : c.answer r = (do
      let t ← r.load place
      return (r.entry place t, c.put r.now (r.entry place t)))) :
    Outcome c r (c.answer r) := by
  rw [hload]
  cases ht : r.load place with
  | ok t => exact .loaded place hplace t hmiss ht
  | error err => exact .failed place hplace err hmiss ht

theorem answer_outcome {c : Cache} (hc : c.Distinct) (r : Request) :
    Outcome c r (c.answer r) := by
  cases hplace : r.disk.place r.path with
  | error t =>
    have hanswer : c.answer r = .error (.ofTrouble r.path t) := by simp [answer, get, hplace]; rfl
    rw [hanswer]
    exact .astray t hplace
  | ok place =>
    cases hfind : c.entries.find? (·.key = r.key place) with
    | none =>
      have hmiss : ∀ e ∈ c.entries, e.key = r.key place → c.isFresh r.now e = false := by
        intro e he hkey
        have := List.find?_eq_none.mp hfind e he
        simp [hkey] at this
      refine outcome_of_miss hplace hmiss ?_
      unfold Request.key at hfind
      simp [answer, get, hplace, hfind]
      rfl
    | some e =>
      have he : e ∈ c.entries := List.mem_of_find?_eq_some hfind
      have hkey : e.key = r.key place := by simpa using List.find?_some hfind
      unfold Request.key at hfind
      by_cases hfresh : c.isFresh r.now e
      · have hanswer : c.answer r = .ok (e, c.touch r.now e.key) := by
          rw [hkey]
          simp [answer, get, hplace, hfind, hfresh]
          rfl
        rw [hanswer]
        exact .hit place hplace e he hkey hfresh
      · have hmiss : ∀ f ∈ c.entries, f.key = r.key place → c.isFresh r.now f = false := by
          intro f hf hfkey
          rw [hc.eq_of_key hf he (hfkey.trans hkey.symm)]
          simpa using hfresh
        refine outcome_of_miss hplace hmiss ?_
        simp [answer, get, hplace, hfind, hfresh]
        rfl

lemma serve_limits {c : Cache} (hc : c.Distinct) (call : Call) :
    (c.serve call).capacity = c.capacity ∧ (c.serve call).lifetime = c.lifetime := by
  cases call with
  | clear => exact ⟨rfl, rfl⟩
  | get r =>
    have hend := answer_outcome hc r
    generalize hanswer : c.answer r = result at hend
    cases hend with
    | hit => rw [serve_of_ok hanswer]; exact ⟨rfl, rfl⟩
    | loaded => rw [serve_of_ok hanswer]; exact ⟨rfl, rfl⟩
    | astray => rw [serve_of_error hanswer]; exact ⟨rfl, rfl⟩
    | failed => rw [serve_of_error hanswer]; exact ⟨rfl, rfl⟩

/-! ### What is kept -/

lemma spared_sublist (c : Cache) (now : Nat) (key : CacheKey) :
    (c.spared now key).Sublist c.entries := by
  have hfresh : (c.entries.filter (c.isFresh now)).Sublist c.entries := List.filter_sublist
  simp only [spared]
  split
  · split
    · exact List.filter_sublist.trans hfresh
    · exact hfresh
  · exact hfresh

lemma length_filter_key_lt {l : List CacheEntry} {e : CacheEntry} (he : e ∈ l) :
    (l.filter (·.key ≠ e.key)).length < l.length :=
  List.length_filter_lt_length_iff_exists.mpr ⟨e, he, by simp⟩

/-- Without the key itself, the spared entries leave room for one more. -/
lemma length_spared_lt {c : Cache} (hpos : 0 < c.capacity) (hle : c.entries.length ≤ c.capacity)
    (now : Nat) (key : CacheKey) :
    ((c.spared now key).filter (·.key ≠ key)).length < c.capacity := by
  have hfresh : (c.entries.filter (c.isFresh now)).length ≤ c.capacity :=
    Nat.le_trans (List.length_filter_le _ _) hle
  simp only [spared]
  generalize c.entries.filter (c.isFresh now) = fresh at hfresh
  by_cases hkey : ∃ e ∈ fresh, e.key = key
  · -- what stands under the key goes
    obtain ⟨e, he, rfl⟩ := hkey
    have hany : fresh.any (·.key = e.key) = true := List.any_eq_true.mpr ⟨e, he, by simp⟩
    have := length_filter_key_lt he
    simp only [hany, Bool.not_true, Bool.and_false, Bool.false_eq_true, if_false]
    omega
  · have hany : fresh.any (·.key = key) = false := by
      simpa using fun e he => fun h => hkey ⟨e, he, h⟩
    by_cases hfull : c.capacity ≤ fresh.length
    · -- the oldest entry goes
      have hne : fresh ≠ [] := by
        rintro rfl
        simp at hfull
        omega
      obtain ⟨o, ho⟩ := exists_oldest hne
      have hlt := length_filter_key_lt (oldest?_least ho).1
      have := List.length_filter_le (·.key ≠ key) (fresh.filter (·.key ≠ o.key))
      simp only [hfull, hany, ho, decide_true, Bool.not_false, Bool.and_true, if_true]
      omega
    · have := List.length_filter_le (·.key ≠ key) fresh
      simp only [hfull, decide_false, Bool.false_and, Bool.false_eq_true, if_false]
      omega

/-- What holds of a cache after some calls: no key is kept twice, there is room for all entries,
and a request among the calls has loaded each entry and a request has last used it. -/
structure Sound (calls : List Call) (c : Cache) : Prop where
  positive : 0 < c.capacity
  distinct : c.Distinct
  bounded : c.entries.length ≤ c.capacity
  loaded : ∀ e ∈ c.entries, ∃ q, .get q ∈ calls ∧ q.Loads e
  used : ∀ e ∈ c.entries, ∃ q, .get q ∈ calls ∧ q.now = e.usedAt

lemma sound_empty (capacity lifetime : Nat) : (empty capacity lifetime).Sound [] where
  positive := by
    simp only [empty]
    omega
  distinct := by simp [empty, Distinct]
  bounded := by simp [empty]
  loaded := by simp [empty]
  used := by simp [empty]

namespace Sound

variable {calls : List Call} {c : Cache} {r : Request}

lemma used_lt (h : c.Sound calls) {now : Nat} (hclock : ∀ t ∈ times calls, t < now)
    {e : CacheEntry} (he : e ∈ c.entries) : e.usedAt < now := by
  obtain ⟨q, hq, hnow⟩ := h.used e he
  exact hnow ▸ hclock _ (mem_times hq)

lemma loaded_lt (h : c.Sound calls) {now : Nat} (hclock : ∀ t ∈ times calls, t < now)
    {e : CacheEntry} (he : e ∈ c.entries) : e.loadedAt < now := by
  obtain ⟨q, hq, hload⟩ := h.loaded e he
  exact hload.1 ▸ hclock _ (mem_times hq)

lemma mono (h : c.Sound calls) (call : Call) : c.Sound (calls ++ [call]) where
  positive := h.positive
  distinct := h.distinct
  bounded := h.bounded
  loaded e he :=
    let ⟨q, hq, hload⟩ := h.loaded e he
    ⟨q, List.mem_append_left _ hq, hload⟩
  used e he :=
    let ⟨q, hq, hnow⟩ := h.used e he
    ⟨q, List.mem_append_left _ hq, hnow⟩

lemma touch (h : c.Sound calls) (r : Request) (key : CacheKey) :
    (c.touch r.now key).Sound (calls ++ [.get r]) where
  positive := h.positive
  distinct := by
    have hkeys : (c.touch r.now key).entries.map (·.key) = c.entries.map (·.key) := by
      simp only [Cache.touch, List.map_map]
      refine List.map_congr_left fun e _ => ?_
      by_cases hk : e.key = key <;> simp [hk]
    simpa [Distinct, hkeys] using h.distinct
  bounded := by simpa [Cache.touch] using h.bounded
  loaded f hf := by
    obtain ⟨e, he, rfl⟩ := List.mem_map.mp hf
    obtain ⟨q, hq, hload⟩ := h.loaded e he
    refine ⟨q, List.mem_append_left _ hq, ?_⟩
    split <;> exact hload
  used f hf := by
    obtain ⟨e, he, rfl⟩ := List.mem_map.mp hf
    split
    · exact ⟨r, by simp, rfl⟩
    · obtain ⟨q, hq, hnow⟩ := h.used e he
      exact ⟨q, List.mem_append_left _ hq, hnow⟩

lemma put (h : c.Sound calls) {e : CacheEntry} (hload : r.Loads e) (hused : e.usedAt = r.now) :
    (c.put r.now e).Sound (calls ++ [.get r]) where
  positive := h.positive
  distinct := by
    have hsub := (c.spared_sublist r.now e.key).map (·.key)
    have hnodup : ((c.spared r.now e.key).map (·.key)).Nodup := hsub.nodup h.distinct
    have hrest := List.filter_sublist (p := (·.key ≠ e.key)) (l := c.spared r.now e.key)
    rw [Distinct, put_entries, List.map_cons, List.nodup_cons]
    exact ⟨by simp, (hrest.map _).nodup hnodup⟩
  bounded := by
    have := length_spared_lt h.positive h.bounded r.now e.key
    rw [put_entries, List.length_cons]
    exact this
  loaded f hf := by
    rw [put_entries] at hf
    rcases List.mem_cons.mp hf with rfl | hf
    · exact ⟨r, by simp, hload⟩
    · have hmem : f ∈ c.entries := (c.spared_sublist _ _).subset (List.mem_of_mem_filter hf)
      obtain ⟨q, hq, hload⟩ := h.loaded f hmem
      exact ⟨q, List.mem_append_left _ hq, hload⟩
  used f hf := by
    rw [put_entries] at hf
    rcases List.mem_cons.mp hf with rfl | hf
    · exact ⟨r, by simp, hused.symm⟩
    · have hmem : f ∈ c.entries := (c.spared_sublist _ _).subset (List.mem_of_mem_filter hf)
      obtain ⟨q, hq, hnow⟩ := h.used f hmem
      exact ⟨q, List.mem_append_left _ hq, hnow⟩

theorem serve (h : c.Sound calls) (call : Call) : (c.serve call).Sound (calls ++ [call]) := by
  cases call with
  | clear =>
    exact
      { positive := h.positive
        distinct := by simp [Cache.serve, Cache.clear, Distinct]
        bounded := by simp [Cache.serve, Cache.clear]
        loaded := by simp [Cache.serve, Cache.clear]
        used := by simp [Cache.serve, Cache.clear] }
  | get r =>
    have hend := answer_outcome h.distinct r
    generalize hanswer : c.answer r = result at hend
    cases hend with
    | astray t hplace =>
      rw [serve_of_error hanswer]
      exact h.mono _
    | hit place hplace e he hkey hfresh =>
      rw [serve_of_ok hanswer]
      exact h.touch r e.key
    | loaded place hplace t hmiss ht =>
      rw [serve_of_ok hanswer]
      exact h.put (Request.loads_entry hplace ht) rfl
    | failed place hplace err hmiss herr =>
      rw [serve_of_error hanswer]
      exact h.mono _

end Sound

end Cache

end TestData.Table
