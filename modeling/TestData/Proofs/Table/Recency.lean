import Mathlib.Data.List.Induction
import TestData.Proofs.Table.Kept

/-!
A cache of tables by the recency of its keys.

The reference is a list: the keys that were answered for since the cache was emptied, the latest
first and each once. As long as no entry outlives its time, the cache keeps the entries of the
first keys of this list, as many as there is room for. Over any run the cache stays within its
bounds, and each answer is a table that was loaded for the same key, just now or less than a
lifetime ago.
-/

namespace TestData.Table

open Files

/-! ### The keys by recency -/

/-- The keys of a log, the latest first and each once. The log itself has the latest first. -/
def recency : List CacheKey → List CacheKey
  | [] => []
  | key :: log => key :: (recency log).filter (· ≠ key)

lemma nodup_recency (log : List CacheKey) : (recency log).Nodup := by
  induction log with
  | nil => exact List.nodup_nil
  | cons key log ih => exact List.nodup_cons.mpr ⟨by simp, ih.filter _⟩

lemma filter_ne_of_notMem {keys : List CacheKey} {key : CacheKey} (h : key ∉ keys) :
    keys.filter (· ≠ key) = keys := by
  refine List.filter_eq_self.mpr fun k hk => ?_
  have : k ≠ key := ne_of_mem_of_not_mem hk h
  simpa using this

/-- To leave out one key, it is enough to look at one key more. -/
lemma take_filter_ne {keys : List CacheKey} (hkeys : keys.Nodup) (key : CacheKey) (n : Nat) :
    (keys.filter (· ≠ key)).take n = ((keys.take (n + 1)).filter (· ≠ key)).take n := by
  induction keys generalizing n with
  | nil => rfl
  | cons k rest ih =>
    obtain ⟨hk, hrest⟩ := List.nodup_cons.mp hkeys
    rw [List.take_succ_cons]
    by_cases heq : k = key
    · subst heq
      have htake : k ∉ rest.take n := fun h => hk (List.mem_of_mem_take h)
      rw [List.filter_cons_of_neg (by simp), List.filter_cons_of_neg (by simp),
        filter_ne_of_notMem hk, filter_ne_of_notMem htake, List.take_take, Nat.min_self]
    · rw [List.filter_cons_of_pos (by simpa), List.filter_cons_of_pos (by simpa)]
      cases n with
      | zero => rfl
      | succ m => rw [List.take_succ_cons, List.take_succ_cons, ih hrest m]

lemma take_recency_cons {n : Nat} (hn : 0 < n) (key : CacheKey) (log : List CacheKey) :
    (recency (key :: log)).take n =
      key :: (((recency log).take n).filter (· ≠ key)).take (n - 1) := by
  obtain ⟨m, rfl⟩ : ∃ m, n = m + 1 := ⟨n - 1, by omega⟩
  have := take_filter_ne (nodup_recency log) key m
  simpa [recency] using this

namespace Cache

/-- The entries of a cache, from the one that was used last to the one that was used first, have
these keys. -/
def Ranked (c : Cache) (keys : List CacheKey) : Prop :=
  ∃ l : List CacheEntry, l.Perm c.entries ∧ l.Pairwise (fun e f => f.usedAt < e.usedAt) ∧
    l.map (·.key) = keys

/-- No entry that is kept has outlived its time at a call. -/
def AllFresh (c : Cache) : Call → Prop
  | .get r => ∀ e ∈ c.entries, c.isFresh r.now e
  | .clear => True

variable {c : Cache} {r : Request} {keys log : List CacheKey} {calls : List Call}

lemma Ranked.mem_iff (h : c.Ranked keys) (key : CacheKey) :
    key ∈ keys ↔ ∃ e ∈ c.entries, e.key = key := by
  obtain ⟨l, hperm, -, rfl⟩ := h
  simp [hperm.mem_iff]

/-! ### One use -/

/-- Among entries with distinct keys, those with another key follow an entry. -/
lemma perm_cons_filter {l : List CacheEntry} {e : CacheEntry} (hl : (l.map (·.key)).Nodup)
    (he : e ∈ l) : l.Perm (e :: l.filter (·.key ≠ e.key)) := by
  induction l with
  | nil => cases he
  | cons f rest ih =>
    obtain ⟨hf, hrest⟩ := List.nodup_cons.mp hl
    rcases List.mem_cons.mp he with rfl | he
    · have hsame : rest.filter (·.key ≠ e.key) = rest := by
        refine List.filter_eq_self.mpr fun g hg => ?_
        have : g.key ≠ e.key := ne_of_mem_of_not_mem (List.mem_map_of_mem hg) hf
        simpa using this
      rw [List.filter_cons_of_neg (by simp), hsame]
    · have hne : f.key ≠ e.key := (ne_of_mem_of_not_mem (List.mem_map_of_mem he) hf).symm
      rw [List.filter_cons_of_pos (by simpa)]
      exact ((ih hrest he).cons f).trans (List.Perm.swap _ _ _)

/-- An entry that is used now comes first. -/
lemma ranked_use {l : List CacheEntry} {e : CacheEntry} {c' : Cache}
    (hl : l.Pairwise fun e f => f.usedAt < e.usedAt) (hlater : ∀ f ∈ l, f.usedAt < e.usedAt)
    {n : Nat} (hentries : c'.entries.Perm (e :: (l.filter (·.key ≠ e.key)).take n)) :
    c'.Ranked (e.key :: ((l.map (·.key)).filter (· ≠ e.key)).take n) := by
  have hsub : ((l.filter (·.key ≠ e.key)).take n).Sublist l :=
    (List.take_sublist _ _).trans List.filter_sublist
  refine ⟨_, hentries.symm, ?_, ?_⟩
  · exact List.pairwise_cons.mpr ⟨fun f hf => hlater f (hsub.subset hf), hl.sublist hsub⟩
  · rw [List.map_cons, List.map_take, List.filter_map]
    rfl

lemma touch_perm (hc : c.Distinct) {e : CacheEntry} (he : e ∈ c.entries) (now : Nat) :
    (c.touch now e.key).entries.Perm
      ({ e with usedAt := now } :: c.entries.filter (·.key ≠ e.key)) := by
  have hmap := (perm_cons_filter hc he).map fun f =>
    if f.key = e.key then { f with usedAt := now } else f
  have hrest : (c.entries.filter (·.key ≠ e.key)).map
      (fun f => if f.key = e.key then { f with usedAt := now } else f) =
      c.entries.filter (·.key ≠ e.key) := by
    refine (List.map_congr_left fun f hf => ?_).trans (List.map_id _)
    have hne : f.key ≠ e.key := by simpa using List.of_mem_filter hf
    rw [if_neg hne, id]
  rw [List.map_cons, if_pos rfl, hrest] at hmap
  exact hmap

/-- The oldest entry is the last one by recency. -/
lemma oldest?_eq_last {l rest : List CacheEntry} {last o : CacheEntry}
    (hl : (rest ++ [last]).Pairwise fun e f => f.usedAt < e.usedAt)
    (hperm : (rest ++ [last]).Perm l) (ho : oldest? l = some o) : o = last := by
  obtain ⟨hmem, hle⟩ := oldest?_least ho
  have hlast : o.usedAt ≤ last.usedAt := hle last (hperm.mem_iff.mp (by simp))
  rcases List.mem_append.mp (hperm.mem_iff.mpr hmem) with hrest | hrest
  · have := (List.pairwise_append.mp hl).2.2 o hrest last (by simp)
    omega
  · simpa using hrest

/-- Of fresh entries, those spared for a new key are the first by recency. -/
lemma spared_perm (hc : c.Sound calls) (hfresh : c.AllFresh (.get r)) {key : CacheKey}
    (hkey : ∀ e ∈ c.entries, e.key ≠ key) {l : List CacheEntry} (hperm : l.Perm c.entries)
    (hl : l.Pairwise fun e f => f.usedAt < e.usedAt) :
    (c.spared r.now key).Perm (l.take (c.capacity - 1)) := by
  have hall : c.entries.filter (c.isFresh r.now) = c.entries := List.filter_eq_self.mpr hfresh
  have hany : c.entries.any (·.key = key) = false := by simpa using hkey
  have hlength := hperm.length_eq
  have hpos := hc.positive
  have hbound := hc.bounded
  simp only [spared, hall, hany, Bool.not_false, Bool.and_true]
  by_cases hfull : c.capacity ≤ c.entries.length
  · -- a full cache gives up the last entry
    have hne : l ≠ [] := by
      rintro rfl
      simp at hlength
      omega
    obtain ⟨rest, last, rfl⟩ : ∃ rest last, l = rest ++ [last] :=
      ⟨l.dropLast, l.getLast hne, (List.dropLast_append_getLast hne).symm⟩
    obtain ⟨o, ho⟩ := exists_oldest (l := c.entries) fun h => hne (h ▸ hperm).eq_nil
    have heq := oldest?_eq_last hl hperm ho
    subst heq
    have hsplit : (rest ++ [o]).Perm (o :: rest) := List.perm_append_singleton o rest
    have hrest := perm_cons_filter hc.distinct (oldest?_least ho).1
    have htake : (rest ++ [o]).take (c.capacity - 1) = rest := by
      refine List.take_left' ?_
      simp at hlength
      omega
    simp only [hfull, decide_true, if_true, ho, htake]
    exact ((hrest.symm.trans hperm.symm).trans hsplit).cons_inv
  · simp only [hfull, decide_false, Bool.false_eq_true, if_false]
    rw [List.take_of_length_le (by omega)]
    exact hperm.symm

/-! ### A step by recency -/

/-- The log of the keys that were answered for, after one more call. -/
def logged (c : Cache) (log : List CacheKey) : Call → List CacheKey
  | .get r =>
    match c.answer r with
    | .ok (e, _) => e.key :: log
    | .error _ => log
  | .clear => []

lemma logged_of_ok {c' : Cache} {e : CacheEntry} (h : c.answer r = .ok (e, c')) :
    c.logged log (.get r) = e.key :: log := by
  simp [logged, h]

lemma logged_of_error {err : LoadError} (h : c.answer r = .error err) :
    c.logged log (.get r) = log := by
  simp [logged, h]

lemma Ranked.touch (hc : c.Sound calls) (hclock : ∀ t ∈ times calls, t < r.now)
    {e : CacheEntry} (he : e ∈ c.entries) (h : c.Ranked ((recency log).take c.capacity)) :
    (c.touch r.now e.key).Ranked ((recency (e.key :: log)).take c.capacity) := by
  obtain ⟨l, hperm, hl, hkeys⟩ := h
  rw [take_recency_cons hc.positive, ← hkeys]
  have hlater : ∀ f ∈ l, f.usedAt < r.now := fun f hf => hc.used_lt hclock (hperm.mem_iff.mp hf)
  refine ranked_use (e := { e with usedAt := r.now }) hl hlater ?_
  have hfilter : (l.filter (·.key ≠ e.key)).length < c.capacity :=
    Nat.lt_of_lt_of_le (length_filter_key_lt (hperm.mem_iff.mpr he))
      (hperm.length_eq ▸ hc.bounded)
  rw [List.take_of_length_le (Nat.le_sub_one_of_lt hfilter)]
  exact (touch_perm hc.distinct he r.now).trans ((hperm.symm.filter _).cons _)

lemma Ranked.put (hc : c.Sound calls) (hclock : ∀ t ∈ times calls, t < r.now)
    (hfresh : c.AllFresh (.get r)) {e : CacheEntry} (hused : e.usedAt = r.now)
    (hkey : ∀ f ∈ c.entries, f.key ≠ e.key) (h : c.Ranked ((recency log).take c.capacity)) :
    (c.put r.now e).Ranked ((recency (e.key :: log)).take c.capacity) := by
  obtain ⟨l, hperm, hl, hkeys⟩ := h
  rw [take_recency_cons hc.positive, ← hkeys]
  have hlater : ∀ f ∈ l, f.usedAt < e.usedAt := fun f hf =>
    hused ▸ hc.used_lt hclock (hperm.mem_iff.mp hf)
  refine ranked_use hl hlater ?_
  have hsame : ∀ k : List CacheEntry, k ⊆ c.entries → k.filter (·.key ≠ e.key) = k := by
    intro k hk
    refine List.filter_eq_self.mpr fun f hf => ?_
    simpa using hkey f (hk hf)
  rw [put_entries, hsame _ (c.spared_sublist _ _).subset, hsame l hperm.subset]
  exact (spared_perm hc hfresh hkey hperm hl).cons e

theorem Ranked.serve (hc : c.Sound calls) {call : Call}
    (hclock : ∀ r, call = .get r → ∀ t ∈ times calls, t < r.now) (hfresh : c.AllFresh call)
    (h : c.Ranked ((recency log).take c.capacity)) :
    (c.serve call).Ranked ((recency (c.logged log call)).take c.capacity) := by
  cases call with
  | clear =>
    exact ⟨[], by simp [Cache.serve, Cache.clear], List.Pairwise.nil, by simp [logged, recency]⟩
  | get r =>
    have hend := answer_outcome hc.distinct r
    generalize hanswer : c.answer r = result at hend
    cases hend with
    | astray t hplace => rwa [serve_of_error hanswer, logged_of_error hanswer]
    | hit place hplace e he hkey hfresh =>
      rw [serve_of_ok hanswer, logged_of_ok hanswer]
      exact h.touch hc (hclock r rfl) he
    | loaded place hplace t hmiss ht =>
      rw [serve_of_ok hanswer, logged_of_ok hanswer]
      refine h.put hc (hclock r rfl) hfresh rfl fun f hf hfkey => ?_
      have := hfresh f hf
      rw [hmiss f hf hfkey] at this
      cases this
    | failed place hplace err hmiss herr => rwa [serve_of_error hanswer, logged_of_error hanswer]

/-- A request is answered with an entry that the cache has kept. -/
def Hits (c : Cache) (r : Request) : Prop :=
  ∃ e c', c.answer r = .ok (e, c') ∧ e ∈ c.entries

/-- When all entries are fresh, a request for a file is a hit for the keys that are kept. -/
lemma hits_iff (hc : c.Sound calls) (hclock : ∀ t ∈ times calls, t < r.now)
    (hfresh : c.AllFresh (.get r)) {place : Place} (hplace : r.disk.place r.path = .ok place) :
    c.Hits r ↔ ∃ e ∈ c.entries, e.key = r.key place := by
  have hend := answer_outcome hc.distinct r
  have hplaces : ∀ q, r.disk.place r.path = .ok q → q = place := fun q hq =>
    Except.ok.inj (hq.symm.trans hplace)
  unfold Hits
  generalize c.answer r = result at hend ⊢
  cases hend with
  | astray t h => rw [hplace] at h; cases h
  | hit q hq e he hkey _ =>
    obtain rfl := hplaces q hq
    exact ⟨fun _ => ⟨e, he, hkey⟩, fun _ => ⟨e, _, rfl, he⟩⟩
  | loaded q hq t hmiss ht =>
    obtain rfl := hplaces q hq
    constructor
    · -- what is loaded now cannot have been kept before
      rintro ⟨e, c', heq, he⟩
      obtain ⟨rfl, -⟩ := Prod.mk.inj (Except.ok.inj heq)
      exact absurd (hc.loaded_lt hclock he) (Nat.lt_irrefl _)
    · rintro ⟨e, he, hkey⟩
      have := hmiss e he hkey
      rw [hfresh e he] at this
      cases this
  | failed q hq err hmiss herr =>
    obtain rfl := hplaces q hq
    constructor
    · rintro ⟨e, c', heq, -⟩
      cases heq
    · rintro ⟨e, he, hkey⟩
      have := hmiss e he hkey
      rw [hfresh e he] at this
      cases this

/-- An answer is a table that is loaded now or that was loaded less than a lifetime ago. -/
lemma answer_loaded (hc : c.Sound calls) {e : CacheEntry} {c' : Cache}
    (h : c.answer r = .ok (e, c')) :
    ∃ place, r.disk.place r.path = .ok place ∧
      ∃ q, (q = r ∨ .get q ∈ calls ∧ r.now - q.now < c.lifetime) ∧
        q.disk.place q.path = .ok place ∧
        Table.load q.disk (Disk.pathOf place) r.delimiter r.noHeader = .ok e.table := by
  have hend := answer_outcome hc.distinct r
  rw [h] at hend
  cases hend with
  | hit place hplace _ he hkey hfresh =>
    obtain ⟨q, hq, hat, place', hplace', hkey', hload⟩ := hc.loaded e he
    obtain ⟨rfl, hdelimiter, hheader⟩ := CacheKey.mk.inj (hkey'.symm.trans hkey)
    have hage : r.now - q.now < c.lifetime := by simpa [isFresh, hat] using hfresh
    exact ⟨place', hplace, q, .inr ⟨hq, hage⟩, hplace', hdelimiter ▸ hheader ▸ hload⟩
  | loaded place hplace t hmiss ht => exact ⟨place, hplace, r, .inl rfl, hplace, ht⟩

end Cache

/-! ### Runs -/

/-- A cache, with the log of the keys it has answered for since it was emptied. -/
structure Watched where
  cache : Cache
  log : List CacheKey

/-- One more call. -/
def Watched.step (w : Watched) (call : Call) : Watched :=
  ⟨w.cache.serve call, w.cache.logged w.log call⟩

/-- A cache after calls. -/
def watch (c : Cache) (calls : List Call) : Watched := calls.foldl Watched.step ⟨c, []⟩

/-- No call meets an entry that has outlived its time. -/
def Unexpired (c : Cache) : List Call → Prop
  | [] => True
  | call :: rest => c.AllFresh call ∧ Unexpired (c.serve call) rest

section

variable {c : Cache} {calls : List Call} {call : Call}

lemma watch_append : watch c (calls ++ [call]) = (watch c calls).step call := by
  simp [watch]

lemma unexpired_append (log : List CacheKey) :
    Unexpired c (calls ++ [call]) ↔
      Unexpired c calls ∧ (calls.foldl Watched.step ⟨c, log⟩).cache.AllFresh call := by
  induction calls generalizing c log with
  | nil => simp [Unexpired]
  | cons first rest ih =>
    simp only [List.cons_append, Unexpired, List.foldl_cons, ih (c.logged log first), and_assoc]
    rfl

end

variable {capacity lifetime : Nat} {calls : List Call}

/-- What every run keeps. -/
lemma sound_watch (capacity lifetime : Nat) (calls : List Call) :
    let c := (watch (.empty capacity lifetime) calls).cache
    c.Sound calls ∧ c.capacity = max capacity 1 ∧ c.lifetime = lifetime := by
  induction calls using List.reverseRecOn with
  | nil => exact ⟨Cache.sound_empty _ _, rfl, rfl⟩
  | append_singleton calls call ih =>
    obtain ⟨hsound, hcapacity, hlifetime⟩ := ih
    obtain ⟨hcap, hlife⟩ := Cache.serve_limits hsound.distinct call
    rw [watch_append]
    exact ⟨hsound.serve call, hcap.trans hcapacity, hlife.trans hlifetime⟩

/-- What a run keeps in which no entry outlives its time. -/
lemma ranked_watch (hclock : (times calls).Pairwise (· < ·))
    (hfresh : Unexpired (.empty capacity lifetime) calls) :
    let w := watch (.empty capacity lifetime) calls
    w.cache.Ranked ((recency w.log).take (max capacity 1)) := by
  induction calls using List.reverseRecOn with
  | nil => exact ⟨[], List.Perm.refl _, List.Pairwise.nil, by simp [watch, recency]⟩
  | append_singleton calls call ih =>
    rw [times_append, List.pairwise_append] at hclock
    obtain ⟨hbefore, hnow⟩ := (unexpired_append []).mp hfresh
    obtain ⟨hsound, hcapacity, -⟩ := sound_watch capacity lifetime calls
    have hlater : ∀ r, call = .get r → ∀ t ∈ times calls, t < r.now := by
      rintro r rfl t ht
      exact hclock.2.2 t ht r.now (by simp [times])
    have hstep := hcapacity ▸ ih hclock.1 hbefore
    simpa [watch_append, Watched.step, hcapacity] using hstep.serve hsound hlater hnow

/-- **What a cache of tables guarantees** over any calls with a growing clock. It never has more
entries than there is room for. A request that is answered gets the table that the file had, under
just that separator and header mode, when it was loaded: now, or less than a lifetime ago. A
request that fails changes nothing. And as long as no entry outlives its time, a request for what
exists finds it kept exactly when its key is among the latest keys, as many as there is room for,
that were answered for since the cache was emptied. -/
theorem watch_keeps_latest (capacity lifetime : Nat) (calls : List Call)
    (hclock : (times calls).Pairwise (· < ·)) :
    let w := watch (.empty capacity lifetime) calls
    w.cache.size ≤ max capacity 1 ∧
    ∀ r : Request, (∀ t ∈ times calls, t < r.now) →
      (∀ e c, w.cache.answer r = .ok (e, c) →
        ∃ place, r.disk.place r.path = .ok place ∧
          ∃ q, (q = r ∨ .get q ∈ calls ∧ r.now - q.now < lifetime) ∧
            q.disk.place q.path = .ok place ∧
            Table.load q.disk (Disk.pathOf place) r.delimiter r.noHeader = .ok e.table) ∧
      (∀ err, w.cache.answer r = .error err → w.cache.serve (.get r) = w.cache) ∧
      (Unexpired (.empty capacity lifetime) (calls ++ [.get r]) →
        ∀ place, r.disk.place r.path = .ok place →
          (w.cache.Hits r ↔ r.key place ∈ (recency w.log).take (max capacity 1))) := by
  intro w
  obtain ⟨hsound, hcapacity, hlifetime⟩ := sound_watch capacity lifetime calls
  refine ⟨hcapacity ▸ hsound.bounded, fun r hnow => ⟨?_, ?_, ?_⟩⟩
  · intro e c' h
    exact hlifetime ▸ Cache.answer_loaded hsound h
  · intro err h
    exact Cache.serve_of_error h
  · intro hfresh place hplace
    obtain ⟨hbefore, hlast⟩ := (unexpired_append []).mp hfresh
    have hkept := (ranked_watch hclock hbefore).mem_iff (r.key place)
    exact (Cache.hits_iff hsound hnow hlast hplace).trans hkept.symm

/-- A run that takes less than a lifetime meets nothing that has outlived its time. -/
lemma unexpired_of_span (hspan : ∀ t ∈ times calls, ∀ u ∈ times calls, u - t < lifetime) :
    Unexpired (.empty capacity lifetime) calls := by
  induction calls using List.reverseRecOn with
  | nil => trivial
  | append_singleton calls call ih =>
    have hall : ∀ t ∈ times calls, ∀ u ∈ times calls, u - t < lifetime := fun t ht u hu =>
      hspan t (by simp [ht]) u (by simp [hu])
    refine (unexpired_append []).mpr ⟨ih hall, ?_⟩
    obtain ⟨hsound, -, hlifetime⟩ := sound_watch capacity lifetime calls
    cases call with
    | clear => trivial
    | get r =>
      intro e he
      obtain ⟨q, hq, hat, -⟩ := hsound.loaded e he
      have hage := hspan q.now (by simp [mem_times hq]) r.now (by simp [times])
      have hlife : r.now - e.loadedAt <
          (watch (.empty capacity lifetime) calls).cache.lifetime := by
        rwa [hlifetime, hat]
      exact decide_eq_true hlife

namespace Turns

/-- Two files of tables. -/
def disk : Disk :=
  { current := []
    entries := [(["a.csv"], .file "x\n1\n".toUTF8), (["b.csv"], .file "x\n2\n".toUTF8)] }

/-- A request for one of them. -/
def visit (now : Nat) (path : Path) : Request := ⟨disk, now, path, none, false⟩

/-- A run over both. -/
def visits : List Call := [.get (visit 1 "a.csv"), .get (visit 2 "b.csv")]

end Turns

open Turns in
/-- With room for one table, the second of two files is kept and the first is not. -/
theorem turns_keep_latest :
    (times visits).Pairwise (· < ·) ∧
      (watch (.empty 0 100) visits).cache.Hits (visit 3 "b.csv") ∧
      ¬ (watch (.empty 0 100) visits).cache.Hits (visit 3 "a.csv") := by
  have hclock : (times visits).Pairwise (· < ·) := by decide
  have hlaw := (watch_keeps_latest 0 100 visits hclock).2
  have hlog : (watch (.empty 0 100) visits).log =
      [⟨["b.csv"], none, false⟩, ⟨["a.csv"], none, false⟩] := by decide
  have hspan : ∀ path, ∀ t ∈ times (visits ++ [.get (visit 3 path)]),
      ∀ u ∈ times (visits ++ [.get (visit 3 path)]), u - t < 100 := by
    simp [visits, visit, times]
  refine ⟨hclock, ?_, ?_⟩
  · have hlast := (hlaw (visit 3 "b.csv") (by decide)).2.2 (unexpired_of_span (hspan _))
      ["b.csv"] (by decide)
    refine hlast.mpr ?_
    rw [hlog]
    decide
  · have hlast := (hlaw (visit 3 "a.csv") (by decide)).2.2 (unexpired_of_span (hspan _))
      ["a.csv"] (by decide)
    refine hlast.not.mpr ?_
    rw [hlog]
    decide

end TestData.Table
