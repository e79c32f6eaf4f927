import TestData.Proofs.Random.Uniform
import TestData.Proofs.Session.Tells
import TestData.Proofs.Table.Kept
import TestData.Proofs.Table.Regular

/-!
Nodes that draw rows of a table always have one.

Only tables that were read come into the cache of a session, and only tables of the cache into its
generators. Requests ask for tables in the middle of evaluations, so the argument goes through the
layers of an evaluation once more, for what it keeps of the tables.
-/

namespace TestData

/-! ### The cache -/

namespace Table

open Files

variable {disk : Disk} {p : Path} {delimiter : Option Delimiter} {noHeader : Bool} {t : Table}

lemma regular_of_load (h : load disk p delimiter noHeader = .ok t) : t.Regular := by
  unfold load at h
  rcases htext : disk.text p with e | text <;> rw [htext] at h
  · cases h
  · dsimp only [readAt] at h
    rcases hread : read text delimiter noHeader with (e | e) | u <;> rw [hread] at h
    · cases h
    · cases h
    · obtain rfl := Except.ok.inj h
      exact regular_of_read hread

namespace Cache

variable {c c' : Cache} {now : Nat} {e : CacheEntry}

/-- What a cache answers with is in it already, or is loaded and put in. -/
lemma get_cases (h : c.get disk now p delimiter noHeader = .ok (e, c')) :
    (e ∈ c.entries ∧ c' = c.touch now e.key) ∨
      (∃ q, load disk q delimiter noHeader = .ok e.table) ∧ c' = c.put now e := by
  rcases hplace : disk.place p with trouble | place
  · simp [get, hplace] at h
    cases h
  · have hmiss : (do
        let table ← load disk (Disk.pathOf place) delimiter noHeader
        let e : CacheEntry := ⟨⟨place, delimiter, noHeader⟩, table, now, now⟩
        return (e, c.put now e)) = Except.ok (e, c') →
        (∃ q, load disk q delimiter noHeader = .ok e.table) ∧ c' = c.put now e := by
      intro h
      rcases ht : load disk (Disk.pathOf place) delimiter noHeader with err | t <;> rw [ht] at h
      · cases h
      · obtain ⟨rfl, rfl⟩ := Prod.mk.inj (Except.ok.inj h)
        exact ⟨⟨_, ht⟩, rfl⟩
    rcases hfind : c.entries.find? (·.key = ⟨place, delimiter, noHeader⟩) with _ | found
    · refine .inr (hmiss ?_)
      rw [← h]
      simp [get, hplace, hfind]
    · by_cases hfresh : c.isFresh now found
      · have hkey : found.key = ⟨place, delimiter, noHeader⟩ := by
          simpa using List.find?_some hfind
        have hanswer : c.get disk now p delimiter noHeader =
            .ok (found, c.touch now found.key) := by
          rw [hkey]
          simp [get, hplace, hfind, hfresh]
          rfl
        rw [hanswer] at h
        obtain ⟨rfl, rfl⟩ := Prod.mk.inj (Except.ok.inj h)
        exact .inl ⟨List.mem_of_find?_eq_some hfind, rfl⟩
      · refine .inr (hmiss ?_)
        rw [← h]
        simp [get, hplace, hfind, hfresh]

/-- All tables of a cache are regular. -/
def Stocked (c : Cache) : Prop := ∀ e ∈ c.entries, e.table.Regular

namespace Stocked

lemma touch (h : c.Stocked) (now : Nat) (key : CacheKey) : (c.touch now key).Stocked := by
  intro f hf
  obtain ⟨e, he, rfl⟩ := List.mem_map.mp hf
  split <;> exact h e he

lemma put (h : c.Stocked) (now : Nat) (he : e.table.Regular) : (c.put now e).Stocked := by
  intro f hf
  rw [put_entries] at hf
  rcases List.mem_cons.mp hf with rfl | hf
  · exact he
  · exact h f ((c.spared_sublist now e.key).subset (List.mem_of_mem_filter hf))

lemma get (h : c.Stocked) (hget : c.get disk now p delimiter noHeader = .ok (e, c')) :
    e.table.Regular ∧ c'.Stocked := by
  rcases get_cases hget with ⟨he, rfl⟩ | ⟨⟨q, hload⟩, rfl⟩
  · exact ⟨h e he, h.touch now e.key⟩
  · have he := regular_of_load hload
    exact ⟨he, h.put now he⟩

end Stocked

end Cache

end Table

namespace Engine

open Schema

variable {w : World} {s s' : Session} {n m : NodeRef} {c : Call} {g : Generator}
  {value : NodeRef → Eval (Option Value)}

/-! ### Sessions -/

/-- If a generator draws from a table, the table is regular. -/
def Generator.Drawable (g : Generator) : Prop := ∀ t, g = .table t → t.Regular

/-- All tables of a session are regular, those of its cache and those of its generators. -/
structure Session.Stocked (s : Session) : Prop where
  cache : s.tables.Stocked
  generators : s.Holds fun _ => Generator.Drawable

/-- An evaluation keeps what is known, and that all tables are regular. -/
def Stocks (s s' : Session) : Prop := Keeps s s' ∧ (s.Stocked → s'.Stocked)

namespace Stocks

protected lemma refl (s : Session) : Stocks s s := ⟨.refl s, id⟩

protected lemma trans {s₁ s₂ s₃ : Session} (h : Stocks s₁ s₂) (h' : Stocks s₂ s₃) :
    Stocks s₁ s₃ :=
  ⟨h.1.trans h'.1, h'.2 ∘ h.2⟩

lemma source (s : Session) (src : Random.Source) : Stocks s { s with source := src } :=
  ⟨Keeps.passive.source s src, fun h => ⟨h.cache, h.generators⟩⟩

end Stocks

/-- A session that asks for a table is given a regular one. -/
lemma Session.Stocked.loadTable (h : s.Stocked) (disk : Files.Disk) (p : Files.Path)
    (delimiter : Option Table.Delimiter) (noHeader : Bool) :
    (s.loadTable disk p delimiter noHeader).2.Stocked ∧
      ∀ t, (s.loadTable disk p delimiter noHeader).1 = .ok t → t.Regular := by
  unfold Session.loadTable
  dsimp only
  rcases hget : s.tables.get disk (s.requests + 1) p delimiter noHeader with err | ⟨e, tables⟩
  · exact ⟨⟨h.cache, h.generators⟩, nofun⟩
  · obtain ⟨he, htables⟩ := h.cache.get hget
    exact ⟨⟨htables, h.generators⟩, fun t ht => Except.ok.inj ht ▸ he⟩

/-- The table that a node asks for is regular. -/
lemma Session.Stocked.table (h : s.Stocked) {source : TableSource} {r : Except Failure Table}
    (hx : (Eval.table n source).exec w s = (r, s')) :
    s'.Stocked ∧ ∀ t, r = .ok t → t.Regular := by
  unfold Eval.table at hx
  simp only [Eval.exec_bind, Eval.exec_get, Eval.exec_read, Eval.exec_set] at hx
  obtain ⟨hs, ht⟩ := h.loadTable w.disk
    ((s.workspace.document n.document).resolvePath source.path) source.delimiter source.noHeader
  generalize s.loadTable w.disk ((s.workspace.document n.document).resolvePath source.path)
    source.delimiter source.noHeader = result at hs ht hx
  rcases result with ⟨(_ | _ | _ | _) | t, s₁⟩ <;> obtain ⟨rfl, rfl⟩ := Prod.mk.inj hx
  case ok => exact ⟨hs, fun u hu => ht u (congrArg Except.ok (Except.ok.inj hu))⟩
  all_goals exact ⟨hs, nofun⟩

/-! ### Evaluations -/

section

variable (hv : ∀ n s, Stocks s ((value n).exec w s).2)
include hv

lemma stocks_run {α : Type} (x : Script α) (s : Session) :
    Stocks s ((x.run value).exec w s).2 := by
  induction x generalizing s with
  | done a => exact .refl s
  | fail e => exact .refl s
  | look k ih => exact ih _ s
  | selected n k ih => exact ih _ s
  | ask n k ih =>
    have hask := hv n s
    rw [Script.exec_ask]
    rcases hx : (value n).exec w s with ⟨f | v, s₁⟩ <;> rw [hx] at hask
    · exact hask
    · exact hask.trans (ih v s₁)
  | table n source k ih =>
    have htable : Stocks s ((Eval.table n source).exec w s).2 :=
      ⟨keeps_table w n source s, fun hs => (hs.table rfl).1⟩
    rw [Script.exec_table]
    rcases hx : (Eval.table n source).exec w s with ⟨f | t, s₁⟩ <;> rw [hx] at htable
    · exact htable
    · exact htable.trans (ih t s₁)

/-- A generator that is created draws from a regular table if it draws from one. -/
lemma drawable_ofCallAs {expected : CallKind} (hs : s.Stocked)
    (h : ((Generator.ofCallAs expected n c).run value).exec w s = (.ok g, s')) : g.Drawable := by
  by_cases hc : ∃ source, c = .table source
  · obtain ⟨source, rfl⟩ := hc
    unfold Generator.ofCallAs Generator.ofCall at h
    split_ifs at h
    · rw [Script.exec_bind, Script.exec_location] at h
      dsimp only at h
      rw [Script.exec_table] at h
      rcases htable : (Eval.table n source).exec w s with ⟨f | t, s₁⟩ <;> rw [htable] at h
      · cases (Prod.mk.inj h).1
      · obtain rfl := Except.ok.inj (Prod.mk.inj h).1
        rintro u hu
        obtain rfl := Generator.table.inj hu
        exact (hs.table htable).2 t rfl
    · rw [Script.exec_bind, Script.exec_location] at h
      cases (Prod.mk.inj h).1
  · have hfits : g.Fits n c :=
      (Generator.fits_ofCallAs (s.setting w) expected n c).run (fun n s => (hv n s).1) h
    rintro t rfl
    have hkind : c.kind = .table := hfits.kind.symm
    rcases c <;> first | exact absurd ⟨_, rfl⟩ hc | cases hkind

lemma stocks_generatorOf (n : NodeRef) (c : Call) (s : Session) :
    Stocks s ((generatorOf value n c).exec w s).2 := by
  rcases hg : s.generators.lookup n with _ | g
  · by_cases hf : c.kind ∈ s.functions
    · rw [generatorOf_new hg hf]
      exact stocks_run hv _ s
    · rw [generatorOf_unknown hg hf]
      exact .refl s
  · rw [generatorOf_kept hg]
    exact .refl s

lemma drawable_generatorOf (hs : s.Stocked)
    (h : (generatorOf value n c).exec w s = (.ok g, s')) : g.Drawable := by
  rcases generatorOf_cases h with ⟨hg, -⟩ | ⟨-, -, hnew⟩
  · exact hs.generators n g hg
  · exact drawable_ofCallAs hv hs hnew

end

/-- Steps keep the table of a generator. -/
lemma Generator.Drawable.step {g' : Generator} {plan : Plan} {src src' : Random.Source}
    (h : g.Drawable) (hst : g.step src = some ((plan, g'), src')) : g'.Drawable := by
  rcases Generator.step_cases hst with ⟨rfl, -⟩ | ⟨values, i, -, -, rfl⟩ | ⟨k, -, -, rfl⟩
  · exact h
  · exact nofun
  · exact nofun

section

variable (hv : ∀ n s, Stocks s ((value n).exec w s).2)
include hv

lemma stocks_callValue (n : NodeRef) (c : Call) (s : Session) :
    Stocks s ((callValue value n c).exec w s).2 := by
  have hgen := stocks_generatorOf hv n c s
  rcases hx : (callValue value n c).exec w s with ⟨r, s'⟩
  rcases callValue_cases hx with ⟨f, hg, -⟩ | ⟨g, hg, -, -⟩ |
    ⟨g, s₁, plan, g', src, s₂, hg, hst, -, hrun, rfl⟩ <;> rw [hg] at hgen
  · exact hgen
  · exact hgen
  · have hplan := stocks_run hv plan.script ({ s₁ with source := src }.withoutGenerator n)
    rw [hrun] at hplan
    have hout : Stocks s ({ s₁ with source := src }) := hgen.trans (.source s₁ src)
    refine ⟨hout.1.trans ((Keeps.without _ n).trans (hplan.1.trans (.insert s₂ n g'))),
      fun hs => ?_⟩
    have hs₁ := hout.2 hs
    have hs₂ := hplan.2 ⟨hs₁.cache, hs₁.generators.without n⟩
    exact ⟨hs₂.cache, hs₂.generators.insert ((drawable_generatorOf hv hs hg).step hst)⟩

lemma stocks_ownValue (n : NodeRef) (s : Session) :
    Stocks s ((ownValue value n).exec w s).2 := by
  rcases call_or_ne (s.workspace.kind n) with ⟨c, hk⟩ | hk
  · rw [exec_ownValue_call hk]
    exact stocks_callValue hv n c s
  · rw [exec_ownValue_plain hk]
    exact stocks_run hv _ s

lemma stocks_valueVia (n : NodeRef) (s : Session) :
    Stocks s ((valueVia value n).exec w s).2 := by
  rcases hr : (s.scope w).resolve n with e | ⟨t⟩ | ⟨base, keys⟩
  · rw [valueVia_unresolved hr]
    exact .refl s
  · by_cases hsettled : s.values.lookup t ≠ none ∨ t ∈ s.active
    · rw [valueVia_settled_snd hr hsettled]
      exact .refl s
    · obtain ⟨hl, ha⟩ := not_or.mp hsettled
      have hl := not_ne_iff.mp hl
      have hown := stocks_ownValue hv t (s.enter t)
      rw [valueVia_own hr hl ha]
      rcases hx : (ownValue value t).exec w (s.enter t) with ⟨f | v, s'⟩ <;> rw [hx] at hown
      · exact ⟨hown.1.leave, fun hs =>
          let h := hown.2 ⟨hs.cache, hs.generators⟩
          ⟨h.cache, h.generators⟩⟩
      · exact ⟨hown.1.keep v hl ha, fun hs =>
          let h := hown.2 ⟨hs.cache, hs.generators⟩
          ⟨h.cache, h.generators⟩⟩
  · rw [valueVia_extract_snd hr]
    exact hv base s

end

lemma stocks_value (w : World) (n : NodeRef) (s : Session) :
    Stocks s ((Eval.value n).exec w s).2 := by
  have hwithin : ∀ fuel n s, Stocks s ((valueWithin Eval.circular fuel n).exec w s).2 := by
    intro fuel
    induction fuel with
    | zero =>
      intro n s
      rw [valueWithin, exec_circular]
      exact .refl s
    | succ fuel ih => exact stocks_valueVia ih
  rw [exec_value]
  exact hwithin _ n s

/-! ### Requests -/

lemma Session.Stocked.entity (hs : s.Stocked) (name : String) :
    ((Eval.entity name).exec w s).2.Stocked := by
  rcases hn : s.workspace.entity? Workspace.root name with _ | n
  · rw [entity_snd_of_none hn]
    exact hs
  · rw [entity_snd_of_some hn]
    exact (stocks_value w n s).2 hs

lemma Session.Stocked.reset (hs : s.Stocked) : s.reset.Stocked := ⟨hs.cache, hs.generators⟩

lemma Session.Stocked.of_empty (ht : s.tables.entries = []) (hg : s.generators = []) :
    s.Stocked where
  cache e he := by
    rw [ht] at he
    cases he
  generators n g h := by
    rw [hg] at h
    cases h

lemma Session.Stocked.exec (hs : s.Stocked) (r : Request) : (r.exec w s).2.Stocked := by
  have hrun : ∀ {α : Type} (x : Script α) {s : Session}, s.Stocked →
      ((x.run Eval.value).exec w s).2.Stocked := fun x s hs =>
    (stocks_run (stocks_value w) x s).2 hs
  cases r with
  | value n => rw [Request.exec, ended_snd]; exact (stocks_value w n s).2 hs
  | entity name => rw [Request.exec, ended_snd]; exact hs.entity name
  | record name => rw [Request.exec, ended_snd, exec_record]; exact hs.reset.entity name
  | create expected n c => rw [Request.exec, ended_snd]; exact hrun _ hs
  | step g =>
    rw [Request.exec]
    rcases g.step s.source with _ | ⟨⟨plan, _⟩, src⟩
    · exact hs
    · dsimp only
      rw [ended_snd]
      exact hrun _ ((Stocks.source s src).2 hs)
  | table p delimiter noHeader => exact (hs.loadTable _ _ _ _).1
  | source src => exact (Stocks.source s src).2 hs
  | reset => exact hs.reset
  | clear => exact .of_empty rfl rfl
  | replace ws => exact .of_empty rfl rfl

/-- **All tables are regular** in every session that can be reached. -/
theorem Reachable.stocked (h : Reachable s) : s.Stocked := by
  induction h with
  | start => exact .of_empty rfl rfl
  | step _ r world _ ih => exact ih.exec r

/-! ### Draws -/

/-- Whatever is drawn of a table, there is a row. -/
def Draws (t : Table) : Prop :=
  ∀ src : Random.Source, ∃ row, (src.index t.size).1 < t.size ∧
    t.rowValue? (src.index t.size).1 = some row ∧
    (Generator.table t).step src = some ((.value (some row), .table t), (src.index t.size).2)

lemma draws_of_regular {t : Table} (ht : t.Regular) : Draws t := by
  intro src
  have hsize : 0 < t.size := List.length_pos_iff.mpr ht.nonempty
  have hlt := src.index_lt hsize
  obtain ⟨row, hrow⟩ := Option.isSome_iff_exists.mp ((t.isSome_rowValue? _).mpr hlt)
  exact ⟨row, hlt, hrow, by simp only [Generator.step, hrow]⟩

/-- A value is a draw of the table of a generator. -/
def Generator.Drawn (g : Generator) (v : Option Value) : Prop :=
  ∃ (t : Table) (src : Random.Source), g = .table t ∧ v = t.rowValue? (src.index t.size).1

lemma makes_table (w : World) (s₀ : Session) (n : NodeRef) (source : TableSource) :
    Makes w s₀ n (.table source) (fun _ g => ∃ t, g = .table t) Generator.Drawn where
  mono _ h := h
  new {s s' g} _ h := by
    have hfits := (Generator.fits_ofCallAs (s.setting w) _ n (.table source)).run
      (keeps_value w) h
    have hkind : g.kind = .table := hfits.kind
    rcases g with _ | _ | _ | _ | t | _ | _ | _ | _ | ⟨l, base, offset, _ | _⟩ | _ | _ | _ <;>
      first | exact ⟨t, rfl⟩ | cases hkind
  step := by
    rintro values g g' src src' plan ⟨t, rfl⟩ hst
    simp only [Generator.step, Option.some.injEq, Prod.mk.injEq] at hst
    obtain ⟨⟨rfl, rfl⟩, -⟩ := hst
    exact ⟨rfl, .inl ⟨_, ⟨t, src, rfl, rfl⟩, rfl⟩⟩

/-- A value is a row of the table that the generator of a node draws from. -/
def Session.ShowsRow (s : Session) (n : NodeRef) (v : Option Value) : Prop :=
  ∃ t i row, s.generators.lookup n = some (.table t) ∧ t.Regular ∧ i < t.size ∧
    t.rowValue? i = some row ∧ v = some row

/-- What a node has that draws from a table is a row. -/
lemma Reachable.showsRow {source : TableSource} {v : Option Value} (h : Reachable s)
    (hk : s.workspace.kind n = .call (.table source)) (hv : s.values.lookup n = some v) :
    s.ShowsRow n v := by
  have htells := h.tells hk (Q := fun g => ∃ t, g = .table t) fun w s₀ => makes_table w s₀ n source
  obtain ⟨g, hg, t, src, rfl, rfl⟩ := htells.value v hv
  have ht : t.Regular := h.stocked.generators n _ hg t rfl
  obtain ⟨row, hlt, hrow, -⟩ := draws_of_regular ht src
  exact ⟨t, _, row, hg, ht, hlt, hrow, hrow⟩

lemma error_of_table {source : TableSource} {f : Failure}
    (h : (Eval.table n source).exec w s = (.error f, s')) : ∃ e, f = .error e := by
  unfold Eval.table at h
  simp only [Eval.exec_bind, Eval.exec_get, Eval.exec_read, Eval.exec_set] at h
  generalize s.loadTable w.disk ((s.workspace.document n.document).resolvePath source.path)
    source.delimiter source.noHeader = result at h
  rcases result with ⟨(_ | _ | _ | _) | t, s₁⟩ <;> cases (Prod.mk.inj h).1 <;> exact ⟨_, rfl⟩

/-- A generator that draws from a table is missing only where it cannot be created. -/
lemma error_of_generatorOf {source : TableSource} {f : Failure}
    (h : (generatorOf Eval.value n (.table source)).exec w s = (.error f, s')) :
    s.generators.lookup n = none ∧ ∃ e, f = .error e := by
  rcases hg : s.generators.lookup n with _ | g
  · refine ⟨rfl, ?_⟩
    by_cases hf : (Call.table source).kind ∈ s.functions
    · rw [generatorOf_new hg hf, Generator.ofCallAs, if_pos rfl, Generator.ofCall,
        Script.exec_bind, Script.exec_location] at h
      dsimp only at h
      rw [Script.exec_table] at h
      rcases htable : (Eval.table n source).exec w s with ⟨f' | t, s₁⟩ <;> rw [htable] at h
      · obtain rfl := Except.error.inj (Prod.mk.inj h).1
        exact error_of_table htable
      · cases (Prod.mk.inj h).1
    · rw [generatorOf_unknown hg hf] at h
      exact ⟨_, (Except.error.inj (Prod.mk.inj h).1).symm⟩
  · rw [generatorOf_kept hg] at h
    cases (Prod.mk.inj h).1

/-- The evaluation of a node that draws from a table fails only where its generator is missing. -/
lemma error_of_callValue {source : TableSource} {f : Failure} (hs : s.Stocked)
    (hg : ∀ g, s.generators.lookup n = some g → ∃ t, g = .table t)
    (h : (callValue Eval.value n (.table source)).exec w s = (.error f, s')) :
    s.generators.lookup n = none ∧ ∃ e, f = .error e := by
  have hdraws : ∀ {g s₁}, (generatorOf Eval.value n (.table source)).exec w s = (.ok g, s₁) →
      ∃ t, g = .table t ∧ Draws t := by
    intro g s₁ hgen
    have ht : ∃ t, g = .table t := by
      rcases generatorOf_cases hgen with ⟨hl, -⟩ | ⟨-, -, hnew⟩
      · exact hg g hl
      · exact (makes_table w s n source).new rfl hnew
    obtain ⟨t, rfl⟩ := ht
    exact ⟨t, rfl, draws_of_regular (drawable_generatorOf (stocks_value w) hs hgen t rfl)⟩
  rcases callValue_cases h with ⟨f', hg, hf⟩ | ⟨g, hg, hst, -⟩ |
    ⟨g, s₁, plan, g', src, s₂, hg, hst, -, hrun, -⟩
  · obtain rfl := Except.error.inj hf
    exact error_of_generatorOf hg
  · obtain ⟨t, rfl, hd⟩ := hdraws hg
    obtain ⟨row, -, -, hstep⟩ := hd s'.source
    rw [hst] at hstep
    cases hstep
  · obtain ⟨t, rfl, hd⟩ := hdraws hg
    obtain ⟨row, -, -, hstep⟩ := hd s₁.source
    obtain ⟨h₁, -⟩ := Prod.mk.inj (Option.some.inj (hst.symm.trans hstep))
    obtain ⟨rfl, -⟩ := Prod.mk.inj h₁
    have hrow : Except.ok (some row) = Except.error f := (Prod.mk.inj hrun).1
    cases hrow

/-- What is read of a node that draws from a table is a row, also through other nodes. -/
lemma Reachable.showsRow_of_value {source : TableSource} {v : Option Value} (hs : Reachable s)
    (hk : s.workspace.kind n = .call (.table source))
    (hr : (s.scope w).resolve m = .ok (.value n))
    (hx : (Eval.value m).exec w s = (.ok v, s')) : s'.ShowsRow n v := by
  have hreached : Reachable s' := by
    have hstep := hs.step (.value m) w (Request.value_ne_stuck hx)
    rwa [Request.exec, ended_snd, hx] at hstep
  have hgrows := grows_value w m s
  rw [hx] at hgrows
  exact hreached.showsRow (hgrows.workspace ▸ hk) (knows_of_value hr hx)

/-- Reading a node that draws from a table fails only where its generator is missing. -/
lemma Reachable.error_of_value {source : TableSource} {f : Failure} (hs : Reachable s)
    (hk : s.workspace.kind n = .call (.table source))
    (hr : (s.scope w).resolve m = .ok (.value n))
    (hx : (Eval.value m).exec w s = (.error f, s')) :
    s.generators.lookup n = none ∧ ∃ e, f = .error e := by
  have hstock := hs.stocked
  have htells := hs.tells hk (Q := fun g => ∃ t, g = .table t) fun w s₀ => makes_table w s₀ n source
  rw [exec_value_eq_valueVia (.of_idle hs.idle)] at hx
  rcases hl : s.values.lookup n with _ | v
  · have hactive : n ∉ s.active := by simp [hs.idle]
    rw [valueVia_own hr hl hactive, exec_ownValue_call (s := s.enter n) hk] at hx
    rcases hcall : (callValue Eval.value n (.table source)).exec w (s.enter n) with
      ⟨f' | v, s₁⟩ <;> rw [hcall] at hx
    · obtain rfl := Except.error.inj (Prod.mk.inj hx).1
      exact error_of_callValue (s := s.enter n) ⟨hstock.cache, hstock.generators⟩
        htells.generator hcall
    · cases (Prod.mk.inj hx).1
  · rw [valueVia_cached hr hl] at hx
    cases (Prod.mk.inj hx).1

/-- **Tables yield rows.** A table that is read has at least one row; its rows are as long as each
other and, where it has a header, as the header; it has a value at the indices of its rows and
nowhere else; without a header the value is the array of the cells of the row, and under a header
with distinct names it is an object with one field for each name, in order, each with the cell at
its place. So, whatever has been asked of an engine before, a generator that draws from a table,
newly created or kept, has a row for every draw; what a node that draws from a table has is a row
of the table of its generator, also where the node is read through others; and reading it fails
only where it has no generator and none can be created. -/
theorem tables_yield_rows :
    (∀ text delimiter noHeader t, Table.read text delimiter noHeader = .ok t →
      t.headers.isNone = noHeader ∧ t.Regular ∧ (∀ i, (t.rowValue? i).isSome ↔ i < t.size) ∧
      (t.headers = none → ∀ i row, t.rows[i]? = some row →
        t.rowValue? i = some (.array (row.map .string))) ∧
      ∀ names, t.headers = some names → names.Nodup → ∀ i row, t.rows[i]? = some row →
        ∃ f, t.rowValue? i = some (.object f) ∧ f.entries.length = names.length ∧
          ∀ (j : Nat) name cell, names[j]? = some name → row[j]? = some cell →
            f.entries[j]? = some (name, .string cell)) ∧
    ∀ w s, Reachable s →
      (∀ expected n c t s', (Generator.create Eval.value expected n c).exec w s =
        (.ok (.table t), s') → Draws t) ∧
      (∀ n t, s.generators.lookup n = some (.table t) → Draws t) ∧
      ∀ n source, s.workspace.kind n = .call (.table source) →
        (∀ v, s.values.lookup n = some v → s.ShowsRow n v) ∧
        ∀ m, (s.scope w).resolve m = .ok (.value n) →
          (∀ v s', (Eval.value m).exec w s = (.ok v, s') → s'.ShowsRow n v) ∧
          ∀ f s', (Eval.value m).exec w s = (.error f, s') →
            s.generators.lookup n = none ∧ ∃ e, f = .error e := by
  refine ⟨fun text delimiter noHeader t h => ?_, fun w s hs => ?_⟩
  · have ht := Table.regular_of_read h
    refine ⟨Table.headers_of_read h, ht, t.isSome_rowValue?,
      fun hn i row hr => Table.rowValue?_bare hn hr, fun names hn hd i row hr => ?_⟩
    obtain ⟨f, hf, hentries⟩ := Table.rowValue?_headed ht hn hd hr
    have hl : row.length = names.length := ht.headed names hn row (List.mem_of_getElem? hr)
    refine ⟨f, hf, by simp [hentries, hl], fun j name cell hname hcell => ?_⟩
    have hpair : (names.zip row)[j]? = some (name, cell) :=
      List.getElem?_zip_eq_some.mpr ⟨hname, hcell⟩
    simp [hentries, hpair]
  · have hstock := hs.stocked
    refine ⟨fun expected n c t s' h => ?_, fun n t hg => ?_,
      fun n source hk => ⟨?_, fun m hr => ?_⟩⟩
    · exact draws_of_regular (drawable_ofCallAs (stocks_value w) hstock h t rfl)
    · exact draws_of_regular (hstock.generators n _ hg t rfl)
    · exact fun v hv => hs.showsRow hk hv
    · exact ⟨fun v s' hx => hs.showsRow_of_value hk hr hx,
        fun f s' hx => hs.error_of_value hk hr hx⟩

namespace Drawn

/-- A table with a line break in a cell and an empty line. -/
def text : String := "a,b\n1,\"x\ny\"\n\n2,z\n"

/-- What is read of it. -/
def table : Table := ⟨Table.comma, some ["a", "b"], [["1", "x\ny"], ["2", "z"]]⟩

/-- A world with the table in a file. -/
def world : World :=
  { disk := { current := [], entries := [(["t.csv"], .file text.toUTF8)] }, time := default
    entropy := 0 }

/-- A list with a row of the table. -/
def document : Document :=
  { path := "a.yaml", imports := [], entities := [2]
    nodes := #[{ kind := .call (.table { path := "t.csv" }), parent := some 1 },
      { kind := .list [0], parent := some 2 }, { kind := .entity "E" 1 }] }

/-- An engine for the document. -/
def session : Session := .start (.ofDocuments world.disk [document]) CallKind.all {} world

lemma facts : Table.read text none false = .ok table ∧
    ((session.scope world).resolve ⟨0, 0⟩).toOption = some (.value ⟨0, 0⟩) ∧
    ((Eval.value ⟨0, 0⟩).exec world session).1.toOption.isSome = true := by
  decide +kernel

end Drawn

open Drawn in
/-- The second field of the first row has the line break, and the node that draws from the table
has a row. -/
theorem quoted_table_yields_row :
    (∃ f, table.rowValue? 0 = some (.object f) ∧ f.entries[1]? = some ("b", .string "x\ny")) ∧
      ∃ row s', (Eval.value ⟨0, 0⟩).exec world session = (.ok (some row), s') ∧
        s'.ShowsRow ⟨0, 0⟩ (some row) := by
  obtain ⟨hread, hresolve, hsome⟩ := facts
  refine ⟨?_, ?_⟩
  · obtain ⟨-, -, -, -, hobject⟩ := tables_yield_rows.1 text none false table hread
    obtain ⟨f, hf, -, hfields⟩ := hobject ["a", "b"] rfl (by decide) 0 ["1", "x\ny"] rfl
    exact ⟨f, hf, hfields 1 "b" "x\ny" rfl rfl⟩
  · obtain ⟨-, -, hnode⟩ := tables_yield_rows.2 world session (.start _ _ _ _)
    have hk : session.workspace.kind ⟨0, 0⟩ = .call (.table { path := "t.csv" }) := rfl
    have hvalue := ((hnode ⟨0, 0⟩ _ hk).2 ⟨0, 0⟩ (ok_of_toOption hresolve)).1
    rcases hx : (Eval.value ⟨0, 0⟩).exec world session with ⟨f | v, s'⟩ <;> rw [hx] at hsome
    · cases hsome
    · obtain ⟨t, i, row, -, -, -, -, rfl⟩ := hvalue v s' hx
      exact ⟨row, s', rfl, hvalue _ s' hx⟩

end Engine

end TestData
