import LoadTest.Proofs.Testdata.Acceptance
import LoadTest.Proofs.Testdata.Requests
import LoadTest.Proofs.Testdata.Restoring
import LoadTest.Proofs.Testdata.Tables
/-!
# Building producers

Building a definition makes the sources of its variables one after another and fails at the
first one that cannot be made. What the sources of all variables have in common when they
are made, and what a read does not change, holds of all sources of the producer for good.
-/

namespace LoadTest.Testdata

/-! ## Properties of all sources -/

/-- A read does not end a property of sources. -/
def Lasting (P : Source → Prop) : Prop :=
  ∀ {source next m v}, P source → source.read m = .ok (v, next) → P next

/-- All sources of a table have a property. -/
def Table.AllSources (P : Source → Prop) (t : Table) : Prop :=
  ∀ base source, t.sources.get? base = some source → P source

/-- All sources of all tables have a property. -/
def Producer.AllSources (P : Source → Prop) (p : Producer) : Prop :=
  ∀ identifier t, p.tables.get? identifier = some t → t.AllSources P

variable {P : Source → Prop}

theorem Table.AllSources.materialize (hP : Lasting P) {t : Table} (h : t.AllSources P)
    (outside : String → Moment) (aliases : Dict String) :
    (t.materialize outside aliases).2.AllSources P := by
  intro base source hs
  rcases (t.materialize_advances outside aliases).2 base with
    hsame | ⟨source', v, next, hs', hread, hnext⟩
  · exact h base source (hsame ▸ hs)
  · obtain rfl := Option.some.inj (hs.symm.trans hnext)
    exact hP (h base source' hs') hread

/-- Requests do not end a lasting property of all sources. -/
theorem Producer.AllSources.handles (hP : Lasting P) {p p' : Producer} (h : p.AllSources P)
    (hp : p.Filed) {outside : String → Moment} {identifier : String}
    {reply : Except Crash Served} (hx : p.Handles outside identifier reply p') :
    p'.AllSources P := by
  intro other t ht
  rcases hx.table hp other with hsame | ⟨rfl, s, t', -, ht', hnext⟩
  · exact h other t (hsame ▸ ht)
  · obtain rfl := Option.some.inj (ht.symm.trans hnext)
    exact (h other t' ht').materialize hP outside s.aliases

/-- A lasting property of all sources holds of every producer that a request meets. -/
theorem Chronicle.run_allSources (hP : Lasting P) {p : Producer} (hp : p.Filed)
    (h : p.AllSources P) (demands : List Demand) :
    ∀ round ∈ (run ⟨p, [], []⟩ demands).rounds, ∀ x ∈ round,
      x.before.Filed ∧ x.before.AllSources P := by
  refine (run_of_stable (P := fun p => p.Filed ∧ p.AllSources P) (fun _ h => h.1) ?_
    (fun _ h => h) ⟨hp, h⟩ demands).2
  intro p p' outside identifier reply h hx
  exact ⟨hx.filed h.1, h.2.handles hP h.1 hx⟩

/-! ## Making the sources -/

/-- Only a text counts as saved. -/
theorem bind_string?_eq_some_iff {saved : Option Json} {text : String} :
    saved.bind Json.string? = some text ↔ saved = some (.str text) := by
  cases saved with
  | none => simp
  | some v => cases v <;> simp [Json.string?]

/-- Which source a configuration stands for, given what was saved under its key. A counter starts
as it is configured. One that persists goes on with the next value and the step that a saved text
names, if a text was saved. -/
inductive SourceConfig.Makes (saved : Option Json) : SourceConfig → Source → Prop where
  | literal (v : Json) : Makes saved (.literal v) (.literal v)
  | counter (start step : Int64) :
    Makes saved (.integerIncrementer start step false) (.counter ⟨start, step, false⟩)
  | fresh {start step : Int64} (h : ∀ text, saved ≠ some (.str text)) :
    Makes saved (.integerIncrementer start step true) (.counter ⟨start, step, true⟩)
  | resumed {start step next step' : Int64} {text : String} (h : saved = some (.str text))
    (htext : Counter.IsSaved text.toList next step') :
    Makes saved (.integerIncrementer start step true) (.counter ⟨next, step', true⟩)
  | rows (rows : List (Dict Json)) (repeats : Bool) :
    Makes saved (.rowReader rows repeats) (.rows ⟨rows, 0, repeats⟩)
  | random (r : IntRange) : Makes saved (.randomInteger r.min r.max) (.random r)
  | clock (c : Clock) (h : -Clock.maxSpan ≤ c.offset.toInt ∧ c.offset.toInt ≤ Clock.maxSpan) :
    Makes saved (.timestamp c.format c.offset) (.clock c)
  | onConsumer : Makes saved .onConsumer .onConsumer

/-- What is made is the source that the configuration stands for. -/
theorem SourceConfig.makes_of_build {config : SourceConfig} {saved : Option Json}
    {source : Source} (h : config.build saved = .ok source) : config.Makes saved source := by
  cases config with
  | literal v =>
    cases h
    exact .literal v
  | integerIncrementer start step persist =>
    cases persist with
    | false =>
      cases h
      exact .counter start step
    | true =>
      simp only [build] at h
      split at h
      · next hnone =>
        cases h
        refine .fresh fun text hsaved => ?_
        rw [bind_string?_eq_some_iff.2 hsaved] at hnone
        cases hnone
      · next text htext =>
        split at h
        · next c hc =>
          cases h
          obtain ⟨next, step', hnames, rfl⟩ := Counter.restore_eq_ok_iff.1 hc
          exact .resumed (bind_string?_eq_some_iff.1 htext) hnames
        · cases h
  | rowReader rows repeats =>
    cases h
    exact .rows rows repeats
  | randomInteger min max =>
    simp only [build, IntRange.make] at h
    split at h
    · next r hr =>
      cases h
      split at hr
      · next hordered =>
        cases hr
        exact .random ⟨min, max, hordered⟩
      · cases hr
    · cases h
  | timestamp format offset =>
    simp only [build, Clock.make] at h
    split at h
    · next c hc =>
      cases h
      split at hc
      · next hspan =>
        cases hc
        exact .clock ⟨format, offset⟩ hspan
      · cases hc
    · cases h
  | onConsumer =>
    cases h
    exact .onConsumer

/-- The source that a configuration stands for is made. -/
theorem SourceConfig.build_of_makes {config : SourceConfig} {saved : Option Json}
    {source : Source} (h : config.Makes saved source) : config.build saved = .ok source := by
  cases h with
  | literal | counter | rows | onConsumer => rfl
  | fresh h =>
    have hnone : saved.bind Json.string? = none :=
      Option.eq_none_iff_forall_ne_some.2 fun text htext =>
        h text (bind_string?_eq_some_iff.1 htext)
    rw [build, hnone]
  | resumed h htext =>
    simp only [build, bind_string?_eq_some_iff.2 h,
      Counter.restore_eq_ok_iff.2 ⟨_, _, htext, rfl⟩]
  | random r => simp only [build, IntRange.make, dif_pos r.ordered]
  | clock c h => simp only [build, Clock.make, if_pos h]

/-- The worker fills in only what is configured so. -/
theorem SourceConfig.Makes.eq_onConsumer {config : SourceConfig} {saved : Option Json}
    (h : config.Makes saved .onConsumer) : config = .onConsumer := by
  cases h
  rfl

/-- Why the source of a variable cannot be made. -/
def VariableConfig.fault? (saved : Option (Dict Json)) (v : VariableConfig) : Option Failure :=
  match v.source.build (saved.bind (·.get? v.key)) with
  | .error f => some f
  | .ok _ => none

theorem VariableConfig.fault?_eq_none_iff {saved : Option (Dict Json)} {v : VariableConfig} :
    v.fault? saved = none ↔
      ∃ source, v.source.build (saved.bind (·.get? v.key)) = .ok source := by
  unfold fault?
  cases v.source.build (saved.bind (·.get? v.key)) <;> simp

/-- Building comes as far as a variable if all sources before it can be made. -/
def Definition.Reaches (d : Definition) (snapshot : Snapshot) (s : ScenarioConfig)
    (v : VariableConfig) : Prop :=
  ∃ scenariosBefore scenariosAfter before after,
    d.scenarios = scenariosBefore ++ s :: scenariosAfter ∧ s.variables = before ++ v :: after ∧
    (∀ s' ∈ scenariosBefore, ∀ v' ∈ s'.variables,
      v'.fault? (snapshot.get? s'.identifier) = none) ∧
    ∀ v' ∈ before, v'.fault? (snapshot.get? s.identifier) = none

namespace ScenarioConfig

variable {saved : Option (Dict Json)}

theorem declareAll_error_iff {vs : List VariableConfig} {t : Table} {f : Failure} :
    declareAll saved vs t = .error f ↔ vs.findSome? (VariableConfig.fault? saved) = some f := by
  induction vs generalizing t with
  | nil => simp [declareAll]
  | cons v vs ih =>
    rw [List.findSome?_cons, VariableConfig.fault?, declareAll]
    cases v.source.build (saved.bind (·.get? v.key)) with
    | error e => simp
    | ok source => exact ih

theorem buildTable_error_iff {s : ScenarioConfig} {f : Failure} :
    s.buildTable saved = .error f ↔
      s.variables.findSome? (VariableConfig.fault? saved) = some f := by
  rw [← declareAll_error_iff (t := {}), buildTable]
  cases declareAll saved s.variables {} <;> simp

theorem declareAll_allSources {vs : List VariableConfig} {t t' : Table}
    (h : declareAll saved vs t = .ok t') (ht : t.AllSources P)
    (hvs : ∀ v ∈ vs, ∀ saved source, v.source.Makes saved source → P source) :
    t'.AllSources P := by
  induction vs generalizing t with
  | nil =>
    cases h
    exact ht
  | cons v vs ih =>
    obtain ⟨source, hb, h⟩ := declareAll_cons_eq_ok_iff.1 h
    refine ih h ?_ fun w hw => hvs w (List.mem_cons_of_mem _ hw)
    intro base source' hs
    rw [sources_declared, Dict.get?_insert] at hs
    split at hs
    · cases hs
      exact hvs v List.mem_cons_self _ _ (SourceConfig.makes_of_build hb)
    · exact ht base source' hs

theorem sources_expose (keys : List String) (t : Table) :
    (keys.foldl Table.expose t).sources = t.sources := by
  induction keys generalizing t with
  | nil => rfl
  | cons key keys ih =>
    rw [List.foldl_cons, ih, Table.expose]
    split <;> rfl

theorem buildTable_allSources {s : ScenarioConfig} {t : Table} (h : s.buildTable saved = .ok t)
    (hvs : ∀ v ∈ s.variables, ∀ saved source, v.source.Makes saved source → P source) :
    t.AllSources P := by
  obtain ⟨declared, hdeclared, rfl⟩ := buildTable_eq_ok_iff.1 h
  intro base source hs
  rw [sources_expose] at hs
  exact declareAll_allSources hdeclared (fun base source hs => by cases hs) hvs base source hs

end ScenarioConfig

namespace Definition

variable {snapshot : Snapshot}

theorem buildTables_error_iff {scenarios : List ScenarioConfig} {tables : Dict Table}
    {f : Failure} :
    buildTables snapshot scenarios tables = .error f ↔
      (scenarios.findSome? fun s =>
        s.variables.findSome? (VariableConfig.fault? (snapshot.get? s.identifier))) = some f := by
  induction scenarios generalizing tables with
  | nil => simp [buildTables]
  | cons s rest ih =>
    rw [List.findSome?_cons, buildTables]
    cases hb : s.buildTable (snapshot.get? s.identifier) with
    | error e =>
      rw [ScenarioConfig.buildTable_error_iff.1 hb]
      simp
    | ok t =>
      cases hf : s.variables.findSome? (VariableConfig.fault? (snapshot.get? s.identifier)) with
      | none => exact ih
      | some g =>
        rw [ScenarioConfig.buildTable_error_iff.2 hf] at hb
        cases hb

theorem buildTables_allSources {scenarios : List ScenarioConfig} {tables tables' : Dict Table}
    (h : buildTables snapshot scenarios tables = .ok tables')
    (ht : ∀ identifier t, tables.get? identifier = some t → t.AllSources P)
    (hvs : ∀ s ∈ scenarios, ∀ v ∈ s.variables, ∀ saved source,
      v.source.Makes saved source → P source) :
    ∀ identifier t, tables'.get? identifier = some t → t.AllSources P := by
  induction scenarios generalizing tables with
  | nil =>
    cases h
    exact ht
  | cons s rest ih =>
    obtain ⟨t, hb, h⟩ := buildTables_cons_eq_ok_iff.1 h
    refine ih h ?_ fun s' hs' => hvs s' (List.mem_cons_of_mem _ hs')
    split
    · intro identifier t' ht'
      rw [Dict.get?_insert] at ht'
      split at ht'
      · cases ht'
        exact ScenarioConfig.buildTable_allSources hb (hvs s List.mem_cons_self)
      · exact ht identifier t' ht'
    · exact ht

/-- A built producer files its scenarios by name, and its sources are those of the
definition. -/
theorem allSources_of_build {d : Definition} {p : Producer} (h : d.build snapshot = .ok p)
    (hvs : ∀ s ∈ d.scenarios, ∀ v ∈ s.variables, ∀ saved source,
      v.source.Makes saved source → P source) :
    p.Filed ∧ p.AllSources P := by
  obtain ⟨-, tables, htables, rfl⟩ := build_eq_ok_iff.1 h
  exact ⟨Producer.filed_make _ _,
    buildTables_allSources htables (fun identifier t ht => by cases ht) hvs⟩

/-- A built producer files its scenarios by name. -/
theorem filed_of_build {d : Definition} {p : Producer} (h : d.build snapshot = .ok p) : p.Filed :=
  (allSources_of_build (P := fun _ => True) h fun _ _ _ _ _ _ _ => trivial).1

/-- Building a valid definition fails at the first variable whose source cannot be made. -/
theorem build_error_iff {d : Definition} {f : Failure} (hd : d.validate = .ok ()) :
    d.build snapshot = .error f ↔
      ∃ s v, d.Reaches snapshot s v ∧ v.fault? (snapshot.get? s.identifier) = some f := by
  have hbuild : d.build snapshot = .error f ↔ buildTables snapshot d.scenarios ∅ = .error f := by
    rw [build, hd]
    cases buildTables snapshot d.scenarios ∅ <;> simp
  rw [hbuild, buildTables_error_iff, List.findSome?_eq_some_iff]
  constructor
  · rintro ⟨front, s, back, hscenarios, hs, hfront⟩
    obtain ⟨before, v, after, hvariables, hv, hbefore⟩ := List.findSome?_eq_some_iff.1 hs
    refine ⟨s, v, ⟨front, back, before, after, hscenarios, hvariables, ?_, hbefore⟩, hv⟩
    intro s' hs'
    exact List.findSome?_eq_none_iff.1 (hfront s' hs')
  · rintro ⟨s, v, ⟨front, back, before, after, hscenarios, hvariables, hfront, hbefore⟩, hv⟩
    refine ⟨front, s, back, hscenarios, ?_, ?_⟩
    · exact List.findSome?_eq_some_iff.2 ⟨before, v, after, hvariables, hv, hbefore⟩
    · intro s' hs'
      exact List.findSome?_eq_none_iff.2 (hfront s' hs')

/-- In a definition that can be built every source can be made. -/
theorem fault?_of_build {d : Definition} {p : Producer} (h : d.build snapshot = .ok p)
    {s : ScenarioConfig} (hs : s ∈ d.scenarios) {v : VariableConfig} (hv : v ∈ s.variables) :
    v.fault? (snapshot.get? s.identifier) = none := by
  obtain ⟨-, tables, htables, -⟩ := build_eq_ok_iff.1 h
  have hnone := Option.eq_none_iff_forall_ne_some.2 fun f hf =>
    nomatch htables.symm.trans (buildTables_error_iff.2 hf)
  exact List.findSome?_eq_none_iff.1 (List.findSome?_eq_none_iff.1 hnone s hs) v hv

end Definition

/-! ## The source under a name -/

/-- The source under a name in a scenario. -/
def Producer.source? (p : Producer) (identifier name : String) : Option Source :=
  (p.tables.get? identifier).bind (·.sources.get? name)

/-- The variable of a key; of two with one key the later counts. -/
def ScenarioConfig.declared? (s : ScenarioConfig) (name : String) : Option VariableConfig :=
  s.variables.reverse.find? (·.key = name)

/-- The variable of a key in a scenario. -/
def Definition.declared? (d : Definition) (identifier name : String) : Option VariableConfig :=
  (d.scenarios.reverse.find? fun s => s.identifier = identifier ∧ s.hasTable).bind
    (·.declared? name)

namespace ScenarioConfig

variable {saved : Option (Dict Json)}

/-- Declaring variables sets the source of a name to that of the last one with this key. -/
theorem get?_declareAll {vs : List VariableConfig} {t t' : Table}
    (h : declareAll saved vs t = .ok t') (name : String) :
    match vs.reverse.find? (·.key = name) with
    | none => t'.sources.get? name = t.sources.get? name
    | some v => ∃ source, v.source.build (saved.bind (·.get? name)) = .ok source ∧
        t'.sources.get? name = some source := by
  induction vs generalizing t with
  | nil =>
    cases h
    rfl
  | cons v vs ih =>
    obtain ⟨source, hb, h⟩ := declareAll_cons_eq_ok_iff.1 h
    have hrest := ih h
    rw [List.reverse_cons, List.find?_append]
    cases hlater : vs.reverse.find? (·.key = name) with
    | some w =>
      rw [hlater] at hrest
      exact hrest
    | none =>
      simp only [hlater, sources_declared, Dict.get?_insert] at hrest
      by_cases hv : v.key = name
      · rw [if_pos hv] at hrest
        simp only [Option.none_or, List.find?_singleton, hv, decide_true, if_true]
        exact ⟨source, hv ▸ hb, hrest⟩
      · rw [if_neg hv] at hrest
        simpa [List.find?_singleton, hv] using hrest

/-- A table has the source of each variable, and no other. -/
theorem get?_buildTable {s : ScenarioConfig} {t : Table} (h : s.buildTable saved = .ok t)
    (name : String) :
    match s.declared? name with
    | none => t.sources.get? name = none
    | some v => ∃ source, v.source.build (saved.bind (·.get? name)) = .ok source ∧
        t.sources.get? name = some source := by
  obtain ⟨declared, hdeclared, rfl⟩ := buildTable_eq_ok_iff.1 h
  rw [sources_expose]
  exact get?_declareAll hdeclared name

end ScenarioConfig

namespace Definition

variable {snapshot : Snapshot}

/-- Building tables sets that of a scenario to the table of the last one with this name that
has any. -/
theorem get?_buildTables {scenarios : List ScenarioConfig} {tables tables' : Dict Table}
    (h : buildTables snapshot scenarios tables = .ok tables') (identifier : String) :
    match scenarios.reverse.find? fun s => s.identifier = identifier ∧ s.hasTable with
    | none => tables'.get? identifier = tables.get? identifier
    | some s => ∃ t, s.buildTable (snapshot.get? identifier) = .ok t ∧
        tables'.get? identifier = some t := by
  induction scenarios generalizing tables with
  | nil =>
    cases h
    rfl
  | cons s rest ih =>
    obtain ⟨t, hb, h⟩ := buildTables_cons_eq_ok_iff.1 h
    have hrest := ih h
    rw [List.reverse_cons, List.find?_append]
    cases hlater : rest.reverse.find? fun s => s.identifier = identifier ∧ s.hasTable with
    | some s' =>
      rw [hlater] at hrest
      exact hrest
    | none =>
      simp only [hlater] at hrest
      cases htable : s.hasTable with
      | false => simpa [List.find?_singleton, htable] using hrest
      | true =>
        simp only [htable, if_true, Dict.get?_insert] at hrest
        by_cases hs : s.identifier = identifier
        · rw [if_pos hs] at hrest
          simp only [Option.none_or, List.find?_singleton, hs, htable, and_self, decide_true,
            if_true]
          exact ⟨t, hs ▸ hb, hrest⟩
        · rw [if_neg hs] at hrest
          simpa [List.find?_singleton, hs] using hrest

/-- A built producer has the source of each variable, and no other. -/
theorem source?_of_build {d : Definition} {p : Producer} (h : d.build snapshot = .ok p)
    (identifier name : String) :
    match d.declared? identifier name with
    | none => p.source? identifier name = none
    | some v => ∃ source,
        v.source.build ((snapshot.get? identifier).bind (·.get? name)) = .ok source ∧
        p.source? identifier name = some source := by
  obtain ⟨-, tables, htables, rfl⟩ := build_eq_ok_iff.1 h
  have htable := get?_buildTables htables identifier
  rw [declared?]
  show match (_ : Option VariableConfig) with
    | none => (tables.get? identifier).bind (·.sources.get? name) = none
    | some v => ∃ source, _ ∧ (tables.get? identifier).bind (·.sources.get? name) = some source
  cases hs : d.scenarios.reverse.find? fun s => s.identifier = identifier ∧ s.hasTable with
  | none =>
    simp only [hs] at htable
    rw [htable]
    rfl
  | some s =>
    simp only [hs] at htable
    obtain ⟨t, ht, hget⟩ := htable
    rw [hget]
    exact ScenarioConfig.get?_buildTable ht name

end Definition

end LoadTest.Testdata
