import LoadTest.Proofs.Records
import LoadTest.Testdata.Definition
/-!
# Accepted definitions

A definition is checked before anything is built. The check passes over the scenarios once and
remembers their names, so it lets a definition through exactly if every scenario passes by
itself, has a name, and shares it with no other. Then the sources are made one after another;
for each loop that makes them a lemma says what it comes to when it succeeds.
-/

namespace LoadTest.Testdata

/-! ## Checks -/

/-- A scenario passes exactly if no alias takes the name of the variables and every variable has
a key. -/
theorem ScenarioConfig.validate_eq_ok_iff {s : ScenarioConfig} :
    s.validate = .ok () ↔
      (∀ key, s.aliases.get? key ≠ some "variables") ∧ ∀ v ∈ s.variables, v.key ≠ "" := by
  have haliases : s.aliases.entries.find? (·.2 = "variables") = none ↔
      ∀ key, s.aliases.get? key ≠ some "variables" := by
    simp only [List.find?_eq_none, decide_eq_true_eq, ne_eq, ← Dict.mem_entries_iff]
    exact ⟨fun h key hmem => h _ hmem rfl, fun h e hmem he => h e.1 (he ▸ hmem)⟩
  have hkeys : s.variables.find? (·.key = "") = none ↔ ∀ v ∈ s.variables, v.key ≠ "" := by
    simp only [List.find?_eq_none, decide_eq_true_eq, ne_eq]
  rw [← haliases, ← hkeys, validate]
  cases s.aliases.entries.find? (·.2 = "variables") with
  | some e => simp
  | none => cases s.variables.find? (·.key = "") <;> simp

namespace Definition

/-- Scenarios pass exactly if each passes by itself, and all have names that differ from one
another and from those before. -/
theorem validateFrom_eq_ok_iff {seen : List String} {scenarios : List ScenarioConfig} :
    validateFrom seen scenarios = .ok () ↔
      (∀ s ∈ scenarios, s.identifier ≠ "" ∧ s.identifier ∉ seen ∧ s.validate = .ok ()) ∧
        (scenarios.map (·.identifier)).Nodup := by
  induction scenarios generalizing seen with
  | nil => simp [validateFrom]
  | cons s rest ih =>
    rw [validateFrom, List.forall_mem_cons, List.map_cons, List.nodup_cons]
    by_cases hname : s.identifier = ""
    · simp [hname]
    · rw [if_neg hname]
      by_cases hseen : s.identifier ∈ seen
      · simp [hseen]
      · rw [if_neg (by simpa using hseen)]
        cases hs : s.validate with
        | error e => simp
        | ok u =>
          -- The loop asks each later name whether it is this one, the statement asks this name
          -- whether it is among the later ones.
          simp only [ih, List.mem_cons, not_or, List.mem_map, not_exists, not_and, imp_and,
            forall_and]
          tauto

/-- A definition passes exactly if each scenario passes by itself and all have different names. -/
theorem validate_eq_ok_iff {d : Definition} :
    d.validate = .ok () ↔
      (∀ s ∈ d.scenarios, s.identifier ≠ "" ∧ s.validate = .ok ()) ∧
        (d.scenarios.map (·.identifier)).Nodup := by
  simp [validate, validateFrom_eq_ok_iff]

end Definition

/-! ## Tables -/

namespace ScenarioConfig

variable {saved : Option (Dict Json)}

/-- Variables are declared if the source of the first one is made and the others are declared
behind it. -/
theorem declareAll_cons_eq_ok_iff {v : VariableConfig} {vs : List VariableConfig}
    {t t' : Table} :
    declareAll saved (v :: vs) t = .ok t' ↔
      ∃ source, v.source.build (saved.bind (·.get? v.key)) = .ok source ∧
        declareAll saved vs
          (if v.hidden then t.declareHidden v.key source else t.declare v.key source) = .ok t' := by
  rw [declareAll]
  cases v.source.build (saved.bind (·.get? v.key)) <;> simp

/-- Declaring a variable sets its source, whether it is hidden or not. -/
theorem sources_declared (v : VariableConfig) (t : Table) (source : Source) :
    (if v.hidden then t.declareHidden v.key source else t.declare v.key source).sources =
      t.sources.insert v.key source := by
  split
  · rfl
  · unfold Table.declare Table.expose
    split <;> rfl

/-- A table is built if all variables are declared. -/
theorem buildTable_eq_ok_iff {s : ScenarioConfig} {t : Table} :
    s.buildTable saved = .ok t ↔
      ∃ declared, declareAll saved s.variables {} = .ok declared ∧
        t = s.expose.foldl Table.expose declared := by
  rw [buildTable]
  cases declareAll saved s.variables {} <;> simp [eq_comm]

/-- A scenario has no table exactly if it neither declares variables nor exposes keys. -/
theorem hasTable_eq_false_iff {s : ScenarioConfig} :
    s.hasTable = false ↔ s.variables = [] ∧ s.expose = [] := by
  simp [hasTable]

end ScenarioConfig

namespace Definition

variable {snapshot : Snapshot}

/-- Tables are built if that of the first scenario is and those of the others are after it. -/
theorem buildTables_cons_eq_ok_iff {s : ScenarioConfig} {rest : List ScenarioConfig}
    {tables tables' : Dict Table} :
    buildTables snapshot (s :: rest) tables = .ok tables' ↔
      ∃ t, s.buildTable (snapshot.get? s.identifier) = .ok t ∧
        buildTables snapshot rest
          (if s.hasTable then tables.insert s.identifier t else tables) = .ok tables' := by
  rw [buildTables]
  cases s.buildTable (snapshot.get? s.identifier) <;> simp

/-- A definition is built if it passes and its tables can be built. -/
theorem build_eq_ok_iff {d : Definition} {p : Producer} :
    d.build snapshot = .ok p ↔ d.validate = .ok () ∧
      ∃ tables, buildTables snapshot d.scenarios ∅ = .ok tables ∧
        p = .make (d.scenarios.map ScenarioConfig.toScenario) tables := by
  unfold build
  cases d.validate with
  | error e => simp
  | ok u => cases buildTables snapshot d.scenarios ∅ <;> simp [eq_comm]

/-- A built producer has each scenario of its definition under its name, and no other. -/
theorem scenario_of_build {d : Definition} {p : Producer} (h : d.build snapshot = .ok p)
    {identifier : String} {s : Scenario} :
    p.scenarios.get? identifier = some s ↔
      ∃ config ∈ d.scenarios, config.identifier = identifier ∧ config.toScenario = s := by
  obtain ⟨hvalid, tables, -, rfl⟩ := build_eq_ok_iff.1 h
  have hkeys : ((((d.scenarios.map ScenarioConfig.toScenario).map
      fun s => (s.identifier, s)).reverse).map (·.1)).Nodup := by
    rw [List.map_reverse, List.nodup_reverse]
    simpa [Function.comp_def, ScenarioConfig.toScenario] using (validate_eq_ok_iff.1 hvalid).2
  show (Dict.ofList _).get? identifier = some s ↔ _
  rw [Dict.get?_ofList, Dict.lookup_eq_some_iff hkeys]
  simp [ScenarioConfig.toScenario]

end Definition

end LoadTest.Testdata
