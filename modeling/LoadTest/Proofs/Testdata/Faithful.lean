import LoadTest.Proofs.Testdata.Crashes
import LoadTest.Proofs.Testdata.Lockstep
/-!
# Definitions are built faithfully

A definition is built exactly if it is well-formed and none of its timestamps is out of span.
What is built has all scenarios of the definition. Those that need one have a table, which lists
the served keys in their order and has the last source of each name.
-/

namespace LoadTest.Testdata

/-! ## Sources that can be made -/

/-- A configuration is sound, given what was saved under its key: a range is not empty, and a
counter that persists can be restored from a saved text. -/
def SourceConfig.IsSound (saved : Option Json) : SourceConfig → Prop
  | randomInteger min max => min.toInt ≤ max.toInt
  | integerIncrementer start step true =>
    ∀ text, saved = some (.str text) → ∃ c, Counter.restore ⟨start, step, true⟩ text = .ok c
  | _ => True

/-- A source is made exactly if its configuration is sound and not out of span. -/
theorem SourceConfig.exists_build_iff {config : SourceConfig} {saved : Option Json} :
    (∃ source, config.build saved = .ok source) ↔ config.IsSound saved ∧ ¬ config.OutOfSpan := by
  cases config with
  | literal | rowReader | onConsumer => simp [build, IsSound, OutOfSpan]
  | integerIncrementer start step persist =>
    cases persist with
    | false => simp [build, IsSound, OutOfSpan]
    | true =>
      simp only [build, IsSound, OutOfSpan, ← bind_string?_eq_some_iff, not_false_eq_true,
        and_true]
      cases saved.bind Json.string? with
      | none => simp
      | some text => cases hr : Counter.restore ⟨start, step, true⟩ text <;> simp [hr]
  | randomInteger min max =>
    by_cases h : min.toInt ≤ max.toInt <;> simp [build, IntRange.make, IsSound, OutOfSpan, h]
  | timestamp format offset =>
    by_cases h : -Clock.maxSpan ≤ offset.toInt ∧ offset.toInt ≤ Clock.maxSpan <;>
      simp [build, Clock.make, IsSound, OutOfSpan, h]

/-! ## Well-formed definitions -/

namespace Definition

/-- A definition is well-formed, given a snapshot: its scenarios have names, each another one,
no alias takes the name of the variables, all variables have keys, and all sources are sound. -/
structure WellFormed (d : Definition) (snapshot : Snapshot) : Prop where
  named : ∀ s ∈ d.scenarios, s.identifier ≠ ""
  distinct : (d.scenarios.map (·.identifier)).Nodup
  aliases : ∀ s ∈ d.scenarios, ∀ key, s.aliases.get? key ≠ some "variables"
  keys : ∀ s ∈ d.scenarios, ∀ v ∈ s.variables, v.key ≠ ""
  sources : ∀ s ∈ d.scenarios, ∀ v ∈ s.variables,
    v.source.IsSound ((snapshot.get? s.identifier).bind (·.get? v.key))

/-- All timestamps of a definition have offsets that are spans of time. -/
def InSpan (d : Definition) : Prop :=
  ∀ s ∈ d.scenarios, ∀ v ∈ s.variables, ¬ v.source.OutOfSpan

/-- A definition is built exactly if it passes the check and all its sources are made. -/
theorem exists_build_iff {d : Definition} {snapshot : Snapshot} :
    (∃ p, d.build snapshot = .ok p) ↔ d.validate = .ok () ∧
      ∀ s ∈ d.scenarios, ∀ v ∈ s.variables,
        ∃ source, v.source.build ((snapshot.get? s.identifier).bind (·.get? v.key)) =
          .ok source := by
  constructor
  · rintro ⟨p, h⟩
    refine ⟨(build_eq_ok_iff.1 h).1, fun s hs v hv => ?_⟩
    exact VariableConfig.fault?_eq_none_iff.1 (fault?_of_build h hs hv)
  · rintro ⟨hvalid, hsources⟩
    cases h : d.build snapshot with
    | ok p => exact ⟨p, rfl⟩
    | error f =>
      obtain ⟨s, v, ⟨_, _, _, _, hscenarios, hvariables, -⟩, hfault⟩ := (build_error_iff hvalid).1 h
      have hmade := hsources s (by simp [hscenarios]) v (by simp [hvariables])
      rw [VariableConfig.fault?_eq_none_iff.2 hmade] at hfault
      cases hfault

/-- A definition is built exactly if it is well-formed and no timestamp is out of span. -/
theorem exists_build_iff_wellFormed {d : Definition} {snapshot : Snapshot} :
    (∃ p, d.build snapshot = .ok p) ↔ d.WellFormed snapshot ∧ d.InSpan := by
  simp only [exists_build_iff, validate_eq_ok_iff, ScenarioConfig.validate_eq_ok_iff,
    SourceConfig.exists_build_iff]
  constructor
  · rintro ⟨⟨hpassed, hdistinct⟩, hsources⟩
    exact ⟨⟨fun s hs => (hpassed s hs).1, hdistinct, fun s hs => (hpassed s hs).2.1,
      fun s hs => (hpassed s hs).2.2, fun s hs v hv => (hsources s hs v hv).1⟩,
      fun s hs v hv => (hsources s hs v hv).2⟩
  · rintro ⟨hd, hspan⟩
    exact ⟨⟨fun s hs => ⟨hd.named s hs, hd.aliases s hs, hd.keys s hs⟩, hd.distinct⟩,
      fun s hs v hv => ⟨hd.sources s hs v hv, hspan s hs v hv⟩⟩

end Definition

/-! ## What is built -/

/-- A table represents a scenario, given what was saved for it: it lists each served key once,
where it comes first, and has under each name the source that is built for the last variable
declared under this name, which is the source that its configuration stands for. -/
structure Table.Represents (t : Table) (s : ScenarioConfig) (saved : Option (Dict Json)) :
    Prop where
  keys : t.keys = s.served.eraseDups
  sources : ∀ name, match s.declared? name with
    | none => t.sources.get? name = none
    | some v => ∃ source, v.source.build (saved.bind (·.get? name)) = .ok source ∧
        v.source.Makes (saved.bind (·.get? name)) source ∧ t.sources.get? name = some source

/-- A producer represents a definition, given a snapshot: it keeps each scenario with its
iterations and aliases, has a table for each that declares variables or exposes keys, and
nothing else, and has not served anything yet. -/
structure Producer.Represents (p : Producer) (d : Definition) (snapshot : Snapshot) : Prop where
  scenarios : ∀ s ∈ d.scenarios,
    p.scenarios.get? s.identifier = some ⟨s.identifier, s.iterations, s.aliases⟩
  bare : ∀ s ∈ d.scenarios, p.tables.get? s.identifier = none ↔ s.variables = [] ∧ s.expose = []
  tables : ∀ s ∈ d.scenarios, ∀ t, p.tables.get? s.identifier = some t →
    t.Represents s (snapshot.get? s.identifier)
  others : ∀ identifier, (∀ s ∈ d.scenarios, s.identifier ≠ identifier) →
    p.scenarios.get? identifier = none ∧ p.tables.get? identifier = none
  unserved : p.served = ∅

namespace Definition

variable {d : Definition} {snapshot : Snapshot} {p : Producer}

/-- A table that is built represents its scenario. -/
theorem represents_of_buildTable {s : ScenarioConfig} {saved : Option (Dict Json)} {t : Table}
    (h : s.buildTable saved = .ok t) : t.Represents s saved where
  keys := ScenarioConfig.keys_buildTable h
  sources name := by
    have hname := ScenarioConfig.get?_buildTable h name
    cases hv : s.declared? name with
    | none =>
      rw [hv] at hname
      exact hname
    | some v =>
      rw [hv] at hname
      obtain ⟨source, hbuild, hget⟩ := hname
      exact ⟨source, hbuild, SourceConfig.makes_of_build hbuild, hget⟩

/-- What is built represents the definition. -/
theorem represents_of_build (h : d.build snapshot = .ok p) : p.Represents d snapshot where
  scenarios s hs := (scenario_of_build h).2 ⟨s, hs, rfl, rfl⟩
  bare s hs := by
    rw [← ScenarioConfig.hasTable_eq_false_iff]
    rcases table_of_build h hs with ⟨hbare, hnone⟩ | ⟨htable, t, -, ht⟩
    · exact iff_of_true hnone hbare
    · simp [htable, ht]
  tables s hs t ht := by
    rcases table_of_build h hs with ⟨-, hnone⟩ | ⟨-, t', hbuild, ht'⟩
    · rw [hnone] at ht
      cases ht
    · obtain rfl := Option.some.inj (ht.symm.trans ht')
      exact represents_of_buildTable hbuild
  others identifier hothers := by
    refine ⟨Option.eq_none_iff_forall_ne_some.2 fun s hs => ?_, ?_⟩
    · obtain ⟨config, hconfig, hname, -⟩ := (scenario_of_build h).1 hs
      exact hothers config hconfig hname
    · obtain ⟨-, tables, htables, rfl⟩ := build_eq_ok_iff.1 h
      have htable := get?_buildTables htables identifier
      have hnone : d.scenarios.reverse.find? (fun s => s.identifier = identifier ∧ s.hasTable) =
          none := by
        simp only [List.find?_eq_none, List.mem_reverse, decide_eq_true_eq, not_and]
        exact fun s hs hname => absurd hname (hothers s hs)
      rw [hnone] at htable
      exact htable
  unserved := by
    obtain ⟨-, tables, -, rfl⟩ := build_eq_ok_iff.1 h
    rfl

/-- A definition whose timestamps are in span is accepted exactly if it is well-formed, and what
is built of an accepted one represents it. Without a snapshot nothing is saved. -/
theorem built_faithfully (d : Definition) (saved : Option Snapshot) :
    let snapshot := saved.getD ∅
    ((∃ p, d.build snapshot = .ok p) ↔ d.WellFormed snapshot ∧ d.InSpan) ∧
      ∀ p, d.build snapshot = .ok p → p.Represents d snapshot :=
  ⟨exists_build_iff_wellFormed, fun _ => represents_of_build⟩

/-- A ticket that is first a constant and then a counter that goes on from a snapshot, a hidden
user of whom the name is served, and a scenario without anything to serve. -/
def ticketDesk : Definition :=
  ⟨[⟨"A", 9, Dict.ofList [("ticket", "number")],
      [⟨"ticket", false, .literal .null⟩,
        ⟨"user", true, .rowReader [Dict.ofList [("name", .str "alice")]] true⟩,
        ⟨"ticket", false, .integerIncrementer 1 1 true⟩],
      ["user.name", "ticket"]⟩,
    ⟨"B", 3, ∅, [], []⟩]⟩

/-- The ticket goes on at 40 in steps of two. -/
def ticketsSaved : Snapshot :=
  Dict.ofList [("A", Dict.ofList [("ticket", .str "40 | step=2")])]

theorem ticketDesk_built : ∃ p, ticketDesk.build ticketsSaved = .ok p ∧
    p.scenarios.get? "B" = some ⟨"B", 3, ∅⟩ ∧ p.tables.get? "B" = none ∧
    ∃ t, p.tables.get? "A" = some t ∧ t.keys = ["ticket", "user.name"] ∧
      t.sources.get? "ticket" = some (.counter ⟨40, 2, true⟩) := by
  obtain ⟨p, hp⟩ : ∃ p, ticketDesk.build ticketsSaved = .ok p := ⟨_, rfl⟩
  have h := (built_faithfully ticketDesk (some ticketsSaved)).2 p hp
  refine ⟨p, hp, h.scenarios _ (.tail _ (.head _)), (h.bare _ (.tail _ (.head _))).2 ⟨rfl, rfl⟩, ?_⟩
  cases ht : p.tables.get? "A" with
  | none => exact absurd ((h.bare _ (.head _)).1 ht).1 nofun
  | some t =>
    have htable := h.tables _ (.head _) t ht
    obtain ⟨source, hsource, -, hget⟩ := htable.sources "ticket"
    cases hsource
    exact ⟨t, rfl, htable.keys.trans (by decide), hget⟩

end Definition

end LoadTest.Testdata
