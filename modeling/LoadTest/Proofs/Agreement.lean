import LoadTest.Proofs.Testdata.Finality
import LoadTest.Proofs.Testdata.Persisting
/-!
# Producers that agree in a name

A request for test data reads and writes nothing but the scenario, the table and the counter of
its name. So producers that agree in this part give the same answer and agree afterwards, and
any other part stays as it is.
-/

namespace LoadTest

namespace Testdata

/-- A deterministic source is read the same at all moments. -/
theorem Source.IsDeterministic.read {source : Source} (h : source.IsDeterministic)
    (m m' : Moment) : source.read m = source.read m' := by
  cases source with
  | literal | counter | rows | onConsumer => rfl
  | random | clock => exact h.elim

namespace Serving

/-- All sources of a serving are deterministic. -/
def IsDeterministic (s : Serving) : Prop :=
  ∀ base source, s.sources.get? base = some source → source.IsDeterministic

variable {s : Serving} (outside outside' : String → Moment) (aliases : Dict String)

/-- With a deterministic source it does not matter when its value is read. -/
theorem IsDeterministic.valueOf (h : s.IsDeterministic) {base : String} {source : Source}
    (hs : s.sources.get? base = some source) :
    valueOf outside base source s = valueOf outside' base source s ∧
      ∀ v s', valueOf outside base source s = .ok (v, s') → s'.IsDeterministic := by
  have hsource := h base source hs
  unfold Serving.valueOf
  rw [hsource.read (outside base) (outside' base)]
  split
  · refine ⟨rfl, ?_⟩
    rintro _ _ ⟨⟩
    exact h
  · split
    · exact ⟨rfl, nofun⟩
    · next v next hread =>
      refine ⟨rfl, ?_⟩
      rintro _ _ ⟨⟩ other x hx
      rw [Dict.get?_insert] at hx
      split at hx
      · cases hx
        exact lasting_isDeterministic hsource hread
      · exact h other x hx

/-- With deterministic sources it does not matter when a key is served. -/
theorem IsDeterministic.step (h : s.IsDeterministic) (key : String) :
    step outside aliases key s = step outside' aliases key s ∧
      (step outside aliases key s).1.IsDeterministic := by
  unfold Serving.step
  split
  · exact ⟨rfl, h⟩
  · next base attr hresolve =>
    split
    · exact ⟨rfl, h⟩
    · next source hsource =>
      split
      · exact ⟨rfl, h⟩
      · split
        · exact ⟨rfl, h⟩
        · obtain ⟨hsame, hkept⟩ := h.valueOf outside outside' hsource
          rw [← hsame]
          refine ⟨rfl, ?_⟩
          split
          · exact h
          · next v s' hvalue =>
            split <;> exact hkept v s' hvalue

theorem IsDeterministic.run (h : s.IsDeterministic) (keys : List String) :
    run outside aliases keys s = run outside' aliases keys s := by
  induction keys generalizing s with
  | nil => rfl
  | cons key keys ih =>
    obtain ⟨hsame, hkept⟩ := h.step outside outside' aliases key
    unfold Serving.run
    rw [← hsame]
    generalize Serving.step outside aliases key s = r at hkept
    obtain ⟨s', f⟩ := r
    cases f with
    | none => exact ih hkept
    | some f => rfl

end Serving

/-- With deterministic sources it does not matter when a table is served. -/
theorem Table.AllSources.materialize_congr {t : Table} (h : t.AllSources Source.IsDeterministic)
    (outside outside' : String → Moment) (aliases : Dict String) :
    t.materialize outside aliases = t.materialize outside' aliases := by
  have hstart : Serving.IsDeterministic ⟨t.sources, ∅, {}⟩ := h
  unfold Table.materialize
  rw [hstart.run outside outside']

namespace Producer

/-- Two producers have the same scenario, table and counter under a name. -/
structure Agree (identifier : String) (p p' : Producer) : Prop where
  scenario : p.scenarios.get? identifier = p'.scenarios.get? identifier
  table : p.tables.get? identifier = p'.tables.get? identifier
  count : p.iteration? identifier = p'.iteration? identifier

namespace Agree

variable {identifier : String} {p p' p'' : Producer}

theorem refl (identifier : String) (p : Producer) : p.Agree identifier p := ⟨rfl, rfl, rfl⟩

theorem symm (h : p.Agree identifier p') : p'.Agree identifier p :=
  ⟨h.scenario.symm, h.table.symm, h.count.symm⟩

theorem trans (h : p.Agree identifier p') (h' : p'.Agree identifier p'') :
    p.Agree identifier p'' :=
  ⟨h.scenario.trans h'.scenario, h.table.trans h'.table, h.count.trans h'.count⟩

/-- Producers that agree in every name are the same. -/
theorem eq_of_forall (h : ∀ identifier, p.Agree identifier p') : p = p' := by
  have hscenarios := Dict.ext_get? fun identifier => (h identifier).scenario
  have htables := Dict.ext_get? fun identifier => (h identifier).table
  have hserved := Dict.ext_get? fun identifier => (h identifier).count
  obtain ⟨scenarios, tables, served⟩ := p
  obtain rfl := hscenarios
  obtain rfl := htables
  obtain rfl := hserved
  rfl

theorem progress (h : p.Agree identifier p') :
    p.progress identifier = p'.progress identifier := by
  rw [Producer.progress, Producer.progress, h.count]

theorem due? (h : p.Agree identifier p') : p.due? identifier = p'.due? identifier := by
  rw [Producer.due?, Producer.due?, h.progress, h.scenario]

/-- They have the same part of the snapshot. -/
theorem snapshot (h : p.Agree identifier p') :
    p.snapshot.get? identifier = p'.snapshot.get? identifier := by
  rw [get?_snapshot, get?_snapshot, h.table]

/-- A table that they share is served alike. -/
theorem materialize (h : p.Agree identifier p') (hd : p.AllSources Source.IsDeterministic)
    (outside outside' : String → Moment) {s : Scenario} (hs : s.identifier = identifier) :
    (p.materialize outside s).1 = (p'.materialize outside' s).1 ∧
      (p.materialize outside s).2.tables.get? identifier =
        (p'.materialize outside' s).2.tables.get? identifier := by
  unfold Producer.materialize
  rw [hs, h.table]
  cases ht : p'.tables.get? identifier with
  | none => exact ⟨rfl, h.table⟩
  | some t =>
    have hsame := (hd identifier t (h.table.trans ht)).materialize_congr outside outside' s.aliases
    refine ⟨congrArg (·.1) hsame, ?_⟩
    simp only [Dict.get?_insert_self, hsame]

theorem reset (h : p.Agree identifier p') : p.reset.Agree identifier p'.reset := by
  refine ⟨h.scenario, h.table, ?_⟩
  simp only [iteration?, Producer.reset, Dict.get?_map]
  exact congrArg _ h.count

end Agree

namespace Handles

variable {p p' q q' : Producer} {outside outside' : String → Moment} {identifier : String}
  {reply reply' : Except Crash Served}

/-- A request leaves every other scenario alone. -/
theorem agree_of_ne (h : p.Handles outside identifier reply p') (hp : p.Filed) {other : String}
    (hne : identifier ≠ other) : p'.Agree other p where
  scenario := by rw [h.scenarios]
  table := (h.table hp other).resolve_right fun h => hne h.1.symm
  count := h.iteration?_of_ne hne

/-- When an iteration is due, the response is what becomes of serving its table. -/
theorem response_of_due (h : p.Handles outside identifier reply p') {s : Scenario}
    (hdue : p.due? identifier = some s) :
    reply.map (·.response) =
      match (p.materialize outside s).1 with
      | .ok payload => .ok (.consume payload)
      | .error (.error _) => .ok .stop
      | .error (.crash c) => .error c := by
  have hreply := h.of_due hdue
  rcases hm : (p.materialize outside s).1 with (e | c) | payload
  · rw [hm] at hreply
    obtain ⟨log, rfl⟩ := hreply
    rfl
  · rw [hm] at hreply
    rw [hreply]
    rfl
  · rw [hm] at hreply
    rw [hreply]
    rfl

/-- When an iteration is due, its table is left served, and it is counted unless that failed. -/
theorem after_of_due (h : p.Handles outside identifier reply p') {s : Scenario}
    (hdue : p.due? identifier = some s) :
    p' = { p with
      tables := (p.materialize outside s).2.tables
      served := p.served.insert identifier
        (match (p.materialize outside s).1 with
        | .ok _ => p.progress identifier + 1
        | .error _ => p.progress identifier) } := by
  obtain ⟨tables, ⟨payload, hm, -, rfl⟩ | ⟨f, hm, -, rfl⟩⟩ := h.cases_of_due hdue <;> rw [hm]

/-- A request is answered by the scenario, the table and the counter of its name, and leaves
producers that agree in them in agreement. -/
theorem agree (h : p.Handles outside identifier reply p')
    (h' : q.Handles outside' identifier reply' q') (hp : p.Filed)
    (ha : p.Agree identifier q) (hd : p.AllSources Source.IsDeterministic) :
    reply.map (·.response) = reply'.map (·.response) ∧ p'.Agree identifier q' := by
  cases hdue : p.due? identifier with
  | none =>
    obtain ⟨⟨log, rfl⟩, rfl⟩ := h.of_not_due hdue
    obtain ⟨⟨log', rfl⟩, rfl⟩ := h'.of_not_due (ha.due? ▸ hdue)
    exact ⟨rfl, ha⟩
  | some s =>
    have hdue' : q.due? identifier = some s := ha.due? ▸ hdue
    obtain ⟨hresult, htable⟩ :=
      ha.materialize hd outside outside' (hp identifier s (due?_eq_some.1 hdue).1)
    constructor
    · rw [h.response_of_due hdue, h'.response_of_due hdue', hresult]
    · rw [h.after_of_due hdue, h'.after_of_due hdue']
      refine ⟨ha.scenario, htable, ?_⟩
      simp only [iteration?, Dict.get?_insert_self, hresult, ha.progress]

end Handles

end Producer

end Testdata

end LoadTest
