import LoadTest.Proofs.Testdata.Building
/-!
# Crashes

Only times can crash a coordinator. Building a definition crashes at an offset that is no
span of time; a request crashes at a served key whose clock has no date for the shifted
moment or does not know its format. Everything else that goes wrong is an error, and ends in
an error of the building or in an answer to stop.
-/

namespace LoadTest.Testdata

/-! ## Clocks -/

/-- A clock can tell the time of a moment: there is a date for the shifted instant, and the
format has no unknown specifier. -/
def Clock.Tells (c : Clock) (m : Moment) : Prop :=
  (m.now.shift? c.offset.toInt).isSome ∧
    ∀ format, c.format = some format → (TimeFormat.items? format.toList).isSome

/-- A clock is read exactly if it can tell the time. -/
theorem Clock.read_error_iff {c : Clock} {m : Moment} :
    (∃ crash, c.read m = .error crash) ↔ ¬ c.Tells m := by
  unfold Clock.read Clock.Tells TimeFormat.render?
  cases m.now.shift? c.offset.toInt with
  | none => simp
  | some t =>
    cases c.format with
    | none => simp
    | some format => cases hitems : TimeFormat.items? format.toList <;> simp [hitems]

/-- Only a clock crashes when it is read. -/
theorem Source.read_crash_iff {source : Source} {m : Moment} :
    (∃ crash, source.read m = .error (.crash crash)) ↔
      ∃ c, source = .clock c ∧ ¬ c.Tells m := by
  cases source with
  | clock c =>
    simp only [Source.clock.injEq, exists_eq_left', ← Clock.read_error_iff, Source.read]
    cases c.read m <;> simp
  | counter c =>
    simp only [Source.read, reduceCtorEq, false_and, exists_false, iff_false]
    cases c.read <;> simp
  | literal | rows | random | onConsumer => simp [Source.read]

/-! ## Requests -/

/-- Serving a table comes as far as a key whose clock cannot tell the time. -/
def Table.MissesTime (t : Table) (outside : String → Moment) : Prop :=
  ∃ key base attr c, t.Reaches outside key ∧ resolve t.sources key = some (base, attr) ∧
    t.sources.get? base = some (.clock c) ∧ ¬ c.Tells (outside base)

/-- A key crashes exactly if it belongs to a clock that cannot tell the time. -/
theorem fault?_crash_iff {sources : Dict Source} {outside : String → Moment} {key : String} :
    (∃ crash, fault? sources outside key = some (.crash crash)) ↔
      ∃ base attr c, resolve sources key = some (base, attr) ∧
        sources.get? base = some (.clock c) ∧ ¬ c.Tells (outside base) := by
  constructor
  · rintro ⟨crash, h⟩
    rw [fault?_eq_some] at h
    cases h with
    | @unreadable base attr source _ hr hs _ _ he =>
      obtain ⟨c, rfl, hc⟩ := Source.read_crash_iff.1 ⟨crash, he⟩
      exact ⟨base, attr, c, hr, hs, hc⟩
  · rintro ⟨base, attr, c, hr, hs, hc⟩
    obtain ⟨crash, he⟩ := Source.read_crash_iff.2 ⟨c, rfl, hc⟩
    refine ⟨crash, fault?_eq_some.2 (.unreadable hr hs rfl ?_ he)⟩
    cases attr <;> rfl

/-- Serving a table crashes exactly if it misses the time. -/
theorem Table.materialize_crash_iff {t : Table} {outside : String → Moment}
    {aliases : Dict String} :
    (∃ crash, (t.materialize outside aliases).1 = .error (.crash crash)) ↔
      t.MissesTime outside := by
  constructor
  · rintro ⟨crash, h⟩
    obtain ⟨key, hreaches, hfault⟩ := materialize_eq_error_iff.1 h
    obtain ⟨base, attr, c, hclock⟩ := fault?_crash_iff.1 ⟨crash, hfault⟩
    exact ⟨key, base, attr, c, hreaches, hclock⟩
  · rintro ⟨key, base, attr, c, hreaches, hclock⟩
    obtain ⟨crash, hfault⟩ := fault?_crash_iff.2 ⟨base, attr, c, hclock⟩
    exact ⟨crash, materialize_eq_error_iff.2 ⟨key, hreaches, hfault⟩⟩

namespace Exchange

/-- The request is due an iteration of a table that misses the time. -/
def MissesTime (x : Exchange) : Prop :=
  ∃ s t, x.before.due? x.identifier = some s ∧ x.before.tables.get? s.identifier = some t ∧
    t.MissesTime x.outside

/-- The response that is owed to a request: the variables of the iteration that is due, and
to stop if none is due or its variables cannot be served. -/
def owed (x : Exchange) : TestdataResponse :=
  match x.before.due? x.identifier with
  | none => .stop
  | some s =>
    match (x.before.materialize x.outside s).1 with
    | .ok payload => .consume payload
    | .error _ => .stop

/-- The request gets the response that it is owed. -/
def Answered (x : Exchange) : Prop := ∃ log, x.reply = .ok ⟨x.owed, log⟩

/-- A request misses the time exactly if serving the iteration that is due crashes. -/
theorem missesTime_iff {x : Exchange} :
    x.MissesTime ↔ ∃ s crash, x.before.due? x.identifier = some s ∧
      (x.before.materialize x.outside s).1 = .error (.crash crash) := by
  constructor
  · rintro ⟨s, t, hs, ht, hmiss⟩
    obtain ⟨crash, hcrash⟩ : ∃ crash, (t.materialize x.outside s.aliases).1 =
      .error (.crash crash) := Table.materialize_crash_iff.2 hmiss
    refine ⟨s, crash, hs, ?_⟩
    rcases Producer.materialize_cases (x.before.materialize_eq x.outside s) with
      ⟨hnone, -, -⟩ | ⟨t', ht', hresult, -⟩
    · rw [hnone] at ht
      cases ht
    · obtain rfl := Option.some.inj (ht.symm.trans ht')
      exact hresult.trans hcrash
  · rintro ⟨s, crash, hs, hcrash⟩
    rcases Producer.materialize_cases (x.before.materialize_eq x.outside s) with
      ⟨-, hok, -⟩ | ⟨t, ht, hresult, -⟩
    · rw [hok] at hcrash
      cases hcrash
    · exact ⟨s, t, hs, ht, Table.materialize_crash_iff.1 ⟨crash, hresult.symm.trans hcrash⟩⟩

/-- A request is answered exactly if it does not meet a clock that cannot tell the time. -/
theorem answered_iff {x : Exchange} (hx : x.before.Filed) : x.Answered ↔ ¬ x.MissesTime := by
  have h := x.handles hx
  rw [missesTime_iff]
  unfold Answered owed
  cases hdue : x.before.due? x.identifier with
  | none =>
    obtain ⟨⟨log, hreply⟩, -⟩ := h.of_not_due hdue
    simp [hreply]
  | some s =>
    have hreply := h.of_due hdue
    cases hm : (x.before.materialize x.outside s).1 with
    | ok payload =>
      rw [hm] at hreply
      simp [hreply, hm]
    | error f =>
      rw [hm] at hreply
      cases f with
      | error e =>
        obtain ⟨log, hreply⟩ := hreply
        simp [hreply, hm]
      | crash c => simp [hreply, hm]

end Exchange

/-! ## Definitions -/

/-- A timestamp whose offset is no span of time. -/
def SourceConfig.OutOfSpan : SourceConfig → Prop
  | timestamp _ offset => ¬ (-Clock.maxSpan ≤ offset.toInt ∧ offset.toInt ≤ Clock.maxSpan)
  | _ => False

/-- Only a timestamp crashes when its source is made. -/
theorem VariableConfig.fault?_crash_iff {v : VariableConfig} {saved : Option (Dict Json)} :
    (∃ crash, v.fault? saved = some (.crash crash)) ↔ v.source.OutOfSpan := by
  unfold VariableConfig.fault?
  cases v.source with
  | timestamp format offset =>
    by_cases h : -Clock.maxSpan ≤ offset.toInt ∧ offset.toInt ≤ Clock.maxSpan
    · simp [SourceConfig.build, Clock.make, SourceConfig.OutOfSpan, h]
    · simp only [SourceConfig.build, Clock.make, SourceConfig.OutOfSpan, if_neg h]
      simp [h]
  | integerIncrementer start step persist =>
    cases persist with
    | false => simp [SourceConfig.build, SourceConfig.OutOfSpan]
    | true =>
      simp only [SourceConfig.build, SourceConfig.OutOfSpan, iff_false]
      cases (saved.bind (·.get? v.key)).bind Json.string? with
      | none => simp
      | some text => cases hr : Counter.restore ⟨start, step, true⟩ text <;> simp [hr]
  | randomInteger min max =>
    simp only [SourceConfig.build, SourceConfig.OutOfSpan, iff_false]
    cases IntRange.make min max <;> simp
  | literal | rowReader | onConsumer => simp [SourceConfig.build, SourceConfig.OutOfSpan]

namespace Definition

/-- Building comes as far as a timestamp that is out of span. -/
def OutOfSpan (d : Definition) (snapshot : Snapshot) : Prop :=
  d.validate = .ok () ∧ ∃ s v, d.Reaches snapshot s v ∧ v.source.OutOfSpan

/-- Building crashes exactly if it comes as far as a timestamp that is out of span. -/
theorem build_crash_iff (d : Definition) (snapshot : Snapshot) :
    (∃ crash, d.build snapshot = .error (.crash crash)) ↔ d.OutOfSpan snapshot := by
  unfold OutOfSpan
  cases hd : d.validate with
  | error e => simp [build, hd]
  | ok u =>
    constructor
    · rintro ⟨crash, h⟩
      obtain ⟨s, v, hreaches, hv⟩ := (build_error_iff hd).1 h
      exact ⟨rfl, s, v, hreaches, VariableConfig.fault?_crash_iff.1 ⟨crash, hv⟩⟩
    · rintro ⟨-, s, v, hreaches, hv⟩
      obtain ⟨crash, hcrash⟩ : ∃ crash, v.fault? (snapshot.get? s.identifier) =
        some (.crash crash) := VariableConfig.fault?_crash_iff.2 hv
      exact ⟨crash, (build_error_iff hd).2 ⟨s, v, hreaches, hcrash⟩⟩

/-- A definition crashes the coordinator only through times: when it is built, at a timestamp
that is out of span; later, at a request that meets a clock that cannot tell the time. -/
theorem crashes_only_through_times (d : Definition) (snapshot : Snapshot) :
    ((∃ crash, d.build snapshot = .error (.crash crash)) ↔ d.OutOfSpan snapshot) ∧
    ∀ p, d.build snapshot = .ok p → ∀ demands,
      ∀ round ∈ (Chronicle.run ⟨p, [], []⟩ demands).rounds, ∀ x ∈ round,
        (x.Answered ↔ ¬ x.MissesTime) := by
  refine ⟨build_crash_iff d snapshot, ?_⟩
  intro p hp demands round hround x hx
  have hbuilt := allSources_of_build (P := fun _ => True) hp fun _ _ _ _ _ _ _ => trivial
  have hlasting : Lasting fun _ => True := fun _ _ => trivial
  exact Exchange.answered_iff
    (Chronicle.run_allSources hlasting hbuilt.1 hbuilt.2 demands round hround x hx).1

/-- An offset that is no span of time crashes the building, and a format with an unknown
specifier crashes the first request. -/
theorem timestamps_crash :
    build ⟨[⟨"A", 1, ∅, [⟨"t", false, .timestamp none Int64.maxValue⟩], []⟩]⟩ ∅ =
        .error (.crash .spanOutOfRange) ∧
      ∃ p, build ⟨[⟨"A", 1, ∅, [⟨"t", false, .timestamp (some "%Q") 0⟩], []⟩]⟩ ∅ = .ok p ∧
        (p.handle (fun _ => ⟨⟨0, 0⟩, 0⟩) "A").1 = .error .badTimeFormat :=
  ⟨rfl, _, rfl, rfl⟩

end Definition

/-! ## Harmless definitions -/

/-- A source that, if it is a timestamp, can be made and tells the time of some moments. -/
def SourceConfig.TellsAt (M : Moment → Prop) : SourceConfig → Prop
  | config@(timestamp format offset) =>
    ¬ config.OutOfSpan ∧ ∀ m, M m → Clock.Tells ⟨format, offset⟩ m
  | _ => True

/-- A source that is no clock never becomes one, and a clock stays as it is. -/
theorem lasting_clock (Q : Clock → Prop) : Lasting fun source => ∀ c, source = .clock c → Q c := by
  rintro source next m v h hread c rfl
  cases Source.reads_of_read hread
  exact h c rfl

/-- A definition whose timestamps are in span and tell the time of all moments that occur
neither crashes when it is built nor leaves a request unanswered. -/
theorem Definition.safe_of_tellsAt {M : Moment → Prop} {d : Definition}
    (hd : ∀ s ∈ d.scenarios, ∀ v ∈ s.variables, v.source.TellsAt M) (snapshot : Snapshot) :
    (∀ crash, d.build snapshot ≠ .error (.crash crash)) ∧
    ∀ p, d.build snapshot = .ok p → ∀ demands,
      ∀ round ∈ (Chronicle.run ⟨p, [], []⟩ demands).rounds, ∀ x ∈ round,
        (∀ base, M (x.outside base)) → x.Answered := by
  constructor
  · intro crash h
    obtain ⟨-, s, v, ⟨_, _, _, _, hs, hv, -⟩, hspan⟩ := (build_crash_iff d snapshot).1 ⟨crash, h⟩
    have htells := hd s (by simp [hs]) v (by simp [hv])
    cases hsource : v.source with
    | timestamp format offset =>
      rw [hsource] at hspan htells
      exact htells.1 hspan
    | literal | integerIncrementer | rowReader | randomInteger | onConsumer =>
      rw [hsource] at hspan
      exact hspan
  · intro p hp demands round hround x hx hM
    have hbuilt := allSources_of_build
      (P := fun source => ∀ c, source = .clock c → ∀ m, M m → c.Tells m) hp ?_
    · have hx' := Chronicle.run_allSources (lasting_clock _) hbuilt.1 hbuilt.2 demands round
        hround x hx
      refine (Exchange.answered_iff hx'.1).2 ?_
      rintro ⟨s, t, -, ht, key, base, attr, c, -, -, hc, hnot⟩
      exact hnot (hx'.2 _ t ht base _ hc c rfl _ (hM base))
    · rintro s hs v hv saved source hmakes c rfl
      have htells := hd s hs v hv
      generalize v.source = config at hmakes htells
      cases hmakes
      exact htells.2

end LoadTest.Testdata
