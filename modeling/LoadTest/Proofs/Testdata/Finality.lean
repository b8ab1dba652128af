import LoadTest.Proofs.Testdata.Crashes
import LoadTest.Proofs.Testdata.Iterations
/-!
# Stopping for good

With sources that neither draw at random nor tell the time, a scenario that was told to stop
stays stopped until the counters start over, with one exception. A row may lack a column
that the next row has, so a request that fails for the columns of its row says nothing about
the requests after it. Every other failure lasts: a key without a source or without the
attribute it asks for stays so, a value that has no attributes never gets any, and a counter
that cannot go on does not move.
-/

namespace LoadTest.Testdata

/-! ## Sources that depend on nothing else -/

/-- A source whose values depend on nothing but itself. -/
def Source.IsDeterministic : Source → Prop
  | random _ | clock _ => False
  | _ => True

/-- A configuration of such a source. -/
def SourceConfig.IsDeterministic : SourceConfig → Prop
  | randomInteger _ _ | timestamp _ _ => False
  | _ => True

/-- A definition whose variables have such sources only. -/
def Definition.IsDeterministic (d : Definition) : Prop :=
  ∀ s ∈ d.scenarios, ∀ v ∈ s.variables, v.source.IsDeterministic

theorem lasting_isDeterministic : Lasting Source.IsDeterministic := by
  intro source next m v h hread
  cases Source.reads_of_read hread with
  | literal | counter | rows | onConsumer => trivial
  | random | clock => exact h

theorem SourceConfig.IsDeterministic.makes {config : SourceConfig} (h : config.IsDeterministic)
    {saved : Option Json} {source : Source} (hs : config.Makes saved source) :
    source.IsDeterministic := by
  cases hs with
  | literal | counter | fresh | resumed | rows | onConsumer => trivial
  | random | clock => exact h

/-! ## Keys that are never served -/

/-- A source that gives a key no value, neither now nor after any number of reads. -/
inductive Source.Denies (key : String) : Source → Option String → Prop where
  | unknown {source : Source} {attr : Option String} (h : Serving.lacks source attr = true) :
    Denies key source attr
  | bare {v : Json} {attr : String} {e : Error} (h : project key v attr = .error e) :
    Denies key (.literal v) (some attr)
  | scalar (c : Counter) (attr : String) : Denies key (.counter c) (some attr)
  | exhausted {c : Counter} {attr : Option String} {e : Error} (h : c.read = .error e) :
    Denies key (.counter c) attr

theorem Source.Denies.read {key : String} {source next : Source} {attr : Option String}
    {m : Moment} {v : Json} (h : source.Denies key attr)
    (hread : source.read m = .ok (v, next)) : next.Denies key attr := by
  cases h with
  | unknown h =>
    refine .unknown ?_
    cases attr with
    | none => exact h
    | some attr => rwa [Serving.lacks, (Source.read_keeps hread).1]
  | bare h =>
    cases hread
    exact .bare h
  | scalar c attr =>
    cases Source.reads_of_read hread
    exact .scalar _ attr
  | exhausted h =>
    cases Source.reads_of_read hread with
    | counter hc =>
      rw [h] at hc
      cases hc

/-- A key that has no source, or whose source denies it. -/
def Dead (sources : Dict Source) (key : String) : Prop :=
  resolve sources key = none ∨
    ∃ base attr source, resolve sources key = some (base, attr) ∧
      sources.get? base = some source ∧ source.isOnConsumer = false ∧ source.Denies key attr

/-- Serving a table does not bring a key to life. -/
theorem Dead.advanced {outside : String → Moment} {before after : Dict Source} {key : String}
    (h : Dead before key) (ha : Advanced outside before after) : Dead after key := by
  rcases h with hr | ⟨base, attr, source, hr, hs, hw, hdenies⟩
  · exact .inl ((ha.resolve key).trans hr)
  · refine .inr ⟨base, attr, ?_⟩
    rcases ha base with hsame | ⟨source', v, next, hs', hread, hnext⟩
    · exact ⟨source, (ha.resolve key).trans hr, hsame.trans hs, hw, hdenies⟩
    · obtain rfl := Option.some.inj (hs.symm.trans hs')
      exact ⟨next, (ha.resolve key).trans hr, hnext, (Source.read_keeps hread).2.trans hw,
        hdenies.read hread⟩

/-- A dead key has no meaning. -/
theorem Dead.fault {sources : Dict Source} {key : String} (h : Dead sources key)
    (outside : String → Moment) : fault? sources outside key ≠ none := by
  rw [Option.ne_none_iff_exists']
  simp only [fault?_eq_some]
  rcases h with hr | ⟨base, attr, source, hr, hs, hw, hdenies⟩
  · exact ⟨_, .undeclared hr⟩
  · cases hl : Serving.lacks source attr with
    | true =>
      cases attr with
      | none => cases hl
      | some attr => exact ⟨_, .unknownAttribute hr hs hw hl⟩
    | false =>
      cases hdenies with
      | unknown h =>
        rw [hl] at h
        cases h
      | bare h => exact ⟨_, .unprojectable hr hs hw hl rfl h⟩
      | @exhausted c _ e h =>
        refine ⟨.error e, .unreadable hr hs hw hl ?_⟩
        simp only [Source.read, h]
      | scalar c attr =>
        cases hc : c.read with
        | error e =>
          refine ⟨.error e, .unreadable hr hs hw hl ?_⟩
          simp only [Source.read, hc]
        | ok r =>
          obtain ⟨v, next⟩ := r
          have hv : v = .ofInt64 c.next := by
            unfold Counter.read at hc
            split at hc <;> cases hc
            rfl
          have hread : (Source.counter c).read (outside base) = .ok (v, .counter next) := by
            simp only [Source.read, hc]
          obtain ⟨e, he⟩ : ∃ e, project key v attr = .error e := hv ▸ ⟨_, rfl⟩
          exact ⟨_, .unprojectable hr hs hw hl hread he⟩

/-- The row that is read for a key lacks the column that the key asks for, and the first row
did not rule the column out. -/
def LacksColumn (sources : Dict Source) (key : String) : Prop :=
  ∃ base attr r row, resolve sources key = some (base, some attr) ∧
    sources.get? base = some (.rows r) ∧ Serving.lacks (.rows r) (some attr) = false ∧
    r.read.1 = .ofDict row ∧ row.get? attr = none

/-- A row reader gives a row or nothing. -/
private theorem Rows.read_fst (r : Rows) : r.read.1 = .null ∨ ∃ row, r.read.1 = .ofDict row := by
  unfold Rows.read
  split
  · exact .inr ⟨_, rfl⟩
  · split
    · exact .inr ⟨_, rfl⟩
    · exact .inl rfl

/-- Where all sources are deterministic, a key without a meaning is dead, or its row lacks
the column. -/
theorem Fault.dead_or_lacksColumn {sources : Dict Source} {outside : String → Moment}
    {key : String} {f : Failure} (h : Fault sources outside key f)
    (hd : ∀ base source, sources.get? base = some source → source.IsDeterministic) :
    Dead sources key ∨ LacksColumn sources key := by
  cases h with
  | undeclared hr => exact .inl (.inl hr)
  | unknownAttribute hr hs hw hl => exact .inl (.inr ⟨_, _, _, hr, hs, hw, .unknown hl⟩)
  | @unreadable base attr source _ hr hs hw hl he =>
    refine .inl (.inr ⟨_, _, _, hr, hs, hw, ?_⟩)
    cases source with
    | counter c =>
      cases hc : c.read with
      | error e => exact .exhausted hc
      | ok r => simp [Source.read, hc] at he
    | literal | rows | onConsumer => cases he
    | random | clock => exact absurd (hd _ _ hs) id
  | @unprojectable base attr source next v e hr hs hw hl hv he =>
    cases source with
    | literal =>
      cases hv
      exact .inl (.inr ⟨_, _, _, hr, hs, hw, .bare he⟩)
    | counter c => exact .inl (.inr ⟨_, _, _, hr, hs, hw, .scalar c attr⟩)
    | rows r =>
      cases hv
      rcases Rows.read_fst r with hnull | ⟨row, hrow⟩
      · rw [hnull] at he
        cases he
      · refine .inr ⟨_, attr, r, row, hr, hs, hl, hrow, ?_⟩
        cases hcolumn : row.get? attr with
        | none => rfl
        | some w =>
          rw [hrow] at he
          simp only [project, Json.ofDict, show Dict.lookup attr row.entries = some w from hcolumn]
            at he
          cases he
    | onConsumer => cases hw
    | random | clock => exact absurd (hd _ _ hs) id

/-- A table that can never be served again. -/
def Table.Barren (t : Table) : Prop := ∃ key ∈ t.keys, Dead t.sources key

/-- Serving a table comes as far as a key whose row lacks the column. -/
def Table.LacksColumn (t : Table) (outside : String → Moment) : Prop :=
  ∃ key, t.Reaches outside key ∧ Testdata.LacksColumn t.sources key

namespace Table

variable {t : Table} {outside : String → Moment} {aliases : Dict String}

theorem Barren.materialize (h : t.Barren) (outside : String → Moment) (aliases : Dict String) :
    (t.materialize outside aliases).2.Barren := by
  obtain ⟨key, hkey, hdead⟩ := h
  obtain ⟨hkeys, hadvanced⟩ := t.materialize_advances outside aliases
  exact ⟨key, hkeys ▸ hkey, hdead.advanced hadvanced⟩

theorem Barren.not_served (h : t.Barren) {payload : Payload} :
    (t.materialize outside aliases).1 ≠ .ok payload := by
  intro hok
  obtain ⟨key, hkey, hdead⟩ := h
  exact hdead.fault outside (materialize_ok_iff.1 ⟨payload, hok⟩ key hkey)

/-- A table with deterministic sources that fails is barren, or lacks a column. -/
theorem barren_or_lacksColumn (hd : t.AllSources Source.IsDeterministic) {f : Failure}
    (h : (t.materialize outside aliases).1 = .error f) : t.Barren ∨ t.LacksColumn outside := by
  obtain ⟨key, hreaches, hfault⟩ := materialize_eq_error_iff.1 h
  rcases (fault?_eq_some.1 hfault).dead_or_lacksColumn hd with hdead | hlacks
  · obtain ⟨before, after, hkeys, -⟩ := hreaches
    exact .inl ⟨key, by simp [hkeys], hdead⟩
  · exact .inr ⟨key, hreaches, hlacks⟩

end Table

/-! ## Requests -/

namespace Producer

/-- A scenario gets no more iterations: none is due, or its table is barren. -/
def Halted (p : Producer) (identifier : String) : Prop :=
  ∀ s, p.due? identifier = some s →
    ∃ t, p.tables.get? identifier = some t ∧ t.Barren

variable {p p' : Producer} {outside : String → Moment} {identifier : String}
  {reply : Except Crash Served}

/-- What serving a table comes to, for a scenario that is filed under its name. -/
private theorem materialize_of_due (hp : p.Filed) {s : Scenario}
    (hs : p.due? identifier = some s) {t : Table} (ht : p.tables.get? identifier = some t)
    (outside : String → Moment) :
    (p.materialize outside s).1 = (t.materialize outside s.aliases).1 := by
  obtain rfl := hp identifier s (due?_eq_some.1 hs).1
  rw [materialize, ht]

namespace Handles

/-- A request makes no iteration due that was not due before. -/
theorem due?_of_due? (h : p.Handles outside identifier reply p') {other : String}
    {s : Scenario} (hs : p'.due? other = some s) : p.due? other = some s := by
  obtain ⟨hs, hlt⟩ := due?_eq_some.1 hs
  refine due?_eq_some.2 ⟨h.scenarios ▸ hs, ?_⟩
  by_cases ho : identifier = other
  · subst ho
    rw [UInt64.lt_iff_toNat_lt, h.progress_self] at hlt
    exact UInt64.lt_iff_toNat_lt.2 (by omega)
  · rwa [progress, h.iteration?_of_ne ho] at hlt

/-- No request brings a halted scenario back. -/
theorem halted (h : p.Handles outside identifier reply p') (hp : p.Filed) {other : String}
    (hhalted : p.Halted other) : p'.Halted other := by
  intro s hs
  obtain ⟨t, ht, hbarren⟩ := hhalted s (h.due?_of_due? hs)
  rcases h.table hp other with hsame | ⟨rfl, s', t', -, ht', hnext⟩
  · exact ⟨t, hsame.trans ht, hbarren⟩
  · obtain rfl := Option.some.inj (ht.symm.trans ht')
    exact ⟨_, hnext, hbarren.materialize outside s'.aliases⟩

/-- A halted scenario is told to stop, or the request crashes. -/
theorem not_consume_of_halted (h : p.Handles outside identifier reply p') (hp : p.Filed)
    (hhalted : p.Halted identifier) : actionOf? reply ≠ some .consume := by
  intro hconsume
  cases hdue : p.due? identifier with
  | none =>
    obtain ⟨⟨log, rfl⟩, -⟩ := h.of_not_due hdue
    cases hconsume
  | some s =>
    obtain ⟨t, ht, hbarren⟩ := hhalted s hdue
    have hreply := h.of_due hdue
    rw [materialize_of_due hp hdue ht] at hreply
    cases hm : (t.materialize outside s.aliases).1 with
    | ok payload => exact hbarren.not_served hm
    | error f =>
      rw [hm] at hreply
      cases f with
      | error e =>
        obtain ⟨log, rfl⟩ := hreply
        cases hconsume
      | crash c =>
        subst hreply
        cases hconsume

end Handles

end Producer

namespace Exchange

/-- The request is due an iteration, and comes as far as a key whose row lacks the column. -/
def LacksColumn (x : Exchange) : Prop :=
  ∃ s t, x.before.due? x.identifier = some s ∧ x.before.tables.get? x.identifier = some t ∧
    t.LacksColumn x.outside

variable {x : Exchange}

/-- With deterministic sources there is always an answer. -/
theorem answered_of_deterministic (hx : x.before.Filed)
    (hd : x.before.AllSources Source.IsDeterministic) : x.Answered := by
  rw [answered_iff hx]
  rintro ⟨s, t, -, ht, key, base, attr, c, -, -, hc, -⟩
  exact hd _ t ht base _ hc

private theorem consume_or_stop (hx : x.before.Filed)
    (hd : x.before.AllSources Source.IsDeterministic) :
    x.action? = some .consume ∨ x.action? = some .stop := by
  obtain ⟨log, hreply⟩ := answered_of_deterministic hx hd
  rw [action?, hreply]
  unfold owed
  split
  · exact .inr rfl
  · split
    · exact .inl rfl
    · exact .inr rfl

/-- A halted scenario is told to stop. -/
private theorem stop_of_halted (hx : x.before.Filed)
    (hd : x.before.AllSources Source.IsDeterministic) (h : x.before.Halted x.identifier) :
    x.action? = some .stop :=
  (consume_or_stop hx hd).resolve_left ((x.handles hx).not_consume_of_halted hx h)

/-- A scenario that is told to stop is halted, unless its row lacks a column. -/
private theorem halts (hx : x.before.Filed)
    (hd : x.before.AllSources Source.IsDeterministic) (hstop : x.action? = some .stop)
    (hcolumn : ¬ x.LacksColumn) : x.after.Halted x.identifier := by
  refine (x.handles hx).halted hx fun s hs => ?_
  have hreply := (x.handles hx).of_due hs
  cases ht : x.before.tables.get? x.identifier with
  | none =>
    obtain hid := hx _ s (Producer.due?_eq_some.1 hs).1
    have hm : (x.before.materialize x.outside s).1 = .ok {} := by
      rw [Producer.materialize, hid, ht]
    rw [hm] at hreply
    rw [action?, hreply] at hstop
    cases hstop
  | some t =>
    rw [Producer.materialize_of_due hx hs ht] at hreply
    cases hm : (t.materialize x.outside s.aliases).1 with
    | ok payload =>
      rw [hm] at hreply
      rw [action?, hreply] at hstop
      cases hstop
    | error f =>
      rcases Table.barren_or_lacksColumn (hd _ t ht) hm with hbarren | hlacks
      · exact ⟨t, rfl, hbarren⟩
      · exact absurd ⟨s, t, hs, ht, hlacks⟩ hcolumn

end Exchange

/-- Two requests of one round, of which the first was told to stop although no row lacked a
column: if they are for one scenario, the second is told to stop. -/
def Exchange.StopsFor (x y : Exchange) : Prop :=
  x.identifier = y.identifier → x.action? = some .stop → ¬ x.LacksColumn →
    y.action? = some .stop

/-- What every demand preserves: the scenarios that were told to stop in the current round
are halted. -/
private structure Final (c : Chronicle) : Prop where
  filed : c.producer.Filed
  deterministic : c.producer.AllSources Source.IsDeterministic
  halted : ∀ x ∈ c.current, x.action? = some .stop → ¬ x.LacksColumn →
    c.producer.Halted x.identifier
  rounds : ∀ round ∈ c.rounds, round.Pairwise Exchange.StopsFor

private theorem Final.next {c : Chronicle} (h : Final c) (outside : String → Moment)
    (identifier : String) : Final (c.step (.next outside identifier)) := by
  let y : Exchange := ⟨c.producer, outside, identifier⟩
  have hy := y.handles h.filed
  refine ⟨hy.filed h.filed, h.deterministic.handles lasting_isDeterministic h.filed hy, ?_, ?_⟩
  · intro x hx hstop hcolumn
    rcases List.mem_append.1 hx with hx | hx
    · exact hy.halted h.filed (h.halted x hx hstop hcolumn)
    · obtain rfl := List.mem_singleton.1 hx
      exact Exchange.halts h.filed h.deterministic hstop hcolumn
  · intro round hround
    rcases List.mem_append.1 hround with hround | hround
    · exact h.rounds round (List.mem_append_left _ hround)
    · obtain rfl := List.mem_singleton.1 hround
      refine List.pairwise_append.2
        ⟨h.rounds c.current (by simp [Chronicle.rounds]), List.pairwise_singleton _ _, ?_⟩
      intro x hx z hz hid hstop hcolumn
      obtain rfl := List.mem_singleton.1 hz
      exact Exchange.stop_of_halted h.filed h.deterministic
        (hid ▸ h.halted x hx hstop hcolumn)

private theorem Final.reset {c : Chronicle} (h : Final c) : Final (c.step .reset) := by
  refine ⟨h.filed, h.deterministic, fun x hx => absurd hx List.not_mem_nil, ?_⟩
  intro round hround
  rcases List.mem_append.1 hround with hround | hround
  · exact h.rounds round hround
  · obtain rfl := List.mem_singleton.1 hround
    exact .nil

/-- Once a scenario was told to stop for any reason but a row that lacks a column, it is told
to stop until the counters start over. -/
theorem Definition.stop_is_final {d : Definition} {snapshot : Snapshot} {p : Producer}
    (hd : d.IsDeterministic) (hp : d.build snapshot = .ok p) (demands : List Demand) :
    ∀ round ∈ (Chronicle.run ⟨p, [], []⟩ demands).rounds,
      round.Pairwise Exchange.StopsFor := by
  obtain ⟨hfiled, hsources⟩ := allSources_of_build hp fun s hs v hv _ _ => (hd s hs v hv).makes
  have hstart : Final ⟨p, [], []⟩ := by
    refine ⟨hfiled, hsources, fun x hx => absurd hx List.not_mem_nil, ?_⟩
    intro round hround
    obtain rfl := List.mem_singleton.1 hround
    exact .nil
  refine (Chronicle.run_of_step (fun c d h => ?_) hstart demands : Final _).rounds
  cases d with
  | next outside identifier => exact h.next outside identifier
  | reset => exact h.reset

/-- A counter that cannot go on. -/
def toppedOut : Definition :=
  ⟨[⟨"A", 2, ∅, [⟨"n", false, .integerIncrementer Int64.maxValue 1 false⟩], []⟩]⟩

/-- A request for the scenario `A`. -/
def demandA : Demand := .next (fun _ => ⟨⟨0, 0⟩, 0⟩) "A"

theorem toppedOut_stops :
    toppedOut.IsDeterministic ∧ ∃ p, toppedOut.build ∅ = .ok p ∧
      (Chronicle.run ⟨p, [], []⟩ [demandA, demandA]).rounds.map (answers "A") =
        [[some .stop, some .stop]] ∧
      ∀ round ∈ (Chronicle.run ⟨p, [], []⟩ [demandA, demandA]).rounds,
        round.Pairwise Exchange.StopsFor := by
  have hd : toppedOut.IsDeterministic := by
    intro s hs v hv
    obtain rfl := List.mem_singleton.1 hs
    obtain rfl := List.mem_singleton.1 hv
    trivial
  exact ⟨hd, _, rfl, rfl, @Definition.stop_is_final toppedOut ∅ _ hd rfl [demandA, demandA]⟩

/-- Three rows, of which the second has no column `a`. -/
def ragged : Definition :=
  ⟨[⟨"A", 3, ∅, [⟨"r", true, .rowReader
    [Dict.ofList [("a", .bool true)], ∅, Dict.ofList [("a", .bool false)]] false⟩], ["r.a"]⟩]⟩

/-- A stop for the columns of a row is not final: the next row may have them. -/
theorem ragged_resumes :
    ragged.IsDeterministic ∧ ∃ p, ragged.build ∅ = .ok p ∧
      ¬ ∀ round ∈ (Chronicle.run ⟨p, [], []⟩ [demandA, demandA, demandA]).rounds,
        round.Pairwise fun x y =>
          x.identifier = y.identifier → x.action? = some .stop → y.action? = some .stop := by
  constructor
  · intro s hs v hv
    obtain rfl := List.mem_singleton.1 hs
    obtain rfl := List.mem_singleton.1 hv
    trivial
  · refine ⟨_, rfl, fun h => ?_⟩
    have hround := h _ (List.mem_singleton.2 rfl)
    have hlater := (List.pairwise_cons.1 (List.pairwise_cons.1 hround).2).1 _
      (List.mem_singleton.2 rfl) rfl rfl
    cases hlater

end LoadTest.Testdata
