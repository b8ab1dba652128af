import LoadTest.Proofs.Records
import LoadTest.Testdata.Producer
/-!
# Requests for test data

Everything that a producer does with one request is said once, case by case; what holds over
many requests follows by induction. A chronicle follows a producer through requests and
resets and keeps every exchange, together with the producer that the request met.
-/

namespace LoadTest.Testdata

namespace Producer

/-! ## One request -/

/-- Every scenario is filed under its own name. -/
def Filed (p : Producer) : Prop :=
  ∀ identifier s, p.scenarios.get? identifier = some s → s.identifier = identifier

/-- The iterations that a scenario was served; none if it is not tracked. -/
def progress (p : Producer) (identifier : String) : UInt64 :=
  (p.iteration? identifier).getD 0

/-- The action that an answer names; a crash names none. -/
def actionOf? (reply : Except Crash Served) : Option TestdataAction :=
  reply.toOption.bind (·.response.action?)

/-- The scenario whose next iteration is due, if the request names one that is below its
bound. -/
def due? (p : Producer) (identifier : String) : Option Scenario :=
  (p.scenarios.get? identifier).filter fun s => p.progress identifier < s.iterations

/-- What a producer answers to a request, and what becomes of it: the scenario is unknown,
has no bound, has reached its bound, or its table is served, which can fail. -/
inductive Handles (p : Producer) (outside : String → Moment) (identifier : String) :
    Except Crash Served → Producer → Prop where
  | unknown (hs : p.scenarios.get? identifier = none) :
    Handles p outside identifier
      (.ok ⟨.stop, ["WARN no scenario with identifier " ++ identifier]⟩) p
  | boundless {s : Scenario} (hs : p.scenarios.get? identifier = some s)
    (hn : p.iteration? identifier = none) (h0 : s.iterations = 0) :
    Handles p outside identifier (.ok ⟨.stop, []⟩) p
  | exhausted {s : Scenario} {n : UInt64} (hs : p.scenarios.get? identifier = some s)
    (hn : p.iteration? identifier = some n) (hle : s.iterations ≤ n) :
    Handles p outside identifier (.ok ⟨.stop, []⟩) p
  | served {s : Scenario} {payload : Payload} {tables : Dict Table}
    (hs : p.due? identifier = some s)
    (hm : p.materialize outside s = (.ok payload, { p with tables := tables })) :
    Handles p outside identifier (.ok ⟨.consume payload, []⟩)
      { p with
        tables := tables
        served := p.served.insert identifier (p.progress identifier + 1) }
  | failed {s : Scenario} {e : Error} {tables : Dict Table} (hs : p.due? identifier = some s)
    (hm : p.materialize outside s = (.error (.error e), { p with tables := tables })) :
    Handles p outside identifier
      (.ok ⟨.stop,
        ["ERROR test data error, stop consumer " ++ identifier ++ ": " ++ e.message]⟩)
      { p with
        tables := tables
        served := p.served.insert identifier (p.progress identifier) }
  | crashed {s : Scenario} {c : Crash} {tables : Dict Table} (hs : p.due? identifier = some s)
    (hm : p.materialize outside s = (.error (.crash c), { p with tables := tables })) :
    Handles p outside identifier (.error c)
      { p with
        tables := tables
        served := p.served.insert identifier (p.progress identifier) }

theorem due?_eq_some {p : Producer} {identifier : String} {s : Scenario} :
    p.due? identifier = some s ↔
      p.scenarios.get? identifier = some s ∧ p.progress identifier < s.iterations := by
  simp only [due?, Option.filter_eq_some_iff, decide_eq_true_eq]

/-- A producer of given scenarios files each under its name. -/
theorem filed_make (scenarios : List Scenario) (tables : Dict Table) :
    (make scenarios tables).Filed := by
  intro identifier s hs
  rw [make, Dict.get?_ofList] at hs
  obtain ⟨x, -, hx⟩ := List.mem_map.1 (List.mem_reverse.1 (Dict.mem_of_lookup hs))
  cases hx
  rfl

/-- Serving a table moves nothing but the tables, and reads nothing else of the producer. -/
private theorem materialize_with_served (p : Producer) (served : Dict UInt64)
    (outside : String → Moment) (s : Scenario) :
    ({ p with served := served } : Producer).materialize outside s =
      ((p.materialize outside s).1,
        ⟨p.scenarios, (p.materialize outside s).2.tables, served⟩) := by
  simp only [materialize]
  cases p.tables.get? s.identifier <;> rfl

/-- A producer is left by serving a table with other tables only. -/
theorem materialize_eq (p : Producer) (outside : String → Moment) (s : Scenario) :
    p.materialize outside s =
      ((p.materialize outside s).1,
        { p with tables := (p.materialize outside s).2.tables }) :=
  materialize_with_served p p.served outside s

/-- A tracked scenario stays as it is; one with a bound is tracked from zero. -/
private theorem track_eq (p : Producer) {s : Scenario}
    (h : 0 < s.iterations ∨ ∃ n, p.iteration? s.identifier = some n) :
    p.track s =
      { p with served := p.served.insert s.identifier (p.progress s.identifier) } := by
  cases hn : p.iteration? s.identifier with
  | none =>
    have hpos : 0 < s.iterations := by
      rcases h with h | ⟨n, h⟩
      · exact h
      · rw [hn] at h
        cases h
    have hnew : p.served.contains s.identifier = false := by
      rw [Dict.contains, show p.served.get? s.identifier = none from hn]
      rfl
    rw [track, hnew, progress, hn, if_pos (by simpa using hpos)]
    rfl
  | some n =>
    have hold : p.served.contains s.identifier = true := by
      rw [Dict.contains, show p.served.get? s.identifier = some n from hn]
      rfl
    rw [track, hold, progress, hn, if_neg (by simp), Option.getD_some, Dict.insert_of_get? hn]

/-- A scenario without a table is served no variables; any other is served its table, which
takes the place of the one before. -/
theorem materialize_cases {p p' : Producer} {outside : String → Moment} {s : Scenario}
    {result : Except Failure Payload} (h : p.materialize outside s = (result, p')) :
    (p.tables.get? s.identifier = none ∧ result = .ok {} ∧ p'.tables = p.tables) ∨
      ∃ t, p.tables.get? s.identifier = some t ∧
        result = (t.materialize outside s.aliases).1 ∧
        p'.tables = p.tables.insert s.identifier (t.materialize outside s.aliases).2 := by
  unfold materialize at h
  cases ht : p.tables.get? s.identifier with
  | none =>
    simp only [ht] at h
    cases h
    exact .inl ⟨rfl, rfl, rfl⟩
  | some t =>
    simp only [ht] at h
    cases h
    exact .inr ⟨t, rfl, rfl, rfl⟩

/-- A request is handled in one of the six ways. -/
theorem handles {p : Producer} (hp : p.Filed) (outside : String → Moment)
    (identifier : String) :
    p.Handles outside identifier (p.handle outside identifier).1
      (p.handle outside identifier).2 := by
  unfold handle
  cases hs : p.scenarios.get? identifier with
  | none => exact .unknown hs
  | some s =>
    obtain rfl := hp identifier s hs
    by_cases htracked : 0 < s.iterations ∨ ∃ n, p.iteration? s.identifier = some n
    · simp only [track_eq p htracked, Dict.get?_insert_self]
      by_cases hlt : p.progress s.identifier < s.iterations
      · have hdue : p.due? s.identifier = some s := due?_eq_some.2 ⟨hs, hlt⟩
        have hm := materialize_eq p outside s
        rw [if_pos hlt, materialize_with_served]
        cases hr : (p.materialize outside s).1 with
        | ok payload =>
          rw [hr] at hm
          have h := Handles.served hdue hm
          simpa only [count, Dict.insert_insert] using h
        | error f =>
          rw [hr] at hm
          cases f with
          | error e => exact .failed hdue hm
          | crash c => exact .crashed hdue hm
      · have hle : s.iterations ≤ p.progress s.identifier := UInt64.not_lt.1 hlt
        rw [if_neg hlt]
        cases hn : p.iteration? s.identifier with
        | none =>
          rw [progress, hn] at hlt
          rcases htracked with h | ⟨n, h⟩
          · exact absurd h hlt
          · rw [hn] at h
            cases h
        | some n =>
          rw [progress, hn] at hle
          have hsame : p.served.insert s.identifier (p.progress s.identifier) = p.served := by
            rw [progress, hn]
            exact Dict.insert_of_get? hn
          rw [hsame]
          exact .exhausted hs hn hle
    · have hn : p.iteration? s.identifier = none := by
        cases hn : p.iteration? s.identifier with
        | none => rfl
        | some n => exact absurd (.inr ⟨n, hn⟩) htracked
      have h0 : s.iterations = 0 := by
        have h := fun h => htracked (.inl h)
        exact UInt64.le_antisymm (UInt64.not_lt.1 h) (UInt64.zero_le)
      have hserved : p.served.get? s.identifier = none := hn
      have htrack : p.track s = p := by
        rw [track, h0, if_neg (by simp)]
      simp only [htrack, hserved]
      exact .boundless hs hn h0

namespace Handles

variable {p p' : Producer} {outside : String → Moment} {identifier : String}
  {reply : Except Crash Served}

/-- When no iteration is due, the answer is to stop and nothing changes. -/
theorem of_not_due (h : p.Handles outside identifier reply p')
    (hdue : p.due? identifier = none) : (∃ log, reply = .ok ⟨.stop, log⟩) ∧ p' = p := by
  cases h with
  | unknown | boundless | exhausted => exact ⟨⟨_, rfl⟩, rfl⟩
  | served hs _ | failed hs _ | crashed hs _ =>
    rw [hdue] at hs
    cases hs

/-- When an iteration is due, its table is served. -/
theorem cases_of_due (h : p.Handles outside identifier reply p') {s : Scenario}
    (hdue : p.due? identifier = some s) :
    ∃ tables,
      (∃ payload, p.materialize outside s = (.ok payload, { p with tables := tables }) ∧
        reply = .ok ⟨.consume payload, []⟩ ∧
        p' = { p with
          tables := tables
          served := p.served.insert identifier (p.progress identifier + 1) }) ∨
      ∃ f, p.materialize outside s = (.error f, { p with tables := tables }) ∧
        (match f with
          | .error _ => ∃ log, reply = .ok ⟨.stop, log⟩
          | .crash c => reply = .error c) ∧
        p' = { p with
          tables := tables
          served := p.served.insert identifier (p.progress identifier) } := by
  obtain ⟨hs, hlt⟩ := due?_eq_some.1 hdue
  cases h with
  | unknown hnone =>
    rw [hnone] at hs
    cases hs
  | boundless ht _ h0 =>
    cases ht.symm.trans hs
    rw [h0] at hlt
    exact absurd hlt UInt64.not_lt_zero
  | exhausted ht hn hle =>
    cases ht.symm.trans hs
    rw [progress, hn] at hlt
    exact absurd hlt (UInt64.not_lt.2 hle)
  | served ht hm =>
    obtain rfl := Option.some.inj (ht.symm.trans hdue)
    exact ⟨_, .inl ⟨_, hm, rfl, rfl⟩⟩
  | failed ht hm =>
    obtain rfl := Option.some.inj (ht.symm.trans hdue)
    exact ⟨_, .inr ⟨_, hm, ⟨_, rfl⟩, rfl⟩⟩
  | crashed ht hm =>
    obtain rfl := Option.some.inj (ht.symm.trans hdue)
    exact ⟨_, .inr ⟨_, hm, rfl, rfl⟩⟩

/-- When an iteration is due, the answer is what becomes of serving its table. -/
theorem of_due (h : p.Handles outside identifier reply p') {s : Scenario}
    (hdue : p.due? identifier = some s) :
    match (p.materialize outside s).1 with
    | .ok payload => reply = .ok ⟨.consume payload, []⟩
    | .error (.error _) => ∃ log, reply = .ok ⟨.stop, log⟩
    | .error (.crash c) => reply = .error c := by
  obtain ⟨tables, ⟨payload, hm, hreply, -⟩ | ⟨f, hm, hreply, -⟩⟩ := h.cases_of_due hdue
  · rw [hm]
    exact hreply
  · rw [hm]
    cases f <;> exact hreply

/-- No request adds or removes a scenario. -/
theorem scenarios (h : p.Handles outside identifier reply p') : p'.scenarios = p.scenarios := by
  cases h <;> rfl

/-- Every scenario stays filed under its own name. -/
theorem filed (h : p.Handles outside identifier reply p') (hp : p.Filed) : p'.Filed := by
  intro other s hs
  exact hp other s (h.scenarios ▸ hs)

/-- The table of a scenario changes only by being served for it. -/
theorem table (h : p.Handles outside identifier reply p') (hp : p.Filed) (other : String) :
    p'.tables.get? other = p.tables.get? other ∨
      other = identifier ∧ ∃ s t, p.due? identifier = some s ∧
        p.tables.get? identifier = some t ∧
        p'.tables.get? identifier = some (t.materialize outside s.aliases).2 := by
  cases h with
  | unknown | boundless | exhausted => exact .inl rfl
  | @served s _ _ hs hm | @failed s _ _ hs hm | @crashed s _ _ hs hm =>
    rcases materialize_cases hm with ⟨-, -, hsame⟩ | ⟨t, ht, -, hnext⟩
    · exact .inl (congrArg (·.get? other) hsame)
    · rw [hp identifier s (due?_eq_some.1 hs).1] at ht hnext
      by_cases ho : other = identifier
      · refine .inr ⟨ho, s, t, hs, ht, ?_⟩
        exact (congrArg (·.get? identifier) hnext).trans (Dict.get?_insert_self _ _ _)
      · exact .inl ((congrArg (·.get? other) hnext).trans
          (Dict.get?_insert_of_ne _ _ fun hk => ho hk.symm))

/-- A request for one scenario does not move the counter of another. -/
theorem iteration?_of_ne (h : p.Handles outside identifier reply p') {other : String}
    (hne : identifier ≠ other) : p'.iteration? other = p.iteration? other := by
  cases h with
  | unknown | boundless | exhausted => rfl
  | served | failed | crashed => exact Dict.get?_insert_of_ne _ _ hne

end Handles

end Producer

/-! ## Many requests -/

/-- What is asked of a producer: the next iteration of a scenario, where the sources find
something in the outside world, or to start all counters over. -/
inductive Demand where
  | next (outside : String → Moment) (identifier : String)
  | reset

/-- A request, and the producer that it met. -/
structure Exchange where
  before : Producer
  outside : String → Moment
  identifier : String

namespace Exchange

/-- What the producer answered. -/
def reply (x : Exchange) : Except Crash Served := (x.before.handle x.outside x.identifier).1

/-- What became of the producer. -/
def after (x : Exchange) : Producer := (x.before.handle x.outside x.identifier).2

/-- The action that the answer names; a crash names none. -/
def action? (x : Exchange) : Option TestdataAction := Producer.actionOf? x.reply

/-- An iteration was due, and its variables could not be served. -/
def Fails (x : Exchange) : Prop :=
  ∃ s f, x.before.due? x.identifier = some s ∧ (x.before.materialize x.outside s).1 = .error f

theorem handles {x : Exchange} (h : x.before.Filed) :
    x.before.Handles x.outside x.identifier x.reply x.after :=
  Producer.handles h x.outside x.identifier

end Exchange

/-- A producer with its exchanges since the last reset, and with those of every round that a
reset has closed. -/
structure Chronicle where
  producer : Producer
  closed : List (List Exchange) := []
  current : List Exchange := []

namespace Chronicle

/-- Meet one demand. -/
def step (c : Chronicle) : Demand → Chronicle
  | .next outside identifier =>
    let x : Exchange := ⟨c.producer, outside, identifier⟩
    { c with producer := x.after, current := c.current ++ [x] }
  | .reset => ⟨c.producer.reset, c.closed ++ [c.current], []⟩

/-- Meet demands one after another. -/
def run (c : Chronicle) (demands : List Demand) : Chronicle := demands.foldl step c

/-- The exchanges from one reset to the next; the last round is not closed. -/
def rounds (c : Chronicle) : List (List Exchange) := c.closed ++ [c.current]

/-- What no demand breaks holds after all of them. -/
theorem run_of_step {P : Chronicle → Prop} (hstep : ∀ c d, P c → P (c.step d))
    {c : Chronicle} (h : P c) (demands : List Demand) : P (c.run demands) := by
  induction demands generalizing c with
  | nil => exact h
  | cons d ds ih => exact ih (hstep c d h)

/-- What neither a request nor a reset breaks holds of the producer at the end, and of the
producer that any of the requests met. -/
theorem run_of_stable {P : Producer → Prop} (hfiled : ∀ p, P p → p.Filed)
    (hnext : ∀ {p p' : Producer} {outside identifier reply}, P p →
      p.Handles outside identifier reply p' → P p')
    (hreset : ∀ p, P p → P p.reset) {p : Producer} (hp : P p) (demands : List Demand) :
    P (run ⟨p, [], []⟩ demands).producer ∧
      ∀ round ∈ (run ⟨p, [], []⟩ demands).rounds, ∀ x ∈ round, P x.before := by
  refine run_of_step (P := fun c => P c.producer ∧ ∀ round ∈ c.rounds, ∀ x ∈ round, P x.before)
    ?_ ⟨hp, ?_⟩ demands
  · intro c d h
    cases d with
    | next outside identifier =>
      let x : Exchange := ⟨c.producer, outside, identifier⟩
      refine ⟨hnext h.1 (x.handles (hfiled _ h.1)), ?_⟩
      intro round hround y hy
      rcases List.mem_append.1 hround with hround | hround
      · exact h.2 round (List.mem_append_left _ hround) y hy
      · obtain rfl := List.mem_singleton.1 hround
        rcases List.mem_append.1 hy with hy | hy
        · exact h.2 c.current (by simp [rounds]) y hy
        · obtain rfl := List.mem_singleton.1 hy
          exact h.1
    | reset =>
      refine ⟨hreset _ h.1, ?_⟩
      intro round hround y hy
      rcases List.mem_append.1 hround with hround | hround
      · exact h.2 round hround y hy
      · obtain rfl := List.mem_singleton.1 hround
        cases hy
  · intro round hround y hy
    obtain rfl := List.mem_singleton.1 hround
    cases hy

end Chronicle

end LoadTest.Testdata
