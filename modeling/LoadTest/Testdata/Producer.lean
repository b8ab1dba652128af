import LoadTest.Testdata.Snapshot
import LoadTest.Testdata.Table
/-!
# Serving test data

The coordinator hands out one iteration of variables per request until the bound of the
scenario is reached. A scenario with a bound above zero is tracked from its first request
on; a scenario without one, or an unknown one, is told to stop. A failure while serving is
logged and turned into a stop that does not count.
-/

namespace LoadTest.Testdata

/-- What is known of a scenario: its name, the number of iterations to serve, and the flat
aliases of its keys. -/
structure Scenario where
  identifier : String
  iterations : UInt64
  aliases : Dict String := ∅
  deriving Repr

/-- The scenarios with their tables, and the iterations that the tracked ones were served. -/
structure Producer where
  scenarios : Dict Scenario := ∅
  tables : Dict Table := ∅
  served : Dict UInt64 := ∅
  deriving Repr, Inhabited

/-- The answer to a request for test data. -/
structure Served where
  response : TestdataResponse
  log : List String := []

namespace Producer

/-- A producer of some scenarios; of two with one name the later counts. -/
def make (scenarios : List Scenario) (tables : Dict Table) : Producer :=
  ⟨Dict.ofList (scenarios.map fun s => (s.identifier, s)), tables, ∅⟩

/-- Start the counter of a scenario with a bound, unless it has one. -/
def track (p : Producer) (s : Scenario) : Producer :=
  if 0 < s.iterations && !p.served.contains s.identifier then
    { p with served := p.served.insert s.identifier 0 }
  else p

/-- Serve the table of a scenario. A scenario without a table has no variables. -/
def materialize (p : Producer) (outside : String → Moment) (s : Scenario) :
    Except Failure Payload × Producer :=
  match p.tables.get? s.identifier with
  | none => (.ok {}, p)
  | some t =>
    let (result, t) := t.materialize outside s.aliases
    (result, { p with tables := p.tables.insert s.identifier t })

/-- Count one more iteration of a scenario. -/
def count (p : Producer) (identifier : String) (n : UInt64) : Producer :=
  { p with served := p.served.insert identifier (n + 1) }

/-- Answer a request for the next iteration of a scenario. What happened before a crash
stays. -/
def handle (p : Producer) (outside : String → Moment) (identifier : String) :
    Except Crash Served × Producer :=
  match p.scenarios.get? identifier with
  | none => (.ok ⟨.stop, ["WARN no scenario with identifier " ++ identifier]⟩, p)
  | some s =>
    let p := p.track s
    match p.served.get? s.identifier with
    | none => (.ok ⟨.stop, []⟩, p)
    | some n =>
      if n < s.iterations then
        match p.materialize outside s with
        | (.ok payload, p) => (.ok ⟨.consume payload, []⟩, p.count s.identifier n)
        | (.error (.error e), p) =>
          (.ok ⟨.stop,
            ["ERROR test data error, stop consumer " ++ identifier ++ ": " ++ e.message]⟩, p)
        | (.error (.crash c), p) => (.error c, p)
      else (.ok ⟨.stop, []⟩, p)

/-- The iterations that a tracked scenario was served. -/
def iteration? (p : Producer) (identifier : String) : Option UInt64 := p.served.get? identifier

/-- Start all counters over. -/
def reset (p : Producer) : Producer := { p with served := p.served.map fun _ => 0 }

/-- What the next run continues from: the persisting sources of each scenario that has any. -/
def snapshot (p : Producer) : Snapshot :=
  p.tables.filterMap fun t =>
    let values := t.sources.filterMap Source.initial?
    if values.isEmpty then none else some values

end Producer

end LoadTest.Testdata
