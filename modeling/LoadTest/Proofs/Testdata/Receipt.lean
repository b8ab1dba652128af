import LoadTest.Proofs.Sequential
import LoadTest.Proofs.Testdata.Building
/-!
# What workers receive

The aliases of a payload stand beside its variables, so a payload is read as it was written
exactly if no alias takes the name of the variables. Valid definitions have no such alias, and
no request brings one up: whatever a built producer serves is what the worker reads.
-/

namespace LoadTest

open Json

/-! ## Payloads -/

/-- An alias that takes the place of the variables is not read as an alias. -/
theorem Payload.aliases_of_ofJson {v : Json} {p : Payload} (h : Payload.ofJson v = .ok p) :
    p.aliases.get? "variables" = none := by
  cases v with
  | obj members =>
    simp only [Payload.ofJson, bind, Except.bind] at h
    split at h
    · cases h
    · cases h
      rw [Dict.get?_ofList]
      apply Dict.lookup_eq_none
      intro e he
      simpa using (List.mem_filter.1 (List.mem_reverse.1 he)).2
  | _ => cases h

/-- A payload is read as it was written exactly if no alias takes the place of the variables. -/
theorem Payload.ofJson_toJson_iff {p : Payload} :
    Payload.ofJson p.toJson = .ok p ↔ p.aliases.get? "variables" = none :=
  ⟨Payload.aliases_of_ofJson, Payload.ofJson_toJson⟩

namespace Method

/-- A worker that is told to stop gets no variables. -/
theorem readTestdata_stop :
    readTestdata TestdataResponse.stop.toJson = .ok (.testdata none) := by
  rw [readTestdata, TestdataResponse.ofJson_toJson]
  · rfl
  · intro p hp
    cases hp

/-- A worker that is told to go on gets the payload that was written. -/
theorem readTestdata_consume {p : Payload} (h : p.aliases.get? "variables" = none) :
    readTestdata (TestdataResponse.consume p).toJson = .ok (.testdata (some p)) := by
  rw [readTestdata, TestdataResponse.ofJson_toJson]
  · rfl
  · rintro q hq
    cases hq
    exact h

end Method

/-! ## Requests -/

namespace Testdata

namespace Producer

/-- Requests bring up no aliases. -/
theorem AliasesApart.handles {p p' : Producer} (h : p.AliasesApart) {outside : String → Moment}
    {identifier : String} {reply : Except Crash Served}
    (hx : p.Handles outside identifier reply p') : p'.AliasesApart := by
  intro other s hs
  exact h other s (hx.scenarios ▸ hs)

/-- What a worker reads in the answer to its request: that there is nothing more, or the
payload that was made for it. -/
theorem Handles.received {p p' : Producer} {outside : String → Moment} {identifier : String}
    {served : Served} (h : p.Handles outside identifier (.ok served) p')
    (ha : p.AliasesApart) :
    (served.response = .stop ∧
      Method.readTestdata served.response.toJson = .ok (.testdata none)) ∨
    ∃ s payload, p.due? identifier = some s ∧ (p.materialize outside s).1 = .ok payload ∧
      served.response = .consume payload ∧
      Method.readTestdata served.response.toJson = .ok (.testdata (some payload)) := by
  cases h with
  | unknown | boundless | exhausted | failed => exact .inl ⟨rfl, Method.readTestdata_stop⟩
  | @served s payload _ hs hm =>
    have hscenario := (due?_eq_some.1 hs).1
    have haliases := materialize_aliases (ha identifier s hscenario) hm
    exact .inr ⟨s, payload, hs, by rw [hm], rfl, Method.readTestdata_consume haliases⟩

end Producer

/-- What a producer serves is what the worker receives. After any requests and resets, the
answer of a built producer to any request is read as the end of the scenario if it is to stop,
and otherwise as exactly the payload that was made: with the same variables and the same
aliases. -/
theorem Definition.received_as_served {d : Definition} {snapshot : Snapshot} {p : Producer}
    (h : d.build snapshot = .ok p) (demands : List Demand) (outside : String → Moment)
    (identifier : String) (served : Served) :
    let q := (Chronicle.run ⟨p, [], []⟩ demands).producer
    (q.handle outside identifier).1 = .ok served →
      (served.response = .stop ∧
        Method.readTestdata served.response.toJson = .ok (.testdata none)) ∨
      ∃ s payload, q.due? identifier = some s ∧ (q.materialize outside s).1 = .ok payload ∧
        served.response = .consume payload ∧
        Method.readTestdata served.response.toJson = .ok (.testdata (some payload)) := by
  intro q hserved
  have hq : q.Filed ∧ q.AliasesApart := by
    refine (Chronicle.run_of_stable (P := fun p => p.Filed ∧ p.AliasesApart) (fun _ h => h.1)
      ?_ (fun _ h => h) ⟨filed_of_build h, aliasesApart_of_build h⟩ demands).1
    intro p p' outside identifier reply hp hx
    exact ⟨hx.filed hp.1, hp.2.handles hx⟩
  have hhandles := q.handles hq.1 outside identifier
  rw [hserved] at hhandles
  exact hhandles.received hq.2

/-- The names of users by an alias, and a variable whose key is that of the variables. -/
def userNames : Definition :=
  ⟨[⟨"A", 2, Dict.ofList [("user.name", "username"), ("user.id", "id")],
    [⟨"user", true, .rowReader
      [Dict.ofList [("name", .str "alice"), ("id", .bool true)],
        Dict.ofList [("name", .str "bob"), ("id", .null)]] false⟩,
      ⟨"variables", false, .literal (.str "own")⟩], ["user.name", "user.id"]⟩]⟩

/-- What a request for a scenario finds in the outside world at the start of time. -/
def atStart : String → Moment := fun _ => ⟨⟨0, 0⟩, 0⟩

theorem userNames_received :
    ∃ p, userNames.build ∅ = .ok p ∧
      let q := (Chronicle.run ⟨p, [], []⟩ [.next atStart "A"]).producer
      ∃ served, (q.handle atStart "A").1 = .ok served ∧
        Method.readTestdata served.response.toJson = .ok (.testdata (some
          ⟨Dict.ofList [("user.name", .str "bob"), ("user.id", .null), ("variables", .str "own")],
            Dict.ofList [("username", .str "bob"), ("id", .null)]⟩)) := by
  refine ⟨_, rfl, _, rfl, ?_⟩
  rcases @Definition.received_as_served userNames ∅ _ rfl [.next atStart "A"] atStart "A" _ rfl
    with ⟨hstop, -⟩ | ⟨s, payload, -, -, hconsume, hread⟩
  · cases congrArg TestdataResponse.data hstop
  · obtain rfl := Option.some.inj (congrArg TestdataResponse.data hconsume)
    exact hread

end Testdata

end LoadTest
