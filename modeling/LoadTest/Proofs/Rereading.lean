import LoadTest.Proofs.Envelopes
import LoadTest.Proofs.Testdata.Receipt
import LoadTest.Proofs.Transport.Frames
/-!
# Values that are read as they were written

A definition is read as it was written, with the sources of all its variables, and so is every
record that travels. Only a payload can say less than it was given: an alias that takes the name
of the variables is never read back, and then neither are the variables.
-/

namespace LoadTest

open Json

/-! ## Definitions -/

namespace Testdata

namespace SourceConfig

/-- A source that is written with a known tag is read by the fields of its type. -/
theorem ofJson_object {type : String} {fields : List (String × Json)}
    (htag : Dict.lookup "type" fields.reverse = some (.str type))
    (hknown : (fieldsOf type).isSome) :
    SourceConfig.ofJson (object fields) = ofMembers type (Dict.ofList fields).entries := by
  have htype : asType (.str type) = .ok type := if_pos hknown
  show SourceConfig.ofJson (.obj (Dict.ofList fields).entries) = _
  simp only [SourceConfig.ofJson, field?_ofList, htag, htype, Except.map, required, bind,
    Except.bind]

/-- The configuration of a source is read as it was written, whatever its type is. -/
theorem ofJson_toJson (c : SourceConfig) : SourceConfig.ofJson c.toJson = .ok c := by
  cases c with
  | literal value =>
    rw [toJson, ofJson_object rfl rfl]
    simp only [ofMembers, field?_ofList]
    simp [Dict.lookup_cons, asIs, required, Except.map, bind, Except.bind, pure, Except.pure]
  | integerIncrementer start step persist =>
    rw [toJson, ofJson_object rfl rfl]
    simp only [ofMembers, field?_ofList]
    simp [Dict.lookup_cons, asInt64_ofInt64, asBool, Except.map, bind, Except.bind, pure,
      Except.pure]
  | rowReader rows repeats =>
    have hrows := listOf_map dictOf_asIs_ofDict rows
    rw [toJson, ofJson_object rfl rfl]
    simp only [ofMembers, field?_ofList]
    simp [Dict.lookup_cons, hrows, asBool, required, Except.map, bind, Except.bind, pure,
      Except.pure]
  | randomInteger min max =>
    rw [toJson, ofJson_object rfl rfl]
    simp only [ofMembers, field?_ofList]
    simp [Dict.lookup_cons, asInt64_ofInt64, required, Except.map, bind, Except.bind, pure,
      Except.pure]
  | timestamp format offset =>
    rw [toJson, ofJson_object rfl rfl]
    simp only [ofMembers, field?_ofList]
    simp [Dict.lookup_cons, asInt64_ofInt64, optional_asString_ofOption, Except.map, bind,
      Except.bind, pure, Except.pure]
  | onConsumer =>
    rw [toJson, ofJson_object rfl rfl]
    rfl

end SourceConfig

/-- A variable is read as it was written. -/
theorem VariableConfig.ofJson_toJson (v : VariableConfig) :
    VariableConfig.ofJson v.toJson = .ok v := by
  show VariableConfig.ofJson (.obj (Dict.ofList _).entries) = _
  simp only [VariableConfig.ofJson, field?_ofList]
  simp [Dict.lookup_cons, SourceConfig.ofJson_toJson, asString, asBool, required, Except.map,
    bind, Except.bind, pure, Except.pure]

/-- A scenario is read as it was written, with all its variables. -/
theorem ScenarioConfig.ofJson_toJson (s : ScenarioConfig) :
    ScenarioConfig.ofJson s.toJson = .ok s := by
  have htext (t : String) : asString (.str t) = .ok t := rfl
  have haliases := dictOf_map htext s.aliases
  have hvariables := listOf_map VariableConfig.ofJson_toJson s.variables
  have hexpose := listOf_map htext s.expose
  show ScenarioConfig.ofJson (.obj (Dict.ofList _).entries) = _
  simp only [ScenarioConfig.ofJson, field?_ofList]
  simp [Dict.lookup_cons, haliases, hvariables, hexpose, asUInt64_ofUInt64, htext, required,
    Except.map, bind, Except.bind, pure, Except.pure]

/-- A definition is read as it was written, with all its scenarios. -/
theorem Definition.ofJson_toJson (d : Definition) : Definition.ofJson d.toJson = .ok d := by
  have hscenarios := listOf_map ScenarioConfig.ofJson_toJson d.scenarios
  show Definition.ofJson (.obj (Dict.ofList _).entries) = _
  simp only [Definition.ofJson, field?_ofList]
  simp [Dict.lookup_cons, hscenarios, Except.map, bind, Except.bind, pure, Except.pure]

end Testdata

/-! ## Records that travel -/

/-- The body of a request message is read as it was written. -/
theorem Production.ofJson_toJson (p : Production) : Production.ofJson p.toJson = .ok p := by
  show Production.ofJson (.obj (Dict.ofList _).entries) = _
  simp only [Production.ofJson, field?_ofList]
  simp [Dict.lookup_cons, Request.ofJson_toJson, asUInt64_ofUInt64, asString, required,
    Except.map, bind, Except.bind, pure, Except.pure]

/-- A value that may be `null` and is read as something is that thing. -/
theorem Json.eq_ok_of_optional {α : Type} {convert : Conversion α} {v : Json} {a : α}
    (h : Json.optional convert v = .ok (some a)) : convert v = .ok a := by
  have hmap (v : Json) (hv : (convert v).map some = .ok (some a)) : convert v = .ok a := by
    cases hc : convert v with
    | error e => simp [hc, Except.map] at hv
    | ok b => simpa [hc, Except.map] using hv
  cases v with
  | null => cases h
  | _ => exact hmap _ h

/-- No response that is read has an alias with the name of the variables. -/
theorem TestdataResponse.aliases_of_ofJson {v : Json} {r : TestdataResponse}
    (h : TestdataResponse.ofJson v = .ok r) {p : Payload} (hp : r.data = some p) :
    p.aliases.get? "variables" = none := by
  have hread {v : Json} (hv : Json.optional Payload.ofJson v = .ok (some p)) :
      p.aliases.get? "variables" = none :=
    Payload.aliases_of_ofJson (eq_ok_of_optional hv)
  cases v with
  | obj members =>
    simp only [TestdataResponse.ofJson, bind_eq_ok] at h
    obtain ⟨action, -, data, hdata, _, -, ⟨⟩⟩ := h
    obtain rfl := Option.join_eq_some_iff.1 hp
    obtain ⟨v, -, hv⟩ := field?_eq_ok_some.1 hdata
    exact hread hv
  | arr items =>
    simp only [TestdataResponse.ofJson, bind_eq_ok] at h
    obtain ⟨action, -, _, -, data, hdata, _, -, ⟨⟩⟩ := h
    obtain rfl := Option.join_eq_some_iff.1 hp
    obtain ⟨v, -, hv⟩ := item?_eq_ok_some.1 hdata
    exact hread hv
  | _ => cases h

/-- Reading gives back whatever was written: every request, with absent data apart from an
explicit `null`, every response of the keystore, the bodies of request and reply messages, every
message and every definition. A response about test data comes back exactly if none of its
aliases has the name of the variables. -/
theorem reread_as_written :
    (∀ r : Request, Request.ofJson r.toJson = .ok r) ∧
    (∀ r : KeystoreResponse, KeystoreResponse.ofJson r.toJson = .ok r) ∧
    (∀ p : Production, Production.ofJson p.toJson = .ok p) ∧
    (∀ c : Consumption, Consumption.ofJson c.toJson = .ok c) ∧
    (∀ m : Message, Message.ofJson m.toJson = .ok m) ∧
    (∀ d : Testdata.Definition, Testdata.Definition.ofJson d.toJson = .ok d) ∧
    ∀ r : TestdataResponse, TestdataResponse.ofJson r.toJson = .ok r ↔
      ∀ p, r.data = some p → p.aliases.get? "variables" = none := by
  refine ⟨Request.ofJson_toJson, KeystoreResponse.ofJson_toJson, Production.ofJson_toJson,
    Consumption.ofJson_toJson, Message.ofJson_toJson, Testdata.Definition.ofJson_toJson,
    fun r => ⟨?_, TestdataResponse.ofJson_toJson⟩⟩
  intro h p hp
  exact TestdataResponse.aliases_of_ofJson h hp

end LoadTest
