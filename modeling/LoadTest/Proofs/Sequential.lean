import LoadTest.Consumer
import LoadTest.Coordinator
import LoadTest.Proofs.Testdata.Acceptance
/-!
# One store

A keystore and a producer of test data that work off calls one at a time, without messages,
clients or correlation ids. What the coordinator answers to the request of a call is read as
what the call comes to on this store.
-/

namespace LoadTest

open Testdata

/-! ## Names -/

/-- A kind is found under its name. -/
theorem MessageKind.ofName?_name (k : MessageKind) : ofName? k.name = some k := by
  cases k <;> rfl

/-- An action is found under its name. -/
theorem KeystoreAction.ofName?_name (a : KeystoreAction) : ofName? a.name = some a := by
  cases a <;> rfl

/-! ## Aliases -/

namespace Testdata

/-- No alias of a scenario takes the place of the variables. -/
def Producer.AliasesApart (p : Producer) : Prop :=
  ∀ identifier s, p.scenarios.get? identifier = some s → ∀ key,
    s.aliases.get? key ≠ some "variables"

private theorem serving_serve {aliases : Dict String}
    (ha : ∀ key, aliases.get? key ≠ some "variables") (key : String) (v : Json) {s : Serving}
    (hs : s.payload.aliases.get? "variables" = none) :
    (s.serve aliases key v).payload.aliases.get? "variables" = none := by
  simp only [Serving.serve]
  cases hk : aliases.get? key with
  | none => exact hs
  | some a =>
    simp only
    rw [Dict.get?_insert_of_ne]
    · exact hs
    · intro heq
      rw [heq] at hk
      exact ha key hk

/-- Serving a key keeps the variables apart from the aliases. -/
private theorem serving_step (outside : String → Moment) {aliases : Dict String}
    (ha : ∀ key, aliases.get? key ≠ some "variables") (key : String) {s : Serving}
    (hs : s.payload.aliases.get? "variables" = none) :
    (Serving.step outside aliases key s).1.payload.aliases.get? "variables" = none := by
  have hvalue : ∀ {base source v s'}, Serving.valueOf outside base source s = .ok (v, s') →
      s'.payload = s.payload := by
    intro base source v s' h
    unfold Serving.valueOf at h
    split at h
    · cases h
      rfl
    · split at h
      · cases h
      · cases h
        rfl
  unfold Serving.step
  split
  · exact hs
  · split
    · exact hs
    · split
      · exact hs
      · split
        · exact hs
        · split
          · exact hs
          · next v s' hv =>
            have hs' : s'.payload.aliases.get? "variables" = none := by
              rw [hvalue hv]
              exact hs
            split
            · exact hs'
            · exact serving_serve ha key _ hs'

private theorem serving_run (outside : String → Moment) {aliases : Dict String}
    (ha : ∀ key, aliases.get? key ≠ some "variables") (keys : List String) {s : Serving}
    (hs : s.payload.aliases.get? "variables" = none) :
    (Serving.run outside aliases keys s).1.payload.aliases.get? "variables" = none := by
  induction keys generalizing s with
  | nil => exact hs
  | cons key keys ih =>
    have hstep := serving_step outside ha key hs
    unfold Serving.run
    split
    · next s' h =>
      rw [h] at hstep
      exact ih hstep
    · next s' e h =>
      rw [h] at hstep
      exact hstep

/-- The payload of a scenario keeps the variables apart from the aliases. -/
theorem Producer.materialize_aliases {p p' : Producer} {outside : String → Moment} {s : Scenario}
    {payload : Payload} (ha : ∀ key, s.aliases.get? key ≠ some "variables")
    (h : p.materialize outside s = (.ok payload, p')) :
    payload.aliases.get? "variables" = none := by
  unfold materialize at h
  split at h
  · cases h
    rfl
  · next t ht =>
    have hrun := serving_run outside ha t.keys (s := ⟨t.sources, ∅, {}⟩) rfl
    unfold Table.materialize at h
    split at h
    · next result t' hmat =>
      split at hmat
      · next s' hs' =>
        rw [hs'] at hrun
        cases hmat
        cases h
        exact hrun
      · cases hmat
        cases h

/-- What a producer answers to a request: it stops, or it goes on with a payload whose
aliases are apart from the variables. The scenarios stay. -/
theorem Producer.handle_cases {p p' : Producer} (hp : p.AliasesApart) {outside : String → Moment}
    {identifier : String} {served : Served}
    (h : p.handle outside identifier = (.ok served, p')) :
    p'.scenarios = p.scenarios ∧ (served.response = .stop ∨
      ∃ payload, served.response = .consume payload ∧
        payload.aliases.get? "variables" = none) := by
  have htrack : ∀ s, (p.track s).scenarios = p.scenarios := by
    intro s
    unfold track
    split <;> rfl
  have hmaterialize : ∀ (q : Producer) s, (q.materialize outside s).2.scenarios = q.scenarios := by
    intro q s
    unfold materialize
    split <;> rfl
  simp only [handle] at h
  split at h
  · cases h
    exact ⟨rfl, .inl rfl⟩
  · next s hs =>
    split at h
    · cases h
      exact ⟨htrack s, .inl rfl⟩
    · next n hn =>
      split at h
      · have hkeep := hmaterialize (p.track s) s
        split at h
        · next payload q hq =>
          rw [hq] at hkeep
          cases h
          exact ⟨hkeep.trans (htrack s),
            .inr ⟨payload, rfl, materialize_aliases (hp identifier s hs) hq⟩⟩
        · next e q hq =>
          rw [hq] at hkeep
          cases h
          exact ⟨hkeep.trans (htrack s), .inl rfl⟩
        · cases h
      · cases h
        exact ⟨htrack s, .inl rfl⟩

/-! ### Definitions -/

/-- A definition that builds keeps aliases and variables apart. -/
theorem Definition.aliasesApart_of_build {d : Definition} {snapshot : Snapshot} {p : Producer}
    (h : d.build snapshot = .ok p) : p.AliasesApart := by
  intro identifier s hs
  obtain ⟨config, hconfig, -, rfl⟩ := (scenario_of_build h).1 hs
  have hpassed := (validate_eq_ok_iff.1 (build_eq_ok_iff.1 h).1).1 config hconfig
  exact (ScenarioConfig.validate_eq_ok_iff.1 hpassed.2).1

end Testdata

/-! ## Calls, one at a time -/

/-- A call as it reaches the store, and what the outside world has to do with it. -/
structure Arrival where
  identifier : String
  method : Method
  outside : Outside

/-- A keystore and a producer of test data. -/
structure Store where
  keystore : Keystore
  producer : Producer

namespace Store

/-- What a call comes to: the variables or the end of the scenario, the data of the keystore,
or the keystore's refusal, which names the action and the key. -/
def apply (s : Store) (x : Arrival) : Except Crash (Except Error Reading × Store) :=
  match x.method.target? with
  | none =>
    match s.producer.handle x.outside.read x.identifier with
    | (.error crash, _) => .error crash
    | (.ok served, p) => .ok (.ok (.testdata served.response.data), { s with producer := p })
  | some (action, key) =>
    match s.keystore.perform key x.method.data? action with
    | .ok (v, k) => .ok (.ok (.data v), { s with keystore := k })
    | .error e => .ok (.error (.keystore action.name key e.message), s)

/-- What some calls come to, each on the store that the calls before it have left. -/
def run (s : Store) : List Arrival → Except Crash (List (Except Error Reading) × Store)
  | [] => .ok ([], s)
  | x :: rest => do
    let (r, s) ← s.apply x
    let (rs, s) ← s.run rest
    return (r :: rs, s)

/-- One more call finds the store that the calls before it have left. -/
theorem run_concat (s : Store) (xs : List Arrival) (x : Arrival) :
    s.run (xs ++ [x]) = (do
      let (rs, s) ← s.run xs
      let (r, s) ← s.apply x
      return (rs ++ [r], s)) := by
  induction xs generalizing s with
  | nil =>
    rw [List.nil_append, run]
    cases s.apply x <;> rfl
  | cons y ys ih =>
    rw [List.cons_append, run, run]
    cases s.apply y with
    | error crash => rfl
    | ok p =>
      obtain ⟨ry, sy⟩ := p
      show (sy.run (ys ++ [x]) >>= fun q => .ok (ry :: q.1, q.2)) = _
      rw [ih]
      show _ = (sy.run ys >>= fun q => .ok (ry :: q.1, q.2)) >>= _
      cases sy.run ys with
      | error crash => rfl
      | ok q =>
        show ((q.2.apply x >>= fun z => .ok (q.1 ++ [z.1], z.2)) >>= _) =
          (q.2.apply x >>= fun z => .ok ((ry :: q.1) ++ [z.1], z.2))
        cases q.2.apply x <;> rfl

/-- Each call of a run was worked off on some store. -/
theorem apply_of_run {s s' : Store} {xs : List Arrival} {rs : List (Except Error Reading)}
    (h : s.run xs = .ok (rs, s')) {i : Nat} {x : Arrival} (hx : xs[i]? = some x) :
    ∃ (s₁ s₂ : Store) (r : Except Error Reading), s₁.apply x = .ok (r, s₂) ∧ rs[i]? = some r := by
  induction xs generalizing s rs i with
  | nil => cases hx
  | cons y ys ih =>
    unfold run at h
    obtain ⟨⟨r, s₁⟩, hy, h⟩ := bind_eq_ok.1 h
    obtain ⟨⟨rs', s₂⟩, hys, h⟩ := bind_eq_ok.1 h
    cases h
    cases i with
    | zero =>
      cases hx
      exact ⟨s, s₁, r, hy, rfl⟩
    | succ i => exact ih hys hx

/-- The store of a coordinator. -/
def ofCoordinator (c : Coordinator) : Store := ⟨c.keystore, c.producer⟩

/-- A request for an action of the keystore is answered by what the action comes to, and
changes nothing else. -/
theorem dispatch_of_target {m : Method} {action : KeystoreAction} {key : String}
    (ht : m.target? = some (action, key)) (c : Coordinator) (outside : Outside)
    (identifier : String) :
    ∃ d k, c.dispatch outside (m.request identifier) = (.ok d, { c with keystore := k }) ∧
      ((∃ v, c.keystore.perform key m.data? action = .ok (v, k) ∧
          m.read d.response = .ok (.data v)) ∨
        ∃ e, c.keystore.perform key m.data? action = .error e ∧ k = c.keystore ∧
          m.read d.response = .error (.keystore action.name key e.message)) := by
  have hrequest : m.request identifier = .keystore identifier action key m.data? := by
    rw [Method.request, ht]
  have hkind : (Request.keystore identifier action key m.data?).kind? = some .keystore := rfl
  have haction : (Request.keystore identifier action key m.data?).keystoreAction? =
      some action := KeystoreAction.ofName?_name action
  have hrun : c.keystore.run (Request.keystore identifier action key m.data?) =
      c.keystore.perform key m.data? action := by
    simp only [Keystore.run, haction]
    rfl
  simp only [hrequest, Coordinator.dispatch, hkind, Keystore.handle, hrun, Method.read, ht]
  cases hperform : c.keystore.perform key m.data? action with
  | error e =>
    refine ⟨_, c.keystore, rfl, .inr ⟨e, rfl, rfl, ?_⟩⟩
    rw [Method.readKeystore, KeystoreResponse.ofJson_toJson]
  | ok p =>
    obtain ⟨v, k⟩ := p
    refine ⟨_, k, rfl, .inl ⟨v, rfl, ?_⟩⟩
    rw [Method.readKeystore, KeystoreResponse.ofJson_toJson]

/-- What the coordinator answers to the request of a call is read as what the call comes to
on its store. -/
theorem apply_of_dispatch {c c' : Coordinator} {x : Arrival} {d : Dispatched}
    (hp : c.producer.AliasesApart)
    (h : c.dispatch x.outside (x.method.request x.identifier) = (.ok d, c')) :
    (ofCoordinator c).apply x = .ok (x.method.read d.response, ofCoordinator c') ∧
      c'.producer.AliasesApart ∧ c'.persister = c.persister ∧
      c'.requestsHandled = c.requestsHandled := by
  cases ht : x.method.target? with
  | none =>
    have hrequest : x.method.request x.identifier = .testdata x.identifier := by
      rw [Method.request, ht]
    have hkind : (Request.testdata x.identifier).kind? = some .testdata := rfl
    simp only [hrequest, Coordinator.dispatch, hkind] at h
    rcases hserve : c.producer.handle x.outside.read x.identifier with ⟨crash | served, p⟩
    · have hs : c.producer.handle x.outside.read (Request.testdata x.identifier).identifier = _ :=
        hserve
      rw [hs] at h
      cases h
    · have hs : c.producer.handle x.outside.read (Request.testdata x.identifier).identifier = _ :=
        hserve
      rw [hs] at h
      cases h
      obtain ⟨hscenarios, hresponse⟩ := Producer.handle_cases hp hserve
      refine ⟨?_, ?_, rfl, rfl⟩
      · have hread : x.method.read served.response.toJson =
            .ok (.testdata served.response.data) := by
          rw [Method.read, ht]
          show Method.readTestdata _ = _
          rcases hresponse with hstop | ⟨payload, hconsume, haliases⟩
          · rw [hstop, Method.readTestdata, TestdataResponse.ofJson_toJson]
            · rfl
            · intro p hp'
              cases hp'
          · rw [hconsume, Method.readTestdata, TestdataResponse.ofJson_toJson]
            · rfl
            · intro p hp'
              cases hp'
              exact haliases
        have hstore : (ofCoordinator c).producer.handle x.outside.read x.identifier =
            (.ok served, p) := hserve
        simp only [apply, ht, hstore, hread]
        rfl
      · intro identifier s hs'
        exact hp identifier s (by rw [← hscenarios]; exact hs')
  | some target =>
    obtain ⟨action, key⟩ := target
    obtain ⟨d', k, hd, hcases⟩ := dispatch_of_target ht c x.outside x.identifier
    rw [hd] at h
    cases h
    have hstore : (ofCoordinator c).keystore = c.keystore := rfl
    refine ⟨?_, hp, rfl, rfl⟩
    rcases hcases with ⟨v, hperform, hread⟩ | ⟨e, hperform, rfl, hread⟩
    · simp only [apply, ht, hstore, hperform, hread]
      rfl
    · simp only [apply, ht, hstore, hperform, hread]

/-- What crashes the coordinator crashes its store. -/
theorem apply_of_crash {c c' : Coordinator} {x : Arrival} {crash : Crash}
    (h : c.dispatch x.outside (x.method.request x.identifier) = (.error crash, c')) :
    (ofCoordinator c).apply x = .error crash := by
  cases ht : x.method.target? with
  | none =>
    have hrequest : x.method.request x.identifier = .testdata x.identifier := by
      rw [Method.request, ht]
    have hkind : (Request.testdata x.identifier).kind? = some .testdata := rfl
    simp only [hrequest, Coordinator.dispatch, hkind] at h
    have hstore : (ofCoordinator c).producer.handle x.outside.read x.identifier =
        c.producer.handle x.outside.read (Request.testdata x.identifier).identifier := rfl
    rcases hserve : c.producer.handle x.outside.read (Request.testdata x.identifier).identifier
      with ⟨crash' | served, p⟩
    · rw [hserve] at h
      cases h
      simp only [apply, ht, hstore, hserve]
    · rw [hserve] at h
      cases h
  | some target =>
    obtain ⟨action, key⟩ := target
    obtain ⟨d, k, hd, -⟩ := dispatch_of_target ht c x.outside x.identifier
    rw [hd] at h
    cases h

end Store

/-! ## Answers -/

/-- An increment yields a 64-bit integer. -/
theorem Keystore.inc_value {s k : Keystore} {key : String} {data : Option Json} {v : Json}
    (h : s.inc key data = .ok (v, k)) : ∃ n, v = .ofInt64 n := by
  -- Each way of reading the step and the stored value ends in a sum, or in a refusal.
  simp only [inc, bind, Except.bind] at h
  cases hstep : step? data with
  | none =>
    rw [hstep] at h
    cases h
  | some step =>
    rw [hstep] at h
    cases hget : s.get? key with
    | none =>
      simp only [hget] at h
      split at h
      · next n hn =>
        cases h
        exact ⟨n, rfl⟩
      · cases h
    | some stored =>
      cases hcounter : counter? stored with
      | none =>
        simp only [hget, hcounter] at h
        cases h
      | some current =>
        simp only [hget, hcounter] at h
        split at h
        · next n hn =>
          cases h
          exact ⟨n, rfl⟩
        · cases h

/-- A push yields what was pushed. -/
theorem Keystore.push_value {s k : Keystore} {key : String} {value v : Json}
    (h : s.push key value = .ok (v, k)) : v = value := by
  unfold push at h
  split at h
  · cases h
    rfl
  · cases h
    rfl
  · cases h

/-- What a call may answer when its last request came to something. -/
inductive Due : Method → Except Error Reading → Except Error Answer → Prop where
  /-- A refusal names the action and the key, and keeps its text. -/
  | refused {m : Method} {action : KeystoreAction} {key : String} (text : String)
      (target : m.target? = some (action, key)) :
      Due m (.error (.keystore action.name key text)) (.error (.keystore action.name key text))
  /-- The variables of the next iteration, or nothing at the end of the scenario. -/
  | testdata (payload : Option Payload) :
      Due .testdata (.ok (.testdata payload)) (.ok (.testdata payload))
  | absent {key : String} : Due (.get key) (.ok (.data .null)) (.ok (.value none))
  | present {key : String} {v : Json} (found : v ≠ .null) :
      Due (.get key) (.ok (.data v)) (.ok (.value (some v)))
  | set {key : String} {value : Json} : Due (.set key value) (.ok (.data value)) (.ok .done)
  | total {key : String} {step : Int64} (n : Int64) :
      Due (.inc key step) (.ok (.data (.ofInt64 n))) (.ok (.total n))
  | push {key : String} {value : Json} : Due (.push key value) (.ok (.data value)) (.ok .done)
  | popped {key : String} {wait : Option Duration} {v : Json} (found : v ≠ .null) :
      Due (.pop key wait) (.ok (.data v)) (.ok (.value (some v)))
  /-- A pop that waits for a limited time gives up after finding nothing. -/
  | gaveUp {key : String} {wait : Duration} :
      Due (.pop key (some wait)) (.ok (.data .null)) (.error (.popTimeout key wait))
  | del {key : String} : Due (.del key) (.ok (.data .null)) (.ok .done)

theorem Json.isNull_iff {v : Json} : v.isNull = true ↔ v = .null := by
  cases v <;> simp [isNull]

namespace Store

/-- What a call answers follows from what its last request came to on the store. -/
theorem due_of_apply {s s' : Store} {x : Arrival} {r : Except Error Reading}
    (h : s.apply x = .ok (r, s')) {isFirst : Bool} {elapsed : Duration}
    {result : Except Error Answer} (hn : x.method.next isFirst elapsed r = .finish result) :
    Due x.method r result := by
  obtain ⟨identifier, method, outside⟩ := x
  -- A refusal ends every call: it may not go away, so that not even a pop asks again.
  have hrefused : ∀ {action key e}, method.target? = some (action, key) →
      r = .error (.keystore action.name key e) → Due method r result := by
    intro action key e ht hr
    rw [hr] at hn ⊢
    have hresult : result = .error (.keystore action.name key e) := by
      cases method with
      | pop key' wait =>
        have hretry : (Error.keystore action.name key e).isRetryable = false := rfl
        simp only [Method.next, Method.nextPop, hretry, Bool.and_false, Bool.false_eq_true,
          if_false] at hn
        cases hn
        rfl
      | _ =>
        cases hn
        rfl
    rw [hresult]
    exact .refused e ht
  cases ht : method.target? with
  | none =>
    simp only [apply, ht] at h
    split at h
    · cases h
    · cases h
      cases method with
      | testdata =>
        cases hn
        exact .testdata _
      | _ => cases ht
  | some target =>
    obtain ⟨action, key⟩ := target
    simp only [apply, ht] at h
    cases hperform : s.keystore.perform key method.data? action with
    | error e =>
      rw [hperform] at h
      cases h
      exact hrefused ht rfl
    | ok p =>
      obtain ⟨v, k⟩ := p
      rw [hperform] at h
      cases h
      cases method with
      | testdata => cases ht
      | get key =>
        cases ht
        cases hn
        show Due _ _ (.ok (.value (if v.isNull then none else some v)))
        by_cases hnull : v.isNull = true
        · rw [if_pos hnull, Json.isNull_iff.1 hnull]
          exact .absent
        · rw [if_neg hnull]
          exact .present fun hv => hnull (Json.isNull_iff.2 hv)
      | set key value =>
        cases ht
        cases hn
        cases hperform
        exact .set
      | inc key step =>
        cases ht
        obtain ⟨n, rfl⟩ := Keystore.inc_value hperform
        simp only [Method.next, Except.bind, Method.answer, Json.int64?_ofInt64] at hn
        cases hn
        exact .total n
      | push key value =>
        cases ht
        cases hn
        rw [Keystore.push_value hperform]
        exact .push
      | pop key wait =>
        cases ht
        rw [Method.next, Method.nextPop] at hn
        by_cases hnull : v.isNull = true
        · rw [if_pos hnull] at hn
          rw [Json.isNull_iff.1 hnull]
          cases wait with
          | none => cases hn
          | some limit =>
            rw [Method.emptyPop] at hn
            split at hn
            · cases hn
              exact .gaveUp
            · cases hn
        · rw [if_neg hnull] at hn
          cases hn
          exact .popped fun hv => hnull (Json.isNull_iff.2 hv)
      | del key =>
        cases ht
        cases hn
        cases hperform
        exact .del

end Store

end LoadTest
