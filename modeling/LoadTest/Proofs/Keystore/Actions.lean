import LoadTest.Keystore
/-!
# Actions on the keystore

What an action answers, and what it leaves under its key, is settled by what is stored there
and by the data of the request. A request that is refused has no other trace than its error,
and one that is performed leaves all other keys alone. A store that answers requests one after
another keeps every exchange, with the stores before and after it.
-/

namespace LoadTest

namespace Keystore

/-- The counter that a key stands for, zero if nothing is stored. -/
def count? : Option Json → Option Int64
  | none => some 0
  | some v => counter? v

/-- The list that a key stands for, empty if nothing is stored. -/
def list? : Option Json → Option (List Json)
  | none => some []
  | some (.arr items) => some items
  | some _ => none

/-- What an action makes of what is stored and of the data: its answer, and what is stored
afterwards. -/
inductive Effect : Option Json → Option Json → KeystoreAction → Json → Option Json → Prop where
  | get {stored data} : Effect stored data .get (stored.getD .null) stored
  | set {stored v} : Effect stored (some v) .set v (some v)
  | inc {stored data} {current step n : Int64} (hcurrent : count? stored = some current)
      (hstep : step? data = some step) (hsum : n.toInt = current.toInt + step.toInt) :
      Effect stored data .inc (.ofInt64 n) (some (.ofInt64 n))
  | push {stored data items} (hitems : list? stored = some items) :
      Effect stored data .push (data.getD .null) (some (.arr (items ++ [data.getD .null])))
  | popAbsent {data} : Effect none data .pop .null none
  | popEmpty {data} : Effect (some (.arr [])) data .pop .null (some (.arr []))
  | pop {data v items} : Effect (some (.arr (v :: items))) data .pop v (some (.arr items))
  | del {stored data} : Effect stored data .del .null none

/-- Leave this under a key. -/
def put (s : Keystore) (key : String) : Option Json → Keystore
  | none => s.erase key
  | some v => s.insert key v

theorem get?_put (s : Keystore) (key other : String) (after : Option Json) :
    (s.put key after).get? other = if key = other then after else s.get? other := by
  cases after with
  | none => exact Dict.get?_erase _ _ _
  | some v => exact Dict.get?_insert _ _ _ _

theorem ext_get? {s s' : Keystore} (h : ∀ key, s.get? key = s'.get? key) : s = s' :=
  congrArg Keystore.mk (Dict.ext_get? h)

/-- Leaving what is there changes nothing. -/
theorem put_of_get? {s : Keystore} {key : String} {stored : Option Json}
    (h : s.get? key = stored) : s.put key stored = s := by
  refine ext_get? fun other => ?_
  rw [get?_put]
  split
  · next hkey => rw [← hkey, h]
  · rfl

/-- An increment of what can be counted adds the step, unless the sum leaves the range. -/
theorem inc_eq {s : Keystore} {key : String} {data : Option Json} {current step : Int64}
    (hcurrent : count? (s.get? key) = some current) (hstep : step? data = some step) :
    s.inc key data = (checkedAdd? current step).elim (.error (.overflow key step)) fun n =>
      .ok (.ofInt64 n, s.insert key (.ofInt64 n)) := by
  simp only [inc, hstep, bind, Except.bind]
  cases hs : s.get? key with
  | none =>
    rw [hs] at hcurrent
    cases hcurrent
    cases checkedAdd? 0 step <;> rfl
  | some v =>
    rw [hs] at hcurrent
    simp only [show counter? v = some current from hcurrent]
    cases checkedAdd? current step <;> rfl

/-- A list takes the value at its end. -/
theorem push_eq {s : Keystore} {key : String} {value : Json} {items : List Json}
    (h : list? (s.get? key) = some items) :
    s.push key value = .ok (value, s.insert key (.arr (items ++ [value]))) := by
  cases hs : s.get? key with
  | none =>
    rw [hs] at h
    cases h
    simp only [push, hs, List.nil_append]
  | some v =>
    rw [hs] at h
    cases v with
    | arr =>
      cases h
      simp only [push, hs]
    | _ => cases h

/-- What is stored and the data leave an action no choice. -/
theorem Effect.unique {stored data after after' : Option Json} {action : KeystoreAction}
    {answer answer' : Json} (h : Effect stored data action answer after)
    (h' : Effect stored data action answer' after') : answer = answer' ∧ after = after' := by
  cases h with
  | inc hcurrent hstep hsum =>
    cases h' with
    | inc hcurrent' hstep' hsum' =>
      cases hcurrent.symm.trans hcurrent'
      cases hstep.symm.trans hstep'
      cases Int64.toInt_inj.1 (hsum.trans hsum'.symm)
      exact ⟨rfl, rfl⟩
  | push hitems =>
    cases h' with
    | push hitems' =>
      cases hitems.symm.trans hitems'
      exact ⟨rfl, rfl⟩
  | _ =>
    cases h'
    exact ⟨rfl, rfl⟩

/-! ## One request -/

/-- What an action comes to on every store that has the same value under the key: an error, or
its effect there. -/
structure Settled (key : String) (stored data : Option Json) (action : KeystoreAction)
    (outcome : Except KeystoreError (Json × Option Json)) : Prop where
  performs : ∀ s : Keystore, s.get? key = stored →
    s.perform key data action = outcome.map fun x => (x.1, s.put key x.2)
  effect : ∀ answer after,
    outcome = .ok (answer, after) ↔ Effect stored data action answer after

namespace Settled

variable {key : String} {stored data : Option Json} {action : KeystoreAction}

theorem refused {e : KeystoreError}
    (hperform : ∀ s : Keystore, s.get? key = stored → s.perform key data action = .error e)
    (hnone : ∀ answer after, ¬ Effect stored data action answer after) :
    Settled key stored data action (.error e) :=
  ⟨hperform, fun answer after => ⟨nofun, fun h => (hnone answer after h).elim⟩⟩

theorem performed {answer : Json} {after : Option Json}
    (hperform : ∀ s : Keystore, s.get? key = stored →
      s.perform key data action = .ok (answer, s.put key after))
    (heffect : Effect stored data action answer after) :
    Settled key stored data action (.ok (answer, after)) := by
  refine ⟨hperform, fun answer' after' => ⟨?_, fun h => ?_⟩⟩
  · rintro ⟨⟩
    exact heffect
  · obtain ⟨rfl, rfl⟩ := heffect.unique h
    rfl

end Settled

/-- The step is read first, then what is stored, and the sum may leave the range. -/
theorem exists_settled_inc (key : String) (stored data : Option Json) :
    ∃ outcome, Settled key stored data .inc outcome := by
  cases hstep : step? data with
  | none =>
    refine ⟨_, .refused (e := .badStep (data.getD .null) key) (fun s hs => ?_) ?_⟩
    · simp only [perform, inc, hstep]
      rfl
    · rintro _ _ (_ | _ | ⟨-, hstep', -⟩)
      cases hstep.symm.trans hstep'
  | some step =>
    cases hcurrent : count? stored with
    | none =>
      cases stored with
      | none => cases hcurrent
      | some v =>
        refine ⟨_, .refused (e := .notACounter v key) (fun s hs => ?_) ?_⟩
        · simp only [perform, inc, hstep, hs, show counter? v = none from hcurrent]
          rfl
        · rintro _ _ (_ | _ | ⟨hcurrent', -, -⟩)
          cases hcurrent.symm.trans hcurrent'
    | some current =>
      cases hsum : checkedAdd? current step with
      | none =>
        refine ⟨_, .refused (e := .overflow key step) (fun s hs => ?_) ?_⟩
        · rw [perform, inc_eq (hs ▸ hcurrent) hstep, hsum]
          rfl
        · rintro _ _ (_ | _ | ⟨hcurrent', hstep', hsum'⟩)
          cases hcurrent.symm.trans hcurrent'
          cases hstep.symm.trans hstep'
          cases hsum.symm.trans (checkedAdd?_eq_some.2 hsum')
      | some n =>
        refine ⟨_, .performed (fun s hs => ?_)
          (.inc hcurrent hstep (checkedAdd?_eq_some.1 hsum))⟩
        rw [perform, inc_eq (hs ▸ hcurrent) hstep, hsum]
        rfl

theorem exists_settled_push (key : String) (stored data : Option Json) :
    ∃ outcome, Settled key stored data .push outcome := by
  cases hitems : list? stored with
  | none =>
    refine ⟨_, .refused (e := .cannotPush key) (fun s hs => ?_) ?_⟩
    · rw [perform, push, hs]
      rcases stored with _ | v
      · cases hitems
      · cases v <;> first | rfl | cases hitems
    · rintro _ _ (_ | _ | _ | hitems')
      cases hitems.symm.trans hitems'
  | some items =>
    refine ⟨_, .performed (fun s hs => ?_) (.push hitems)⟩
    rw [perform, push_eq (hs ▸ hitems)]
    rfl

theorem exists_settled_pop (key : String) (stored data : Option Json) :
    ∃ outcome, Settled key stored data .pop outcome := by
  rcases stored with _ | v
  · refine ⟨_, .performed (fun s hs => ?_) .popAbsent⟩
    rw [perform, pop, hs, put_of_get? hs]
  · cases v with
    | arr items =>
      cases items with
      | nil =>
        refine ⟨_, .performed (fun s hs => ?_) .popEmpty⟩
        rw [perform, pop, hs, put_of_get? hs]
      | cons v items =>
        refine ⟨_, .performed (fun s hs => ?_) .pop⟩
        rw [perform, pop, hs]
        rfl
    | _ =>
      refine ⟨_, .refused (e := .cannotPop key) (fun s hs => ?_) nofun⟩
      rw [perform, pop, hs]

/-- What an action comes to is settled by the value under its key. -/
theorem exists_settled (key : String) (stored data : Option Json) (action : KeystoreAction) :
    ∃ outcome, Settled key stored data action outcome := by
  cases action with
  | get =>
    refine ⟨_, .performed (fun s hs => ?_) .get⟩
    rw [perform, put_of_get? hs, hs]
  | set =>
    cases data with
    | none => exact ⟨_, .refused (fun s _ => rfl) nofun⟩
    | some v => exact ⟨_, .performed (fun s _ => rfl) .set⟩
  | inc => exact exists_settled_inc key stored data
  | push => exact exists_settled_push key stored data
  | pop => exact exists_settled_pop key stored data
  | del => exact ⟨_, .performed (fun s _ => rfl) .del⟩

/-- A request is refused, or it has its effect under its key. -/
theorem handle_cases (s : Keystore) (r : Request) :
    (∃ e : KeystoreError, s.handle r = (⟨r.action, r.key, .null, some e.message⟩, s) ∧
      (r.key = none → e = .missingKey) ∧
      ∀ key action, r.key = some key → r.keystoreAction? = some action →
        ∀ answer after, ¬ Effect (s.get? key) r.data action answer after) ∨
    ∃ key action answer after, r.key = some key ∧ r.keystoreAction? = some action ∧
      Effect (s.get? key) r.data action answer after ∧
      s.handle r = (⟨r.action, r.key, answer, none⟩, s.put key after) := by
  cases hkey : r.key with
  | none =>
    refine .inl ⟨.missingKey, ?_, fun _ => rfl, nofun⟩
    rw [handle, run, hkey]
  | some key =>
    cases haction : r.keystoreAction? with
    | none =>
      refine .inl ⟨.unknownAction (r.action.getD ""), ?_, nofun, nofun⟩
      simp only [handle, run, hkey, haction]
    | some action =>
      obtain ⟨outcome, hsettled⟩ := exists_settled key (s.get? key) r.data action
      have hhandle := hsettled.performs s rfl
      rcases outcome with e | ⟨answer, after⟩
      · refine .inl ⟨e, ?_, nofun, ?_⟩
        · simp only [handle, run, hkey, haction, hhandle, Except.map]
        · rintro _ _ ⟨⟩ ⟨⟩ answer after heffect
          cases (hsettled.effect answer after).2 heffect
      · refine .inr ⟨key, action, answer, after, rfl, rfl, (hsettled.effect answer after).1 rfl, ?_⟩
        simp only [handle, run, hkey, haction, hhandle, Except.map]

variable {s s' : Keystore} {key other : String} {r : Request}

/-- An action that can have an effect has it. -/
theorem handle_of_effect {action : KeystoreAction} {answer : Json} {after : Option Json}
    (hkey : r.key = some key) (haction : r.keystoreAction? = some action)
    (heffect : Effect (s.get? key) r.data action answer after) :
    s.handle r = (⟨r.action, r.key, answer, none⟩, s.put key after) := by
  obtain ⟨e, -, -, hrefused⟩ | ⟨_, _, answer', after', hk, ha, heffect', hhandle⟩ :=
    s.handle_cases r
  · exact (hrefused key action hkey haction answer after heffect).elim
  · cases hk.symm.trans hkey
    cases ha.symm.trans haction
    obtain ⟨rfl, rfl⟩ := heffect'.unique heffect
    exact hhandle

/-- A request is answered by the value under its key, and leaves stores that agree in it in
agreement. -/
theorem handle_congr (hkey : r.key = some key) (h : s.get? key = s'.get? key) :
    (s.handle r).1 = (s'.handle r).1 ∧ (s.handle r).2.get? key = (s'.handle r).2.get? key := by
  simp only [handle, run, hkey]
  cases r.keystoreAction? with
  | none => exact ⟨rfl, h⟩
  | some action =>
    obtain ⟨outcome, hsettled⟩ := exists_settled key (s'.get? key) r.data action
    simp only [hsettled.performs s h, hsettled.performs s' rfl]
    cases outcome with
    | error => exact ⟨rfl, h⟩
    | ok => exact ⟨rfl, by simp only [Except.map, get?_put, if_true]⟩

/-- A request leaves every key but its own alone. -/
theorem handle_of_ne (hkey : r.key ≠ some other) : (s.handle r).2.get? other = s.get? other := by
  obtain ⟨e, hhandle, -⟩ | ⟨key, action, answer, after, hk, -, -, hhandle⟩ := s.handle_cases r
  · rw [hhandle]
  · have hne : key ≠ other := fun h => hkey (h ▸ hk)
    rw [hhandle, get?_put, if_neg hne]

/-- A request is answered under its own action and key. With an error it is answered by `null`
and leaves the store as it was, and that happens just if its action can have no effect on what
is stored; a missing key is noticed before its action. Without an error it has its effect under
its key, and leaves all others alone. -/
theorem handle_atomic (s : Keystore) (r : Request) :
    (s.handle r).1.action = r.action ∧ (s.handle r).1.key = r.key ∧
      (match (s.handle r).1.error with
        | some _ => (s.handle r).1.data = .null ∧ (s.handle r).2 = s ∧
            ∀ key action, r.key = some key → r.keystoreAction? = some action →
              ∀ answer after, ¬ Effect (s.get? key) r.data action answer after
        | none => ∃ key action, r.key = some key ∧ r.keystoreAction? = some action ∧
            Effect (s.get? key) r.data action (s.handle r).1.data ((s.handle r).2.get? key) ∧
            ∀ other, other ≠ key → (s.handle r).2.get? other = s.get? other) ∧
      (r.keystoreAction? = some .get → (s.handle r).2 = s) ∧
      (r.key = none → (s.handle r).1.error = some KeystoreError.missingKey.message) := by
  obtain ⟨e, hhandle, hmissing, hrefused⟩ |
    ⟨key, action, answer, after, hk, ha, heffect, hhandle⟩ := s.handle_cases r
  · rw [hhandle]
    exact ⟨rfl, rfl, ⟨rfl, rfl, hrefused⟩, fun _ => rfl, fun hk => by rw [hmissing hk]⟩
  · rw [hhandle]
    refine ⟨rfl, rfl, ⟨key, action, hk, ha, ?_, fun other hne => ?_⟩, fun hget => ?_,
      fun hnone => ?_⟩
    · rwa [get?_put, if_pos rfl]
    · rw [get?_put, if_neg hne.symm]
    · cases ha.symm.trans hget
      generalize hstored : s.get? key = stored, r.data = data at heffect
      cases heffect
      exact put_of_get? hstored
    · cases hk.symm.trans hnone

/-! ## Requests one after another -/

/-- A request with its response, between the stores before and after it. -/
structure Exchange where
  before : Keystore
  request : Request
  response : KeystoreResponse
  after : Keystore

/-- A store answers one request. -/
def exchange (s : Keystore) (r : Request) : Exchange := ⟨s, r, (s.handle r).1, (s.handle r).2⟩

/-- A store answers requests one after another. -/
def exchanges (s : Keystore) : List Request → List Exchange
  | [] => []
  | r :: rs => s.exchange r :: (s.exchange r).after.exchanges rs

/-- The store after requests. -/
def after (s : Keystore) : List Request → Keystore
  | [] => s
  | r :: rs => (s.exchange r).after.after rs

namespace Exchange

/-- An action on a key was asked for. -/
def Asks (x : Exchange) (action : KeystoreAction) (key : String) : Prop :=
  x.request.key = some key ∧ x.request.keystoreAction? = some action

instance (x : Exchange) (action : KeystoreAction) (key : String) : Decidable (x.Asks action key) :=
  inferInstanceAs (Decidable (_ ∧ _))

end Exchange

end Keystore

end LoadTest
