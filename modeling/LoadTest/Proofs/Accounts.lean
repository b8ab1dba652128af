import LoadTest.Proofs.Envelopes
import LoadTest.Proofs.Serving
/-!
# The coordinator's account of its requests

Each request that the coordinator answers leaves one event. Its kind and its error are those of
the request that was worked off. Its names are looked up in the request as it came, under the
names of the fields, so that a request that cannot be read is named too. A request that came as
the list of its fields has nothing under these names, and is reported without any.
-/

namespace LoadTest

open Json

/-! ## Names of a request -/

/-- The names of a request stand in the value that it was read from, under the names of the
fields: the value is an object, or the request has no names. -/
def Request.IsNamedIn (r : Request) (raw : Json) : Prop :=
  (∃ members, raw = .obj members) ∨ r.identifier = "" ∧ r.action = none ∧ r.key = none

/-- An event has the names of a request. -/
structure Event.Names (e : Event) (r : Request) : Prop where
  identifier : e.identifier = r.identifier
  action : e.action = r.action
  key : e.key = r.key

namespace Request

variable {members : List (String × Json)} {items : List Json} {r : Request}

/-- The fields of a request that is an object. A missing name is no name. -/
theorem ofJson_obj (h : Request.ofJson (.obj members) = .ok r) :
    (∃ o : Option String, Dict.lookup "identifier" members = o.map .str ∧
      r.identifier = o.getD "") ∧
    (∃ o : Option (Option String), Dict.lookup "action" members = o.map (ofOption .str) ∧
      r.action = o.join) ∧
    ∃ o : Option (Option String), Dict.lookup "key" members = o.map (ofOption .str) ∧
      r.key = o.join := by
  simp only [Request.ofJson, bind_eq_ok, inverts_asIs.field?_eq_ok, inverts_asString.field?_eq_ok,
    inverts_optional_asString.field?_eq_ok, required_eq_ok] at h
  obtain ⟨action, haction, _, -, identifier, hidentifier, key, hkey, _, -, _, -, ⟨⟩⟩ := h
  exact ⟨⟨identifier, hidentifier, rfl⟩, ⟨action, haction, rfl⟩, ⟨key, hkey, rfl⟩⟩

/-- The text under a name of an object that is read as a missing one or a text. -/
theorem bind_string?_map (o : Option (Option String)) :
    (o.map (ofOption .str)).bind Json.string? = o.join := by
  rcases o with _ | _ | s <;> rfl

end Request

namespace Coordinator

variable {raw : Json} {r : Request}

/-- The event of a request has its names exactly if they stand in what the request was read
from. -/
theorem eventOf_names (h : Request.ofJson raw = .ok r) (took : Duration)
    (error : Option String) : (eventOf raw took error).Names r ↔ r.IsNamedIn raw := by
  cases raw with
  | obj members =>
    obtain ⟨⟨i, hi, hidentifier⟩, ⟨a, ha, haction⟩, k, hk, hkey⟩ := Request.ofJson_obj h
    refine iff_of_true ⟨?_, ?_, ?_⟩ (.inl ⟨members, rfl⟩)
    · show ((Dict.lookup "identifier" members).bind Json.string?).getD "" = _
      rw [hi, hidentifier]
      cases i <;> rfl
    · show (Dict.lookup "action" members).bind Json.string? = _
      rw [ha, haction, Request.bind_string?_map]
    · show (Dict.lookup "key" members).bind Json.string? = _
      rw [hk, hkey, Request.bind_string?_map]
  | arr items =>
    constructor
    · rintro ⟨hidentifier, haction, hkey⟩
      exact .inr ⟨hidentifier.symm, haction.symm, hkey.symm⟩
    · rintro (⟨members, ⟨⟩⟩ | ⟨hidentifier, haction, hkey⟩)
      exact ⟨hidentifier.symm, haction.symm, hkey.symm⟩
  | _ => cases h

/-- A request that was worked off has an error exactly if it is of no known kind, or the
response of the keystore has one. -/
theorem error_of_dispatch {c c' : Coordinator} {outside : Outside} {d : Dispatched}
    (h : c.dispatch outside r = (.ok d, c')) : d.error.isSome ↔ r.kind? = none ∨
      r.kind? = some .keystore ∧
        ∃ k, KeystoreResponse.ofJson d.response = .ok k ∧ k.error.isSome := by
  cases hkind : r.kind? with
  | none =>
    simp only [dispatch, hkind] at h
    cases h
    simp
  | some kind =>
    cases kind with
    | keystore =>
      simp only [dispatch, hkind] at h
      cases h
      simp [KeystoreResponse.ofJson_toJson]
    | testdata =>
      simp only [dispatch, hkind] at h
      rcases hserve : c.producer.handle outside.read r.identifier with ⟨crash | served, p⟩
      · rw [hserve] at h
        cases h
      · rw [hserve] at h
        cases h
        simp

end Coordinator

/-! ## Accounts -/

/-- A request that was answered: its envelope, the response, and the event that tells of it. -/
structure Account where
  envelope : Envelope
  response : Json
  event : Event

namespace Account

/-- The reply to the request. -/
def reply (a : Account) : Message :=
  (⟨a.envelope.uid, a.response⟩ : Consumption).toMessage a.envelope.cid

/-- The event tells what kind of request was worked off, and whether that failed: the request is
of no known kind, or the response of the keystore has an error. -/
structure Tells (a : Account) (r : Request) : Prop where
  role : a.event.role = .producer
  kind : a.event.kind = r.kind?
  failure : a.event.isFailure ↔ r.kind? = none ∨ r.kind? = some .keystore ∧
    ∃ k, KeystoreResponse.ofJson a.response = .ok k ∧ k.error.isSome

/-- The event tells of the request in the envelope, if that can be read, and names it exactly
if the names stand in it. -/
def IsTrue (a : Account) : Prop :=
  ∀ r, Request.ofJson a.envelope.request = .ok r →
    a.Tells r ∧ (a.event.Names r ↔ r.IsNamedIn a.envelope.request)

end Account

namespace Desk

variable {τ : Type} (send : τ → Message → Except Error Unit × τ)

/-- A message with a usable envelope that does not crash the coordinator is answered, and leaves
an event that tells of its request. -/
theorem exists_account {d : Desk τ} (hc : d.crash = none) {x : Outside × Message} {e : Envelope}
    (he : x.2.envelope? = some e) (hx : ¬ d.coordinator.CrashesOn x.1 x.2) :
    ∃ a : Account, a.envelope = e ∧ a.IsTrue ∧ (take send d x.1 x.2).crash = none ∧
      (take send d x.1 x.2).handed = d.handed ++ [a.reply] ∧
      (take send d x.1 x.2).events = d.events ++ [a.event] := by
  have hreceive := d.coordinator.receive?_of_some x.1 he
  cases hd : d.coordinator.dispatchRaw x.1 e.request with
  | mk result c =>
    cases result with
    | error crash =>
      rcases d.coordinator.dispatchRaw_cases x.1 e.request with
        ⟨r, crash', c', -, -, hr, hk, hs⟩ | ⟨d', c', hd', -⟩
      · exact absurd ⟨e, r, crash', he, hr, hk, hs⟩ hx
      · rw [hd] at hd'
        cases hd'
    | ok done =>
      rw [Coordinator.answer, hd] at hreceive
      refine ⟨⟨e, done.response, Coordinator.eventOf e.request x.1.took done.error⟩, rfl, ?_, ?_⟩
      · intro r hr
        refine ⟨⟨rfl, ?_, ?_⟩, Coordinator.eventOf_names hr _ _⟩
        · exact Coordinator.kindOf_of_ok hr
        · have hdispatch : d.coordinator.dispatch x.1 r = (.ok done, c) := by
            rw [← hd, Coordinator.dispatchRaw, hr]
          exact Coordinator.error_of_dispatch hdispatch
      · rw [take, hc, hreceive]
        exact ⟨rfl, rfl, rfl⟩

/-- Messages that are taken one after another, up to the first that crashes the coordinator,
leave true accounts. -/
theorem exists_accounts {d : Desk τ} (hc : d.crash = none) (messages : List (Outside × Message)) :
    ∃ n, ∃ accounts : List Account,
      accounts.map (·.envelope) = envelopes (messages.take n) ∧
      (serve send d messages).handed = d.handed ++ accounts.map Account.reply ∧
      (serve send d messages).events = d.events ++ accounts.map (·.event) ∧
      (∀ a ∈ accounts, a.IsTrue) ∧
      ∀ x ∈ messages[n]?, (serve send d (messages.take n)).coordinator.CrashesOn x.1 x.2 := by
  induction messages generalizing d with
  | nil => exact ⟨0, [], rfl, by simp [serve], by simp [serve], nofun, nofun⟩
  | cons x rest ih =>
    have hserve : ∀ messages, serve send d (x :: messages) =
        serve send (take send d x.1 x.2) messages := fun _ => rfl
    by_cases hx : d.coordinator.CrashesOn x.1 x.2
    · obtain ⟨-, hcrash, hhanded, hevents, -⟩ := take_crashes send hc hx
      refine ⟨0, [], rfl, ?_, ?_, nofun, ?_⟩
      · rw [hserve, serve_of_crash send rest hcrash, hhanded]
        simp
      · rw [hserve, serve_of_crash send rest hcrash, hevents]
        simp
      · rintro _ ⟨⟩
        exact hx
    · cases he : x.2.envelope? with
      | none =>
        have htake := take_of_none send d x.1 he
        obtain ⟨n, accounts, henvelopes, hhanded, hevents, htrue, hlast⟩ := ih hc
        refine ⟨n + 1, accounts, ?_, ?_, ?_, htrue, ?_⟩
        · rw [henvelopes, List.take_succ_cons, envelopes, envelopes, List.filterMap_cons, he]
        · rw [hserve, htake, hhanded]
        · rw [hserve, htake, hevents]
        · rw [List.take_succ_cons, hserve, htake]
          exact hlast
      | some e =>
        obtain ⟨a, rfl, ha, hcrash, hhanded, hevents⟩ := exists_account send hc he hx
        obtain ⟨n, accounts, henvelopes, hhanded', hevents', htrue, hlast⟩ := ih hcrash
        refine ⟨n + 1, a :: accounts, ?_, ?_, ?_, ?_, hlast⟩
        · rw [List.map_cons, henvelopes, List.take_succ_cons, envelopes, envelopes,
            List.filterMap_cons, he]
        · rw [hserve, hhanded', hhanded, List.map_cons, List.append_assoc]
          rfl
        · rw [hserve, hevents', hevents, List.map_cons, List.append_assoc]
          rfl
        · exact List.forall_mem_cons.2 ⟨ha, htrue⟩

/-- The coordinator leaves one event of each request that it answers, in their order and whatever
the transport does with the replies, up to the first message that crashes it. Each event has
the kind of the request, and an error exactly if the request is of no known kind or the
response of the keystore has one. It names the request exactly if the names stand in what the
request was read from. -/
theorem serve_accounts (c : Coordinator) (t : τ) (messages : List (Outside × Message)) :
    ∃ n, ∃ accounts : List Account,
      accounts.map (·.envelope) = envelopes (messages.take n) ∧
      (serve send ⟨c, t, [], [], none⟩ messages).handed = accounts.map Account.reply ∧
      (serve send ⟨c, t, [], [], none⟩ messages).events = accounts.map (·.event) ∧
      (∀ a ∈ accounts, ∀ r, Request.ofJson a.envelope.request = .ok r →
        a.Tells r ∧ (a.event.Names r ↔ r.IsNamedIn a.envelope.request)) ∧
      ∀ x ∈ messages[n]?,
        (serve send ⟨c, t, [], [], none⟩ (messages.take n)).coordinator.CrashesOn x.1 x.2 := by
  obtain ⟨n, accounts, henvelopes, hhanded, hevents, htrue, hlast⟩ :=
    exists_accounts send (d := ⟨c, t, [], [], none⟩) rfl messages
  exact ⟨n, accounts, henvelopes, hhanded, hevents, htrue, hlast⟩

/-- A request to get a key that came as the list of its fields is answered, and its event has no
name. -/
theorem list_unnamed :
    ∃ r event, Request.ofJson (.arr [.str "keystore", .str "A", .str "get", .str "k"]) = .ok r ∧
      (r.identifier, r.action, r.key) = ("A", some "get", some "k") ∧
      (serve Transport.Hub.coordinatorSend ⟨{}, Transport.Hub.connect {} "w", [], [], none⟩
        [(⟨fun _ => ⟨⟨0, 0⟩, 0⟩, ⟨0, 0⟩⟩, ⟨Message.produceTopic, some "w", .object
          [("uid", .ofUInt64 1), ("cid", .str "w"),
            ("request", .arr [.str "keystore", .str "A", .str "get", .str "k"])]⟩)]).events =
        [event] ∧
      event.kind = some .keystore ∧
      (event.identifier, event.action, event.key) = ("", none, none) ∧ ¬ event.Names r := by
  refine ⟨_, _, rfl, rfl, rfl, rfl, rfl, ?_⟩
  rintro ⟨hidentifier, -, -⟩
  exact absurd hidentifier (by decide)

end Desk

end LoadTest
