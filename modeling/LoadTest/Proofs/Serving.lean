import LoadTest.Cluster.Step
import LoadTest.Testdata.Definition
import LoadTest.Proofs.Records
/-!
# Serving requests

The coordinator takes messages one after another, hands each reply to a transport and does
not look at what becomes of it. It hands over exactly one reply for each usable envelope, in
the order of the messages, as long as no source of test data crashes; a crash ends the
serving, and the requests from there on get no reply.
-/

namespace LoadTest

open Testdata

/-- The envelope of a request that a message carries, if it carries one that can be used. -/
def Message.envelope? (m : Message) : Option Envelope :=
  if m.topic = Message.produceTopic then (Envelope.ofJson m.data).toOption else none

/-- The envelopes among some messages, in their order. -/
def envelopes (messages : List (Outside × Message)) : List Envelope :=
  messages.filterMap fun x => x.2.envelope?

/-- A message is a reply to the request in an envelope: it carries the envelope's
correlation id to the envelope's client. A request that cannot be read, or is of no known
kind, is answered by an empty object. -/
def IsReplyTo (e : Envelope) (m : Message) : Prop :=
  ∃ response, m = (⟨e.uid, response⟩ : Consumption).toMessage e.cid ∧
    (Coordinator.kindOf e.request = none → response = .obj [])

/-! ## Taking one message -/

namespace Coordinator

/-- A message asks for test data that crash while they are made. -/
def CrashesOn (c : Coordinator) (outside : Outside) (m : Message) : Prop :=
  ∃ e r crash, m.envelope? = some e ∧ Request.ofJson e.request = .ok r ∧
    r.kind? = some .testdata ∧ (c.producer.handle outside.read r.identifier).1 = .error crash

/-- The kind of a request is that of what it is read as. -/
theorem kindOf_of_ok {raw : Json} {r : Request} (h : Request.ofJson raw = .ok r) :
    kindOf raw = r.kind? := by
  rw [kindOf, h]
  rfl

/-- What answering a request can come to: a crash of the test data, or a reply. -/
theorem dispatchRaw_cases (c : Coordinator) (outside : Outside) (raw : Json) :
    (∃ r crash c', c.dispatchRaw outside raw = (.error crash, c') ∧
      c'.requestsHandled = c.requestsHandled ∧ Request.ofJson raw = .ok r ∧
      r.kind? = some .testdata ∧
      (c.producer.handle outside.read r.identifier).1 = .error crash) ∨
    (∃ d c', c.dispatchRaw outside raw = (.ok d, c') ∧
      c'.requestsHandled = c.requestsHandled ∧
      (kindOf raw = none → d.response = .obj [] ∧ c' = c) ∧
      ∀ r, Request.ofJson raw = .ok r → r.kind? = some .testdata →
        ∀ crash, (c.producer.handle outside.read r.identifier).1 ≠ .error crash) := by
  cases hr : Request.ofJson raw with
  | error e =>
    right
    refine ⟨_, c, by simp only [dispatchRaw, hr]; rfl, rfl, fun _ => ⟨rfl, rfl⟩, ?_⟩
    intro r h
    cases h
  | ok r =>
    have hkind : kindOf raw = r.kind? := kindOf_of_ok hr
    have hraw : c.dispatchRaw outside raw = c.dispatch outside r := by
      simp only [dispatchRaw, hr]
    rw [hraw, hkind]
    cases hk : r.kind? with
    | none =>
      right
      refine ⟨_, c, by simp only [dispatch, hk]; rfl, rfl, fun _ => ⟨rfl, rfl⟩, ?_⟩
      intro r' h hk'
      cases h
      rw [hk] at hk'
      cases hk'
    | some kind =>
      cases kind with
      | keystore =>
        right
        refine ⟨_, { c with keystore := (c.keystore.handle r).2 },
          by simp only [dispatch, hk]; rfl, rfl, by simp, ?_⟩
        intro r' h hk'
        cases h
        rw [hk] at hk'
        cases hk'
      | testdata =>
        cases hs : (c.producer.handle outside.read r.identifier).1 with
        | error crash =>
          left
          refine ⟨r, crash, { c with producer := (c.producer.handle outside.read r.identifier).2 },
            ?_, rfl, rfl, hk, hs⟩
          simp only [dispatch, hk, hs]
          rfl
        | ok served =>
          right
          refine ⟨_, { c with producer := (c.producer.handle outside.read r.identifier).2 },
            by simp only [dispatch, hk, hs]; rfl, rfl, by simp, ?_⟩
          intro r' h _ crash hc
          cases h
          rw [hs] at hc
          cases hc

/-- A message without a usable envelope is passed over. -/
theorem receive?_of_none (c : Coordinator) (outside : Outside) {m : Message}
    (h : m.envelope? = none) : c.receive? outside m = (.ok none, c) := by
  by_cases htopic : m.topic = Message.produceTopic
  · cases he : Envelope.ofJson m.data with
    | error e => simp [receive?, handle, htopic, he, Except.toOption, Except.map]
    | ok e => simp [Message.envelope?, htopic, he, Except.toOption] at h
  · simp [receive?, htopic]

/-- A message with a usable envelope gets the answer to its request. -/
theorem receive?_of_some (c : Coordinator) (outside : Outside) {m : Message} {e : Envelope}
    (h : m.envelope? = some e) :
    c.receive? outside m = ((c.answer outside e).1.map some, (c.answer outside e).2) := by
  have htopic : m.topic = Message.produceTopic := by
    by_cases hm : m.topic = Message.produceTopic
    · exact hm
    · simp [Message.envelope?, hm] at h
  have he : Envelope.ofJson m.data = .ok e := by
    cases hd : Envelope.ofJson m.data with
    | error e => simp [Message.envelope?, htopic, hd, Except.toOption] at h
    | ok e' => simpa [Message.envelope?, htopic, hd, Except.toOption] using h
  simp only [receive?, if_pos htopic, handle, he]
  cases (c.answer outside e).1 <;> rfl

/-- What taking a message can come to. One with a usable envelope is answered and counted,
unless it ends in a crash. -/
theorem receive?_cases (c : Coordinator) (outside : Outside) (m : Message) :
    (m.envelope? = none ∧ c.receive? outside m = (.ok none, c)) ∨
    (c.CrashesOn outside m ∧ ∃ e crash c', m.envelope? = some e ∧
      c.receive? outside m = (.error crash, c') ∧ c'.requestsHandled = c.requestsHandled) ∨
    (¬ c.CrashesOn outside m ∧ ∃ e h c', m.envelope? = some e ∧
      c.receive? outside m = (.ok (some h), c') ∧ IsReplyTo e h.reply ∧
      h.event.role = .producer ∧ c'.requestsHandled = c.requestsHandled + 1 ∧
      (kindOf e.request = none → c'.keystore = c.keystore ∧ c'.producer = c.producer)) := by
  cases henv : m.envelope? with
  | none => exact .inl ⟨rfl, receive?_of_none c outside henv⟩
  | some e =>
    right
    rcases dispatchRaw_cases c outside e.request with
      ⟨r, crash, c', hd, hcount, hr, hk, hs⟩ | ⟨d, c', hd, hcount, hnone, hfine⟩
    · left
      refine ⟨⟨e, r, crash, henv, hr, hk, hs⟩, e, crash, c', rfl, ?_, hcount⟩
      rw [receive?_of_some c outside henv, answer, hd]
      rfl
    · right
      refine ⟨?_, e, _, { c' with requestsHandled := c'.requestsHandled + 1 }, rfl,
        by rw [receive?_of_some c outside henv, answer, hd]; rfl, ⟨d.response, rfl, ?_⟩, rfl, ?_,
        ?_⟩
      · rintro ⟨e', r, crash, henv', hr, hk, hs⟩
        rw [henv] at henv'
        cases henv'
        exact hfine r hr hk crash hs
      · exact fun h => (hnone h).1
      · rw [hcount]
      · intro h
        rw [(hnone h).2]
        exact ⟨rfl, rfl⟩

end Coordinator

/-! ## Taking messages one after another -/

/-- A coordinator at its transport: the replies it has handed over, the events it has
recorded, and the crash that has ended its serving, if one has. -/
structure Desk (τ : Type) where
  coordinator : Coordinator
  transport : τ
  handed : List Message := []
  events : List Event := []
  crash : Option Crash := none

namespace Desk

variable {τ : Type} (send : τ → Message → Except Error Unit × τ)

/-- Take a message, unless the serving has ended. The reply is handed over, and what the
transport makes of it is not looked at. -/
def take (d : Desk τ) (outside : Outside) (m : Message) : Desk τ :=
  match d.crash with
  | some _ => d
  | none =>
    match d.coordinator.receive? outside m with
    | (.error crash, c) => { d with coordinator := c, crash := some crash }
    | (.ok none, c) => { d with coordinator := c }
    | (.ok (some h), c) =>
      { d with
        coordinator := c
        transport := (send d.transport h.reply).2
        handed := d.handed ++ [h.reply]
        events := d.events ++ [h.event] }

/-- Take messages in their order. -/
def serve (d : Desk τ) (messages : List (Outside × Message)) : Desk τ :=
  messages.foldl (fun d x => take send d x.1 x.2) d

/-- Whether each of some messages has been dealt with as the protocol wants it: one reply
handed over for each usable envelope, in their order, one event recorded for each reply, and
each of them counted. -/
structure Settled (before : Coordinator) (messages : List (Outside × Message)) (d : Desk τ) :
    Prop where
  handed : List.Forall₂ IsReplyTo (envelopes messages) d.handed
  events : d.events.length = d.handed.length
  roles : ∀ e ∈ d.events, e.role = .producer
  counted : d.coordinator.requestsHandled = before.requestsHandled + d.handed.length

end Desk

/-- In a cluster the hub is the transport of the coordinator, and a crash closes its inbox. -/
theorem Cluster.State.serveMessage_eq_take (s : Cluster.State) (c : Coordinator)
    (outside : Outside) (m : Message) :
    s.serveMessage c outside m =
      (let d := Desk.take Transport.Hub.coordinatorSend ⟨c, s.hub, [], [], none⟩ outside m
      match d.crash with
      | none =>
        { s with
          service := .coordinator d.coordinator
          hub := d.transport
          produced := s.produced ++ d.events }
      | some crash =>
        { s with service := .crashed d.coordinator crash, hub := s.hub.closeCoordinator }) := by
  rw [serveMessage, Desk.take]
  rcases c.receive? outside m with ⟨crash | _ | h, c⟩
  · rfl
  · simp
  · rfl

namespace Desk

variable {τ : Type} (send : τ → Message → Except Error Unit × τ)

theorem envelopes_concat (messages : List (Outside × Message)) (x : Outside × Message) :
    envelopes (messages ++ [x]) = envelopes messages ++ x.2.envelope?.toList := by
  cases h : x.2.envelope? <;> simp [envelopes, h]

/-- Messages without a usable envelope leave everything as it is. -/
theorem take_of_none (d : Desk τ) (outside : Outside) {m : Message} (h : m.envelope? = none) :
    take send d outside m = d := by
  obtain ⟨c, t, handed, events, crash⟩ := d
  rw [take, Coordinator.receive?_of_none _ _ h]
  cases crash <;> rfl

/-- After a crash nothing is taken any more. -/
theorem take_of_crash {d : Desk τ} (outside : Outside) (m : Message) (h : d.crash ≠ none) :
    take send d outside m = d := by
  unfold take
  cases hc : d.crash with
  | none => exact absurd hc h
  | some crash => rfl

/-- A message that does not crash the coordinator settles one more message. -/
theorem Settled.take {before : Coordinator} {messages : List (Outside × Message)} {d : Desk τ}
    (h : Settled before messages d) (x : Outside × Message) (hc : d.crash = none)
    (hx : ¬ d.coordinator.CrashesOn x.1 x.2) :
    Settled before (messages ++ [x]) (take send d x.1 x.2) ∧
      (Desk.take send d x.1 x.2).crash = none := by
  rcases Coordinator.receive?_cases d.coordinator x.1 x.2 with
    ⟨henv, -⟩ | ⟨hcrash, -⟩ | ⟨-, e, r, c, henv, hr, hreply, hrole, hcount, -⟩
  · rw [take_of_none send d x.1 henv]
    refine ⟨⟨?_, h.events, h.roles, h.counted⟩, hc⟩
    rw [envelopes_concat, henv]
    simpa using h.handed
  · exact absurd hcrash hx
  · rw [Desk.take, hc, hr]
    refine ⟨⟨?_, ?_, ?_, ?_⟩, rfl⟩
    · rw [envelopes_concat, henv]
      exact List.rel_append h.handed (.cons hreply .nil)
    · simp [h.events]
    · intro e he
      rcases List.mem_append.1 he with he | he
      · exact h.roles e he
      · rw [List.mem_singleton.1 he]
        exact hrole
    · show c.requestsHandled = _
      rw [hcount, h.counted, List.length_append]
      rfl

/-- Whether no message asks for test data that crash, each in the state that it meets. -/
def NeverCrashes (d : Desk τ) : List (Outside × Message) → Prop
  | [] => True
  | x :: rest => ¬ d.coordinator.CrashesOn x.1 x.2 ∧ NeverCrashes (take send d x.1 x.2) rest

theorem serve_of_crash {d : Desk τ} (messages : List (Outside × Message)) (h : d.crash ≠ none) :
    serve send d messages = d := by
  induction messages with
  | nil => rfl
  | cons x rest ih =>
    show serve send (Desk.take send d x.1 x.2) rest = d
    rw [take_of_crash send x.1 x.2 h, ih]

/-- A message that crashes the coordinator ends the serving without a reply to it. -/
theorem take_crashes {d : Desk τ} {x : Outside × Message} (hc : d.crash = none)
    (hx : d.coordinator.CrashesOn x.1 x.2) :
    (∃ e, x.2.envelope? = some e) ∧ (Desk.take send d x.1 x.2).crash ≠ none ∧
      (Desk.take send d x.1 x.2).handed = d.handed ∧
      (Desk.take send d x.1 x.2).events = d.events ∧
      (Desk.take send d x.1 x.2).coordinator.requestsHandled = d.coordinator.requestsHandled := by
  rcases Coordinator.receive?_cases d.coordinator x.1 x.2 with
    ⟨henv, -⟩ | ⟨-, e, crash, c, henv, hr, hcount⟩ | ⟨hcrash, -⟩
  · obtain ⟨e, -, -, he, -⟩ := hx
    rw [henv] at he
    cases he
  · rw [Desk.take, hc, hr]
    exact ⟨⟨e, henv⟩, by simp, rfl, rfl, hcount⟩
  · exact absurd hx hcrash

/-- What is settled without a crash stays settled while messages come that do not crash. -/
theorem Settled.serve {before : Coordinator} {prior : List (Outside × Message)} {d : Desk τ}
    (h : Settled before prior d) (hc : d.crash = none) {messages : List (Outside × Message)}
    (hm : NeverCrashes send d messages) :
    Settled before (prior ++ messages) (serve send d messages) := by
  induction messages generalizing d prior with
  | nil =>
    rw [List.append_nil]
    exact h
  | cons x rest ih =>
    obtain ⟨hx, hrest⟩ := hm
    obtain ⟨hnext, hcnext⟩ := h.take send x hc hx
    have hall := ih hnext hcnext hrest
    rw [List.append_assoc] at hall
    exact hall

/-- With or without a crash, the first messages are settled and nothing else has happened. -/
theorem exists_settled_take {before : Coordinator} {prior : List (Outside × Message)}
    {d : Desk τ} (h : Settled before prior d) (hc : d.crash = none)
    (messages : List (Outside × Message)) :
    ∃ n, Settled before (prior ++ messages.take n) (serve send d messages) := by
  induction messages generalizing d prior with
  | nil =>
    refine ⟨0, ?_⟩
    rw [List.take_nil, List.append_nil]
    exact h
  | cons x rest ih =>
    by_cases hx : d.coordinator.CrashesOn x.1 x.2
    · obtain ⟨-, hcrash, hhanded, hevents, hcount⟩ := take_crashes send hc hx
      refine ⟨0, ?_⟩
      show Settled before _ (Desk.serve send (Desk.take send d x.1 x.2) rest)
      rw [serve_of_crash send rest hcrash]
      refine ⟨?_, ?_, ?_, ?_⟩
      · simpa [hhanded] using h.handed
      · rw [hevents, hhanded, h.events]
      · rw [hevents]
        exact h.roles
      · rw [hcount, hhanded, h.counted]
    · obtain ⟨hnext, hcnext⟩ := h.take send x hc hx
      obtain ⟨n, hn⟩ := ih hnext hcnext
      refine ⟨n + 1, ?_⟩
      rw [List.append_assoc] at hn
      exact hn

theorem length_envelopes_cons (x : Outside × Message) (rest : List (Outside × Message)) :
    (envelopes (x :: rest)).length = x.2.envelope?.toList.length + (envelopes rest).length := by
  cases h : x.2.envelope? <;> simp [envelopes, h, Nat.add_comm]

/-- Once a message crashes the coordinator, some envelope is left without a reply. -/
theorem length_handed_lt {d : Desk τ} (hc : d.crash = none) {messages : List (Outside × Message)}
    (hm : ¬ NeverCrashes send d messages) :
    (serve send d messages).handed.length < d.handed.length + (envelopes messages).length := by
  induction messages generalizing d with
  | nil => exact absurd trivial hm
  | cons x rest ih =>
    show (Desk.serve send (Desk.take send d x.1 x.2) rest).handed.length < _
    rw [length_envelopes_cons]
    by_cases hx : d.coordinator.CrashesOn x.1 x.2
    · obtain ⟨⟨e, he⟩, hcrash, hhanded, -⟩ := take_crashes send hc hx
      rw [serve_of_crash send rest hcrash, hhanded, he]
      simp only [Option.toList_some, List.length_singleton]
      omega
    · have hrest : ¬ NeverCrashes send (Desk.take send d x.1 x.2) rest := fun h => hm ⟨hx, h⟩
      have hone : (Desk.take send d x.1 x.2).handed.length =
          d.handed.length + x.2.envelope?.toList.length ∧
          (Desk.take send d x.1 x.2).crash = none := by
        rcases Coordinator.receive?_cases d.coordinator x.1 x.2 with
          ⟨henv, -⟩ | ⟨hcrash, -⟩ | ⟨-, e, r, c, henv, hr, -⟩
        · rw [take_of_none send d x.1 henv, henv]
          exact ⟨rfl, hc⟩
        · exact absurd hcrash hx
        · rw [Desk.take, hc, hr, henv]
          simp
      have hlt := ih hone.2 hrest
      rw [hone.1] at hlt
      omega

/-- Serving settles all messages exactly if none of them crashes the coordinator, whatever
the transport does with the replies; it always settles the first ones and does nothing
beyond that. Messages without a usable envelope change nothing, and requests that cannot be
read or are of no known kind leave the keystore and the test data as they are. -/
theorem serve_settled_iff (c : Coordinator) (t : τ) (messages : List (Outside × Message)) :
    (Settled c messages (serve send ⟨c, t, [], [], none⟩ messages) ↔
      NeverCrashes send ⟨c, t, [], [], none⟩ messages) ∧
    (∃ n, Settled c (messages.take n) (serve send ⟨c, t, [], [], none⟩ messages)) ∧
    (∀ (d : Desk τ) outside m, m.envelope? = none → take send d outside m = d) ∧
    (∀ (d : Desk τ) outside m e, m.envelope? = some e → Coordinator.kindOf e.request = none →
      (take send d outside m).coordinator.keystore = d.coordinator.keystore ∧
      (take send d outside m).coordinator.producer = d.coordinator.producer) := by
  have hnothing : Settled c [] (⟨c, t, [], [], none⟩ : Desk τ) := ⟨.nil, rfl, by simp, rfl⟩
  refine ⟨⟨fun h => ?_, fun h => hnothing.serve send rfl h⟩,
    exists_settled_take send hnothing rfl messages, fun d outside m h =>
      take_of_none send d outside h,
    fun d outside m e henv hkind => ?_⟩
  · by_cases hm : NeverCrashes send ⟨c, t, [], [], none⟩ messages
    · exact hm
    · have hlt := length_handed_lt send rfl hm
      have hlen := h.handed.length_eq
      simp only [List.length_nil, Nat.zero_add] at hlt
      omega
  · cases hc : d.crash with
    | some crash => rw [take_of_crash send outside m (by simp [hc])]; exact ⟨rfl, rfl⟩
    | none =>
      rcases Coordinator.receive?_cases d.coordinator outside m with
        ⟨henv', -⟩ | ⟨⟨e', r, crash, henv', hr, hk, -⟩, -⟩ |
          ⟨-, e', h, c', henv', hr, -, -, -, hsame⟩
      · rw [henv] at henv'
        cases henv'
      · rw [henv] at henv'
        cases henv'
        have hnone : r.kind? = none := (Coordinator.kindOf_of_ok hr).symm.trans hkind
        rw [hk] at hnone
        cases hnone
      · rw [henv] at henv'
        cases henv'
        rw [Desk.take, hc, hr]
        exact hsame hkind

/-- A request for test data whose time format does not exist gets no reply. -/
theorem unknown_format_unsettled :
    ∃ p, Definition.build ⟨[⟨"A", 1, ∅, [⟨"t", false, .timestamp (some "%Q") 0⟩], []⟩]⟩ ∅ = .ok p ∧
      ¬ Settled (Coordinator.make p {})
        [(⟨fun _ => ⟨⟨0, 0⟩, 0⟩, ⟨0, 0⟩⟩, (⟨1, "w", .testdata "A"⟩ : Production).toMessage)]
        (serve Transport.Hub.coordinatorSend
          ⟨Coordinator.make p {}, Transport.Hub.connect {} "w", [], [], none⟩
          [(⟨fun _ => ⟨⟨0, 0⟩, 0⟩, ⟨0, 0⟩⟩,
            (⟨1, "w", .testdata "A"⟩ : Production).toMessage)]) := by
  refine ⟨_, rfl, fun h => ?_⟩
  have hlen := h.handed.length_eq
  revert hlen
  decide +kernel

end Desk

end LoadTest
