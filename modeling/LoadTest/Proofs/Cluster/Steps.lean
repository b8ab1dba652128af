import LoadTest.Proofs.Cluster.Trace
import LoadTest.Proofs.Correlation.Table
import LoadTest.Proofs.Records
/-!
# What a step changes

For every action, the states in which it can happen and the state that it leads to.
-/

namespace LoadTest

/-! ## Messages -/

namespace Cluster

open Transport

/-- The coordinator finds in a message the request that was sent. -/
theorem Attempt.envelope_message (a : Attempt) :
    Envelope.ofJson a.message.data = .ok ⟨a.consumer.uid, a.client, a.request.toJson⟩ :=
  Envelope.ofJson_toJson _

/-- The coordinator answers a request of a call to the client and under the correlation id
of the call. -/
theorem receive?_message (c : Coordinator) (outside : Outside) (a : Attempt) :
    c.receive? outside a.message =
      match c.dispatch outside a.request with
      | (.error crash, c') => (.error crash, c')
      | (.ok d, c') =>
        (.ok (some {
          event := Coordinator.eventOf a.request.toJson outside.took d.error
          reply := (⟨a, outside, d.response⟩ : Reply).message
          log := d.log }), { c' with requestsHandled := c'.requestsHandled + 1 }) := by
  have htopic : a.message.topic = Message.produceTopic := rfl
  rw [Coordinator.receive?, if_pos htopic, Coordinator.handle, a.envelope_message]
  simp only [Coordinator.answer, Coordinator.dispatchRaw, Request.ofJson_toJson]
  rcases c.dispatch outside a.request with ⟨crash | d, c'⟩
  · rfl
  · rfl

/-- A worker finds in a message the reply that was made. -/
theorem reply?_message (r : Reply) :
    Correlation.Table.reply? r.message = some ⟨r.attempt.consumer.uid, r.response⟩ := by
  have htopic : r.message.topic = Message.consumeTopic := rfl
  have hdata : Consumption.ofJson r.message.data = .ok ⟨r.attempt.consumer.uid, r.response⟩ :=
    Consumption.ofJson_toJson _
  rw [Correlation.Table.reply?, if_pos htopic, hdata]
  rfl

end Cluster

/-! ## Calls -/

namespace Method

/-- A pop that found nothing goes on, or its time is up. -/
theorem emptyPop_cases (key : String) (wait : Option Duration) (elapsed : Duration) :
    emptyPop key wait elapsed = .again ∨ ∃ limit, wait = some limit ∧
      emptyPop key wait elapsed = .finish (.error (.popTimeout key limit)) := by
  cases wait with
  | none => exact .inl rfl
  | some limit =>
    by_cases hle : limit.toNanos ≤ elapsed.toNanos
    · exact .inr ⟨limit, rfl, if_pos hle⟩
    · exact .inl (if_neg hle)

/-- A call fails with the error of its attempt. Only a pop past its first attempt may take the
error for an empty list. -/
theorem next_error_cases (m : Method) (isFirst : Bool) (elapsed : Duration) (e : Error) :
    m.next isFirst elapsed (.error e) = .finish (.error e) ∨
      isFirst = false ∧ ∃ key wait, m = .pop key wait ∧
        m.next isFirst elapsed (.error e) = emptyPop key wait elapsed := by
  cases m with
  | pop key wait =>
    rw [next, nextPop]
    split
    · next hretry =>
      rw [Bool.and_eq_true, Bool.not_eq_true'] at hretry
      exact .inr ⟨hretry.1, key, wait, rfl, rfl⟩
    · exact .inl rfl
  | _ => exact .inl rfl

end Method

namespace Cluster

open Transport

/-- The ticket of a call that waits for a reply. -/
def Call.ticket? (c : Call) : Option Correlation.Ticket :=
  match c.phase with
  | .waiting ticket _ => some ticket
  | _ => none

/-- A call after an attempt that has come to something. -/
def Call.after (c : Call) (now : Nat) (w : Worker) (reply : Except Error Json) : Call :=
  match c.method.next c.isFirst (.ofNanos (now - c.began)) (c.method.outcome reply) with
  | .finish result => { c with phase := .finished result }
  | .again =>
    { c with isFirst := false, phase := .sleeping (now + w.options.pollInterval.toNanos) }

@[simp] theorem Call.after_user (c : Call) (now : Nat) (w : Worker) (reply : Except Error Json) :
    (c.after now w reply).user = c.user := by
  unfold after
  split <;> rfl

@[simp] theorem Call.after_method (c : Call) (now : Nat) (w : Worker)
    (reply : Except Error Json) : (c.after now w reply).method = c.method := by
  unfold after
  split <;> rfl

@[simp] theorem Call.after_ticket? (c : Call) (now : Nat) (w : Worker)
    (reply : Except Error Json) : (c.after now w reply).ticket? = none := by
  unfold after
  split <;> rfl

namespace State

variable {s s' : State}

/-- The end of an attempt changes the call and the events, and nothing else. -/
theorem endAttempt_eq (s : State) (call : Nat) (c : Call) (u : User) (w : Worker)
    (reply : Except Error Json) :
    ∃ events, s.endAttempt call c u w reply =
      { s with consumed := events, calls := s.calls.set call (c.after s.now w reply) } := by
  refine ⟨if w.keepsEvents then s.consumed ++ [c.method.event u.consumer.identifier
    (.ofNanos (s.now - c.attempted)) (c.method.outcome reply)] else s.consumed, ?_⟩
  rw [endAttempt, Call.after]
  cases w.keepsEvents with
  | true =>
    simp only [if_true]
    cases c.method.next c.isFirst (.ofNanos (s.now - c.began)) (c.method.outcome reply) <;> rfl
  | false =>
    simp only [Bool.false_eq_true, if_false]
    cases c.method.next c.isFirst (.ofNanos (s.now - c.began)) (c.method.outcome reply) <;> rfl

/-- The end of an attempt leaves its event, if the worker keeps events. -/
theorem consumed_endAttempt (s : State) (call : Nat) (c : Call) (u : User) {w : Worker}
    (reply : Except Error Json) (hw : w.keepsEvents = true) :
    (s.endAttempt call c u w reply).consumed = s.consumed ++ [c.method.event u.consumer.identifier
      (.ofNanos (s.now - c.attempted)) (c.method.outcome reply)] := by
  rw [endAttempt]
  simp only [hw, if_true]
  cases c.method.next c.isFirst (.ofNanos (s.now - c.began)) (c.method.outcome reply) <;> rfl

theorem owner?_eq_some {c : Call} {u : User} {w : Worker} :
    s.owner? c = some (u, w) ↔ s.users[c.user]? = some u ∧ s.workers[u.worker]? = some w := by
  constructor
  · intro h
    obtain ⟨u', hu, h⟩ := Option.bind_eq_some_iff.1 h
    obtain ⟨w', hw, h⟩ := Option.bind_eq_some_iff.1 h
    cases h
    exact ⟨hu, hw⟩
  · rintro ⟨hu, hw⟩
    rw [owner?, hu]
    show (s.workers[u.worker]? >>= fun w => some (u, w)) = _
    rw [hw]
    rfl

/-- An attempt can be made by a call that is ready. It registers and sends a request, or it
fails and uses up a token. -/
theorem attempt?_cases {call : Nat} (h : s.attempt? call = some s') :
    ∃ c u w, s.calls[call]? = some c ∧ c.phase = .ready ∧ s.users[c.user]? = some u ∧
      s.workers[u.worker]? = some w ∧
      ((∃ messages, w.table.isClosed = false ∧
          (∀ e ∈ w.table.entries, e.ticket.uid ≠ u.consumer.uid) ∧
          s.hub.coordinator = some messages ∧
          (∀ n, s.sends? n call = some ⟨call, c.user, u.worker, w.client, u.consumer, c.method,
            ⟨u.consumer.uid, w.table.nextToken⟩, n⟩) ∧
          s' = (State.setTable { s with hub := { s.hub with
              coordinator := some (messages ++ [Hub.stamp w.client (requestMessage c u w)]) } }
              u.worker (w.table.registered u.consumer.uid)).setCall call { c with
            attempted := s.now
            phase := .waiting ⟨u.consumer.uid, w.table.nextToken⟩
              (s.now + w.options.requestTimeout.toNanos) }) ∨
        (∃ e, ((w.table.isClosed = true ∧ e = .replyChannelClosed) ∨
            ((∃ e ∈ w.table.entries, e.ticket.uid = u.consumer.uid) ∧
              e = .duplicateCorrelation u.consumer.uid) ∨
            (s.hub.coordinator = none ∧ e = .coordinatorClosed)) ∧
          (∀ n, s.sends? n call = none) ∧
          s' = (s.setTable u.worker w.table.refused).endAttempt call
            { c with attempted := s.now } u w (.error e))) := by
  obtain ⟨⟨user, method, began, attempted, isFirst, phase⟩, hc, h⟩ := Option.bind_eq_some_iff.1 h
  cases phase with
  | ready =>
    obtain ⟨⟨u, w⟩, howner, h⟩ := Option.bind_eq_some_iff.1 h
    obtain ⟨hu, hw⟩ := owner?_eq_some.1 howner
    refine ⟨_, u, w, hc, rfl, hu, hw, ?_⟩
    have hsends : ∀ n, s.sends? n call =
        ((w.table.register u.consumer.uid).1.toOption.bind fun ticket =>
          s.hub.coordinator.bind fun _ => some ⟨call, user, u.worker, w.client, u.consumer,
            method, ticket, n⟩) := by
      intro n
      rw [sends?, hc]
      show (s.owner? _).bind _ = _
      rw [howner]
      rfl
    rcases w.table.register_cases u.consumer.uid with
      ⟨hopen, hfree, hreg⟩ | ⟨hclosed, hreg⟩ | ⟨hopen, htaken, hreg⟩
    · cases hcoord : s.hub.coordinator with
      | some messages =>
        left
        refine ⟨messages, hopen, hfree, rfl, ?_, ?_⟩
        · intro n
          rw [hsends, hreg, hcoord]
          rfl
        · simp only [hreg, Hub.workerSend, hcoord, Inbox.push?, Option.map_some] at h
          cases h
          rfl
      | none =>
        right
        refine ⟨.coordinatorClosed, .inr (.inr ⟨rfl, rfl⟩), ?_, ?_⟩
        · intro n
          rw [hsends, hreg, hcoord]
          rfl
        · simp only [hreg, Hub.workerSend, hcoord, Inbox.push?, Option.map_none,
            Correlation.Table.remove_registered hfree] at h
          cases h
          rfl
    · right
      refine ⟨.replyChannelClosed, .inl ⟨hclosed, rfl⟩, ?_, ?_⟩
      · intro n
        rw [hsends, hreg]
        rfl
      · simp only [hreg] at h
        cases h
        rfl
    · right
      refine ⟨.duplicateCorrelation u.consumer.uid, .inr (.inl ⟨htaken, rfl⟩), ?_, ?_⟩
      · intro n
        rw [hsends, hreg]
        rfl
      · simp only [hreg] at h
        cases h
        rfl
  | _ => cases h

/-- A call that waits completes once there is an outcome under its ticket. -/
theorem complete?_cases {call : Nat} (h : s.complete? call = some s') :
    ∃ c ticket deadline u w reply, s.calls[call]? = some c ∧ c.phase = .waiting ticket deadline ∧
      s.users[c.user]? = some u ∧ s.workers[u.worker]? = some w ∧
      w.table.outcome? ticket = some reply ∧
      s' = (s.setTable u.worker (w.table.remove ticket)).endAttempt call c u w reply := by
  obtain ⟨c, hc, h⟩ := Option.bind_eq_some_iff.1 h
  cases hp : c.phase with
  | waiting ticket deadline =>
    simp only [hp] at h
    obtain ⟨⟨u, w⟩, howner, h⟩ := Option.bind_eq_some_iff.1 h
    obtain ⟨hu, hw⟩ := owner?_eq_some.1 howner
    obtain ⟨reply, hreply, h⟩ := Option.bind_eq_some_iff.1 h
    cases h
    exact ⟨c, ticket, deadline, u, w, reply, hc, hp, hu, hw, hreply, rfl⟩
  | _ => simp [hp] at h

/-- A call that waits gives up once its time is up and there is no outcome. -/
theorem expire?_cases {call : Nat} (h : s.expire? call = some s') :
    ∃ c ticket deadline u w, s.calls[call]? = some c ∧ c.phase = .waiting ticket deadline ∧
      s.users[c.user]? = some u ∧ s.workers[u.worker]? = some w ∧
      w.table.outcome? ticket = none ∧
      s' = (s.setTable u.worker (w.table.remove ticket)).endAttempt call c u w
        (.error (.noDataReceived w.options.requestTimeout)) := by
  obtain ⟨c, hc, h⟩ := Option.bind_eq_some_iff.1 h
  cases hp : c.phase with
  | waiting ticket deadline =>
    simp only [hp] at h
    obtain ⟨⟨u, w⟩, howner, h⟩ := Option.bind_eq_some_iff.1 h
    obtain ⟨hu, hw⟩ := owner?_eq_some.1 howner
    simp only at h
    split at h
    · next hcond =>
      cases h
      rw [Bool.and_eq_true, Option.isNone_iff_eq_none] at hcond
      exact ⟨c, ticket, deadline, u, w, hc, hp, hu, hw, hcond.2, rfl⟩
    · cases h
  | _ => simp [hp] at h

/-- A call that is not over can be abandoned. If it waits, its ticket is given up. -/
theorem cancel?_cases {call : Nat} (h : s.cancel? call = some s') :
    ∃ c, s.calls[call]? = some c ∧
      ((c.ticket? = none ∧ s' = s.setCall call { c with phase := .cancelled }) ∨
        ∃ ticket deadline u w, c.phase = .waiting ticket deadline ∧
          s.users[c.user]? = some u ∧ s.workers[u.worker]? = some w ∧
          s' = (s.setTable u.worker (w.table.remove ticket)).setCall call
            { c with phase := .cancelled }) := by
  obtain ⟨c, hc, h⟩ := Option.bind_eq_some_iff.1 h
  refine ⟨c, hc, ?_⟩
  cases hp : c.phase with
  | waiting ticket deadline =>
    right
    simp only [hp] at h
    obtain ⟨⟨u, w⟩, howner, h⟩ := Option.bind_eq_some_iff.1 h
    obtain ⟨hu, hw⟩ := owner?_eq_some.1 howner
    cases h
    exact ⟨ticket, deadline, u, w, rfl, hu, hw, rfl⟩
  | finished result => simp [hp] at h
  | cancelled => simp [hp] at h
  | ready =>
    left
    simp only [hp] at h
    cases h
    exact ⟨by rw [Call.ticket?, hp], rfl⟩
  | sleeping deadline =>
    left
    simp only [hp] at h
    cases h
    exact ⟨by rw [Call.ticket?, hp], rfl⟩

/-- A call that sleeps becomes ready. -/
theorem wake?_cases {call : Nat} (h : s.wake? call = some s') :
    ∃ c deadline, s.calls[call]? = some c ∧ c.phase = .sleeping deadline ∧
      s' = s.setCall call { c with phase := .ready } := by
  obtain ⟨c, hc, h⟩ := Option.bind_eq_some_iff.1 h
  cases hp : c.phase with
  | sleeping deadline =>
    simp only [hp] at h
    split at h
    · cases h
      exact ⟨c, deadline, hc, hp, rfl⟩
    · cases h
  | _ => simp [hp] at h

/-! ## Replies, workers and users -/

/-- A cluster after a message was taken out of the inbox of a client. -/
def taken (s : State) (client : String) (position : Nat) : State :=
  { s with hub := s.hub.setInbox client ((s.hub.inbox client).remove position) }

/-- A worker that still reads its replies takes one of them. -/
theorem receive?_cases {worker position : Nat} (h : s.receive? worker position = some s') :
    ∃ w m, s.workers[worker]? = some w ∧ w.isReading = true ∧
      (s.hub.inbox w.client).messages[position]? = some m ∧
      s' = (s.taken w.client position).setTable worker (w.table.handleMessage m).2 := by
  obtain ⟨w, hw, h⟩ := Option.bind_eq_some_iff.1 h
  simp only at h
  split at h
  · next hreading =>
    obtain ⟨m, hm, h⟩ := Option.bind_eq_some_iff.1 h
    cases h
    exact ⟨w, m, hw, hreading, hm, rfl⟩
  · cases h

/-- A worker that still reads its replies closes its table once its replies have ended. -/
theorem endReplies?_cases {worker : Nat} (h : s.endReplies? worker = some s') :
    ∃ w, s.workers[worker]? = some w ∧
      (w.isReading = true ∧ s.hub.hasEnded w.client = true ∧ w.table.isClosed = false) ∧
      s' = s.setTable worker w.table.close := by
  obtain ⟨w, hw, h⟩ := Option.bind_eq_some_iff.1 h
  split at h
  · next hguard =>
    cases h
    rw [Bool.and_eq_true, Bool.and_eq_true, Bool.not_eq_true'] at hguard
    exact ⟨w, hw, ⟨hguard.1.1, hguard.1.2, hguard.2⟩, rfl⟩
  · cases h

/-- A worker connects under a client id that no other worker has. -/
theorem connect?_cases {client : String} {options : ConsumerOptions} {keepsEvents : Bool}
    (h : s.connect? client options keepsEvents = some s') :
    (∀ w ∈ s.workers, w.client ≠ client) ∧
      s' = { s with
        hub := s.hub.connect client
        workers := s.workers ++
          [{ client := client, options := options, keepsEvents := keepsEvents }] } := by
  unfold connect? at h
  split at h
  · cases h
  · next hnone =>
    cases h
    refine ⟨?_, rfl⟩
    intro w hw
    rw [workerOf?, List.findIdx?_isSome, List.any_eq_true] at hnone
    exact fun heq => hnone ⟨w, hw, by simpa using heq⟩

/-- A worker gets a user with the next correlation id. -/
theorem join?_cases {worker : Nat} {identifier : String}
    (h : s.join? worker identifier = some s') :
    ∃ w, s.workers[worker]? = some w ∧
      s' = { s.setTable worker { w.table with lastUid := w.table.lastUid + 1 } with
        users := s.users ++ [⟨worker, ⟨identifier, w.table.lastUid + 1⟩⟩] } := by
  obtain ⟨w, hw, h⟩ := Option.bind_eq_some_iff.1 h
  cases h
  exact ⟨w, hw, rfl⟩

/-- A user begins a call. -/
theorem begin?_cases {user : Nat} {method : Method} (h : s.begin? user method = some s') :
    s' = { s with calls := s.calls ++
      [{ user := user, method := method, began := s.now, attempted := s.now }] } := by
  obtain ⟨u, hu, h⟩ := Option.bind_eq_some_iff.1 h
  cases h
  rfl

/-- At the end of a run the coordinator and the folder of its snapshots change, and nothing
else. -/
theorem testStop?_cases {a : Persistence.Attempt} (h : (s.testStop? a).map (·.2) = some s') :
    ∃ c folder, s' = s.setCoordinator c folder := by
  obtain ⟨x, hx, rfl⟩ := Option.map_eq_some_iff.1 h
  obtain ⟨c, -, hx⟩ := Option.bind_eq_some_iff.1 hx
  cases hx
  exact ⟨_, _, rfl⟩

theorem stop?_cases {a : Persistence.Attempt} (h : (s.stop? a).map (·.2) = some s') :
    ∃ c folder, s' = s.setCoordinator c folder := by
  obtain ⟨x, hx, rfl⟩ := Option.map_eq_some_iff.1 h
  obtain ⟨c, -, hx⟩ := Option.bind_eq_some_iff.1 hx
  cases hx
  exact ⟨_, _, rfl⟩

end State

end Cluster

end LoadTest
