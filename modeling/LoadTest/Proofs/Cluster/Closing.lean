import LoadTest.Proofs.Cluster.Tables
/-!
# The end of a reply channel

A worker closes its table once its replies have ended. From then on no call of the worker
waits: those that wait have an outcome, and new attempts fail without being sent. A worker
that is dropped before has no one left to close its table. Its users go on sending, and
their calls wait until their time is up.
-/

namespace LoadTest.Cluster

open Transport Correlation

/-! ## Failed attempts -/

/-- An attempt of a call has failed, and the call is over with the error. Only a pop that has
begun to poll goes on, as after any empty poll. -/
def Call.FailsWith (c : Call) (error : Error) (phase : Phase) : Prop :=
  phase = .finished (.error error) ∨
    c.isFirst = false ∧ ∃ key wait, c.method = .pop key wait ∧
      ((∃ deadline, phase = .sleeping deadline) ∨
        ∃ limit, wait = some limit ∧ phase = .finished (.error (.popTimeout key limit)))

theorem Call.failsWith_after (c : Call) (now : Nat) (w : Worker) (error : Error) :
    c.FailsWith error (c.after now w (.error error)).phase := by
  have houtcome : c.method.outcome (.error error) = .error error := rfl
  rw [after, houtcome]
  rcases c.method.next_error_cases c.isFirst (.ofNanos (now - c.began)) error with
    hfinish | ⟨hfirst, key, wait, hpop, hnext⟩
  · rw [hfinish]
    exact .inl rfl
  · rw [hnext]
    refine .inr ⟨hfirst, key, wait, hpop, ?_⟩
    rcases Method.emptyPop_cases key wait (.ofNanos (now - c.began)) with
      hagain | ⟨limit, hlimit, hfinish⟩
    · rw [hagain]
      exact .inl ⟨_, rfl⟩
    · rw [hfinish]
      exact .inr ⟨limit, hlimit, rfl⟩

namespace State

variable {s : State} {call : Nat} {c : Call} {u : User} {w : Worker} {ticket : Ticket}
  {deadline : Nat}

/-! ## Calls that wait -/

theorem complete?_eq (hc : s.calls[call]? = some c) (hp : c.phase = .waiting ticket deadline)
    (hu : s.users[c.user]? = some u) (hw : s.workers[u.worker]? = some w) :
    s.complete? call = (w.table.outcome? ticket).map fun reply =>
      (s.setTable u.worker (w.table.remove ticket)).endAttempt call c u w reply := by
  have howner : s.owner? c = some (u, w) := owner?_eq_some.2 ⟨hu, hw⟩
  simp only [complete?, hc, Option.bind_eq_bind, Option.bind_some, hp, howner]
  cases w.table.outcome? ticket <;> rfl

theorem expire?_eq (hc : s.calls[call]? = some c) (hp : c.phase = .waiting ticket deadline)
    (hu : s.users[c.user]? = some u) (hw : s.workers[u.worker]? = some w) :
    s.expire? call = if deadline ≤ s.now ∧ w.table.outcome? ticket = none then
      some ((s.setTable u.worker (w.table.remove ticket)).endAttempt call c u w
        (.error (.noDataReceived w.options.requestTimeout))) else none := by
  have howner : s.owner? c = some (u, w) := owner?_eq_some.2 ⟨hu, hw⟩
  simp only [expire?, hc, Option.bind_eq_bind, Option.bind_some, hp, howner, Bool.and_eq_true,
    decide_eq_true_eq, Option.isNone_iff_eq_none]
  rfl

theorem wake?_eq (hc : s.calls[call]? = some c) (hp : c.phase = .sleeping deadline) :
    s.wake? call =
      if deadline ≤ s.now then some (s.setCall call { c with phase := .ready }) else none := by
  simp only [wake?, hc, Option.bind_eq_bind, Option.bind_some, hp]
  rfl

/-- An attempt in a table that refuses it. -/
theorem attempt?_of_refused {error : Error} (hc : s.calls[call]? = some c)
    (hp : c.phase = .ready) (hu : s.users[c.user]? = some u)
    (hw : s.workers[u.worker]? = some w)
    (hr : w.table.register u.consumer.uid = (.error error, w.table.refused)) :
    s.attempt? call = some ((s.setTable u.worker w.table.refused).endAttempt call
      { c with attempted := s.now } u w (.error error)) := by
  have howner : s.owner? c = some (u, w) := owner?_eq_some.2 ⟨hu, hw⟩
  simp only [attempt?, hc, Option.bind_eq_bind, Option.bind_some, hp, howner, hr]
  rfl

/-- An attempt that registers while the coordinator takes messages. -/
theorem attempt?_of_registered {messages : List Message} (hc : s.calls[call]? = some c)
    (hp : c.phase = .ready) (hu : s.users[c.user]? = some u)
    (hw : s.workers[u.worker]? = some w)
    (hr : w.table.register u.consumer.uid =
      (.ok ⟨u.consumer.uid, w.table.nextToken⟩, w.table.registered u.consumer.uid))
    (hcoord : s.hub.coordinator = some messages) :
    s.attempt? call = some ((State.setTable { s with hub := { s.hub with
        coordinator := some (messages ++ [Hub.stamp w.client (requestMessage c u w)]) } }
        u.worker (w.table.registered u.consumer.uid)).setCall call { c with
      attempted := s.now
      phase := .waiting ⟨u.consumer.uid, w.table.nextToken⟩
        (s.now + w.options.requestTimeout.toNanos) }) := by
  have howner : s.owner? c = some (u, w) := owner?_eq_some.2 ⟨hu, hw⟩
  simp only [attempt?, hc, Option.bind_eq_bind, Option.bind_some, hp, howner, hr, Hub.workerSend,
    hcoord, Inbox.push?, Option.map_some]
  rfl

end State

/-! ## Workers whose replies have ended -/

/-- A call of a worker, by its number. -/
structure State.Has (s : State) (worker call : Nat) (c : Call) (u : User) : Prop where
  call : s.calls[call]? = some c
  user : s.users[c.user]? = some u
  worker : u.worker = worker

/-- No call of a worker waits for its time to be up. One that has sent its request has its
reply or fails at once, and one that has not fails without sending it. -/
structure FailsAtOnce (s : State) (worker : Nat) (w : Worker) : Prop where
  closed : w.table.isClosed = true
  pending : ∀ {call c u ticket deadline}, s.Has worker call c u →
    c.phase = .waiting ticket deadline → s.expire? call = none ∧
      ∃ reply s' c', w.table.outcome? ticket = some reply ∧ s.complete? call = some s' ∧
        s'.hub = s.hub ∧ s'.calls[call]? = some c' ∧ ((∃ v, reply = .ok v) ∨
          reply = .error .closedBeforeResponse ∧ c.FailsWith .closedBeforeResponse c'.phase)
  rejected : ∀ {call c u}, s.Has worker call c u → c.phase = .ready →
    ∃ s' c', s.attempt? call = some s' ∧ s'.hub = s.hub ∧ s'.calls[call]? = some c' ∧
      c.FailsWith .replyChannelClosed c'.phase

/-- No one reads the replies of a worker and no one closes its table. A call without an
outcome can do nothing until its time is up, and requests are sent as before. -/
structure WaitsInVain (s : State) (worker : Nat) (w : Worker) : Prop where
  deaf : w.isReading = false
  opened : w.table.isClosed = false
  pending : ∀ {call c u ticket deadline}, s.Has worker call c u →
    c.phase = .waiting ticket deadline → w.table.outcome? ticket = none →
      s.complete? call = none ∧ ((s.expire? call).isSome = true ↔ deadline ≤ s.now)
  sent : ∀ {call c u messages}, s.Has worker call c u → c.phase = .ready →
    (∀ e ∈ w.table.entries, e.ticket.uid ≠ u.consumer.uid) →
      s.hub.coordinator = some messages →
        ∃ s' c' ticket, s.attempt? call = some s' ∧
          s'.hub.coordinator =
            some (messages ++ [Hub.stamp w.client (State.requestMessage c u w)]) ∧
          s'.calls[call]? = some c' ∧
          c'.phase = .waiting ticket (s.now + w.options.requestTimeout.toNanos)

section

variable {s : State} {worker : Nat} {w : Worker}

theorem getElem?_endAttempt {call : Nat} {c : Call} (hc : s.calls[call]? = some c)
    (t : Table) (c' : Call) (u : User) (reply : Except Error Json) :
    ((s.setTable worker t).endAttempt call c' u w reply).calls[call]? =
      some (c'.after s.now w reply) := by
  have hlt : call < s.calls.length := (List.getElem?_eq_some_iff.1 hc).1
  rw [State.calls_endAttempt]
  exact List.getElem?_set_self hlt

/-- Where the table is closed no call waits. -/
theorem FailsAtOnce.of_closed {tale : Tale} (h : tale.Holds s) (hw : s.workers[worker]? = some w)
    (hclosed : w.table.isClosed = true) : FailsAtOnce s worker w where
  closed := hclosed
  pending {call c u ticket deadline} hhas hp := by
    obtain ⟨hc, hu, rfl⟩ := hhas
    obtain ⟨reply, hreply⟩ :=
      (h.run (State.table?_eq hw)).exists_outcome hclosed (h.live_of_waiting hc hp hu)
    have hexpire : s.expire? call = none := by
      rw [State.expire?_eq hc hp hu hw, if_neg]
      rintro ⟨-, hnone⟩
      rw [hreply] at hnone
      cases hnone
    have hcomplete : s.complete? call =
        some ((s.setTable u.worker (w.table.remove ticket)).endAttempt call c u w reply) := by
      rw [State.complete?_eq hc hp hu hw, hreply, Option.map_some]
    refine ⟨hexpire, reply, _, _, hreply, hcomplete, State.hub_endAttempt ..,
      getElem?_endAttempt hc _ c u reply, ?_⟩
    rcases Table.outcome?_cases hreply with ⟨v, hv, -⟩ | ⟨herror, -⟩
    · exact .inl ⟨v, hv⟩
    · refine .inr ⟨herror, ?_⟩
      rw [herror]
      exact c.failsWith_after s.now w _
  rejected {call c u} hhas hp := by
    obtain ⟨hc, hu, rfl⟩ := hhas
    have hr := Table.register_of_closed hclosed u.consumer.uid
    exact ⟨_, _, State.attempt?_of_refused hc hp hu hw hr, State.hub_endAttempt ..,
      getElem?_endAttempt hc _ { c with attempted := s.now } u _,
      Call.failsWith_after { c with attempted := s.now } s.now w _⟩

/-- Where a worker does not read and its table is open, calls wait. -/
theorem WaitsInVain.of_open (hw : s.workers[worker]? = some w) (hdeaf : w.isReading = false)
    (hopen : w.table.isClosed = false) : WaitsInVain s worker w where
  deaf := hdeaf
  opened := hopen
  pending {call c u ticket deadline} hhas hp hnone := by
    obtain ⟨hc, hu, rfl⟩ := hhas
    rw [State.complete?_eq hc hp hu hw, State.expire?_eq hc hp hu hw, hnone]
    refine ⟨rfl, ?_⟩
    by_cases hdue : deadline ≤ s.now
    · simp [hdue]
    · simp [hdue]
  sent {call c u messages} hhas hp hfree hcoord := by
    obtain ⟨hc, hu, rfl⟩ := hhas
    have hr := Table.register_of_free hopen hfree
    have hlt : call < s.calls.length := (List.getElem?_eq_some_iff.1 hc).1
    exact ⟨_, _, _, State.attempt?_of_registered hc hp hu hw hr hcoord, rfl,
      List.getElem?_set_self hlt, rfl⟩

end

/-- The outcomes that a table tells now it has told before. -/
def TellsNothingNew (t t' : Table) : Prop :=
  ∀ {ticket reply}, t'.outcome? ticket = some reply → t.outcome? ticket = some reply

namespace State

variable {s : State} {worker : Nat} {w : Worker}

/-- What becomes of the table of a worker. -/
theorem Reaches.later {s' : State} (h : s.Reaches s') {tale : Tale} (htale : tale.Holds s)
    (hw : s.workers[worker]? = some w) :
    ∃ w' more, s'.workers[worker]? = some w' ∧ (∃ tale' : Tale, tale'.Holds s') ∧
      Correlation.Run (tale worker ++ more) w'.table ∧
      (w.isReading = false → w'.isReading = false ∧ ∀ e ∈ more, e.IsSilent) := by
  obtain ⟨tale', htale', hcontinues⟩ := h.continues htale
  obtain ⟨w', hw', -⟩ := h.grows.workers hw
  obtain ⟨more, hmore, hsilent⟩ := hcontinues.more worker
  have hrun : Correlation.Run (tale' worker) w'.table := htale'.run (table?_eq hw')
  rw [hmore] at hrun
  refine ⟨w', more, hw', ⟨tale', htale'⟩, hrun, fun hdeaf => ?_⟩
  have hreads : s.reads? worker = some false := by rw [reads?_eq hw, hdeaf]
  have hreads' := hcontinues.deaf hreads
  rw [reads?_eq hw'] at hreads'
  exact ⟨Option.some.inj hreads', hsilent hreads⟩

/-- A worker whose replies have ended can close its table, which decides about the calls that
have no outcome. -/
theorem exists_endReplies {tale : Tale} (htale : tale.Holds s) (hw : s.workers[worker]? = some w)
    (hreading : w.isReading = true) (hended : s.hub.hasEnded w.client = true)
    (hopen : w.table.isClosed = false) :
    ∃ s', s.endReplies? worker = some s' ∧
      FailsAtOnce s' worker { w with table := w.table.close } ∧
      ∀ {call c u ticket deadline}, s.Has worker call c u →
        c.phase = .waiting ticket deadline → w.table.outcome? ticket = none →
          w.table.close.outcome? ticket = some (.error .closedBeforeResponse) := by
  have hstep : s.endReplies? worker = some (s.setTable worker w.table.close) := by
    simp only [endReplies?, hw, Option.bind_eq_bind, Option.bind_some, hreading, hended, hopen]
    rfl
  have hw' : (s.setTable worker w.table.close).workers[worker]? =
      some { w with table := w.table.close } := by
    simp [setTable, hw]
  have hnext : s.step? still (.endReplies worker) = some (s.setTable worker w.table.close) := hstep
  obtain ⟨tale', htale', -⟩ := htale.step hnext
  refine ⟨_, hstep, .of_closed htale' hw' rfl, ?_⟩
  rintro call c u ticket deadline ⟨hc, hu, rfl⟩ hp hnone
  exact (htale.run (table?_eq hw)).outcome?_close (htale.live_of_waiting hc hp hu) hnone

/-- Once the replies of a worker have ended and the worker has closed its table, no call of
the worker waits for its time to be up, now or later, and a call that had no outcome when the
table was closed fails. A worker that was dropped before never closes its table, and from
then on its calls wait in vain. -/
theorem Reaches.replies_ended {service : Service} (run : Reaches { service := service } s)
    (hw : s.workers[worker]? = some w) :
    (w.isReading = true → s.hub.hasEnded w.client = true → w.table.isClosed = false →
      ∃ s', s.endReplies? worker = some s' ∧
        FailsAtOnce s' worker { w with table := w.table.close } ∧
        ∀ {call c u ticket deadline}, s.Has worker call c u →
          c.phase = .waiting ticket deadline → w.table.outcome? ticket = none →
            w.table.close.outcome? ticket = some (.error .closedBeforeResponse)) ∧
    (w.table.isClosed = true → ∀ s', s.Reaches s' → ∃ w', s'.workers[worker]? = some w' ∧
      FailsAtOnce s' worker w' ∧ TellsNothingNew w.table w'.table) ∧
    (w.isReading = false → w.table.isClosed = false → ∀ s', s.Reaches s' →
      ∃ w', s'.workers[worker]? = some w' ∧
        WaitsInVain s' worker w' ∧ TellsNothingNew w.table w'.table) := by
  obtain ⟨tale, htale⟩ := run.exists_tale
  have htable := htale.run (table?_eq hw)
  refine ⟨exists_endReplies htale hw, ?closed, ?dropped⟩
  case closed =>
    intro hclosed s' hs'
    obtain ⟨w', more, hw', ⟨tale', htale'⟩, hrun, -⟩ := hs'.later htale hw
    have hclosed' : w'.table.isClosed = true :=
      hrun.kept.isClosed.2 (List.mem_append_left _ (htable.kept.isClosed.1 hclosed))
    exact ⟨w', hw', .of_closed htale' hw' hclosed', htable.outcome?_of_append hrun (.inl hclosed)⟩
  case dropped =>
    intro hdeaf hopen s' hs'
    obtain ⟨w', more, hw', -, hrun, hdeaf'⟩ := hs'.later htale hw
    obtain ⟨hreading, hsilent⟩ := hdeaf' hdeaf
    have hopen' : w'.table.isClosed = false := by
      by_contra hclosed
      rw [htable.isClosed_of_append hrun hsilent (by simpa using hclosed)] at hopen
      cases hopen
    exact ⟨w', hw', .of_open hw' hreading hopen', htable.outcome?_of_append hrun (.inr hsilent)⟩

end State

/-- A worker is dropped, and its user makes a call all the same. -/
def abandoned : List Action :=
  [.connect "w" {} true, .join 0 "A", .begin 0 (.get "k"), .dropWorker 0, .attempt 0]

/-- The call of a dropped worker waits in vain. -/
theorem abandoned_in_vain : ∃ s w, State.run? still { service := .coordinator {} } abandoned =
    some s ∧ s.workers[0]? = some w ∧ WaitsInVain s 0 w := by
  obtain ⟨s, hs⟩ : ∃ s, State.run? still { service := .coordinator {} } abandoned = some s :=
    Option.isSome_iff_exists.1 (by decide +kernel)
  have hfacts : (State.run? still { service := .coordinator {} } abandoned).bind (fun s =>
      s.workers[0]?.map fun w => (w.isReading, w.table.isClosed)) = some (false, false) := by
    decide +kernel
  rw [hs] at hfacts
  obtain ⟨w, hw, hflags⟩ := Option.map_eq_some_iff.1 hfacts
  obtain ⟨hdeaf, hopen⟩ := Prod.mk.inj hflags
  obtain ⟨w', hw', hvain, -⟩ :=
    (State.Reaches.replies_ended (.of_run? hs) hw).2.2 hdeaf hopen s .refl
  exact ⟨s, w', hs, hw', hvain⟩

/-- A call that is made after its worker was dropped is sent, and fails when its time is up. -/
theorem abandoned_expires : ∃ s, State.run? still { service := .coordinator {} }
      (abandoned ++ [.pass 10000000000, .expire 0]) = some s ∧
    (∃ w, s.workers[0]? = some w ∧ w.isReading = false ∧ w.table.isClosed = false) ∧
    ∃ c, s.calls[0]? = some c ∧ c.phase = .finished (.error (.noDataReceived ⟨10, 0⟩)) :=
  ⟨_, rfl, ⟨_, rfl, rfl, rfl⟩, _, rfl, rfl⟩

end LoadTest.Cluster
