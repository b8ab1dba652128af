import LoadTest.Proofs.Cluster.Users
/-!
# Consumers do not get each other's replies

A call is only ever resolved by a reply that was computed for a request of its own consumer,
however late replies come and whatever calls are given up. A call that is refused because
its correlation id is taken sends nothing and leaves the call that waits alone.
-/

namespace LoadTest

/-! ## Calls that are refused -/

namespace Method

/-- No reply can be read as a taken correlation id. -/
theorem read_ne_duplicate (m : Method) (reply : Json) (uid : UInt64) :
    m.read reply ≠ .error (.duplicateCorrelation uid) := by
  intro h
  unfold read at h
  split at h
  · unfold readTestdata at h
    split at h
    · cases h
    · split at h <;> cases h
  · unfold readKeystore at h
    split at h
    · cases h
    · split at h <;> cases h

private theorem emptyPop_ne_duplicate (key : String) (wait : Option Duration) (elapsed : Duration)
    (uid : UInt64) : emptyPop key wait elapsed ≠ .finish (.error (.duplicateCorrelation uid)) := by
  intro h
  cases wait with
  | none => cases h
  | some limit =>
    rw [emptyPop] at h
    split at h <;> cases h

/-- A call fails because its correlation id is taken only if its last attempt did. -/
theorem next_duplicate {m : Method} {isFirst : Bool} {elapsed : Duration}
    {r : Except Error Reading} {uid : UInt64}
    (h : m.next isFirst elapsed r = .finish (.error (.duplicateCorrelation uid))) :
    r = .error (.duplicateCorrelation uid) := by
  cases m with
  | pop key wait =>
    rcases r with e | ⟨p⟩ | v
    · rw [next, nextPop] at h
      split at h
      · exact absurd h (emptyPop_ne_duplicate key wait elapsed uid)
      · cases h
        rfl
    · cases h
    · rw [next, nextPop] at h
      split at h
      · exact absurd h (emptyPop_ne_duplicate key wait elapsed uid)
      · cases h
  | inc key step =>
    rcases r with e | ⟨p⟩ | v
    · cases h
      rfl
    · cases h
    · simp only [next, Except.bind, answer] at h
      split at h <;> cases h
  | _ =>
    rcases r with e | ⟨p⟩ | v
    · cases h
      rfl
    · cases h
    · cases h

end Method

namespace Cluster

/-- A call is refused because its correlation id is taken. -/
def Call.IsRefused (c : Call) (uid : UInt64) : Prop :=
  c.phase = .finished (.error (.duplicateCorrelation uid))

private theorem isRefused_after {c : Call} {now : Nat} {w : Worker} {reply : Except Error Json}
    {uid : UInt64} (h : (c.after now w reply).IsRefused uid) :
    reply = .error (.duplicateCorrelation uid) := by
  rw [Call.IsRefused, Call.after] at h
  split at h
  · next result hnext =>
    cases h
    have hout := Method.next_duplicate hnext
    cases reply with
    | error e =>
      cases hout
      rfl
    | ok v => exact absurd hout (c.method.read_ne_duplicate v uid)
  · cases h

/-- A call that is refused changes neither the inboxes nor the registered calls nor any other
call: there is a call under the same correlation id that is registered before and after. -/
theorem refused_cases {s s' : State} (hs : ∀ script, s.service ≠ .script script)
    {outside : Outside} {a : Action} (h : s.step? outside a = some s') (ok : Honest s a) {k : Nat}
    {c' : Call} {uid : UInt64} (hc' : s'.calls[k]? = some c') (hrefused : c'.IsRefused uid)
    (hnew : s.calls[k]? ≠ some c') :
    a = .attempt k ∧ (∀ n, s.sends? n k = none) ∧ s'.hub = s.hub ∧
      s'.view.entries = s.view.entries ∧ (∀ j, j ≠ k → s'.calls[j]? = s.calls[j]?) ∧
      ∃ c u, s.calls[k]? = some c ∧ c.phase = .ready ∧ s.users[c.user]? = some u ∧
        u.consumer.uid = uid ∧ ∃ e ∈ s.view.entries u.worker, e.ticket.uid = uid := by
  cases a with
  | attempt call =>
    obtain ⟨c, u, w, hc, hready, hu, hw, hcases⟩ := State.attempt?_cases h
    rcases hcases with ⟨messages, -, -, -, -, rfl⟩ | ⟨e, he, hsends, hs'⟩
    · rcases getElem?_set_cases hc' with ⟨rfl, rfl⟩ | ⟨-, hold⟩
      · cases hrefused
      · exact absurd hold hnew
    · obtain ⟨events, hend⟩ := (s.setTable u.worker w.table.refused).endAttempt_eq call
        { c with attempted := s.now } u w (.error e)
      rw [hend] at hs'
      rw [hs'] at hc'
      rcases getElem?_set_cases hc' with ⟨rfl, rfl⟩ | ⟨-, hold⟩
      · have hdup := isRefused_after hrefused
        cases hdup
        rcases he with ⟨-, he⟩ | ⟨⟨e, hmem, huid⟩, he⟩ | ⟨-, he⟩
        · cases he
        · cases he
          have hentries : (s.setTable u.worker w.table.refused).view = s.view :=
            view_setTable_same hw rfl
          refine ⟨rfl, hsends, by rw [hs']; rfl, ?_, ?_, c, u, hc, hready, hu, rfl, e, ?_, huid⟩
          · rw [hs']
            exact congrArg (·.entries) hentries
          · intro j hj
            rw [hs']
            exact List.getElem?_set_ne (fun heq => hj heq.symm)
          · show e ∈ entriesOf s.workers u.worker
            rw [entriesOf_eq hw]
            exact hmem
        · cases he
      · exact absurd hold hnew
  | complete call =>
    obtain ⟨c, ticket, deadline, u, w, reply, -, -, -, -, hreply, hs'⟩ := State.complete?_cases h
    obtain ⟨events, hend⟩ := (s.setTable u.worker (w.table.remove ticket)).endAttempt_eq call c u w
      reply
    rw [hs', hend] at hc'
    rcases getElem?_set_cases hc' with ⟨rfl, rfl⟩ | ⟨-, hold⟩
    · have hdup := isRefused_after hrefused
      rcases Correlation.Table.outcome?_cases hreply with ⟨v, hok, -⟩ | ⟨hclosed, -⟩
      · rw [hok] at hdup
        cases hdup
      · rw [hclosed] at hdup
        cases hdup
    · exact absurd hold hnew
  | expire call =>
    obtain ⟨c, ticket, deadline, u, w, -, -, -, -, -, hs'⟩ := State.expire?_cases h
    obtain ⟨events, hend⟩ := (s.setTable u.worker (w.table.remove ticket)).endAttempt_eq call c u w
      (.error (.noDataReceived w.options.requestTimeout))
    rw [hs', hend] at hc'
    rcases getElem?_set_cases hc' with ⟨rfl, rfl⟩ | ⟨-, hold⟩
    · cases isRefused_after hrefused
    · exact absurd hold hnew
  | wake call =>
    obtain ⟨c, deadline, -, -, rfl⟩ := State.wake?_cases h
    rcases getElem?_set_cases hc' with ⟨rfl, rfl⟩ | ⟨-, hold⟩
    · cases hrefused
    · exact absurd hold hnew
  | cancel call =>
    obtain ⟨c, -, ⟨-, rfl⟩ | ⟨ticket, deadline, u, w, -, -, -, rfl⟩⟩ := State.cancel?_cases h
    · rcases getElem?_set_cases hc' with ⟨rfl, rfl⟩ | ⟨-, hold⟩
      · cases hrefused
      · exact absurd hold hnew
    · rcases getElem?_set_cases hc' with ⟨rfl, rfl⟩ | ⟨-, hold⟩
      · cases hrefused
      · exact absurd hold hnew
  | begin user method =>
    cases State.begin?_cases h
    rcases Nat.lt_or_ge k s.calls.length with hk | hk
    · exact absurd ((List.getElem?_append_left hk).symm.trans hc') hnew
    · have hc' : (s.calls ++ [_])[k]? = some c' := hc'
      rw [List.getElem?_append_right hk] at hc'
      rw [List.mem_singleton.1 (List.mem_of_getElem? hc')] at hrefused
      cases hrefused
  | serve position =>
    obtain ⟨c, m, -, -, rfl⟩ := s.serve?_cases hs h
    rw [(State.serveMessage_frame _ c outside m).calls] at hc'
    exact absurd hc' hnew
  | perform =>
    cases hservice : s.service with
    | script script => exact absurd hservice (hs script)
    | _ => simp [State.step?, State.perform?, hservice] at h
  | receive worker position =>
    obtain ⟨w, m, -, -, -, rfl⟩ := State.receive?_cases h
    exact absurd hc' hnew
  | endReplies worker =>
    obtain ⟨w, -, -, rfl⟩ := State.endReplies?_cases h
    exact absurd hc' hnew
  | connect client options keepsEvents =>
    obtain ⟨-, rfl⟩ := State.connect?_cases h
    exact absurd hc' hnew
  | join worker identifier =>
    obtain ⟨w, -, rfl⟩ := State.join?_cases h
    exact absurd hc' hnew
  | inject worker topic data => exact absurd ok id
  | disconnect worker =>
    obtain ⟨w, -, h⟩ := Option.bind_eq_some_iff.1 h
    cases h
    exact absurd hc' hnew
  | dropWorker worker =>
    obtain ⟨w, -, h⟩ := Option.bind_eq_some_iff.1 h
    cases h
    exact absurd hc' hnew
  | testStop attempt =>
    obtain ⟨c, folder, rfl⟩ := State.testStop?_cases h
    exact absurd hc' hnew
  | stop attempt =>
    obtain ⟨c, folder, rfl⟩ := State.stop?_cases h
    exact absurd hc' hnew
  | _ =>
    cases h
    exact absurd hc' hnew

/-! ## Replies -/

/-- The answer that a call has got and has not taken yet. -/
def State.answer? (s : State) (call : Nat) : Option Json := do
  let c ← s.calls[call]?
  let (_, w) ← s.owner? c
  let ticket ← c.ticket?
  match w.table.outcome? ticket with
  | some (.ok v) => some v
  | _ => none

theorem State.answer?_cases {s : State} {call : Nat} {v : Json} (h : s.answer? call = some v) :
    ∃ c u w ticket, s.calls[call]? = some c ∧ s.users[c.user]? = some u ∧
      s.workers[u.worker]? = some w ∧ c.ticket? = some ticket ∧
      w.table.outcome? ticket = some (.ok v) := by
  obtain ⟨c, hc, h⟩ := Option.bind_eq_some_iff.1 h
  obtain ⟨⟨u, w⟩, howner, h⟩ := Option.bind_eq_some_iff.1 h
  obtain ⟨hu, hw⟩ := State.owner?_eq_some.1 howner
  obtain ⟨ticket, hticket, h⟩ := Option.bind_eq_some_iff.1 h
  refine ⟨c, u, w, ticket, hc, hu, hw, hticket, ?_⟩
  split at h
  · next v' hv =>
    cases h
    exact hv
  · cases h

theorem State.answer?_of_outcome {s : State} {call : Nat} {v : Json} {c : Call} {u : User}
    {w : Worker} {ticket : Correlation.Ticket} (hc : s.calls[call]? = some c)
    (hu : s.users[c.user]? = some u) (hw : s.workers[u.worker]? = some w)
    (hticket : c.ticket? = some ticket) (hv : w.table.outcome? ticket = some (.ok v)) :
    s.answer? call = some v := by
  have howner : s.owner? c = some (u, w) := State.owner?_eq_some.2 ⟨hu, hw⟩
  rw [answer?, hc]
  show (s.owner? c).bind _ = _
  rw [howner]
  show c.ticket?.bind _ = _
  rw [hticket]
  simp only [Option.bind_some, hv]

/-- The answer that a call gets is that of the reply that has resolved its request. -/
theorem Traffic.resolved {h : History} (ht : Traffic h) {call : Nat} {v : Json}
    (hv : h.state.answer? call = some v) :
    ∃ x ∈ h.trace.heard, ∃ a, x.resolves = some a ∧ a.call = call ∧ x.reply.response = v ∧
      h.state.view.waiting call = some a.ticket := by
  obtain ⟨c, u, w, ticket, hc, hu, hw, hticket, hout⟩ := State.answer?_cases hv
  obtain ⟨a, ha, hcall, hat, -, -, hworker, -⟩ := ht.attempt_of_waiting hc hticket hu
  rcases Correlation.Table.outcome?_cases hout with ⟨v', hok, hmem⟩ | ⟨hclosed, -⟩
  · cases hok
    have hentry : ⟨ticket, .answered v⟩ ∈ h.state.view.entries u.worker := by
      show _ ∈ entriesOf h.state.workers u.worker
      rw [entriesOf_eq hw]
      exact hmem
    obtain ⟨b, hb, hbw, hbt, -, x, hx, hres, hresponse⟩ :=
      ht.registered.entry u.worker _ hentry
    obtain rfl := ht.sound.eq_of_ticket hb ha (hbw.trans hworker.symm) (hbt.trans hat.symm)
    exact ⟨x, hx, b, hres, hcall, hresponse, (waitingOf_eq hc).trans (by rw [hticket, hat])⟩
  · cases hclosed

/-- A reply resolves only requests of the consumer that it was made for. -/
theorem Trace.Sound.sameConsumer {t : Trace} (h : t.Sound) {x : Heard} (hx : x ∈ t.heard)
    {a : Attempt} (ha : x.resolves = some a) : x.reply.attempt.SameConsumer a := by
  have hfirst := (h.resolves x hx a ha).2
  unfold Trace.firstReply? at hfirst
  simpa using List.find?_some hfirst

/-- Two requests of one consumer come from one user. -/
theorem Traffic.user_of_sameConsumer {h : History} (ht : Traffic h) (hn : Numbered h.state)
    (hfew : h.state.Unwrapped) {a b : Attempt} (ha : a ∈ h.trace.sent) (hb : b ∈ h.trace.sent)
    (hab : a.SameConsumer b) : a.user = b.user :=
  hn.user_unique hfew (ht.genuine a ha).user (ht.genuine b hb).user hab.1 hab.2

/-- What is made of a request is made by the coordinator. -/
theorem Trace.served_record {t : Trace} {outside : Outside} {s : State} {a : Action} {r : Reply}
    (hr : r ∈ (t.record outside s a).served) :
    r ∈ t.served ∨ ∃ c d, s.service = .coordinator c ∧
      (c.dispatch r.outside r.attempt.request).1 = .ok d ∧ r.response = d.response := by
  cases a with
  | serve position =>
    simp only [record, serve] at hr
    split at hr
    · next a c ha hservice =>
      split at hr
      · exact .inl hr
      · next d hd =>
        have hmem : r ∈ t.served ++ [⟨a, outside, d.response⟩] := by
          revert hr
          split <;> exact id
        rcases List.mem_append.1 hmem with hold | hnew
        · exact .inl hold
        · rw [List.mem_singleton.1 hnew]
          exact .inr ⟨c, d, hservice, hd, rfl⟩
    · exact .inl hr
  | receive worker position =>
    simp only [record, hear] at hr
    split at hr
    · exact .inl hr
    · split at hr <;> exact .inl hr
  | attempt call =>
    simp only [record] at hr
    split at hr <;> exact .inl hr
  | endReplies worker =>
    simp only [record, loseAll] at hr
    split at hr <;> exact .inl hr
  | dropWorker worker =>
    simp only [record] at hr
    split at hr <;> exact .inl hr
  | _ => exact .inl hr

/-- Every reply was made by the coordinator, out of the request that it is a reply to. -/
theorem Run.computed {allowed : State → Action → Prop} {c : Coordinator} {h : History}
    (run : Run allowed (History.start c) h) :
    ∀ r ∈ h.trace.served, ∃ before d, (Coordinator.dispatch before r.outside r.attempt.request).1 =
      .ok d ∧ r.response = d.response := by
  induction run with
  | nil =>
    intro r hr
    cases hr
  | snoc run ok hs ih =>
    intro r hr
    rw [(History.step?_eq_some.1 hs).2] at hr
    rcases Trace.served_record hr with hold | ⟨before, d, -, hd, hresponse⟩
    · exact ih r hold
    · exact ⟨before, d, hd, hresponse⟩

/-- The consumers of a cluster are kept apart. -/
structure Isolated (h : History) : Prop where
  /-- Every request was sent by a call of its user. -/
  genuine : ∀ a ∈ h.trace.sent, Genuine h.state a
  /-- Every reply was made by the coordinator for one request, which it took once. -/
  computed : ∀ r ∈ h.trace.served, r.attempt ∈ h.trace.sent ∧ ∃ before d,
    (Coordinator.dispatch before r.outside r.attempt.request).1 = .ok d ∧ r.response = d.response
  once : (h.trace.served.map (·.attempt)).Nodup
  /-- Whatever answer a call gets, it comes from a reply that has resolved the call. -/
  answers : ∀ call v, h.state.answer? call = some v → ∃ x ∈ h.trace.heard, ∃ a,
    x.resolves = some a ∧ a.call = call ∧ x.reply.response = v
  /-- A reply resolves only calls of the consumer whose request it was made for. -/
  owners : ∀ x ∈ h.trace.heard, ∀ a, x.resolves = some a → a ∈ h.trace.sent ∧
    x.reply ∈ h.trace.served ∧ x.reply.attempt.SameConsumer a ∧
    (h.state.Unwrapped → x.reply.attempt.user = a.user)
  /-- No reply is read twice, so none resolves two calls. -/
  single : (h.trace.heard.map (·.reply.attempt)).Nodup
  /-- A call that is refused sends nothing and leaves alone the call that waits under its
  correlation id. -/
  refusals : ∀ outside a next k c uid, Honest h.state a → h.step? outside a = some next →
    next.state.calls[k]? = some c → c.IsRefused uid → h.state.calls[k]? ≠ some c →
      next.trace = h.trace ∧ next.state.hub = h.state.hub ∧
      next.state.view.entries = h.state.view.entries ∧
      (∀ j, j ≠ k → next.state.calls[j]? = h.state.calls[j]?) ∧
      ∃ b ∈ h.trace.sent, b.call ≠ k ∧ b.consumer.uid = uid ∧
        h.state.view.waiting b.call = some b.ticket ∧
        (h.state.Unwrapped → b.user = c.user)

/-- In every run of workers and users that send nothing but the requests of their calls,
consumers are kept apart: whatever is delayed, given up or dropped. -/
theorem Run.isolated {c : Coordinator} {h : History} (run : Run Honest (History.start c) h) :
    Isolated h := by
  have ht := run.traffic
  have hn := run.numbered
  refine ⟨ht.genuine, ?_, ?_, ?_, ?_, ?_, ?_⟩
  · intro r hr
    exact ⟨ht.sound.mem_sent hr, run.computed r hr⟩
  · exact (List.nodup_append'.1 ht.sound.once).2.1
  · intro call v hv
    obtain ⟨x, hx, a, hres, hcall, hresponse, -⟩ := ht.resolved hv
    exact ⟨x, hx, a, hres, hcall, hresponse⟩
  · intro x hx a ha
    have hsent := (ht.sound.resolves x hx a ha).1
    have hserved := ht.sound.heard x hx
    have hsame := ht.sound.sameConsumer hx ha
    exact ⟨hsent, hserved, hsame,
      fun hfew => ht.user_of_sameConsumer hn hfew (ht.sound.mem_sent hserved) hsent hsame⟩
  · have hsingle := ht.sound.single ""
    rw [List.map_append, List.nodup_append', List.map_map] at hsingle
    exact hsingle.2.1
  · intro outside a next k c' uid ok hs hc' hrefused hnew
    obtain ⟨hstep, htrace⟩ := History.step?_eq_some.1 hs
    obtain ⟨rfl, hsends, hhub, hentries, hcalls, c, u, hc, hready, hu, huid, e, hmem, he⟩ :=
      refused_cases ht.noScript hstep ok hc' hrefused hnew
    rw [Trace.record, hsends] at htrace
    obtain ⟨b, hb, hbw, hbt, hwait, -⟩ := ht.registered.entry u.worker e hmem
    have hbu : b.consumer.uid = uid := by rw [← (ht.genuine b hb).uid, hbt, he]
    refine ⟨htrace, hhub, hentries, hcalls, b, hb, ?_, hbu, hwait, ?_⟩
    · intro hcall
      have hidle : h.state.view.waiting k = none :=
        (waitingOf_eq hc).trans (by rw [Call.ticket?, hready])
      rw [hcall, hidle] at hwait
      cases hwait
    · intro hfew
      have hk := step?_keeps hstep id
      obtain ⟨c₂, hc₂, huser, -⟩ := hk.calls hc
      rw [hc'] at hc₂
      obtain rfl := Option.some.inj hc₂
      rw [huser]
      exact hn.user_unique hfew (ht.genuine b hb).user hu hbw (hbu.trans huid.symm)

/-- The users of two workers call, and one of them calls again before its reply has come. -/
def crossing : List (Outside × Action) :=
  [.connect "v" {} true, .connect "w" {} true, .join 0 "A", .join 1 "B",
    .begin 0 (.inc "n" 1), .begin 1 (.inc "n" 1), .attempt 1, .attempt 0, .begin 0 (.get "n"),
    .attempt 2, .serve 1, .serve 0, .receive 0 0, .receive 1 0].map (still, ·)

/-- Both users get the replies to their own requests, which have the same correlation id. -/
theorem crossing_isolated :
    ∃ h, (History.start {}).run? Honest crossing = some h ∧
      ((h.state.answer? 0).bind (·.member? "data")).map Json.compact = some "1" ∧
      ((h.state.answer? 1).bind (·.member? "data")).map Json.compact = some "2" ∧ Isolated h := by
  obtain ⟨h, hh⟩ : ∃ h, (History.start {}).run? Honest crossing = some h :=
    Option.isSome_iff_exists.1 (by decide +kernel)
  have hanswers : ((History.start {}).run? Honest crossing).map (fun h => [0, 1].map fun call =>
      ((h.state.answer? call).bind (·.member? "data")).map Json.compact) =
        some [some "1", some "2"] := by
    decide +kernel
  rw [hh] at hanswers
  simp only [Option.map_some, List.map_cons, List.map_nil, Option.some.injEq, List.cons.injEq,
    and_true] at hanswers
  exact ⟨h, hh, hanswers.1, hanswers.2, Run.isolated (Run.nil.of_run? hh)⟩

end Cluster

end LoadTest
