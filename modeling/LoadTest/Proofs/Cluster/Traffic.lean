import LoadTest.Proofs.Cluster.Registered
/-!
# What is known of the traffic

Every message in flight and every registered call belongs to a request that a call has sent,
after any number of steps.
-/

namespace LoadTest.Cluster

open Transport

/-- The messages in the inboxes are those of the requests and replies on their way. -/
structure Mail (v : View) (t : Trace) : Prop where
  requests : v.requests = t.requests.map Attempt.message
  replies : ∀ client, v.replies client = (t.replies client).map Reply.message

/-- What is known of the traffic of a cluster. -/
structure Traffic (h : History) : Prop where
  noScript : ∀ script, h.state.service ≠ .script script
  clients : (h.state.workers.map (·.client)).Nodup
  genuine : ∀ a ∈ h.trace.sent, Genuine h.state a
  sound : h.trace.Sound
  mail : Mail h.state.view h.trace
  registered : Registered h.state.view h.trace

namespace Traffic

variable {h h' : History}

theorem start (c : Coordinator) : Traffic (History.start c) where
  noScript := by
    intro script hs
    cases hs
  clients := List.nodup_nil
  genuine := by
    intro a ha
    cases ha
  sound := by
    refine ⟨List.nodup_nil, ?_, List.nodup_nil, ?_, ?_, fun _ => List.nodup_nil, ?_, ?_⟩
    · intro a ha
      cases ha
    · intro client r hr
      cases hr
    · intro x hx
      cases hx
    · intro a ha
      cases ha
    · intro x hx
      cases hx
  mail := ⟨rfl, fun _ => rfl⟩
  registered := by
    refine ⟨fun _ => List.nodup_nil, ?_, ?_, ?_⟩
    · intro i e he
      cases he
    · intro k ticket hk
      cases hk
    · intro a ha
      cases ha

/-- Two workers do not have the same client id. -/
theorem worker_unique (ht : Traffic h) {i j : Nat} {w w' : Worker}
    (hi : h.state.workers[i]? = some w) (hj : h.state.workers[j]? = some w')
    (hc : w.client = w'.client) : i = j := by
  have hmap : ∀ {k : Nat} {v : Worker}, h.state.workers[k]? = some v →
      (h.state.workers.map (·.client))[k]? = some v.client := by
    intro k v hk
    rw [List.getElem?_map, hk]
    rfl
  have hlt : i < (h.state.workers.map (·.client)).length :=
    (List.getElem?_eq_some_iff.1 (hmap hi)).1
  exact (List.getElem?_inj hlt ht.clients).1 ((hmap hi).trans (by rw [hc, hmap hj]))

/-- A reply in the inbox of a worker answers a request of that worker. -/
theorem worker_of_reply (ht : Traffic h) {i : Nat} {w : Worker}
    (hw : h.state.workers[i]? = some w) {r : Reply} (hr : r ∈ h.trace.replies w.client) :
    r.attempt.worker = i ∧ r.attempt ∈ h.trace.sent := by
  obtain ⟨hserved, hclient⟩ := ht.sound.delivered w.client r hr
  have hsent := ht.sound.mem_sent hserved
  obtain ⟨w', hw', hc', -⟩ := (ht.genuine _ hsent).worker
  exact ⟨ht.worker_unique hw' hw (hc'.trans hclient), hsent⟩

/-- A call that waits has sent a request under its ticket, for its user and its method. -/
theorem attempt_of_waiting (ht : Traffic h) {k : Nat} {c : Call} {ticket : Correlation.Ticket}
    {u : User} (hc : h.state.calls[k]? = some c) (hticket : c.ticket? = some ticket)
    (hu : h.state.users[c.user]? = some u) :
    ∃ a ∈ h.trace.sent, a.call = k ∧ a.ticket = ticket ∧ a.user = c.user ∧
      a.method = c.method ∧ a.worker = u.worker ∧ a.consumer = u.consumer ∧
      ∃ e ∈ h.state.view.entries a.worker, e.ticket = ticket := by
  obtain ⟨a, ha, hk, hat, hentry⟩ :=
    ht.registered.waiting k ticket ((waitingOf_eq hc).trans hticket)
  have hg := ht.genuine a ha
  obtain ⟨hu', hm'⟩ := hg.of_call (by rw [hk]; exact hc)
  have huser := hg.user
  rw [← hu', hu] at huser
  obtain rfl := Option.some.inj huser
  exact ⟨a, ha, hk, hat, hu'.symm, hm'.symm, rfl, rfl, hentry⟩

/-- All requests of a call come from one worker. -/
theorem worker_of_call (ht : Traffic h) {a b : Attempt} (ha : a ∈ h.trace.sent)
    (hb : b ∈ h.trace.sent) (hcall : b.call = a.call) : b.worker = a.worker := by
  obtain ⟨c, hc, hu, -⟩ := (ht.genuine a ha).call
  obtain ⟨hu', -⟩ := (ht.genuine b hb).of_call (by rw [hcall]; exact hc)
  have husera := (ht.genuine a ha).user
  have huserb := (ht.genuine b hb).user
  rw [← hu] at husera
  rw [← hu', husera] at huserb
  exact (congrArg (·.worker) (Option.some.inj huserb)).symm

/-! ## Steps -/

/-- Where neither the traffic nor the trace has changed, nothing has to be shown. -/
theorem quiet (ht : Traffic h) (hg : Grows h.state h'.state)
    (hservice : ∀ script, h'.state.service ≠ .script script)
    (hclients : (h'.state.workers.map (·.client)).Nodup) (hv : h'.state.view = h.state.view)
    (htrace : h'.trace = h.trace) : Traffic h' where
  noScript := hservice
  clients := hclients
  genuine a ha := (ht.genuine a (by rw [← htrace]; exact ha)).mono hg
  sound := by
    rw [htrace]
    exact ht.sound
  mail := by
    rw [hv, htrace]
    exact ht.mail
  registered := by
    rw [hv, htrace]
    exact ht.registered

theorem clients_of_keeps (ht : Traffic h) {s : State} (hk : Keeps h.state s) :
    (s.workers.map (·.client)).Nodup := by
  have hroster : ∀ s : State, s.workers.map (·.client) = s.roster.map (·.1) := by
    intro s
    rw [State.roster, List.map_map]
    rfl
  rw [hroster, hk.sameRoster, ← hroster]
  exact ht.clients

/-- Where no request was sent, only the trace and the view have to be looked at. -/
theorem carry (ht : Traffic h) (hk : Keeps h.state h'.state)
    (hservice : ∀ script, h'.state.service ≠ .script script)
    (hsent : h'.trace.sent = h.trace.sent) (hsound : h'.trace.Sound)
    (hmail : Mail h'.state.view h'.trace) (hregistered : Registered h'.state.view h'.trace) :
    Traffic h' where
  noScript := hservice
  clients := ht.clients_of_keeps hk
  genuine a ha := (ht.genuine a (by rw [← hsent]; exact ha)).mono hk.toGrows
  sound := hsound
  mail := hmail
  registered := hregistered

/-- A call no longer waits for the reply to its request. -/
theorem finish (ht : Traffic h) (hk : Keeps h.state h'.state)
    (hservice : h'.state.service = h.state.service) {a : Attempt} (ha : a ∈ h.trace.sent)
    (hcall : h.state.view.waiting a.call = some a.ticket)
    (hv : h'.state.view = { h.state.view with
      entries := Function.update h.state.view.entries a.worker
        ((h.state.view.entries a.worker).filter (·.ticket ≠ a.ticket))
      waiting := Function.update h.state.view.waiting a.call none })
    {lost : List Attempt} (htrace : h'.trace = { h.trace with lost := lost })
    (hl : ∀ b ∈ h.trace.lost, b ∈ lost)
    (hlost : a ∈ lost ∨ ⟨a.ticket, .waiting⟩ ∉ h.state.view.entries a.worker) : Traffic h' := by
  refine ht.carry hk ?_ (by rw [htrace]) ?_ ?_ ?_
  · rw [hservice]
    exact ht.noScript
  · rw [htrace]
    exact ht.sound.setLost lost
  · rw [hv, htrace]
    exact ⟨ht.mail.requests, ht.mail.replies⟩
  · rw [hv, htrace]
    exact ht.registered.finish ht.sound ha hcall (fun b hb heq => ht.worker_of_call ha hb heq)
      hlost rfl rfl hl rfl rfl

/-- A call makes an attempt. -/
theorem attempt (ht : Traffic h) {outside : Outside} {call : Nat}
    (hs : h.step? outside (.attempt call) = some h') : Traffic h' := by
  obtain ⟨hstep, htrace⟩ := History.step?_eq_some.1 hs
  have hk : Keeps h.state h'.state := step?_keeps hstep id
  obtain ⟨c, u, w, hc, hready, hu, hw, hcases⟩ := State.attempt?_cases hstep
  have hidle : h.state.view.waiting call = none :=
    (waitingOf_eq hc).trans (by rw [Call.ticket?, hready])
  rcases hcases with ⟨messages, -, hfree, hcoord, hsends, hs'⟩ | ⟨e, -, hsends, hs'⟩
  · let a : Attempt := ⟨call, c.user, u.worker, w.client, u.consumer, c.method,
      ⟨u.consumer.uid, w.table.nextToken⟩, h.trace.heard.length⟩
    have htrace : h'.trace =
        { h.trace with sent := h.trace.sent ++ [a], requests := h.trace.requests ++ [a] } := by
      rw [htrace, Trace.record, hsends]
    have hrequests : h.state.view.requests = messages := by
      show h.state.hub.coordinator.messages = messages
      rw [hcoord]
      rfl
    have hv : h'.state.view = { h.state.view with
        requests := h.state.view.requests ++ [a.message]
        entries := Function.update h.state.view.entries u.worker
          (h.state.view.entries u.worker ++ [⟨a.ticket, .waiting⟩])
        waiting := Function.update h.state.view.waiting call (some a.ticket) } := by
      have hentries : h.state.view.entries u.worker = w.table.entries := entriesOf_eq hw
      rw [hs', view_setCall, view_setTable, hrequests, hentries]
      · rfl
      · exact hw
      · exact hc
    have hgenuine : Genuine h'.state a := by
      obtain ⟨c', hc', hu', hm'⟩ := hk.calls hc
      refine ⟨⟨c', hc', hu', hm'⟩, hk.users hu, ?_, rfl⟩
      refine ⟨{ w with table := w.table.registered u.consumer.uid }, ?_, rfl, Nat.lt_succ_self _⟩
      rw [hs']
      show (h.state.workers.modify u.worker _)[u.worker]? = _
      rw [List.getElem?_modify, hw]
      simp
    have hfresh : ∀ b ∈ h.trace.sent, b.id ≠ a.id := by
      intro b hb heq
      have hworker : b.worker = u.worker := congrArg (·.1) heq
      have hticket : b.ticket = a.ticket := congrArg (·.2) heq
      obtain ⟨-, htoken⟩ := (ht.genuine b hb).of_worker (by rw [hworker]; exact hw)
      rw [hticket] at htoken
      exact Nat.lt_irrefl _ htoken
    refine ⟨?_, ht.clients_of_keeps hk, ?_, ?_, ?_, ?_⟩
    · rw [hs']
      exact ht.noScript
    · intro b hb
      rw [htrace] at hb
      rcases List.mem_append.1 hb with hb | hb
      · exact (ht.genuine b hb).mono hk.toGrows
      · rw [List.mem_singleton.1 hb]
        exact hgenuine
    · rw [htrace]
      exact ht.sound.send hfresh rfl
    · rw [hv, htrace]
      refine ⟨?_, ht.mail.replies⟩
      show h.state.view.requests ++ [a.message] = (h.trace.requests ++ [a]).map _
      rw [List.map_append, ht.mail.requests]
      rfl
    · rw [hv, htrace]
      refine ht.registered.send (a := a) hidle ?_ rfl rfl rfl rfl rfl rfl
      intro e he
      exact hfree e (by rw [← entriesOf_eq hw]; exact he)
  · have htrace : h'.trace = h.trace := by
      rw [htrace, Trace.record, hsends]
    have hv : h'.state.view = h.state.view := by
      have hsame : (h.state.setTable u.worker w.table.refused).view = h.state.view :=
        view_setTable_same hw rfl
      rw [hs', view_endAttempt, hsame, ← hidle, Function.update_eq_self]
      exact hc
    refine ht.quiet hk.toGrows ?_ (ht.clients_of_keeps hk) hv htrace
    obtain ⟨events, he⟩ := (h.state.setTable u.worker w.table.refused).endAttempt_eq call
      { c with attempted := h.state.now } u w (.error e)
    rw [hs', he]
    exact ht.noScript

/-- The coordinator takes a request. It crashes, or it makes a reply, which is delivered or
lost. -/
theorem serve_cases (ht : Traffic h) {outside : Outside} {position : Nat}
    (hs : h.step? outside (.serve position) = some h') :
    ∃ c a, h.state.service = .coordinator c ∧ h.trace.requests[position]? = some a ∧
      ((∃ crash c', c.dispatch outside a.request = (.error crash, c') ∧
          h'.state = { h.state with
            service := .crashed c' crash
            hub := h.state.hub.closeCoordinator } ∧
          h'.trace = { h.trace with requests := [] }) ∨
        (∃ d c' hub, c.dispatch outside a.request = (.ok d, c') ∧
          h'.state = { h.state with
            service := .coordinator { c' with requestsHandled := c'.requestsHandled + 1 }
            produced := h.state.produced ++
              [Coordinator.eventOf a.request.toJson outside.took d.error]
            hub := { hub with coordinator := h.state.hub.coordinator.remove position } } ∧
          ((a.client ∈ h.state.hub.connected ∧ (h.state.hub.inbox a.client).isSome ∧
              hub = h.state.hub.setInbox a.client (some ((h.state.hub.inbox a.client).messages ++
                [(⟨a, outside, d.response⟩ : Reply).message])) ∧
              h'.trace = Trace.setReplies { h.trace with
                requests := h.trace.requests.eraseIdx position
                served := h.trace.served ++ [⟨a, outside, d.response⟩] } a.client
                  (h.trace.replies a.client ++ [⟨a, outside, d.response⟩])) ∨
            ((a.client ∉ h.state.hub.connected ∨ h.state.hub.inbox a.client = none) ∧
              hub = h.state.hub ∧
              h'.trace = { h.trace with
                requests := h.trace.requests.eraseIdx position
                served := h.trace.served ++ [⟨a, outside, d.response⟩] })))) := by
  obtain ⟨hstep, htrace⟩ := History.step?_eq_some.1 hs
  obtain ⟨c, m, hservice, hm, hs'⟩ := State.serve?_cases ht.noScript hstep
  have hmail : h.state.hub.coordinator.messages = h.trace.requests.map Attempt.message :=
    ht.mail.requests
  rw [hmail, List.getElem?_map, Option.map_eq_some_iff] at hm
  obtain ⟨a, ha, rfl⟩ := hm
  refine ⟨c, a, hservice, ha, ?_⟩
  rw [State.serveMessage_message] at hs'
  simp only [Trace.record, Trace.serve, ha, hservice] at htrace
  rcases hd : c.dispatch outside a.request with ⟨crash | d, c'⟩
  · left
    rw [hd] at hs' htrace
    exact ⟨crash, c', rfl, hs', htrace⟩
  · right
    rw [hd] at hs' htrace
    simp only [State.sendToWorker, Transport.Hub.coordinatorSend_setCoordinator] at hs'
    refine ⟨d, c', _, rfl, hs', ?_⟩
    have hnode : (⟨a, outside, d.response⟩ : Reply).message.nodeId = some a.client := rfl
    rcases h.state.hub.coordinatorSend_cases hnode with
      ⟨hconnected, hopen, hsend⟩ | ⟨e, hgone, hsend⟩
    · left
      refine ⟨hconnected, hopen, by rw [hsend], ?_⟩
      simp only [hsend] at htrace
      exact htrace
    · right
      refine ⟨hgone, by rw [hsend], ?_⟩
      simp only [hsend] at htrace
      exact htrace

/-- The coordinator answers the request that it takes, unless it crashes. -/
theorem answer_cases (ht : Traffic h) {outside : Outside} {position : Nat}
    (hs : h.step? outside (.serve position) = some h') :
    ∃ c a, h.state.service = .coordinator c ∧ h.trace.requests[position]? = some a ∧
      ((∃ crash c', c.dispatch outside a.request = (.error crash, c') ∧
          h'.state.service = .crashed c' crash ∧ h'.trace.served = h.trace.served) ∨
        ∃ d c', c.dispatch outside a.request = (.ok d, c') ∧
          h'.state.service = .coordinator { c' with requestsHandled := c'.requestsHandled + 1 } ∧
          h'.state.produced = h.state.produced ++
            [Coordinator.eventOf a.request.toJson outside.took d.error] ∧
          h'.trace.served = h.trace.served ++ [⟨a, outside, d.response⟩]) := by
  obtain ⟨c, a, hservice, ha, hcases⟩ := ht.serve_cases hs
  refine ⟨c, a, hservice, ha, ?_⟩
  rcases hcases with ⟨crash, c', hd, hs', htrace⟩ | ⟨d, c', hub, hd, hs', hcases⟩
  · exact .inl ⟨crash, c', hd, by rw [hs'], by rw [htrace]⟩
  · refine .inr ⟨d, c', hd, by rw [hs'], by rw [hs'], ?_⟩
    rcases hcases with ⟨-, -, -, htrace⟩ | ⟨-, -, htrace⟩
    · rw [htrace]
      rfl
    · rw [htrace]

/-- The coordinator takes a request. -/
theorem serve (ht : Traffic h) {outside : Outside} {position : Nat}
    (hs : h.step? outside (.serve position) = some h') : Traffic h' := by
  have hk : Keeps h.state h'.state :=
    step?_keeps (History.step?_eq_some.1 hs).1 id
  obtain ⟨c, a, hservice, ha, ⟨crash, c', -, hs', htrace⟩ | ⟨d, c', hub, -, hs', hcases⟩⟩ :=
    ht.serve_cases hs
  · refine ht.carry hk ?_ (by rw [htrace]) ?_ ?_ ?_
    · rw [hs']
      intro script hscript
      cases hscript
    · rw [htrace]
      exact ht.sound.halt
    · rw [hs', htrace]
      exact ⟨rfl, ht.mail.replies⟩
    · rw [hs', htrace]
      exact ht.registered.congr rfl rfl rfl rfl rfl
  · have hnoScript : ∀ script, h'.state.service ≠ .script script := by
      rw [hs']
      intro script hscript
      cases hscript
    have hrequests : h'.state.view.requests = (h.trace.requests.eraseIdx position).map
        Attempt.message := by
      rw [hs']
      show (h.state.hub.coordinator.remove position).messages = _
      have hmail : h.state.hub.coordinator.messages = _ := ht.mail.requests
      rw [Hub.messages_remove, hmail, List.eraseIdx_map]
    have hserved : Trace.Sound { h.trace with
        requests := h.trace.requests.eraseIdx position
        served := h.trace.served ++ [⟨a, outside, d.response⟩] } :=
      ht.sound.serve ha
    rcases hcases with ⟨-, -, hhub, htrace⟩ | ⟨-, hhub, htrace⟩
    · refine ht.carry hk hnoScript (by rw [htrace]; rfl) ?_ ?_ ?_
      · rw [htrace]
        apply hserved.deliver (List.mem_append_right _ (List.mem_singleton.2 rfl))
        exact ht.sound.unanswered (List.mem_of_getElem? ha)
      · rw [htrace]
        refine ⟨hrequests, ?_⟩
        intro client
        have hreplies : h'.state.view.replies =
            Function.update h.state.view.replies a.client (h.state.view.replies a.client ++
              [(⟨a, outside, d.response⟩ : Reply).message]) := by
          rw [hs', hhub]
          exact Hub.messages_setInbox h.state.hub a.client _
        rw [hreplies]
        show _ = (Function.update h.trace.replies a.client _ client).map Reply.message
        by_cases hc : client = a.client
        · rw [hc, Function.update_self, Function.update_self, List.map_append,
            ht.mail.replies]
          rfl
        · rw [Function.update_of_ne hc, Function.update_of_ne hc]
          exact ht.mail.replies client
      · rw [hs', htrace]
        exact ht.registered.congr rfl rfl rfl rfl rfl
    · refine ht.carry hk hnoScript (by rw [htrace]) ?_ ?_ ?_
      · rw [htrace]
        exact hserved
      · rw [htrace]
        refine ⟨hrequests, ?_⟩
        rw [hs', hhub]
        exact ht.mail.replies
      · rw [hs', htrace]
        exact ht.registered.congr rfl rfl rfl rfl rfl

/-- A worker reads a reply, which resolves no call or one that waits under the correlation id
of the reply. -/
theorem receive_cases (ht : Traffic h) {outside : Outside} {worker position : Nat}
    (hs : h.step? outside (.receive worker position) = some h') :
    ∃ w r, h.state.workers[worker]? = some w ∧ w.isReading = true ∧
      (h.trace.replies w.client)[position]? = some r ∧ r.attempt.worker = worker ∧
      r.attempt ∈ h.trace.sent ∧
      ((∀ e ∈ w.table.entries, e.ticket.uid = r.attempt.consumer.uid → e.slot ≠ .waiting) ∧
          h'.state = (h.state.taken w.client position).setTable worker w.table ∧
          h'.trace = { h.trace.setReplies w.client
              ((h.trace.replies w.client).eraseIdx position) with
            heard := h.trace.heard ++ [⟨r, none⟩] } ∨
        ∃ a ∈ h.trace.sent, a.worker = worker ∧ ⟨a.ticket, .waiting⟩ ∈ w.table.entries ∧
          r.attempt.SameConsumer a ∧
          h'.state = (h.state.taken w.client position).setTable worker
            (w.table.answered a.ticket r.response) ∧
          h'.trace = { h.trace.setReplies w.client
              ((h.trace.replies w.client).eraseIdx position) with
            heard := h.trace.heard ++ [⟨r, some a⟩] }) := by
  obtain ⟨hstep, htrace⟩ := History.step?_eq_some.1 hs
  obtain ⟨w, m, hw, hreading, hm, hs'⟩ := State.receive?_cases hstep
  have hmail : (h.state.hub.inbox w.client).messages =
      (h.trace.replies w.client).map Reply.message := ht.mail.replies w.client
  rw [hmail, List.getElem?_map, Option.map_eq_some_iff] at hm
  obtain ⟨r, hr, rfl⟩ := hm
  obtain ⟨hworker, hsent⟩ := ht.worker_of_reply hw (List.mem_of_getElem? hr)
  refine ⟨w, r, hw, hreading, hr, hworker, hsent, ?_⟩
  simp only [Correlation.Table.handleMessage, reply?_message] at hs'
  simp only [Trace.record, Trace.hear, hw, hr, reply?_message, Option.bind_some] at htrace
  rcases w.table.resolve_cases r.attempt.consumer.uid r.response with
    ⟨hnone, hfree, hres⟩ | ⟨ticket, hsome, huid, hmem, hres⟩
  · left
    simp only [hnone] at htrace
    rw [hres] at hs'
    exact ⟨hfree, hs', htrace⟩
  · right
    have hentry : ⟨ticket, .waiting⟩ ∈ h.state.view.entries worker := by
      show _ ∈ entriesOf h.state.workers worker
      rw [entriesOf_eq hw]
      exact hmem
    obtain ⟨a, ha, hi, rfl, -, -⟩ := ht.registered.entry worker _ hentry
    have hfind : h.trace.find? worker a.ticket = some a := by
      rw [← hi]
      exact ht.sound.find?_eq ha
    simp only [hsome] at htrace
    rw [hres] at hs'
    refine ⟨a, ha, hi, hmem, ⟨hworker.trans hi.symm, ?_⟩, hs', ?_⟩
    · rw [← (ht.genuine a ha).uid]
      exact huid.symm
    · rw [htrace]
      show _ = _
      rw [← hfind]
      rfl

/-- A worker reads a reply. -/
theorem receive (ht : Traffic h) {outside : Outside} {worker position : Nat}
    (hs : h.step? outside (.receive worker position) = some h') : Traffic h' := by
  have hk : Keeps h.state h'.state :=
    step?_keeps (History.step?_eq_some.1 hs).1 id
  obtain ⟨w, r, hw, -, hr, hworker, hsent, hcases⟩ := ht.receive_cases hs
  have hentries : h.state.view.entries worker = w.table.entries := entriesOf_eq hw
  have huids : ∀ a ∈ h.trace.sent, a.ticket.uid = a.consumer.uid :=
    fun a ha => (ht.genuine a ha).uid
  have hunread : ∀ x ∈ h.trace.heard, x.reply.attempt ≠ r.attempt := by
    intro x hx heq
    have hsingle := ht.sound.single w.client
    rw [List.map_append] at hsingle
    refine List.disjoint_of_nodup_append hsingle
      (List.mem_map_of_mem (List.mem_of_getElem? hr)) ?_
    rw [List.map_map]
    exact List.mem_map.2 ⟨x, hx, heq⟩
  have hreplies : ∀ table,
      ((h.state.taken w.client position).setTable worker table).view.replies =
        Function.update h.state.view.replies w.client
          ((h.state.view.replies w.client).eraseIdx position) := by
    intro table
    apply (Hub.messages_setInbox h.state.hub w.client _).trans
    rw [Hub.messages_remove]
    rfl
  have hmail : ∀ client, Function.update h.state.view.replies w.client
      ((h.state.view.replies w.client).eraseIdx position) client =
        (Function.update h.trace.replies w.client
          ((h.trace.replies w.client).eraseIdx position) client).map Reply.message := by
    intro client
    by_cases hc : client = w.client
    · rw [hc, Function.update_self, Function.update_self, ht.mail.replies, List.eraseIdx_map]
    · rw [Function.update_of_ne hc, Function.update_of_ne hc]
      exact ht.mail.replies client
  rcases hcases with ⟨hfree, hs', htrace⟩ | ⟨a, ha, hi, hmem, hsame, hs', htrace⟩
  · refine ht.carry hk ?_ (by rw [htrace]; rfl) ?_ ?_ ?_
    · rw [hs']
      exact ht.noScript
    · rw [htrace]
      apply ht.sound.hear hr
      intro a ha
      cases ha
    · rw [hs', htrace]
      exact ⟨ht.mail.requests, fun client => by rw [hreplies]; exact hmail client⟩
    · rw [hs', htrace]
      refine ht.registered.hear ht.sound (r := r) huids ?_ rfl rfl rfl ?_ rfl
      · rw [hworker, hentries]
        exact hfree
      · exact congrArg (·.entries) (view_setTable_same (s := h.state) hw rfl)
  · refine ht.carry hk ?_ (by rw [htrace]; rfl) ?_ ?_ ?_
    · rw [hs']
      exact ht.noScript
    · rw [htrace]
      apply ht.sound.hear hr
      intro b hb
      cases hb
      refine ⟨ha, ?_, hsame⟩
      obtain ⟨b, hb, hbi, hbt, -, hslot⟩ := ht.registered.entry worker _ (hentries ▸ hmem)
      obtain rfl := ht.sound.eq_of_ticket hb ha (hbi.trans hi.symm) hbt
      exact hslot
    · rw [hs', htrace]
      exact ⟨ht.mail.requests, fun client => by rw [hreplies]; exact hmail client⟩
    · rw [hs', htrace]
      refine ht.registered.resolve ht.sound (r := r) huids hsent hunread ha ?_ hsame rfl rfl rfl
        ?_ rfl
      · rw [hi, hentries]
        exact hmem
      · rw [hi, hentries]
        exact entriesOf_modify hw _

/-- The replies of a worker have ended. -/
theorem endReplies (ht : Traffic h) {outside : Outside} {worker : Nat}
    (hs : h.step? outside (.endReplies worker) = some h') : Traffic h' := by
  obtain ⟨hstep, htrace⟩ := History.step?_eq_some.1 hs
  have hk : Keeps h.state h'.state := step?_keeps hstep id
  obtain ⟨w, hw, -, hs'⟩ := State.endReplies?_cases hstep
  have hentries : h.state.view.entries worker = w.table.entries := entriesOf_eq hw
  simp only [Trace.record, Trace.loseAll, hw] at htrace
  refine ht.carry hk ?_ (by rw [htrace]) ?_ ?_ ?_
  · rw [hs']
    exact ht.noScript
  · rw [htrace]
    exact ht.sound.setLost _
  · rw [hs', htrace]
    exact ⟨ht.mail.requests, ht.mail.replies⟩
  · rw [hs', htrace]
    refine ht.registered.close (i := worker) ?_ rfl rfl ?_ ?_ rfl
    · intro a ha hi hmem
      apply List.mem_append_right
      rw [hentries] at hmem
      refine List.mem_filterMap.2 ⟨_, List.mem_filter.2 ⟨hmem, rfl⟩, ?_⟩
      rw [← hi]
      exact ht.sound.find?_eq ha
    · intro b hb
      exact List.mem_append_left _ hb
    · rw [hentries]
      exact entriesOf_modify hw _

/-- The call of a ticket is over, and its entry is gone. -/
private theorem finished (ht : Traffic h) (hk : Keeps h.state h'.state)
    (hservice : h'.state.service = h.state.service) {call : Nat} {c : Call} {u : User}
    {w : Worker} {ticket : Correlation.Ticket}
    (hc : h.state.calls[call]? = some c) (hticket : c.ticket? = some ticket)
    (hu : h.state.users[c.user]? = some u) (hw : h.state.workers[u.worker]? = some w)
    (hv : h'.state.view = { (h.state.setTable u.worker (w.table.remove ticket)).view with
      waiting := Function.update h.state.view.waiting call none })
    {lost : List Attempt} (htrace : h'.trace = { h.trace with lost := lost })
    (hl : ∀ b ∈ h.trace.lost, b ∈ lost)
    (hlost : (∀ a ∈ h.trace.sent, a.call = call → a.worker = u.worker → a.ticket = ticket →
      a ∈ lost) ∨ ⟨ticket, .waiting⟩ ∉ w.table.entries) : Traffic h' := by
  obtain ⟨a, ha, rfl, rfl, -, -, hworker, -, -⟩ := ht.attempt_of_waiting hc hticket hu
  have hentries : h.state.view.entries a.worker = w.table.entries := by
    rw [hworker]
    exact entriesOf_eq hw
  refine ht.finish hk hservice ha ((waitingOf_eq hc).trans hticket) ?_ htrace hl ?_
  · rw [hv, view_setTable hw, hentries, hworker]
    rfl
  · rcases hlost with hall | hnot
    · exact .inl (hall a ha rfl hworker rfl)
    · rw [hentries]
      exact .inr hnot

/-- The ticket of a call that waits. -/
theorem ticket?_of_phase {c : Call} {ticket : Correlation.Ticket} {deadline : Nat}
    (hp : c.phase = .waiting ticket deadline) : c.ticket? = some ticket := by
  rw [Call.ticket?, hp]

/-- A call that waits loses the request under its ticket when it gives up. -/
theorem lose_eq {call : Nat} {c : Call} {u : User} {w : Worker}
    {ticket : Correlation.Ticket} {deadline : Nat} (hc : h.state.calls[call]? = some c)
    (hp : c.phase = .waiting ticket deadline) (hu : h.state.users[c.user]? = some u)
    (hw : h.state.workers[u.worker]? = some w) :
    h.trace.lose h.state call =
      { h.trace with lost := h.trace.lost ++ (h.trace.find? u.worker ticket).toList } := by
  have hwaits : h.state.waits? call = some (u.worker, ticket) := by
    rw [State.waits?, hc]
    show (h.state.owner? c).bind _ = _
    rw [State.owner?_eq_some.2 ⟨hu, hw⟩]
    simp only [Option.bind_some, hp]
  rw [Trace.lose, hwaits]
  rfl

/-- The request of a ticket that is given up is lost. -/
theorem mem_lose (ht : Traffic h) {worker : Nat} {ticket : Correlation.Ticket}
    {a : Attempt} (ha : a ∈ h.trace.sent) (hw : a.worker = worker) (hticket : a.ticket = ticket) :
    a ∈ h.trace.lost ++ (h.trace.find? worker ticket).toList := by
  rw [← hw, ← hticket, ht.sound.find?_eq ha]
  exact List.mem_append_right _ (List.mem_singleton.2 rfl)

/-- A call completes. -/
theorem complete (ht : Traffic h) {outside : Outside} {call : Nat}
    (hs : h.step? outside (.complete call) = some h') : Traffic h' := by
  obtain ⟨hstep, htrace⟩ := History.step?_eq_some.1 hs
  have hk : Keeps h.state h'.state := step?_keeps hstep id
  obtain ⟨c, ticket, deadline, u, w, reply, hc, hp, hu, hw, hreply, hs'⟩ :=
    State.complete?_cases hstep
  have hticket := ticket?_of_phase hp
  refine ht.finished hk ?_ hc hticket hu hw ?_ htrace (fun b hb => hb) (.inr ?_)
  · obtain ⟨events, he⟩ := (h.state.setTable u.worker (w.table.remove ticket)).endAttempt_eq call c
      u w reply
    rw [hs', he]
    rfl
  · rw [hs', view_endAttempt]
    · rfl
    · exact hc
  · intro hwaiting
    have hentries : h.state.view.entries u.worker = w.table.entries := entriesOf_eq hw
    rw [← hentries] at hwaiting
    rcases Correlation.Table.outcome?_cases hreply with ⟨v, -, hmem⟩ | ⟨-, hmem⟩
    · rw [← hentries] at hmem
      cases ht.registered.eq_of_ticket hwaiting hmem rfl
    · rw [← hentries] at hmem
      cases ht.registered.eq_of_ticket hwaiting hmem rfl

/-- A call gives up. -/
theorem expire (ht : Traffic h) {outside : Outside} {call : Nat}
    (hs : h.step? outside (.expire call) = some h') : Traffic h' := by
  obtain ⟨hstep, htrace⟩ := History.step?_eq_some.1 hs
  have hk : Keeps h.state h'.state := step?_keeps hstep id
  obtain ⟨c, ticket, deadline, u, w, hc, hp, hu, hw, -, hs'⟩ := State.expire?_cases hstep
  rw [Trace.record, lose_eq hc hp hu hw] at htrace
  refine ht.finished hk ?_ hc (ticket?_of_phase hp) hu hw ?_ htrace
    (fun b hb => List.mem_append_left _ hb) (.inl fun a ha _ => ht.mem_lose ha)
  · obtain ⟨events, he⟩ := (h.state.setTable u.worker (w.table.remove ticket)).endAttempt_eq call c
      u w (.error (.noDataReceived w.options.requestTimeout))
    rw [hs', he]
    rfl
  · rw [hs', view_endAttempt]
    · rfl
    · exact hc

/-- A call is abandoned. -/
theorem cancel (ht : Traffic h) {outside : Outside} {call : Nat}
    (hs : h.step? outside (.cancel call) = some h') : Traffic h' := by
  obtain ⟨hstep, htrace⟩ := History.step?_eq_some.1 hs
  have hk : Keeps h.state h'.state := step?_keeps hstep id
  obtain ⟨c, hc, ⟨hnone, hs'⟩ | ⟨ticket, deadline, u, w, hp, hu, hw, hs'⟩⟩ :=
    State.cancel?_cases hstep
  · have hwaits : h.state.waits? call = none := by
      rw [State.waits?, hc]
      show (h.state.owner? c).bind _ = _
      cases hphase : c.phase with
      | waiting ticket deadline =>
        rw [ticket?_of_phase hphase] at hnone
        cases hnone
      | _ => simp
    rw [Trace.record, Trace.lose, hwaits] at htrace
    refine ht.quiet hk.toGrows ?_ (ht.clients_of_keeps hk) ?_ (by rw [htrace]; simp)
    · rw [hs']
      exact ht.noScript
    · rw [hs', view_setCall hc]
      have hsame : (⟨c.user, c.method, c.began, c.attempted, c.isFirst, .cancelled⟩ : Call).ticket?
          = h.state.view.waiting call := ((waitingOf_eq hc).trans hnone).symm
      rw [hsame, Function.update_eq_self]
  · rw [Trace.record, lose_eq hc hp hu hw] at htrace
    refine ht.finished hk ?_ hc (ticket?_of_phase hp) hu hw ?_ htrace
      (fun b hb => List.mem_append_left _ hb) (.inl fun a ha _ => ht.mem_lose ha)
    · rw [hs']
      rfl
    · rw [hs', view_setCall]
      · rfl
      · exact hc

/-- A worker stops reading its replies. -/
theorem dropWorker (ht : Traffic h) {outside : Outside} {worker : Nat}
    (hs : h.step? outside (.dropWorker worker) = some h') : Traffic h' := by
  obtain ⟨hstep, htrace⟩ := History.step?_eq_some.1 hs
  have hk : Keeps h.state h'.state := step?_keeps hstep id
  obtain ⟨w, hw, hs'⟩ := Option.bind_eq_some_iff.1 hstep
  have hs' := (Option.some.inj hs').symm
  simp only [Trace.record, hw] at htrace
  refine ht.carry hk ?_ (by rw [htrace]; rfl) ?_ ?_ ?_
  · rw [hs']
    exact ht.noScript
  · rw [htrace]
    exact ht.sound.drop w.client
  · rw [hs', htrace]
    refine ⟨ht.mail.requests, ?_⟩
    intro client
    have hreplies : (fun client => ((h.state.hub.closeInbox w.client).inbox client).messages) =
        Function.update h.state.view.replies w.client [] :=
      Hub.messages_setInbox h.state.hub w.client none
    apply (congrFun hreplies client).trans
    show _ = (Function.update h.trace.replies w.client [] client).map Reply.message
    by_cases hc : client = w.client
    · rw [hc, Function.update_self, Function.update_self]
      rfl
    · rw [Function.update_of_ne hc, Function.update_of_ne hc]
      exact ht.mail.replies client
  · rw [hs', htrace]
    refine ht.registered.congr ?_ rfl rfl rfl rfl
    exact entriesOf_set hw rfl

/-- A worker connects. Nothing has ever been sent to its client id. -/
theorem connect (ht : Traffic h) {outside : Outside} {client : String}
    {options : ConsumerOptions} {keepsEvents : Bool}
    (hs : h.step? outside (.connect client options keepsEvents) = some h') : Traffic h' := by
  obtain ⟨hstep, htrace⟩ := History.step?_eq_some.1 hs
  have hg : Grows h.state h'.state := .of_step? hstep
  obtain ⟨hfresh, hs'⟩ := State.connect?_cases hstep
  refine ht.quiet hg ?_ ?_ ?_ htrace
  · rw [hs']
    exact ht.noScript
  · rw [hs', List.map_append, List.nodup_append']
    refine ⟨ht.clients, List.nodup_singleton _, ?_⟩
    intro x hx hx'
    obtain ⟨w, hw, rfl⟩ := List.mem_map.1 hx
    exact hfresh w hw (List.mem_singleton.1 hx')
  · have hnone : h.trace.replies client = [] := by
      rw [List.eq_nil_iff_forall_not_mem]
      intro r hr
      obtain ⟨hserved, hclient⟩ := ht.sound.delivered client r hr
      obtain ⟨w, hw, hc, -⟩ := (ht.genuine _ (ht.sound.mem_sent hserved)).worker
      exact hfresh w (List.mem_of_getElem? hw) (hc.trans hclient)
    have hreplies : (fun other => ((h.state.hub.connect client).inbox other).messages) =
        Function.update h.state.view.replies client [] :=
      Hub.messages_setInbox h.state.hub client .empty
    have hold : h.state.view.replies client = [] := by
      rw [ht.mail.replies, hnone]
      rfl
    rw [hs']
    show View.mk _ (fun other => ((h.state.hub.connect client).inbox other).messages)
      (entriesOf (h.state.workers ++ _)) _ = _
    rw [hreplies, ← hold, Function.update_eq_self, entriesOf_concat rfl]
    rfl

/-- Whatever an honest step does, all that is known of the traffic stays true. -/
theorem step (ht : Traffic h) {outside : Outside} {a : Action} (ok : Honest h.state a)
    (hs : h.step? outside a = some h') : Traffic h' := by
  obtain ⟨hstep, htrace⟩ := History.step?_eq_some.1 hs
  cases a with
  | serve position => exact ht.serve hs
  | receive worker position => exact ht.receive hs
  | endReplies worker => exact ht.endReplies hs
  | attempt call => exact ht.attempt hs
  | complete call => exact ht.complete hs
  | expire call => exact ht.expire hs
  | cancel call => exact ht.cancel hs
  | connect client options keepsEvents => exact ht.connect hs
  | dropWorker worker => exact ht.dropWorker hs
  | inject worker topic data => exact absurd ok id
  | perform =>
    cases hservice : h.state.service with
    | script script => exact absurd hservice (ht.noScript script)
    | _ => simp [State.step?, State.perform?, hservice] at hstep
  | pass nanos =>
    have hk : Keeps h.state h'.state := step?_keeps hstep id
    have hs' := (Option.some.inj hstep).symm
    refine ht.quiet hk.toGrows ?_ (ht.clients_of_keeps hk) ?_ htrace
    · rw [hs']
      exact ht.noScript
    · rw [hs']
      rfl
  | wake call =>
    have hk : Keeps h.state h'.state := step?_keeps hstep id
    obtain ⟨c, deadline, hc, hp, hs'⟩ := State.wake?_cases hstep
    refine ht.quiet hk.toGrows ?_ (ht.clients_of_keeps hk) ?_ htrace
    · rw [hs']
      exact ht.noScript
    · have hnone : h.state.view.waiting call = none :=
        (waitingOf_eq hc).trans (by rw [Call.ticket?, hp])
      rw [hs', view_setCall hc]
      show { h.state.view with waiting := Function.update h.state.view.waiting call none } = _
      rw [← hnone, Function.update_eq_self]
  | join worker identifier =>
    have hg : Grows h.state h'.state := .of_step? hstep
    obtain ⟨w, hw, hs'⟩ := State.join?_cases hstep
    refine ht.quiet hg ?_ ?_ ?_ htrace
    · rw [hs']
      exact ht.noScript
    · have hclients : h'.state.workers.map (·.client) = h.state.workers.map (·.client) := by
        rw [hs']
        exact map_client_modify _ _ _
      rw [hclients]
      exact ht.clients
    · rw [hs']
      exact view_setTable_same hw rfl
  | begin user method =>
    have hk : Keeps h.state h'.state := step?_keeps hstep id
    have hs' := State.begin?_cases hstep
    refine ht.quiet hk.toGrows ?_ (ht.clients_of_keeps hk) ?_ htrace
    · rw [hs']
      exact ht.noScript
    · rw [hs']
      show View.mk _ _ _ (waitingOf (h.state.calls ++ _)) = _
      rw [waitingOf_concat rfl]
      rfl
  | disconnect worker =>
    have hk : Keeps h.state h'.state := step?_keeps hstep id
    obtain ⟨w, -, hs'⟩ := Option.bind_eq_some_iff.1 hstep
    have hs' := (Option.some.inj hs').symm
    refine ht.quiet hk.toGrows ?_ (ht.clients_of_keeps hk) ?_ htrace
    · rw [hs']
      exact ht.noScript
    · rw [hs']
      rfl
  | closeService =>
    have hk : Keeps h.state h'.state := step?_keeps hstep id
    have hs' := (Option.some.inj hstep).symm
    unfold Trace.record at htrace
    refine ht.carry hk ?_ (by rw [htrace]) ?_ ?_ ?_
    · rw [hs']
      intro script hscript
      cases hscript
    · rw [htrace]
      exact ht.sound.halt
    · rw [hs', htrace]
      exact ⟨rfl, ht.mail.replies⟩
    · rw [hs', htrace]
      exact ht.registered.congr rfl rfl rfl rfl rfl
  | testStop attempt =>
    have hk : Keeps h.state h'.state := step?_keeps hstep id
    obtain ⟨c, folder, hs'⟩ := State.testStop?_cases hstep
    refine ht.quiet hk.toGrows ?_ (ht.clients_of_keeps hk) (by rw [hs']; rfl) htrace
    rw [hs']
    exact Service.noScript_setCoordinator ht.noScript c
  | stop attempt =>
    have hk : Keeps h.state h'.state := step?_keeps hstep id
    obtain ⟨c, folder, hs'⟩ := State.stop?_cases hstep
    refine ht.quiet hk.toGrows ?_ (ht.clients_of_keeps hk) (by rw [hs']; rfl) htrace
    rw [hs']
    exact Service.noScript_setCoordinator ht.noScript c

end Traffic

/-- What is known of the traffic holds after any run. -/
theorem Run.traffic {c : Coordinator} {h : History} (run : Run Honest (History.start c) h) :
    Traffic h := by
  induction run with
  | nil => exact Traffic.start c
  | snoc _ ok hs ih => exact ih.step ok hs

end LoadTest.Cluster
