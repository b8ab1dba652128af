import LoadTest.Proofs.Cluster.Undisturbed
/-!
# Smooth clusters

In an unbroken run nothing times out, is given up or closes, though the test may stop. Until a
request crashes the coordinator every attempt sends its request, and every call gets the reply
to the request that it has sent. The request that crashes the coordinator is never answered.
-/

namespace LoadTest.Cluster

open Transport

/-- What may happen in an unbroken run: what may happen in an undisturbed one, and the end of a
test. -/
def Unbroken (s : State) : Action → Prop
  | .pass _ | .serve _ | .receive .. | .attempt _ | .complete _ | .wake _ | .connect ..
  | .join .. | .testStop _ | .stop _ => True
  | .begin user _ => ∀ c ∈ s.calls, c.user = user → c.IsOver
  | _ => False

instance (s : State) : ∀ a, Decidable (Unbroken s a)
  | .pass _ | .serve _ | .receive .. | .attempt _ | .complete _ | .wake _ | .connect ..
  | .join .. | .testStop _ | .stop _ => .isTrue trivial
  | .begin user _ => inferInstanceAs (Decidable (∀ c ∈ s.calls, c.user = user → c.IsOver))
  | .perform | .endReplies _ | .expire _ | .cancel _ | .inject .. | .disconnect _
  | .dropWorker _ | .closeService => .isFalse id

theorem Unbroken.honest {s : State} {a : Action} (h : Unbroken s a) : Honest s a := by
  cases a with
  | inject worker topic data => exact h
  | _ => trivial

theorem Undisturbed.unbroken {s : State} {a : Action} (h : Undisturbed s a) : Unbroken s a := by
  cases a with
  | begin user method => exact h
  | _ => trivial

/-! ## Calls -/

/-- A call that waits is not over. -/
theorem Call.not_over_of_ticket {call : Call} {ticket : Correlation.Ticket}
    (hc : call.ticket? = some ticket) : ¬ call.IsOver := by
  intro hover
  rw [Call.IsOver, Call.result?] at hover
  unfold Call.ticket? at hc
  split at hover
  · next result hp =>
    rw [hp] at hc
    cases hc
  · cases hover

theorem Call.not_over_of_ready {call : Call} (hc : call.phase = .ready) : ¬ call.IsOver := by
  intro hover
  rw [Call.IsOver, Call.result?, hc] at hover
  cases hover

/-- There were no more users before than there are now. -/
theorem State.Unwrapped.of_grows {s s' : State} (h : s'.Unwrapped) (hg : Grows s s') :
    s.Unwrapped := by
  intro worker
  have hprefix : s.users <+: s'.users := by
    rw [List.prefix_iff_getElem?]
    intro k hk
    exact hg.users (List.getElem?_eq_getElem hk)
  exact Nat.le_trans (List.IsPrefix.length_le (List.IsPrefix.filter _ hprefix)) (h worker)

/-! ## What is left out of a trace -/

/-- Only a coordinator that takes a request answers one. -/
theorem Trace.record_served {t : Trace} {outside : Outside} {s : State} {a : Action}
    (hs : ∀ position c, a = .serve position → s.service ≠ .coordinator c) :
    (t.record outside s a).served = t.served := by
  cases a with
  | serve position =>
    simp only [record, serve]
    split
    · next c _ hc => exact absurd hc (hs position c rfl)
    · rfl
  | receive worker position =>
    simp only [record, hear]
    split
    · rfl
    · split <;> rfl
  | attempt call =>
    simp only [record]
    split <;> rfl
  | endReplies worker =>
    simp only [record, loseAll]
    split <;> rfl
  | dropWorker worker =>
    simp only [record]
    split <;> rfl
  | _ => rfl

/-- No call of an unbroken run gives up waiting. -/
theorem Trace.record_lost {t : Trace} {outside : Outside} {s : State} {a : Action}
    (ok : Unbroken s a) : (t.record outside s a).lost = t.lost := by
  cases a with
  | serve position =>
    simp only [record, serve]
    split
    · split
      · rfl
      · split <;> rfl
    · rfl
  | receive worker position =>
    simp only [record, hear]
    split
    · rfl
    · split <;> rfl
  | attempt call =>
    simp only [record]
    split <;> rfl
  | _ => first | rfl | exact absurd ok id

/-- In an unbroken run nothing is lost on the way to a worker. -/
theorem Run.lost_eq_nil {c : Coordinator} {h : History} (run : Run Unbroken (History.start c) h) :
    h.trace.lost = [] := by
  induction run with
  | nil => rfl
  | snoc _ ok hs ih =>
    rw [(History.step?_eq_some.1 hs).2, Trace.record_lost ok]
    exact ih

/-- A request has reached the coordinator and was not answered, nor will it be. -/
def Trace.Stranded (t : Trace) : Prop :=
  ∃ a ∈ t.sent, a ∉ t.requests ∧ ∀ r ∈ t.served, r.attempt ≠ a

/-- No step answers a request that is no longer there. -/
theorem Trace.Stranded.step {h h' : History} (hstranded : h.trace.Stranded) (ht' : Traffic h')
    {outside : Outside} {a : Action} (hs : h.step? outside a = some h') :
    h'.trace.Stranded := by
  obtain ⟨-, htrace⟩ := History.step?_eq_some.1 hs
  obtain ⟨b, hb, hrequest, hserved⟩ := hstranded
  have hsent : b ∈ h'.trace.sent := by
    rw [htrace]
    exact (h.trace.record_extends ..).sent b hb
  have hids := ht'.sound.ids
  refine ⟨b, hsent, ?_⟩
  rw [htrace] at hids ⊢
  cases a with
  | attempt call =>
    simp only [record] at hids ⊢
    split at hids
    · next b' _ =>
      refine ⟨?_, hserved⟩
      rw [List.mem_append, List.mem_singleton, not_or]
      refine ⟨hrequest, ?_⟩
      rintro rfl
      rw [List.map_append, List.nodup_append'] at hids
      exact hids.2.2 (List.mem_map_of_mem hb) (List.mem_singleton.2 rfl)
    · exact ⟨hrequest, hserved⟩
  | serve position =>
    have hrest : b ∉ h.trace.requests.eraseIdx position := fun hmem =>
      hrequest (List.mem_of_mem_eraseIdx hmem)
    simp only [record, serve]
    split
    · next b' c hb' _ =>
      split
      · exact ⟨List.not_mem_nil, hserved⟩
      · next d _ =>
        have hnew : ∀ r ∈ h.trace.served ++ [⟨b', outside, d.response⟩], r.attempt ≠ b := by
          intro r hr
          rcases List.mem_append.1 hr with hold | hnew
          · exact hserved r hold
          · rw [List.mem_singleton.1 hnew]
            rintro rfl
            exact hrequest (List.mem_of_getElem? hb')
        split
        · exact ⟨hrest, hnew⟩
        · exact ⟨hrest, hnew⟩
    · exact ⟨hrequest, hserved⟩
  | receive worker position =>
    simp only [record, hear]
    split
    · exact ⟨hrequest, hserved⟩
    · split
      · exact ⟨hrequest, hserved⟩
      · exact ⟨hrequest, hserved⟩
  | endReplies worker =>
    simp only [record, loseAll]
    split
    · exact ⟨hrequest, hserved⟩
    · exact ⟨hrequest, hserved⟩
  | dropWorker worker =>
    simp only [record]
    split
    · exact ⟨hrequest, hserved⟩
    · exact ⟨hrequest, hserved⟩
  | closeService => exact ⟨List.not_mem_nil, hserved⟩
  | _ => exact ⟨hrequest, hserved⟩

/-! ## Smooth clusters -/

/-- What is known of a cluster in which nothing has gone wrong. -/
structure Smooth (h : History) : Prop where
  channels : Open h.state
  ordered : Ordered h.state.calls
  travels : h.trace.Travels
  told : Told h.state.calls h.trace

namespace Smooth

variable {h h' : History}

theorem start (c : Coordinator) : Smooth (History.start c) where
  channels := by
    refine ⟨Option.some_ne_none _, ?_, ?_⟩
    · intro w hw
      cases hw
    · intro w hw
      cases hw
  ordered := by
    intro j k cj ck _ hj
    cases hj
  travels := by
    refine ⟨rfl, ?_, ?_, ?_⟩
    · intro a ha
      cases ha
    · intro r hr
      cases hr
    · intro i r hr
      cases hr
  told := by
    constructor
    · intro k call hk
      cases hk
    · intro a ha
      cases ha

/-- A call gets the reply to its own request. -/
theorem own (hsmooth : Smooth h) (ht : Traffic h) {x : Heard} (hx : x ∈ h.trace.heard)
    {a : Attempt} (ha : x.resolves = some a) : x.reply.attempt = a := by
  apply ht.own_of_lost hx ha
  intro b hb
  rw [hsmooth.travels.lost] at hb
  cases hb

/-- Where no message moves, only the channels and the calls have to be looked at. -/
theorem quiet (hsmooth : Smooth h) (hopen : Open h'.state) (hordered : Ordered h'.state.calls)
    (htrace : h'.trace = h.trace) (htold : Told h'.state.calls h.trace) : Smooth h' where
  channels := hopen
  ordered := hordered
  travels := by
    rw [htrace]
    exact hsmooth.travels
  told := by
    rw [htrace]
    exact htold

/-- Time and the coordinator make no difference. -/
theorem congr (hsmooth : Smooth h) (hhub : h'.state.hub = h.state.hub)
    (hw : h'.state.workers = h.state.workers) (hc : h'.state.calls = h.state.calls)
    (htrace : h'.trace = h.trace) : Smooth h' := by
  refine hsmooth.quiet (hsmooth.channels.congr hhub hw) ?_ htrace ?_
  · rw [hc]
    exact hsmooth.ordered
  · rw [hc]
    exact hsmooth.told

/-- The correlation id of a call that is ready is free: no other call of its user can wait. -/
theorem free (hsmooth : Smooth h) (ht : Traffic h) (hn : Numbered h.state)
    (hfew : h.state.Unwrapped) {k : Nat} {call : Call} {u : User}
    (hk : h.state.calls[k]? = some call) (hready : call.phase = .ready)
    (hu : h.state.users[call.user]? = some u) :
    ∀ e ∈ h.state.view.entries u.worker, e.ticket.uid ≠ u.consumer.uid := by
  intro e he huid
  obtain ⟨a, ha, hworker, hticket, hwait, -⟩ := ht.registered.entry u.worker e he
  have hg := ht.genuine a ha
  obtain ⟨other, hother, huser, -⟩ := hg.call
  have hotherwaits : other.ticket? = some a.ticket := (waitingOf_eq hother).symm.trans hwait
  have hsame : a.user = call.user :=
    hn.user_unique hfew hg.user hu hworker (by rw [← hg.uid, hticket, huid])
  have heq : a.call = k := hsmooth.ordered.eq_of_not_over hother hk (huser.trans hsame)
    (Call.not_over_of_ticket hotherwaits) (Call.not_over_of_ready hready)
  rw [heq, hk] at hother
  obtain rfl := Option.some.inj hother
  rw [Call.ticket?, hready] at hotherwaits
  cases hotherwaits

/-- A call registers and sends its request: nothing can keep it from that. -/
theorem attempt_cases (hsmooth : Smooth h) (ht : Traffic h) (hn : Numbered h.state)
    (hfew : h.state.Unwrapped) {outside : Outside} {k : Nat}
    (hs : h.step? outside (.attempt k) = some h') :
    ∃ call u w messages a, h.state.calls[k]? = some call ∧ call.phase = .ready ∧
      h.state.users[call.user]? = some u ∧ h.state.workers[u.worker]? = some w ∧
      a = ⟨k, call.user, u.worker, w.client, u.consumer, call.method,
        ⟨u.consumer.uid, w.table.nextToken⟩, h.trace.heard.length⟩ ∧
      h'.state = (State.setTable { h.state with hub := { h.state.hub with
          coordinator := some (messages ++
            [Hub.stamp w.client (State.requestMessage call u w)]) } }
          u.worker (w.table.registered u.consumer.uid)).setCall k { call with
        attempted := h.state.now
        phase := .waiting a.ticket (h.state.now + w.options.requestTimeout.toNanos) } ∧
      h'.trace = { h.trace with
        sent := h.trace.sent ++ [a]
        requests := h.trace.requests ++ [a] } := by
  obtain ⟨hstep, htrace⟩ := History.step?_eq_some.1 hs
  obtain ⟨call, u, w, hk, hready, hu, hw, hcases⟩ := State.attempt?_cases hstep
  have htable := hsmooth.channels.tables w (List.mem_of_getElem? hw)
  rcases hcases with ⟨messages, -, -, -, hsends, hs'⟩ | ⟨e, he, -⟩
  · rw [Trace.record, hsends] at htrace
    exact ⟨call, u, w, messages, _, hk, hready, hu, hw, rfl, hs', htrace⟩
  · -- No channel has closed, and no other call of the user waits.
    exfalso
    rcases he with ⟨hclosed, -⟩ | ⟨⟨e, hmem, huid⟩, -⟩ | ⟨hnone, -⟩
    · rw [htable.1] at hclosed
      cases hclosed
    · refine hsmooth.free ht hn hfew hk hready hu e ?_ huid
      show e ∈ entriesOf h.state.workers u.worker
      rw [entriesOf_eq hw]
      exact hmem
    · exact hsmooth.channels.coordinator hnone

theorem attempt (hsmooth : Smooth h) (ht : Traffic h) (hn : Numbered h.state)
    (hfew : h.state.Unwrapped) {outside : Outside} {k : Nat}
    (hs : h.step? outside (.attempt k) = some h') : Smooth h' := by
  obtain ⟨call, u, w, messages, a, hk, hready, hu, hw, ha, hs', htrace⟩ :=
    hsmooth.attempt_cases ht hn hfew hs
  have htable := hsmooth.channels.tables w (List.mem_of_getElem? hw)
  have hgenuine : ∀ b ∈ h.trace.sent, b.call = k →
      b.method = call.method ∧ b.ticket.token < w.table.nextToken := by
    intro b hb hbk
    have hg := ht.genuine b hb
    obtain ⟨huser, hmethod⟩ := hg.of_call (by rw [hbk]; exact hk)
    have hbu := hg.user
    rw [← huser, hu] at hbu
    obtain rfl := Option.some.inj hbu
    exact ⟨hmethod.symm, (hg.of_worker hw).2⟩
  refine ⟨?_, ?_, ?_, ?_⟩
  · have hhub := hsmooth.channels.setHub { h.state.hub with
      coordinator := some (messages ++ [Hub.stamp w.client (State.requestMessage call u w)]) }
      (Option.some_ne_none _) (fun _ hc => hc) (fun _ hi => hi)
    rw [hs']
    refine (hhub.setTable u.worker (t := w.table.registered u.consumer.uid) htable.1
      ?_).congr rfl rfl
    intro e he
    rcases List.mem_append.1 he with hold | hnew
    · exact htable.2 e hold
    · rw [List.mem_singleton.1 hnew]
      intro hslot
      cases hslot
  · rw [hs']
    exact hsmooth.ordered.set hk (Call.not_over_of_ready hready) rfl
  · rw [htrace]
    exact hsmooth.travels.send _
  · rw [hs', htrace]
    subst ha
    refine hsmooth.told.send hk hready rfl rfl ?_ ?_ rfl rfl rfl
    · intro b hb hbk
      exact (hgenuine b hb hbk).1
    · intro b hb hbk
      exact Nat.le_of_lt (hgenuine b hb hbk).2

/-- A call that waits completes with the reply to the request that it waits with. -/
theorem complete_cases (hsmooth : Smooth h) (ht : Traffic h) {outside : Outside} {k : Nat}
    (hs : h.step? outside (.complete k) = some h') :
    ∃ call u w deadline x, h.state.calls[k]? = some call ∧
      call.phase = .waiting x.reply.attempt.ticket deadline ∧
      h.state.users[call.user]? = some u ∧ h.state.workers[u.worker]? = some w ∧
      x ∈ h.trace.heard ∧ x.resolves = some x.reply.attempt ∧
      x.reply.attempt ∈ h.trace.sent ∧ x.reply.attempt.call = k ∧
      x.reply.attempt.method = call.method ∧ x.reply.attempt.consumer = u.consumer ∧
      h'.state = (h.state.setTable u.worker (w.table.remove x.reply.attempt.ticket)).endAttempt k
        call u w (.ok x.reply.response) ∧
      h'.trace = h.trace := by
  obtain ⟨hstep, htrace⟩ := History.step?_eq_some.1 hs
  obtain ⟨call, ticket, deadline, u, w, reply, hk, hp, hu, hw, hreply, hs'⟩ :=
    State.complete?_cases hstep
  have htable := hsmooth.channels.tables w (List.mem_of_getElem? hw)
  have hticket := Traffic.ticket?_of_phase hp
  rcases Correlation.Table.outcome?_cases hreply with ⟨v, rfl, -⟩ | ⟨-, hclosed⟩
  · have hv : h.state.answer? k = some v := State.answer?_of_outcome hk hu hw hticket hreply
    obtain ⟨x, hx, a, hres, hcall, rfl, hwait⟩ := ht.resolved hv
    obtain rfl := hsmooth.own ht hx hres
    have ha := (ht.sound.resolves x hx _ hres).1
    have hat : x.reply.attempt.ticket = ticket :=
      Option.some.inj (hwait.symm.trans ((waitingOf_eq hk).trans hticket))
    obtain ⟨huser, hmethod⟩ := (ht.genuine _ ha).of_call (by rw [hcall]; exact hk)
    have hconsumer := (ht.genuine _ ha).user
    rw [← huser, hu] at hconsumer
    subst hat
    exact ⟨call, u, w, deadline, x, hk, hp, hu, hw, hx, hres, ha, hcall, hmethod.symm,
      (congrArg (·.consumer) (Option.some.inj hconsumer)).symm, hs', htrace⟩
  · exact absurd rfl (htable.2 _ hclosed)

theorem complete (hsmooth : Smooth h) (ht : Traffic h) {outside : Outside} {k : Nat}
    (hs : h.step? outside (.complete k) = some h') : Smooth h' := by
  obtain ⟨call, u, w, deadline, x, hk, hp, hu, hw, hx, hres, -, hcall, hmethod, -, hs', htrace⟩ :=
    hsmooth.complete_cases ht hs
  have htable := hsmooth.channels.tables w (List.mem_of_getElem? hw)
  obtain ⟨events, hend⟩ := (h.state.setTable u.worker
    (w.table.remove x.reply.attempt.ticket)).endAttempt_eq k call u w (.ok x.reply.response)
  rw [hend] at hs'
  have hlast : h.trace.IsLast k x.reply.attempt.ticket := by
    have htold := hsmooth.told.calls k call hk
    rw [Call.Told, hp] at htold
    exact htold
  refine hsmooth.quiet ?_ ?_ htrace ?_
  · rw [hs']
    refine (hsmooth.channels.setTable u.worker (t := w.table.remove x.reply.attempt.ticket)
      htable.1 ?_).congr rfl rfl
    intro e he
    exact htable.2 e (List.mem_filter.1 he).1
  · rw [hs']
    exact hsmooth.ordered.set hk (Call.not_over_of_ticket (Traffic.ticket?_of_phase hp))
      (Call.after_user ..)
  · rw [hs']
    refine hsmooth.told.set (Call.told_after ?_)
    intro isFirst elapsed result hnext
    exact ⟨x, hx, _, hres, hcall, hmethod, hlast, isFirst, elapsed, hnext⟩

/-- The coordinator takes a request and answers it, unless the request crashes it. -/
theorem serve (hsmooth : Smooth h) (ht : Traffic h) {outside : Outside} {position : Nat}
    (hs : h.step? outside (.serve position) = some h') :
    Smooth h' ∨ (∃ c crash, h'.state.service = .crashed c crash) ∧ h'.trace.Stranded := by
  obtain ⟨c, a, -, ha, hcases⟩ := ht.serve_cases hs
  have hsent := ht.sound.arrived a (List.mem_append_left _ (List.mem_of_getElem? ha))
  rcases hcases with ⟨fault, c', -, hs', htrace⟩ | ⟨x, c', hub, -, hs', hcases⟩
  · right
    refine ⟨⟨c', fault, by rw [hs']⟩, a, ?_, ?_, ?_⟩
    · rw [htrace]
      exact hsent
    · rw [htrace]
      exact List.not_mem_nil
    · rw [htrace]
      intro r hr hra
      exact List.disjoint_of_nodup_append ht.sound.once (List.mem_of_getElem? ha)
        (hra ▸ List.mem_map_of_mem hr)
  · left
    rcases hcases with ⟨-, -, hhub, htrace⟩ | ⟨hgone, -⟩
    · have hinbox : ∀ client, h.state.hub.inbox client ≠ none → hub.inbox client ≠ none := by
        intro client hi
        rw [hhub, Hub.inbox_setInbox]
        split
        · exact Option.some_ne_none _
        · exact hi
      have hcoordinator : h.state.hub.coordinator.remove position ≠ none := by
        rw [Inbox.remove, Ne, Option.map_eq_none_iff]
        exact hsmooth.channels.coordinator
      refine ⟨?_, ?_, ?_, ?_⟩
      · rw [hs']
        refine (hsmooth.channels.setHub { hub with
          coordinator := h.state.hub.coordinator.remove position } hcoordinator ?_ hinbox).congr
          rfl rfl
        intro client hc
        rw [hhub]
        exact hc
      · rw [hs']
        exact hsmooth.ordered
      · rw [htrace]
        exact hsmooth.travels.serve ht.sound (r := ⟨a, outside, x.response⟩) ha
      · rw [hs', htrace]
        exact hsmooth.told.mono rfl fun x hx => hx
    · exfalso
      obtain ⟨w, hw, hclient, -⟩ := (ht.genuine a hsent).worker
      obtain ⟨hconnected, hopen⟩ := hsmooth.channels.inboxes w (List.mem_of_getElem? hw)
      rw [hclient] at hconnected hopen
      rcases hgone with hnot | hnone
      · exact hnot hconnected
      · exact hopen hnone

/-- A worker reads a reply. -/
theorem receive (hsmooth : Smooth h) (ht : Traffic h) {outside : Outside} {worker position : Nat}
    (hs : h.step? outside (.receive worker position) = some h') : Smooth h' := by
  obtain ⟨w, r, hw, -, hr, -, -, hcases⟩ := ht.receive_cases hs
  have htable := hsmooth.channels.tables w (List.mem_of_getElem? hw)
  have htaken : Open (h.state.taken w.client position) := by
    refine hsmooth.channels.setHub _ hsmooth.channels.coordinator (fun _ hc => hc) ?_
    intro client hi
    rw [Hub.inbox_setInbox]
    split
    · next hc =>
      rw [hc] at hi
      rw [Inbox.remove, Ne, Option.map_eq_none_iff]
      exact hi
    · exact hi
  have hsmooth' : ∀ t resolves, (t.isClosed = false ∧ ∀ e ∈ t.entries, e.slot ≠ .closed) →
      h'.state = (h.state.taken w.client position).setTable worker t →
      h'.trace = { h.trace.setReplies w.client ((h.trace.replies w.client).eraseIdx position) with
        heard := h.trace.heard ++ [⟨r, resolves⟩] } → Smooth h' := by
    intro t resolves ht' hs' htrace
    refine ⟨?_, ?_, ?_, ?_⟩
    · rw [hs']
      exact htaken.setTable worker ht'.1 ht'.2
    · rw [hs']
      exact hsmooth.ordered
    · rw [htrace]
      exact hsmooth.travels.hear ht.sound hr resolves
    · rw [hs', htrace]
      exact hsmooth.told.mono rfl fun x hx => List.mem_append_left _ hx
  rcases hcases with ⟨-, hs', htrace⟩ | ⟨a, -, -, -, -, hs', htrace⟩
  · exact hsmooth' w.table none htable hs' htrace
  · refine hsmooth' (w.table.answered a.ticket r.response) (some a) ⟨htable.1, ?_⟩ hs' htrace
    intro e he
    obtain ⟨e', he', rfl⟩ := List.mem_map.1 he
    split
    · intro hslot
      cases hslot
    · exact htable.2 e' he'

/-- Nothing but a request that the coordinator takes can go wrong. -/
theorem keep (hsmooth : Smooth h) (ht : Traffic h) (hn : Numbered h.state)
    (hfew : h.state.Unwrapped) {outside : Outside} {a : Action} (ok : Unbroken h.state a)
    (hserve : ∀ position, a ≠ .serve position) (hs : h.step? outside a = some h') :
    Smooth h' := by
  obtain ⟨hstep, htrace⟩ := History.step?_eq_some.1 hs
  cases a with
  | serve position => exact absurd rfl (hserve position)
  | receive worker position => exact hsmooth.receive ht hs
  | attempt k => exact hsmooth.attempt ht hn hfew hs
  | complete k => exact hsmooth.complete ht hs
  | pass nanos =>
    have hs' := (Option.some.inj hstep).symm
    exact hsmooth.congr (by rw [hs']) (by rw [hs']) (by rw [hs']) htrace
  | wake k =>
    obtain ⟨call, deadline, hk, hp, hs'⟩ := State.wake?_cases hstep
    have htold : call.Told h.trace k := hsmooth.told.calls k call hk
    have hover : ¬ call.IsOver := by
      intro hover
      rw [Call.IsOver, Call.result?, hp] at hover
      cases hover
    rw [Call.Told, hp] at htold
    refine hsmooth.quiet ?_ ?_ htrace ?_
    · rw [hs']
      exact hsmooth.channels.congr rfl rfl
    · rw [hs']
      exact hsmooth.ordered.set hk hover rfl
    · rw [hs']
      exact hsmooth.told.set htold
  | connect client options keepsEvents =>
    obtain ⟨-, hs'⟩ := State.connect?_cases hstep
    refine hsmooth.quiet ?_ ?_ htrace ?_
    · rw [hs']
      exact hsmooth.channels.connect rfl rfl
    · rw [hs']
      exact hsmooth.ordered
    · rw [hs']
      exact hsmooth.told
  | join worker identifier =>
    obtain ⟨w, hw, hs'⟩ := State.join?_cases hstep
    have htable := hsmooth.channels.tables w (List.mem_of_getElem? hw)
    refine hsmooth.quiet ?_ ?_ htrace ?_
    · rw [hs']
      exact (hsmooth.channels.setTable worker
        (t := { w.table with lastUid := w.table.lastUid + 1 }) htable.1 htable.2).congr rfl rfl
    · rw [hs']
      exact hsmooth.ordered
    · rw [hs']
      exact hsmooth.told
  | begin user method =>
    have hs' := State.begin?_cases hstep
    refine hsmooth.quiet ?_ ?_ htrace ?_
    · rw [hs']
      exact hsmooth.channels.congr rfl rfl
    · rw [hs']
      exact hsmooth.ordered.concat ok
    · rw [hs']
      refine hsmooth.told.concat ?_ rfl
      intro a ha
      obtain ⟨call, hcall, -⟩ := (ht.genuine a ha).call
      exact (List.getElem?_eq_some_iff.1 hcall).1
  | testStop attempt =>
    obtain ⟨c, folder, hs'⟩ := State.testStop?_cases hstep
    exact hsmooth.congr (by rw [hs']; rfl) (by rw [hs']; rfl) (by rw [hs']; rfl) htrace
  | stop attempt =>
    obtain ⟨c, folder, hs'⟩ := State.stop?_cases hstep
    exact hsmooth.congr (by rw [hs']; rfl) (by rw [hs']; rfl) (by rw [hs']; rfl) htrace
  | _ => exact absurd ok id

end Smooth

/-- After an unbroken run nothing has gone wrong, or a request will never be answered. -/
theorem Run.smooth {c : Coordinator} {h : History} (run : Run Unbroken (History.start c) h)
    (hfew : h.state.Unwrapped) : Smooth h ∨ h.trace.Stranded := by
  induction run with
  | nil => exact .inl (.start c)
  | @snoc before after outside a run ok hs ih =>
    have honest := run.mono fun _ _ => Unbroken.honest
    have ht := honest.traffic
    have hfew' := hfew.of_grows (.of_step? (History.step?_eq_some.1 hs).1)
    rcases ih hfew' with hsmooth | hstranded
    · by_cases hserve : ∃ position, a = .serve position
      · obtain ⟨position, rfl⟩ := hserve
        exact (hsmooth.serve ht hs).imp_right (·.2)
      · exact .inl (hsmooth.keep ht honest.numbered hfew' ok
          (fun position heq => hserve ⟨position, heq⟩) hs)
    · exact .inr (hstranded.step (ht.step ok.honest hs) hs)

end LoadTest.Cluster
