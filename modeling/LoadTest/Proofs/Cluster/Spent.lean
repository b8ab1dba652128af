import LoadTest.Proofs.Cluster.Calm
/-!
# Spent requests

A call has one request at a time to wait for. The requests before it have brought nothing: the
call has given them up, or it has gone on after the reply. Once a call has answered, that is
true of all its requests but the one that has brought the answer.
-/

namespace LoadTest

namespace Method

/-- A call answers nothing after an attempt that has failed. -/
theorem next_of_error (m : Method) (isFirst : Bool) (elapsed : Duration) (e : Error) :
    m.next isFirst elapsed (.error e) = .again ∨
      ∃ e', m.next isFirst elapsed (.error e) = .finish (.error e') := by
  rcases m.next_error_cases isFirst elapsed e with hfail | ⟨-, key, wait, -, hnext⟩
  · exact .inr ⟨e, hfail⟩
  · rw [hnext]
    rcases emptyPop_cases key wait elapsed with hagain | ⟨limit, -, hfail⟩
    · exact .inl hagain
    · exact .inr ⟨_, hfail⟩

end Method

namespace Cluster

/-- A request has brought its call nothing: the call has given it up, or it has gone on after
the reply that it got. -/
def Trace.Fruitless (t : Trace) (m : Method) (a : Attempt) : Prop :=
  a ∈ t.lost ∨ ∃ x ∈ t.heard, x.resolves = some a ∧ ∃ isFirst elapsed,
    m.next isFirst elapsed (m.read x.reply.response) = .again

/-- A request has brought its call an answer. -/
def Trace.Brings (t : Trace) (m : Method) (a : Attempt) (answer : Answer) : Prop :=
  ∃ x ∈ t.heard, x.resolves = some a ∧ ∃ isFirst elapsed,
    m.next isFirst elapsed (m.read x.reply.response) = .finish (.ok answer)

/-- The requests of a call have brought nothing, except the one that it waits with and the one
that has brought its answer. -/
def Call.Spent (c : Call) (t : Trace) (call : Nat) : Prop :=
  match c.phase with
  | .ready | .sleeping _ => ∀ a ∈ t.sent, a.call = call → t.Fruitless c.method a
  | .waiting ticket _ => ∀ a ∈ t.sent, a.call = call → a.ticket ≠ ticket → t.Fruitless c.method a
  | .finished (.ok answer) => ∃ w, w.call = call ∧ t.Brings c.method w answer ∧
      ∀ a ∈ t.sent, a.call = call → a ≠ w → t.Fruitless c.method a
  | .finished (.error _) | .cancelled => True

section Calls

variable {t t' : Trace} {c : Call} {a : Action} {call now : Nat} {w : Worker}

theorem Trace.Fruitless.mono {m : Method} {b : Attempt} (h : t.Fruitless m b)
    (hext : t.Extends t' a) : t'.Fruitless m b := by
  rcases h with hlost | ⟨x, hx, hnext⟩
  · exact .inl (hext.lost b hlost)
  · exact .inr ⟨x, hext.heard x hx, hnext⟩

/-- What other calls do makes no difference to a call. -/
theorem Call.Spent.mono (h : c.Spent t call) (hext : t.Extends t' a) (ha : a ≠ .attempt call) :
    c.Spent t' call := by
  have hsent : ∀ b ∈ t'.sent, b.call = call → b ∈ t.sent := by
    rintro b hb rfl
    rcases hext.fresh b hb with hold | hnew
    · exact hold
    · exact absurd hnew ha
  obtain ⟨user, method, began, attempted, isFirst, phase⟩ := c
  cases phase with
  | ready => exact fun b hb hcall => (h b (hsent b hb hcall) hcall).mono hext
  | sleeping deadline => exact fun b hb hcall => (h b (hsent b hb hcall) hcall).mono hext
  | waiting ticket deadline =>
    exact fun b hb hcall hne => (h b (hsent b hb hcall) hcall hne).mono hext
  | finished result =>
    cases result with
    | error e => trivial
    | ok answer =>
      obtain ⟨b, hcall, ⟨x, hx, hnext⟩, hothers⟩ := h
      refine ⟨b, hcall, ⟨x, hext.heard x hx, hnext⟩, ?_⟩
      exact fun b' hb' hcall' hne => (hothers b' (hsent b' hb' hcall') hcall' hne).mono hext
  | cancelled => trivial

/-- An attempt has failed, and none of the requests has brought anything. -/
theorem Call.spent_of_error (h : ∀ b ∈ t.sent, b.call = call → t.Fruitless c.method b)
    (e : Error) : (c.after now w (.error e)).Spent t call := by
  unfold Call.after
  rcases c.method.next_of_error c.isFirst (.ofNanos (now - c.began)) e with hagain | ⟨e', hfail⟩
  · simp only [Method.outcome, hagain]
    exact h
  · simp only [Method.outcome, hfail]
    trivial

/-- An attempt has got a reply, and none of the other requests has brought anything. -/
theorem Call.spent_of_reply {b : Attempt} (hcall : b.call = call) {x : Heard} (hx : x ∈ t.heard)
    (hres : x.resolves = some b)
    (h : ∀ b' ∈ t.sent, b'.call = call → b' ≠ b → t.Fruitless c.method b') :
    (c.after now w (.ok x.reply.response)).Spent t call := by
  unfold Call.after
  cases hnext : c.method.next c.isFirst (.ofNanos (now - c.began))
      (c.method.outcome (.ok x.reply.response)) with
  | again =>
    intro b' hb' hcall'
    by_cases hne : b' = b
    · rw [hne]
      exact .inr ⟨x, hx, hres, _, _, hnext⟩
    · exact h b' hb' hcall' hne
  | finish result =>
    cases result with
    | error e => trivial
    | ok answer => exact ⟨b, hcall, ⟨x, hx, hres, _, _, hnext⟩, h⟩

end Calls

/-! ## Whole runs -/

/-- The requests of all calls have brought nothing, except those that calls wait with and those
that have brought an answer. -/
def History.Spent (h : History) : Prop :=
  ∀ (k : Nat) (c : Call), h.state.calls[k]? = some c → c.Spent h.trace k

namespace History.Spent

variable {h h' : History} {outside : Outside} {a : Action} {k : Nat} {c c' : Call}

/-- A step that leaves all calls as they are. -/
theorem quiet (hspent : h.Spent) (hs : h.step? outside a = some h')
    (hcalls : h'.state.calls = h.state.calls) (ha : ∀ k, a ≠ .attempt k) : h'.Spent := by
  intro j d hj
  rw [hcalls] at hj
  have hext := h.trace.record_extends outside h.state a
  rw [← (History.step?_eq_some.1 hs).2] at hext
  exact (hspent j d hj).mono hext (ha j)

/-- A step of one call. -/
theorem set (hspent : h.Spent) (hs : h.step? outside a = some h')
    (hcalls : h'.state.calls = h.state.calls.set k c') (ha : ∀ j, j ≠ k → a ≠ .attempt j)
    (hnew : c'.Spent h'.trace k) : h'.Spent := by
  intro j d hj
  rw [hcalls] at hj
  rcases getElem?_set_cases hj with ⟨rfl, rfl⟩ | ⟨hne, hold⟩
  · exact hnew
  · have hext := h.trace.record_extends outside h.state a
    rw [← (History.step?_eq_some.1 hs).2] at hext
    exact (hspent j d hold).mono hext (ha j hne)

/-- What a call that waits has sent before its last request has brought nothing. -/
theorem others (hspent : h.Spent) (ht : Traffic h) (hc : h.state.calls[k]? = some c)
    {ticket : Correlation.Ticket} {deadline : Nat} (hp : c.phase = .waiting ticket deadline)
    {b : Attempt} (hb : b ∈ h.trace.sent) (hcall : b.call = k) (hticket : b.ticket = ticket) :
    ∀ b' ∈ h.trace.sent, b'.call = k → b' ≠ b → h.trace.Fruitless c.method b' := by
  have hphase := hspent k c hc
  rw [Call.Spent, hp] at hphase
  intro b' hb' hcall' hne
  refine hphase b' hb' hcall' fun heq => hne ?_
  exact ht.eq_of_waiting hb' hb (hcall'.trans hcall.symm) (heq.trans hticket.symm)

theorem attempt (hspent : h.Spent) (hs : h.step? outside (.attempt k) = some h') : h'.Spent := by
  obtain ⟨hstep, htrace⟩ := History.step?_eq_some.1 hs
  obtain ⟨c, u, w, hc, hready, -, -, hcases⟩ := State.attempt?_cases hstep
  have hphase := hspent k c hc
  rw [Call.Spent, hready] at hphase
  have hother : ∀ j, j ≠ k → Action.attempt k ≠ .attempt j :=
    fun j hne heq => hne (Action.attempt.inj heq).symm
  rcases hcases with ⟨messages, -, -, -, hsends, hs'⟩ | ⟨e, -, hsends, hs'⟩
  · refine hspent.set hs (by rw [hs']; rfl) hother ?_
    intro b hb hcall hne
    have hext := h.trace.record_extends outside h.state (.attempt k)
    rw [← htrace] at hext
    rw [htrace, Trace.record, hsends] at hb
    rcases List.mem_append.1 hb with hold | hnew
    · exact (hphase b hold hcall).mono hext
    · rw [List.mem_singleton.1 hnew] at hne
      exact absurd rfl hne
  · obtain ⟨events, hend⟩ := (h.state.setTable u.worker w.table.refused).endAttempt_eq k
      { c with attempted := h.state.now } u w (.error e)
    rw [hend] at hs'
    refine hspent.set hs (by rw [hs']; rfl) hother (Call.spent_of_error ?_ e)
    rw [htrace, Trace.record, hsends]
    exact hphase

theorem complete (hspent : h.Spent) (ht : Traffic h)
    (hs : h.step? outside (.complete k) = some h') : h'.Spent := by
  obtain ⟨hstep, htrace⟩ := History.step?_eq_some.1 hs
  have htrace : h'.trace = h.trace := htrace
  obtain ⟨c, ticket, deadline, u, w, reply, hc, hp, hu, hw, hreply, hs'⟩ :=
    State.complete?_cases hstep
  have hticket := Traffic.ticket?_of_phase hp
  obtain ⟨events, hend⟩ := (h.state.setTable u.worker (w.table.remove ticket)).endAttempt_eq k c
    u w reply
  rw [hend] at hs'
  refine hspent.set hs (by rw [hs']; rfl) (fun j _ heq => by cases heq) ?_
  rw [htrace]
  rcases Correlation.Table.outcome?_cases hreply with ⟨v, rfl, -⟩ | ⟨rfl, hclosed⟩
  · obtain ⟨x, hx, b, hres, hcall, rfl, hwait⟩ :=
      ht.resolved (State.answer?_of_outcome hc hu hw hticket hreply)
    have hb := (ht.sound.resolves x hx b hres).1
    have hbt : b.ticket = ticket :=
      Option.some.inj (hwait.symm.trans ((waitingOf_eq hc).trans hticket))
    exact Call.spent_of_reply hcall hx hres (hspent.others ht hc hp hb hcall hbt)
  · obtain ⟨b, hb, hcall, hbt, -, -, hworker, -, -⟩ := ht.attempt_of_waiting hc hticket hu
    have hlost : b ∈ h.trace.lost := by
      rw [← entriesOf_eq hw] at hclosed
      obtain ⟨b', hb', hworker', hbt', -, hexplained⟩ := ht.registered.entry u.worker _ hclosed
      obtain rfl := ht.sound.eq_of_ticket hb' hb (hworker'.trans hworker.symm)
        (hbt'.trans hbt.symm)
      exact hexplained
    refine Call.spent_of_error ?_ _
    intro b' hb' hcall'
    by_cases hne : b' = b
    · rw [hne]
      exact .inl hlost
    · exact hspent.others ht hc hp hb hcall hbt b' hb' hcall' hne

theorem expire (hspent : h.Spent) (ht : Traffic h)
    (hs : h.step? outside (.expire k) = some h') : h'.Spent := by
  obtain ⟨hstep, htrace⟩ := History.step?_eq_some.1 hs
  obtain ⟨c, ticket, deadline, u, w, hc, hp, hu, hw, -, hs'⟩ := State.expire?_cases hstep
  have hext := h.trace.record_extends outside h.state (.expire k)
  rw [← htrace] at hext
  rw [Trace.record, Traffic.lose_eq hc hp hu hw] at htrace
  obtain ⟨events, hend⟩ := (h.state.setTable u.worker (w.table.remove ticket)).endAttempt_eq k c
    u w (.error (.noDataReceived w.options.requestTimeout))
  rw [hend] at hs'
  refine hspent.set hs (by rw [hs']; rfl) (fun j _ heq => by cases heq)
    (Call.spent_of_error ?_ _)
  obtain ⟨b, hb, hcall, hbt, -, -, hworker, -, -⟩ :=
    ht.attempt_of_waiting hc (Traffic.ticket?_of_phase hp) hu
  intro b' hb' hcall'
  by_cases hne : b' = b
  · left
    rw [hne, htrace]
    exact ht.mem_lose hb hworker hbt
  · rw [htrace] at hb'
    exact (hspent.others ht hc hp hb hcall hbt b' hb' hcall' hne).mono hext

/-- Whatever an honest step does, the requests of all calls stay spent. -/
theorem step (hspent : h.Spent) (ht : Traffic h) (ok : Honest h.state a)
    (hs : h.step? outside a = some h') : h'.Spent := by
  obtain ⟨hstep, htrace⟩ := History.step?_eq_some.1 hs
  cases a with
  | attempt k => exact hspent.attempt hs
  | complete k => exact hspent.complete ht hs
  | expire k => exact hspent.expire ht hs
  | cancel k =>
    obtain ⟨c, -, ⟨-, hs'⟩ | ⟨ticket, deadline, u, w, -, -, -, hs'⟩⟩ := State.cancel?_cases hstep
    · refine hspent.set hs (by rw [hs']; rfl) (fun j _ heq => by cases heq) ?_
      trivial
    · refine hspent.set hs (by rw [hs']; rfl) (fun j _ heq => by cases heq) ?_
      trivial
  | wake k =>
    obtain ⟨c, deadline, hc, hp, hs'⟩ := State.wake?_cases hstep
    have hphase := hspent k c hc
    rw [Call.Spent, hp] at hphase
    refine hspent.set hs (by rw [hs']; rfl) (fun j _ heq => by cases heq) ?_
    have htrace : h'.trace = h.trace := htrace
    rw [htrace]
    exact hphase
  | begin user method =>
    have hs' := State.begin?_cases hstep
    have htrace : h'.trace = h.trace := htrace
    intro j c hj
    rw [hs'] at hj
    rw [htrace]
    rcases Nat.lt_or_ge j h.state.calls.length with hlt | hge
    · rw [List.getElem?_append_left hlt] at hj
      exact hspent j c hj
    · rw [List.getElem?_append_right hge] at hj
      rw [List.mem_singleton.1 (List.mem_of_getElem? hj)]
      intro b hb hcall
      obtain ⟨c', hc', -⟩ := (ht.genuine b hb).call
      have hlt := (List.getElem?_eq_some_iff.1 hc').1
      omega
  | serve position =>
    obtain ⟨c, m, -, -, hs'⟩ := State.serve?_cases ht.noScript hstep
    refine hspent.quiet hs ?_ (fun k heq => by cases heq)
    rw [hs', (State.serveMessage_frame ..).calls]
  | receive worker position =>
    obtain ⟨w, m, -, -, -, hs'⟩ := State.receive?_cases hstep
    exact hspent.quiet hs (by rw [hs']; rfl) (fun k heq => by cases heq)
  | endReplies worker =>
    obtain ⟨w, -, -, hs'⟩ := State.endReplies?_cases hstep
    exact hspent.quiet hs (by rw [hs']; rfl) (fun k heq => by cases heq)
  | connect client options keepsEvents =>
    obtain ⟨-, hs'⟩ := State.connect?_cases hstep
    exact hspent.quiet hs (by rw [hs']) (fun k heq => by cases heq)
  | join worker identifier =>
    obtain ⟨w, -, hs'⟩ := State.join?_cases hstep
    exact hspent.quiet hs (by rw [hs']; rfl) (fun k heq => by cases heq)
  | pass nanos =>
    have hs' := (Option.some.inj hstep).symm
    exact hspent.quiet hs (by rw [hs']) (fun k heq => by cases heq)
  | disconnect worker =>
    obtain ⟨w, -, hs'⟩ := Option.bind_eq_some_iff.1 hstep
    have hs' := (Option.some.inj hs').symm
    exact hspent.quiet hs (by rw [hs']) (fun k heq => by cases heq)
  | dropWorker worker =>
    obtain ⟨w, -, hs'⟩ := Option.bind_eq_some_iff.1 hstep
    have hs' := (Option.some.inj hs').symm
    exact hspent.quiet hs (by rw [hs']) (fun k heq => by cases heq)
  | closeService =>
    have hs' := (Option.some.inj hstep).symm
    exact hspent.quiet hs (by rw [hs']; rfl) (fun k heq => by cases heq)
  | testStop attempt =>
    obtain ⟨c, folder, hs'⟩ := State.testStop?_cases hstep
    exact hspent.quiet hs (by rw [hs']; rfl) (fun k heq => by cases heq)
  | stop attempt =>
    obtain ⟨c, folder, hs'⟩ := State.stop?_cases hstep
    exact hspent.quiet hs (by rw [hs']; rfl) (fun k heq => by cases heq)
  | inject worker topic data => exact absurd ok id
  | perform =>
    cases hservice : h.state.service with
    | script script => exact absurd hservice (ht.noScript script)
    | _ => simp [State.step?, State.perform?, hservice] at hstep

end History.Spent

theorem Run.spent {c : Coordinator} {h : History} (run : Run Honest (History.start c) h) :
    h.Spent := by
  induction run with
  | nil =>
    intro k c hk
    cases hk
  | snoc run ok hs ih => exact ih.step run.traffic ok hs

end Cluster

end LoadTest
