import LoadTest.Proofs.Accounts
import LoadTest.Proofs.Cluster.Smooth
/-!
# What both ends report

The coordinator makes the event of a request from the fields of the message that has arrived,
and a worker from what its user has asked for. After an unbroken run in which all calls are
over, the events of both ends are those of the same requests.
-/

namespace LoadTest

/-! ## The event of a request -/

/-- The coordinator finds in a request the fields that were written. -/
theorem Coordinator.eventOf_toJson (r : Request) (took : Duration) (error : Option String) :
    eventOf r.toJson took error =
      ⟨r.kind?, .producer, r.identifier, r.action, r.key, took, error⟩ := by
  have hread := Request.ofJson_toJson r
  obtain ⟨hidentifier, haction, hkey⟩ := (eventOf_names hread took error).2 (.inl ⟨_, rfl⟩)
  have hkind : (eventOf r.toJson took error).kind = r.kind? := kindOf_of_ok hread
  rw [← hidentifier, ← haction, ← hkey, ← hkind]
  rfl

/-- The event of the coordinator names what a call has asked for. -/
theorem Method.eventOf_request (m : Method) (identifier : String) (took : Duration)
    (error : Option String) :
    Coordinator.eventOf (m.request identifier).toJson took error =
      ⟨some m.kind, .producer, identifier, m.target?.map (·.1.name), m.target?.map (·.2), took,
        error⟩ := by
  rw [Coordinator.eventOf_toJson, request, kind]
  cases m.target? with
  | none => rfl
  | some target => rfl

/-- The coordinator reports no error of a request for test data, and one of a request to the
keystore exactly if the call reads one. -/
theorem Method.error_of_dispatch {m : Method} {c c' : Coordinator} {outside : Outside}
    {identifier : String} {d : Dispatched}
    (h : c.dispatch outside (m.request identifier) = (.ok d, c')) :
    (m.kind = .testdata ∧ d.error = none) ∨
      (m.kind = .keystore ∧ d.error.isSome = !(m.read d.response).isOk) := by
  cases ht : m.target? with
  | none =>
    left
    refine ⟨by rw [kind, ht], ?_⟩
    rw [request, ht] at h
    have hkind : (Request.testdata identifier).kind? = some .testdata := rfl
    simp only [Coordinator.dispatch, hkind] at h
    rcases hserve : c.producer.handle outside.read (Request.testdata identifier).identifier
      with ⟨crash | served, p⟩
    · rw [hserve] at h
      cases h
    · rw [hserve] at h
      cases h
      rfl
  | some target =>
    obtain ⟨action, key⟩ := target
    right
    refine ⟨by rw [kind, ht], ?_⟩
    rw [request, ht] at h
    have hkind : (Request.keystore identifier action key m.data?).kind? = some .keystore := rfl
    simp only [Coordinator.dispatch, hkind, Prod.mk.injEq, Except.ok.injEq] at h
    obtain ⟨rfl, -⟩ := h
    rw [read, ht]
    simp only [readKeystore, KeystoreResponse.ofJson_toJson]
    cases (c.keystore.handle (.keystore identifier action key m.data?)).1.error with
    | none => rfl
    | some text => rfl

namespace Cluster

open Transport

/-- The event that a worker leaves of a request whose reply a call has taken. -/
def Reply.Consumes (r : Reply) (e : Event) : Prop :=
  ∃ took, e = r.attempt.method.event r.attempt.consumer.identifier took
    (r.attempt.method.read r.response)

/-- The event that the coordinator leaves of a request that it has answered. -/
def Reply.Produces (r : Reply) (e : Event) : Prop :=
  ∃ took error, e = Coordinator.eventOf r.attempt.request.toJson took error ∧
    ((r.attempt.method.kind = .testdata ∧ error = none) ∨
      (r.attempt.method.kind = .keystore ∧
        error.isSome = !(r.attempt.method.read r.response).isOk))

/-- The two events of one request. -/
structure Report where
  attempt : Attempt
  consumed : Event
  produced : Event

/-- Two events tell of one request, each from its own end: of the same kind of request, of the
same scenario, action and key, and for the keystore of the same success or failure. -/
structure Report.Agrees (r : Report) : Prop where
  roles : r.consumed.role = .consumer ∧ r.produced.role = .producer
  kind : r.consumed.kind = some r.attempt.method.kind ∧ r.produced.kind = r.consumed.kind
  identifier : r.consumed.identifier = r.attempt.consumer.identifier ∧
    r.produced.identifier = r.consumed.identifier
  action : r.consumed.action = r.attempt.method.target?.map (·.1.name) ∧
    r.produced.action = r.consumed.action
  key : r.consumed.key = r.attempt.method.target?.map (·.2) ∧ r.produced.key = r.consumed.key
  keystore : r.attempt.method.kind = .keystore → r.produced.isFailure = r.consumed.isFailure
  testdata : r.attempt.method.kind = .testdata → r.produced.isFailure = false

/-- The events that both ends leave of one request agree. -/
theorem Reply.agrees {r : Reply} {consumed produced : Event} (hc : r.Consumes consumed)
    (hp : r.Produces produced) : Report.Agrees ⟨r.attempt, consumed, produced⟩ := by
  obtain ⟨took, rfl⟩ := hc
  obtain ⟨took', error, rfl, herror⟩ := hp
  rw [Attempt.request, Method.eventOf_request]
  refine ⟨⟨rfl, rfl⟩, ⟨rfl, rfl⟩, ⟨rfl, rfl⟩, ⟨rfl, rfl⟩, ⟨rfl, rfl⟩, ?_, ?_⟩
  · intro hkind
    rcases herror with ⟨htestdata, -⟩ | ⟨-, herror⟩
    · rw [htestdata] at hkind
      cases hkind
    · show error.isSome = (Method.event _ _ _ _).error.isSome
      rw [herror]
      unfold Method.event
      cases r.attempt.method.read r.response <;> rfl
  · intro hkind
    rcases herror with ⟨-, rfl⟩ | ⟨hkeystore, -⟩
    · rfl
    · rw [hkeystore] at hkind
      cases hkind

/-! ## What steps leave alone -/

section Steps

variable {s s' : State} {outside : Outside} {a : Action}

/-- Between two states no event was left, and the same calls wait. -/
structure State.Silent (s s' : State) : Prop where
  waiting : s'.view.waiting = s.view.waiting
  consumed : s'.consumed = s.consumed
  produced : s'.produced = s.produced

/-- No event is left but of a request that is answered and of a reply that a call takes, and
calls wait only after an attempt. -/
theorem State.silent_of_step? (ok : Unbroken s a) (hserve : ∀ position, a ≠ .serve position)
    (hattempt : ∀ k, a ≠ .attempt k) (hcomplete : ∀ k, a ≠ .complete k)
    (h : s.step? outside a = some s') : s.Silent s' := by
  cases a with
  | serve position => exact absurd rfl (hserve position)
  | attempt k => exact absurd rfl (hattempt k)
  | complete k => exact absurd rfl (hcomplete k)
  | receive worker position =>
    obtain ⟨w, m, -, -, -, rfl⟩ := State.receive?_cases h
    exact ⟨rfl, rfl, rfl⟩
  | wake k =>
    obtain ⟨c, deadline, hc, hp, rfl⟩ := State.wake?_cases h
    refine ⟨?_, rfl, rfl⟩
    have hnone : s.view.waiting k = none := (waitingOf_eq hc).trans (by rw [Call.ticket?, hp])
    rw [view_setCall hc]
    show Function.update s.view.waiting k none = _
    rw [← hnone, Function.update_eq_self]
  | connect client options keepsEvents =>
    obtain ⟨-, rfl⟩ := State.connect?_cases h
    exact ⟨rfl, rfl, rfl⟩
  | join worker identifier =>
    obtain ⟨w, -, rfl⟩ := State.join?_cases h
    exact ⟨rfl, rfl, rfl⟩
  | begin user method =>
    cases State.begin?_cases h
    exact ⟨waitingOf_concat rfl, rfl, rfl⟩
  | pass nanos =>
    cases h
    exact ⟨rfl, rfl, rfl⟩
  | testStop attempt =>
    obtain ⟨c, folder, rfl⟩ := State.testStop?_cases h
    exact ⟨rfl, rfl, rfl⟩
  | stop attempt =>
    obtain ⟨c, folder, rfl⟩ := State.stop?_cases h
    exact ⟨rfl, rfl, rfl⟩
  | _ => exact absurd ok id

end Steps

/-! ## The events of a run -/

/-- The coordinator has left one event of each request that it has answered, and the workers one
of each reply that a call has taken. Every request has a call that waits with it, or its reply
was taken. -/
structure Recorded (h : History) (taken : List Reply) : Prop where
  produced : List.Forall₂ Reply.Produces h.trace.served h.state.produced
  consumed : List.Forall₂ Reply.Consumes taken h.state.consumed
  served : ∀ r ∈ taken, r ∈ h.trace.served
  once : taken.Nodup
  settled : ∀ r ∈ taken, h.state.view.waiting r.attempt.call ≠ some r.attempt.ticket
  requests : ∀ a ∈ h.trace.sent, h.state.view.waiting a.call = some a.ticket ∨
    ∃ r ∈ taken, r.attempt = a

namespace Recorded

variable {h h' : History} {taken : List Reply} {outside : Outside}

theorem start (c : Coordinator) : Recorded (History.start c) [] where
  produced := .nil
  consumed := .nil
  served := by
    intro r hr
    cases hr
  once := .nil
  settled := by
    intro r hr
    cases hr
  requests := by
    intro a ha
    cases ha

/-- Where no event is left and nothing is sent, nothing has to be shown. -/
theorem silent (hrec : Recorded h taken) (hs : h.state.Silent h'.state)
    (hserved : h'.trace.served = h.trace.served)
    (hsent : ∀ a ∈ h'.trace.sent, a ∈ h.trace.sent) : Recorded h' taken where
  produced := by
    rw [hserved, hs.produced]
    exact hrec.produced
  consumed := by
    rw [hs.consumed]
    exact hrec.consumed
  served := by
    rw [hserved]
    exact hrec.served
  once := hrec.once
  settled := by
    rw [hs.waiting]
    exact hrec.settled
  requests := by
    rw [hs.waiting]
    exact fun a ha => hrec.requests a (hsent a ha)

/-- A call sends a request and waits with it. -/
theorem attempt (hrec : Recorded h taken) (hsmooth : Smooth h) (ht : Traffic h)
    (ht' : Traffic h') (hn : Numbered h.state) (hfew : h.state.Unwrapped) {k : Nat}
    (hs : h.step? outside (.attempt k) = some h') : Recorded h' taken := by
  obtain ⟨call, u, w, messages, a, hk, hready, hu, hw, ha, hs', htrace⟩ :=
    hsmooth.attempt_cases ht hn hfew hs
  have hcall : a.call = k := by rw [ha]
  have hidle : h.state.view.waiting k = none :=
    (waitingOf_eq hk).trans (by rw [Call.ticket?, hready])
  have hwaiting : h'.state.view.waiting =
      Function.update h.state.view.waiting k (some a.ticket) := by
    rw [hs', view_setCall]
    · rfl
    · exact hk
  have hids := ht'.sound.ids
  have hsent : a ∈ h'.trace.sent := by
    rw [htrace]
    exact List.mem_append_right _ (List.mem_singleton.2 rfl)
  refine ⟨?_, ?_, ?_, hrec.once, ?_, ?_⟩
  · rw [htrace, hs']
    exact hrec.produced
  · rw [hs']
    exact hrec.consumed
  · rw [htrace]
    exact hrec.served
  · intro r hr
    rw [hwaiting]
    by_cases heq : r.attempt.call = k
    · rw [heq, Function.update_self]
      intro hticket
      -- No ticket is given out twice, so the new request is none of those answered before.
      have hold := ht.sound.mem_sent (hrec.served r hr)
      have hold' : r.attempt ∈ h'.trace.sent := by
        rw [htrace]
        exact List.mem_append_left _ hold
      have hsame := ht'.eq_of_waiting hold' hsent (heq.trans hcall.symm)
        (Option.some.inj hticket).symm
      rw [htrace, List.map_append, List.nodup_append'] at hids
      exact hids.2.2 (List.mem_map_of_mem hold) (by rw [hsame]; exact List.mem_singleton.2 rfl)
    · rw [Function.update_of_ne heq]
      exact hrec.settled r hr
  · intro b hb
    rw [htrace] at hb
    rw [hwaiting]
    rcases List.mem_append.1 hb with hold | hnew
    · refine (hrec.requests b hold).imp_left ?_
      intro hwait
      have hne : b.call ≠ k := by
        intro heq
        rw [heq, hidle] at hwait
        cases hwait
      rw [Function.update_of_ne hne]
      exact hwait
    · left
      rw [List.mem_singleton.1 hnew, hcall, Function.update_self]

/-- A call takes the reply to its request, and its worker leaves an event. -/
theorem complete (hrec : Recorded h taken) (hsmooth : Smooth h) (ht : Traffic h)
    (hkeeps : ∀ w ∈ h.state.workers, w.keepsEvents = true) {k : Nat}
    (hs : h.step? outside (.complete k) = some h') : ∃ taken', Recorded h' taken' := by
  obtain ⟨call, u, w, deadline, x, hk, hp, hu, hw, hx, hres, hsent, hcall, hmethod, hconsumer,
    hs', htrace⟩ := hsmooth.complete_cases ht hs
  have hwait : h.state.view.waiting k = some x.reply.attempt.ticket :=
    (waitingOf_eq hk).trans (Traffic.ticket?_of_phase hp)
  have hwaiting : h'.state.view.waiting = Function.update h.state.view.waiting k none := by
    rw [hs', view_endAttempt]
    · rfl
    · exact hk
  refine ⟨taken ++ [x.reply], ?_, ?_, ?_, ?_, ?_, ?_⟩
  · obtain ⟨events, hend⟩ := (h.state.setTable u.worker
      (w.table.remove x.reply.attempt.ticket)).endAttempt_eq k call u w (.ok x.reply.response)
    rw [htrace, hs', hend]
    exact hrec.produced
  · rw [hs', State.consumed_endAttempt _ _ _ _ _ (hkeeps w (List.mem_of_getElem? hw))]
    refine List.rel_append hrec.consumed
      (.cons ⟨.ofNanos (h.state.now - call.attempted), ?_⟩ .nil)
    rw [hmethod, hconsumer]
    rfl
  · rw [htrace]
    intro r hr
    rcases List.mem_append.1 hr with hold | hnew
    · exact hrec.served r hold
    · rw [List.mem_singleton.1 hnew]
      exact ht.sound.heard x hx
  · rw [List.nodup_append']
    refine ⟨hrec.once, List.nodup_singleton _, ?_⟩
    intro r hr hr'
    rw [List.mem_singleton.1 hr'] at hr
    exact hrec.settled _ hr (by rw [hcall]; exact hwait)
  · intro r hr
    rw [hwaiting]
    rcases List.mem_append.1 hr with hold | hnew
    · by_cases heq : r.attempt.call = k
      · rw [heq, Function.update_self]
        exact (Option.some_ne_none _).symm
      · rw [Function.update_of_ne heq]
        exact hrec.settled r hold
    · rw [List.mem_singleton.1 hnew, hcall, Function.update_self]
      exact (Option.some_ne_none _).symm
  · intro b hb
    rw [htrace] at hb
    rw [hwaiting]
    rcases hrec.requests b hb with hbwait | ⟨r, hr, hrb⟩
    · by_cases heq : b.call = k
      · right
        refine ⟨x.reply, List.mem_append_right _ (List.mem_singleton.2 rfl), ?_⟩
        rw [heq, hwait] at hbwait
        exact ht.eq_of_waiting hsent hb (hcall.trans heq.symm) (Option.some.inj hbwait)
      · left
        rw [Function.update_of_ne heq]
        exact hbwait
    · exact .inr ⟨r, List.mem_append_left _ hr, hrb⟩

/-- The coordinator takes a request. If it answers, it leaves an event. -/
theorem serve (hrec : Recorded h taken) (ht : Traffic h) {position : Nat}
    (hs : h.step? outside (.serve position) = some h') : Recorded h' taken := by
  have hsent : ∀ b ∈ h'.trace.sent, b ∈ h.trace.sent := by
    rw [(History.step?_eq_some.1 hs).2]
    intro b hb
    rcases (h.trace.record_extends ..).fresh b hb with hold | hattempt
    · exact hold
    · cases hattempt
  obtain ⟨c, a, -, -, ⟨crash, c', -, hs', htrace⟩ | ⟨d, c', hub, hd, hs', hcases⟩⟩ :=
    ht.serve_cases hs
  · exact hrec.silent ⟨by rw [hs']; rfl, by rw [hs'], by rw [hs']⟩ (by rw [htrace]) hsent
  · have hserved : h'.trace.served = h.trace.served ++ [⟨a, outside, d.response⟩] := by
      rcases hcases with ⟨-, -, -, htrace⟩ | ⟨-, -, htrace⟩
      · rw [htrace]
        rfl
      · rw [htrace]
    have hwaiting : h'.state.view.waiting = h.state.view.waiting := by
      rw [hs']
      rfl
    refine ⟨?_, ?_, ?_, hrec.once, ?_, ?_⟩
    · rw [hserved, hs']
      refine List.rel_append hrec.produced (.cons ⟨outside.took, d.error, rfl, ?_⟩ .nil)
      exact Method.error_of_dispatch hd
    · rw [hs']
      exact hrec.consumed
    · rw [hserved]
      exact fun r hr => List.mem_append_left _ (hrec.served r hr)
    · rw [hwaiting]
      exact hrec.settled
    · rw [hwaiting]
      exact fun b hb => hrec.requests b (hsent b hb)

/-- Every unbroken step of a smooth cluster is reported. -/
theorem step (hrec : Recorded h taken) (hsmooth : Smooth h) (ht : Traffic h)
    (ht' : Traffic h') (hn : Numbered h.state) (hfew : h.state.Unwrapped)
    (hkeeps : ∀ w ∈ h.state.workers, w.keepsEvents = true) {a : Action}
    (ok : Unbroken h.state a) (hs : h.step? outside a = some h') :
    ∃ taken', Recorded h' taken' := by
  obtain ⟨hstep, htrace⟩ := History.step?_eq_some.1 hs
  by_cases hserve : ∃ position, a = .serve position
  · obtain ⟨position, rfl⟩ := hserve
    exact ⟨taken, hrec.serve ht hs⟩
  by_cases hattempt : ∃ k, a = .attempt k
  · obtain ⟨k, rfl⟩ := hattempt
    exact ⟨taken, hrec.attempt hsmooth ht ht' hn hfew hs⟩
  by_cases hcomplete : ∃ k, a = .complete k
  · obtain ⟨k, rfl⟩ := hcomplete
    exact hrec.complete hsmooth ht hkeeps hs
  push Not at hserve hattempt hcomplete
  refine ⟨taken, hrec.silent (State.silent_of_step? ok hserve hattempt hcomplete hstep) ?_ ?_⟩
  · rw [htrace, Trace.record_served fun position _ heq => absurd heq (hserve position)]
  · rw [htrace]
    intro b hb
    rcases (h.trace.record_extends ..).fresh b hb with hold | heq
    · exact hold
    · exact absurd heq (hattempt _)

end Recorded

/-- After an unbroken run all that was answered is reported, or a request will never be
answered. -/
theorem Run.recorded {c : Coordinator} {h : History} (run : Run Unbroken (History.start c) h)
    (hfew : h.state.Unwrapped) (hkeeps : ∀ w ∈ h.state.workers, w.keepsEvents = true) :
    (∃ taken, Recorded h taken) ∨ h.trace.Stranded := by
  induction run with
  | nil => exact .inl ⟨[], .start c⟩
  | @snoc before after outside a run ok hs ih =>
    have honest := run.mono fun _ _ => Unbroken.honest
    have hstep := (History.step?_eq_some.1 hs).1
    have ht' := honest.traffic.step ok.honest hs
    have hfew' := hfew.of_grows (.of_step? hstep)
    have hkeeps' : ∀ w ∈ before.state.workers, w.keepsEvents = true := by
      intro w hw
      have hworkers := map_workers_of_step? (f := (·.keepsEvents)) (fun _ _ _ => rfl) hstep
      obtain ⟨w', hw', heq⟩ := List.mem_map.1 (hworkers.subset (List.mem_map_of_mem hw))
      rw [← heq]
      exact hkeeps w' hw'
    rcases run.smooth hfew', ih hfew' hkeeps' with ⟨hsmooth | hstranded, ⟨taken, hrec⟩ | hstranded'⟩
    · exact .inl (hrec.step hsmooth honest.traffic ht' honest.numbered hfew' hkeeps' ok hs)
    · exact .inr (hstranded'.step ht' hs)
    · exact .inr (hstranded.step ht' hs)
    · exact .inr (hstranded.step ht' hs)

/-! ## Both ends -/

/-- No call waits once all calls are over. -/
theorem State.waiting_eq_none {s : State} (hover : ∀ call ∈ s.calls, call.IsOver) (k : Nat) :
    s.view.waiting k = none := by
  show waitingOf s.calls k = none
  cases hc : s.calls[k]? with
  | none =>
    rw [waitingOf, hc]
    rfl
  | some call =>
    rw [waitingOf_eq hc, Option.eq_none_iff_forall_ne_some]
    intro ticket hticket
    exact Call.not_over_of_ticket hticket (hover call (List.mem_of_getElem? hc))

/-- The call of a request that is never answered never ends. -/
theorem Run.not_stranded {c : Coordinator} {h : History} (run : Run Unbroken (History.start c) h)
    (hover : ∀ call ∈ h.state.calls, call.IsOver) : ¬ h.trace.Stranded := by
  rintro ⟨a, ha, -, hserved⟩
  have ht := (run.mono fun _ _ => Unbroken.honest).traffic
  rcases ht.registered.steady a ha with ⟨b, hb, -⟩ | ⟨x, hx, hxa, -⟩ | hentry
  · rw [run.lost_eq_nil] at hb
    cases hb
  · exact hserved x.reply (ht.sound.heard x hx) hxa
  · obtain ⟨b, -, -, -, hwait, -⟩ := ht.registered.entry a.worker _ hentry
    rw [State.waiting_eq_none hover] at hwait
    cases hwait

/-- The events of both ends make up reports. -/
theorem exists_reports {replies : List Reply} {consumed produced : List Event}
    (hc : List.Forall₂ Reply.Consumes replies consumed)
    (hp : List.Forall₂ Reply.Produces replies produced) :
    ∃ reports : List Report, reports.map (·.attempt) = replies.map (·.attempt) ∧
      reports.map (·.consumed) = consumed ∧ reports.map (·.produced) = produced ∧
      ∀ r ∈ reports, r.Agrees := by
  induction hc generalizing produced with
  | nil =>
    cases hp
    refine ⟨[], rfl, rfl, rfl, ?_⟩
    intro r hr
    cases hr
  | @cons reply e replies consumed he _ ih =>
    cases hp with
    | @cons _ e' _ produced he' hp =>
      obtain ⟨reports, hattempts, hconsumed, hproduced, hagree⟩ := ih hp
      refine ⟨⟨reply.attempt, e, e'⟩ :: reports, ?_, ?_, ?_, ?_⟩
      · rw [List.map_cons, List.map_cons, hattempts]
      · rw [List.map_cons, hconsumed]
      · rw [List.map_cons, hproduced]
      · intro r hr
        rcases List.mem_cons.1 hr with rfl | hr
        · exact Reply.agrees he he'
        · exact hagree r hr

/-- After an unbroken run in which all calls are over, both ends have left one event of each
request that was sent, in agreement with each other. No worker has more users than there are
correlation ids, and every worker keeps the events of its users. -/
theorem Run.reports_agree {c : Coordinator} {h : History}
    (run : Run Unbroken (History.start c) h) (hfew : h.state.Unwrapped)
    (hkeeps : ∀ w ∈ h.state.workers, w.keepsEvents = true)
    (hover : ∀ call ∈ h.state.calls, call.IsOver) :
    ∃ reports : List Report, (reports.map (·.attempt)).Perm h.trace.sent ∧
      (reports.map (·.consumed)).Perm h.state.consumed ∧
      reports.map (·.produced) = h.state.produced ∧
      ∀ r ∈ reports, Genuine h.state r.attempt ∧ r.Agrees := by
  have ht := (run.mono fun _ _ => Unbroken.honest).traffic
  obtain ⟨taken, hrec⟩ := (run.recorded hfew hkeeps).resolve_right (run.not_stranded hover)
  have htaken : ∀ a ∈ h.trace.sent, ∃ r ∈ taken, r.attempt = a := by
    intro a ha
    apply (hrec.requests a ha).resolve_left
    rw [State.waiting_eq_none hover]
    exact (Option.some_ne_none _).symm
  have honce : (h.trace.served.map (·.attempt)).Nodup := (List.nodup_append'.1 ht.sound.once).2.1
  have hsame : h.trace.served.Perm taken := by
    rw [List.perm_ext_iff_of_nodup (honce.of_map _) hrec.once]
    intro r
    refine ⟨fun hr => ?_, hrec.served r⟩
    obtain ⟨r', hr', heq⟩ := htaken r.attempt (ht.sound.mem_sent hr)
    rwa [← List.inj_on_of_nodup_map honce (hrec.served r' hr') hr heq]
  have hsent : (h.trace.served.map (·.attempt)).Perm h.trace.sent := by
    rw [List.perm_ext_iff_of_nodup honce (ht.sound.ids.of_map _)]
    intro a
    constructor
    · intro ha
      exact ht.sound.arrived a (List.mem_append_right _ ha)
    · intro ha
      obtain ⟨r, hr, rfl⟩ := htaken a ha
      exact List.mem_map_of_mem (hrec.served r hr)
  -- The workers' events are in the order in which calls took replies; they are put in that of
  -- the coordinator.
  obtain ⟨consumed, hconsumed, hperm⟩ := List.perm_comp_forall₂ hsame hrec.consumed
  obtain ⟨reports, hattempts, hc, hp, hagree⟩ := exists_reports hconsumed hrec.produced
  refine ⟨reports, by rw [hattempts]; exact hsent, by rw [hc]; exact hperm, hp, ?_⟩
  intro r hr
  have hmem : r.attempt ∈ h.trace.served.map (·.attempt) := by
    rw [← hattempts]
    exact List.mem_map_of_mem hr
  exact ⟨ht.genuine _ (hsent.mem_iff.1 hmem), hagree r hr⟩

/-- A pop asks twice, for a value that is pushed in between, after a push that is refused. The
first two requests overtake each other, and the test stops before the calls are over. -/
def polled : List (Outside × Action) :=
  [.connect "v" {} true, .connect "w" {} true, .join 0 "A", .join 1 "B",
    .begin 0 (.pop "q" none), .begin 1 (.inc "n" 1), .attempt 0, .attempt 1, .serve 1, .serve 0,
    .receive 0 0, .complete 0, .receive 1 0, .complete 1,
    .begin 1 (.push "n" .null), .attempt 2, .serve 0, .receive 1 0, .complete 2,
    .begin 1 (.push "q" (.str "job")), .attempt 3, .serve 0, .testStop {}, .receive 1 0,
    .complete 3, .pass 1000000000, .wake 0, .attempt 0, .serve 0, .receive 0 0, .complete 0,
    .begin 0 .testdata, .attempt 4, .serve 0, .receive 0 0, .complete 4].map (still, ·)

/-- Both ends report six requests, each in an order of its own. -/
theorem polled_agrees : ∃ h, (History.start {}).run? Unbroken polled = some h ∧
    h.state.Unwrapped ∧ (∀ w ∈ h.state.workers, w.keepsEvents = true) ∧
    (∀ call ∈ h.state.calls, call.IsOver) ∧
    h.state.consumed.map (fun e => (e.action, e.isFailure)) =
      [(some "pop", false), (some "inc", false), (some "push", true), (some "push", false),
        (some "pop", false), (none, false)] ∧
    h.state.produced.map (fun e => (e.action, e.isFailure)) =
      [(some "inc", false), (some "pop", false), (some "push", true), (some "push", false),
        (some "pop", false), (none, false)] ∧
    ∃ reports : List Report, (reports.map (·.attempt)).Perm h.trace.sent ∧
      (reports.map (·.consumed)).Perm h.state.consumed ∧
      reports.map (·.produced) = h.state.produced ∧
      ∀ r ∈ reports, Genuine h.state r.attempt ∧ r.Agrees := by
  obtain ⟨h, hh⟩ : ∃ h, (History.start {}).run? Unbroken polled = some h :=
    Option.isSome_iff_exists.1 (by decide +kernel)
  have hends : ((History.start {}).run? Unbroken polled).map (fun h =>
      (h.state.users.length, h.state.workers.all (·.keepsEvents),
        h.state.calls.all fun call => decide call.IsOver)) = some (2, true, true) := by
    decide +kernel
  have hevents : ((History.start {}).run? Unbroken polled).map (fun h =>
      (h.state.consumed.map (fun e => (e.action, e.isFailure)),
        h.state.produced.map (fun e => (e.action, e.isFailure)))) = some
        ([(some "pop", false), (some "inc", false), (some "push", true), (some "push", false),
            (some "pop", false), (none, false)],
          [(some "inc", false), (some "pop", false), (some "push", true), (some "push", false),
            (some "pop", false), (none, false)]) := by
    decide +kernel
  rw [hh] at hends hevents
  simp only [Option.map_some, Option.some.injEq, Prod.mk.injEq, List.all_eq_true,
    decide_eq_true_eq] at hends hevents
  obtain ⟨husers, hkeeps, hover⟩ := hends
  have hfew : h.state.Unwrapped := by
    intro worker
    have hle : (h.state.usersOf worker).length ≤ h.state.users.length := List.length_filter_le ..
    omega
  exact ⟨h, hh, hfew, hkeeps, hover, hevents.1, hevents.2,
    Run.reports_agree (Run.nil.of_run? hh) hfew hkeeps hover⟩

end Cluster

end LoadTest
