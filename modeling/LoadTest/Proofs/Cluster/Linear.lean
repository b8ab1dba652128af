import LoadTest.Proofs.Cluster.Calm
/-!
# One store behind all calls

In an undisturbed run the calls of all users come to what they come to on one store that
works them off one at a time, in the order in which their requests reach the coordinator.
-/

namespace LoadTest.Cluster

open Testdata Transport

/-- The calls of a cluster are what they are on one store. -/
structure Linearized (c d : Coordinator) (h : History) : Prop where
  /-- Every request was sent by a call of its user, under a ticket of its own. -/
  genuine : ∀ a ∈ h.trace.sent, Genuine h.state a
  distinct : (h.trace.sent.map Attempt.id).Nodup
  /-- The messages in flight are requests and replies. -/
  mail : Mail h.state.view h.trace
  /-- Every request waits for the coordinator or was taken, once. -/
  once : (h.trace.requests ++ h.trace.served.map (·.attempt)).Perm h.trace.sent
  /-- Only a pop sends more than one request. -/
  single : ∀ a ∈ h.trace.sent, ∀ b ∈ h.trace.sent, a.call = b.call → a = b ∨ a.method.IsPop
  /-- The store that works off the calls in the order in which the coordinator has taken them
  comes to the readings of all replies, and to the store of the coordinator. -/
  sequential : (Store.ofCoordinator c).run (h.trace.served.map Reply.arrival) =
    .ok (h.trace.served.map Reply.reading, Store.ofCoordinator d)
  persister : d.persister = c.persister
  handled : d.requestsHandled = c.requestsHandled + h.trace.served.length
  /-- A request that was sent after some replies had been read was taken after theirs. -/
  order : ∀ (i : Nat) (r : Reply), h.trace.served[i]? = some r →
    ∀ x ∈ h.trace.heard.take r.attempt.since, x.reply ∈ h.trace.served.take i
  /-- What a call has got for its request, it reads as what the store has come to. -/
  answers : ∀ (k : Nat) (call : Call) (v : Json), h.state.calls[k]? = some call →
    h.state.answer? k = some v → ∃ r ∈ h.trace.served, r.attempt.call = k ∧
      call.ticket? = some r.attempt.ticket ∧ call.method.read v = r.reading
  /-- The result of a call is the one that is due for what the store has come to at the last
  request of the call. -/
  results : ∀ (k : Nat) (call : Call) (result : Except Error Answer),
    h.state.calls[k]? = some call → call.phase = .finished result → ∃ r ∈ h.trace.served,
      r.attempt.call = k ∧ h.trace.IsLast k r.attempt.ticket ∧ Due call.method r.reading result
  /-- The request or the reply of a call that waits is on its way, or the call has its answer. -/
  progress : ∀ (k : Nat) (ticket : Correlation.Ticket), h.state.view.waiting k = some ticket →
    ∃ a ∈ h.trace.sent, a.call = k ∧ a.ticket = ticket ∧ (a ∈ h.trace.requests ∨
      (∃ r ∈ h.trace.replies a.client, r.attempt = a) ∨ (h.state.answer? k).isSome)

namespace Smooth

variable {h : History}

/-- Every request waits for the coordinator or was taken, once. -/
theorem perm (hsmooth : Smooth h) (ht : Traffic h) :
    (h.trace.requests ++ h.trace.served.map (·.attempt)).Perm h.trace.sent := by
  rw [List.perm_ext_iff_of_nodup ht.sound.once (ht.sound.ids.of_map _)]
  intro a
  constructor
  · exact ht.sound.arrived a
  · intro ha
    rcases hsmooth.travels.requests a ha with hrequest | ⟨r, hr, rfl⟩
    · exact List.mem_append_left _ hrequest
    · exact List.mem_append_right _ (List.mem_map_of_mem hr)

/-- The reply to a request is read after the request was sent. -/
theorem heard_later (hsmooth : Smooth h) (ht : Traffic h) {x : Heard} (hx : x ∈ h.trace.heard) :
    x ∈ h.trace.heard.drop x.reply.attempt.since := by
  have hsplit := List.take_append_drop x.reply.attempt.since h.trace.heard
  rw [← hsplit] at hx
  rcases List.mem_append.1 hx with hearly | hlate
  · exfalso
    have hserved : x.reply ∈ h.trace.served := ht.sound.heard x (List.mem_of_mem_take hearly)
    obtain ⟨i, hi⟩ := List.mem_iff_getElem?.1 hserved
    have hbefore := hsmooth.travels.order i x.reply hi x hearly
    have hnodup : h.trace.served.Nodup := (List.nodup_append'.1 ht.sound.once).2.1.of_map _
    rw [← List.take_append_drop i h.trace.served, List.nodup_append'] at hnodup
    apply hnodup.2.2 hbefore
    rw [List.mem_iff_getElem?]
    refine ⟨0, ?_⟩
    rw [List.getElem?_drop]
    exact hi
  · exact hlate

/-- The request or the reply of a call that waits is on its way, or the call has its answer. -/
theorem progress (hsmooth : Smooth h) (ht : Traffic h) {k : Nat} {ticket : Correlation.Ticket}
    (hk : h.state.view.waiting k = some ticket) :
    ∃ a ∈ h.trace.sent, a.call = k ∧ a.ticket = ticket ∧ (a ∈ h.trace.requests ∨
      (∃ r ∈ h.trace.replies a.client, r.attempt = a) ∨ (h.state.answer? k).isSome) := by
  obtain ⟨a, ha, rfl, rfl, ⟨ticket, slot⟩, he, rfl⟩ := ht.registered.waiting k ticket hk
  refine ⟨a, ha, rfl, rfl, ?_⟩
  obtain ⟨b, hb, hworker, hticket, -, hslot⟩ := ht.registered.entry a.worker _ he
  obtain rfl := ht.sound.eq_of_ticket hb ha hworker hticket
  obtain ⟨w, hw, -⟩ := (ht.genuine b hb).worker
  have hentries : h.state.view.entries b.worker = w.table.entries := entriesOf_eq hw
  cases slot with
  | waiting =>
    rcases hsmooth.travels.requests b hb with hrequest | ⟨r, hr, rfl⟩
    · exact .inl hrequest
    · rcases hsmooth.travels.replies r hr with hreply | ⟨x, hx, rfl⟩
      · exact .inr (.inl ⟨r, hreply, rfl⟩)
      · exfalso
        have hnone : h.trace.firstReply? x.reply.attempt = none := hslot
        rw [Trace.firstReply?, List.find?_eq_none] at hnone
        exact hnone x (hsmooth.heard_later ht hx) (by simpa using Attempt.SameConsumer.refl _)
  | answered v =>
    right
    right
    obtain ⟨call, hcall, huser, -⟩ := (ht.genuine b hb).call
    have hu := (ht.genuine b hb).user
    rw [← huser] at hu
    have hwait : call.ticket? = some b.ticket := (waitingOf_eq hcall).symm.trans hk
    have hout : w.table.outcome? b.ticket = some (.ok v) := by
      rw [hentries] at he
      refine Correlation.Table.outcome?_of_answered he ?_
      intro e hmem heq
      rw [← hentries] at hmem he
      exact ht.registered.eq_of_ticket hmem he heq
    rw [State.answer?_of_outcome hcall hu hw hwait hout]
    rfl
  | closed =>
    rw [hentries] at he
    exact absurd rfl ((hsmooth.channels.tables w (List.mem_of_getElem? hw)).2 _ he)

end Smooth

/-- In a calm cluster all calls are what they are on one store. -/
theorem Calm.linear {c d : Coordinator} {h : History} (hcalm : Calm c d h) (ht : Traffic h) :
    Linearized c d h where
  genuine := ht.genuine
  distinct := ht.sound.ids
  mail := ht.mail
  once := hcalm.perm ht
  single := hcalm.told.once
  sequential := hcalm.works.run
  persister := hcalm.works.persister
  handled := hcalm.works.handled
  order := hcalm.travels.order
  answers := by
    intro k call v hk hv
    obtain ⟨x, hx, a, hres, hcall, rfl, hwait⟩ := ht.resolved hv
    obtain rfl := hcalm.own ht hx hres
    have hsent := (ht.sound.resolves x hx _ hres).1
    obtain ⟨-, hmethod⟩ := (ht.genuine _ hsent).of_call (by rw [hcall]; exact hk)
    refine ⟨x.reply, ht.sound.heard x hx, hcall, (waitingOf_eq hk).symm.trans hwait, ?_⟩
    rw [Reply.reading, hmethod]
  results := by
    intro k call result hk hp
    have htold := hcalm.told.calls k call hk
    rw [Call.Told, hp] at htold
    obtain ⟨x, hx, a, hres, hcall, hmethod, hlast, isFirst, elapsed, hnext⟩ := htold
    obtain rfl := hcalm.own ht hx hres
    have hserved := ht.sound.heard x hx
    refine ⟨x.reply, hserved, hcall, hlast, ?_⟩
    obtain ⟨i, hi⟩ := List.mem_iff_getElem?.1 hserved
    have harrival : (h.trace.served.map Reply.arrival)[i]? = some x.reply.arrival := by
      rw [List.getElem?_map, hi]
      rfl
    obtain ⟨s₁, s₂, reading, happly, hreading⟩ :=
      Store.apply_of_run hcalm.works.run harrival
    rw [List.getElem?_map, hi] at hreading
    cases hreading
    rw [← hmethod] at hnext ⊢
    exact Store.due_of_apply happly hnext
  progress := fun k ticket hk => hcalm.progress ht hk

/-- After any undisturbed run all calls are what they are on one store, or a request has
crashed the coordinator that crashes the store as well. No worker has more users than there
are correlation ids, and no alias takes the place of the variables. -/
theorem Run.linearized {c : Coordinator} {h : History} (run : Run Undisturbed (History.start c) h)
    (hc : c.producer.AliasesApart) (hfew : h.state.Unwrapped) :
    (∃ d, h.state.service = .coordinator d ∧ Linearized c d h) ∨ Crashed c h := by
  have honest := run.mono fun _ _ => Undisturbed.honest
  rcases run.calm hc hfew with ⟨d, hcalm⟩ | hcrashed
  · exact .inl ⟨d, hcalm.service, hcalm.linear honest.traffic⟩
  · exact .inr hcrashed

/-- One iteration of a scenario. -/
def orders : Definition where
  scenarios := [{
    identifier := "A"
    iterations := 1
    aliases := Dict.ofList [("order", "id")]
    «variables» := [{ key := "order", source := .integerIncrementer 7 1 false }] }]

/-- Users of two workers share a scenario and a key. Their requests overtake each other. -/
def sharing : List (Outside × Action) :=
  [.connect "v" {} true, .connect "w" {} true, .join 0 "A", .join 1 "A",
    .begin 0 .testdata, .begin 1 .testdata, .attempt 0, .attempt 1, .serve 1, .serve 0,
    .receive 0 0, .complete 0, .begin 0 (.inc "n" 1), .attempt 2, .receive 1 0, .complete 1,
    .begin 1 (.push "n" .null), .attempt 3, .serve 0, .serve 0, .receive 1 0, .complete 3,
    .begin 1 (.get "n"), .attempt 4, .receive 0 0, .complete 2].map (still, ·)

/-- The one iteration goes to the second user, whose push is refused after the increment of
the first. -/
theorem sharing_linearized : ∃ p h d, orders.build ∅ = .ok p ∧
    (History.start (.make p {})).run? Undisturbed sharing = some h ∧
    h.state.calls.map (fun c => c.result?.map (·.toOption.isSome)) =
      [some true, some true, some true, some false, none] ∧
    h.state.service = .coordinator d ∧ Linearized (.make p {}) d h := by
  have hfacts : ((orders.build ∅).toOption.bind fun p =>
      ((History.start (.make p {})).run? Undisturbed sharing).map fun h =>
        (h.state.users.length, h.state.calls.map fun c => c.result?.map (·.toOption.isSome),
          h.state.service.fault?.isNone)) =
            some (2, [some true, some true, some true, some false, none], true) := by
    decide +kernel
  obtain ⟨p, hp, hfacts⟩ := Option.bind_eq_some_iff.1 hfacts
  obtain ⟨h, hh, hfacts⟩ := Option.map_eq_some_iff.1 hfacts
  simp only [Prod.mk.injEq] at hfacts
  obtain ⟨husers, hresults, hservice⟩ := hfacts
  have hbuild : orders.build ∅ = .ok p := by
    cases hb : orders.build ∅ with
    | error e =>
      rw [hb] at hp
      cases hp
    | ok p' =>
      rw [hb] at hp
      cases hp
      rfl
  have hfew : h.state.Unwrapped := by
    intro worker
    have hle : (h.state.usersOf worker).length ≤ h.state.users.length := List.length_filter_le ..
    omega
  rcases Run.linearized (Run.nil.of_run? hh) (Definition.aliasesApart_of_build hbuild) hfew with
    ⟨d, hd, hlinear⟩ | ⟨fault, hcrash, -⟩
  · exact ⟨p, h, d, hbuild, hh, hresults, hd, hlinear⟩
  · rw [hcrash] at hservice
    cases hservice

end LoadTest.Cluster
