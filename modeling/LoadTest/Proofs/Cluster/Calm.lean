import LoadTest.Proofs.Cluster.Smooth
import LoadTest.Proofs.Sequential
/-!
# Calm clusters

Throughout an undisturbed run nothing goes wrong on the way of a request, and the coordinator
does what its store does with the same calls, until a request crashes both.
-/

namespace LoadTest.Cluster

open Transport

namespace Reply

/-- The call that a reply answers, as it reached the coordinator. -/
def arrival (r : Reply) : Arrival := ⟨r.attempt.consumer.identifier, r.attempt.method, r.outside⟩

/-- What a reply is read as. -/
def reading (r : Reply) : Except Error Reading := r.attempt.method.read r.response

end Reply

/-! ## The coordinator -/

/-- A coordinator has gone from one state to another by working off calls one at a time on
its store. -/
structure Works (c d : Coordinator) (served : List Reply) : Prop where
  run : (Store.ofCoordinator c).run (served.map Reply.arrival) =
    .ok (served.map Reply.reading, Store.ofCoordinator d)
  apart : d.producer.AliasesApart
  persister : d.persister = c.persister
  handled : d.requestsHandled = c.requestsHandled + served.length

namespace Works

variable {c d d' : Coordinator} {served : List Reply} {outside : Outside} {a : Attempt}

/-- A request is answered. -/
theorem serve (h : Works c d served) {x : Dispatched}
    (hd : d.dispatch outside a.request = (.ok x, d')) :
    Works c { d' with requestsHandled := d'.requestsHandled + 1 }
      (served ++ [⟨a, outside, x.response⟩]) := by
  have hd : d.dispatch outside (a.method.request a.consumer.identifier) = (.ok x, d') := hd
  obtain ⟨happly, hapart, hpersister, hhandled⟩ :=
    Store.apply_of_dispatch (x := ⟨a.consumer.identifier, a.method, outside⟩) h.apart hd
  refine ⟨?_, hapart, hpersister.trans h.persister, ?_⟩
  · rw [List.map_append, List.map_append, List.map_cons, List.map_nil, Store.run_concat, h.run]
    show ((Store.ofCoordinator d).apply ⟨a.consumer.identifier, a.method, outside⟩ >>= _) = _
    rw [happly]
    rfl
  · show d'.requestsHandled + 1 = _
    rw [hhandled, h.handled, List.length_append, List.length_singleton, Nat.add_assoc]

/-- A request crashes the coordinator and its store alike. -/
theorem crash (h : Works c d served) {fault : Crash}
    (hd : d.dispatch outside a.request = (.error fault, d')) :
    (Store.ofCoordinator c).run (served.map Reply.arrival ++
      [⟨a.consumer.identifier, a.method, outside⟩]) = .error fault := by
  have hd : d.dispatch outside (a.method.request a.consumer.identifier) = (.error fault, d') := hd
  have happly := Store.apply_of_crash (x := ⟨a.consumer.identifier, a.method, outside⟩) hd
  rw [Store.run_concat, h.run]
  show ((Store.ofCoordinator d).apply ⟨a.consumer.identifier, a.method, outside⟩ >>= _) = _
  rw [happly]
  rfl

end Works

/-! ## Calm -/

/-- What is known of a cluster that nothing has disturbed. -/
structure Calm (c d : Coordinator) (h : History) : Prop extends Smooth h where
  service : h.state.service = .coordinator d
  works : Works c d h.trace.served

/-- The fault that has ended the serving of requests, if there was one. -/
def Service.fault? : Service → Option Crash
  | .crashed _ fault => some fault
  | _ => none

theorem Service.fault?_eq_some {s : Service} {fault : Crash} :
    s.fault? = some fault ↔ ∃ d, s = .crashed d fault := by
  constructor
  · intro h
    cases s with
    | crashed d fault' =>
      cases h
      exact ⟨d, rfl⟩
    | _ => cases h
  · rintro ⟨d, rfl⟩
    rfl

/-- The coordinator has crashed, and the request that has crashed it does the same to a store
that works off all requests one at a time. -/
def Crashed (c : Coordinator) (h : History) : Prop :=
  ∃ fault, h.state.service.fault? = some fault ∧ ∃ a ∈ h.trace.sent, ∃ outside,
    (Store.ofCoordinator c).run (h.trace.served.map Reply.arrival ++
      [⟨a.consumer.identifier, a.method, outside⟩]) = .error fault

/-- An undisturbed step leaves the service alone, unless it serves a request. -/
theorem State.service_of_step? {s s' : State} {outside : Outside} {a : Action}
    (ok : Undisturbed s a) (hserve : ∀ position, a ≠ .serve position)
    (h : s.step? outside a = some s') : s'.service = s.service := by
  cases a with
  | serve position => exact absurd rfl (hserve position)
  | receive worker position =>
    obtain ⟨w, m, -, -, -, rfl⟩ := State.receive?_cases h
    rfl
  | attempt k =>
    obtain ⟨c, u, w, -, -, -, -, ⟨messages, -, -, -, -, rfl⟩ | ⟨e, -, -, rfl⟩⟩ :=
      State.attempt?_cases h
    · rfl
    · obtain ⟨events, hend⟩ := (s.setTable u.worker w.table.refused).endAttempt_eq k
        { c with attempted := s.now } u w (.error e)
      rw [hend]
      rfl
  | complete k =>
    obtain ⟨c, ticket, deadline, u, w, reply, -, -, -, -, -, rfl⟩ := State.complete?_cases h
    obtain ⟨events, hend⟩ := (s.setTable u.worker (w.table.remove ticket)).endAttempt_eq k c u w
      reply
    rw [hend]
    rfl
  | wake k =>
    obtain ⟨c, deadline, -, -, rfl⟩ := State.wake?_cases h
    rfl
  | connect client options keepsEvents =>
    obtain ⟨-, rfl⟩ := State.connect?_cases h
    rfl
  | join worker identifier =>
    obtain ⟨w, -, rfl⟩ := State.join?_cases h
    rfl
  | begin user method =>
    cases State.begin?_cases h
    rfl
  | pass nanos =>
    cases h
    rfl
  | _ => exact absurd ok id

namespace Calm

variable {c d : Coordinator} {h h' : History}

theorem start (hc : c.producer.AliasesApart) : Calm c c (History.start c) where
  toSmooth := .start c
  service := rfl
  works := ⟨rfl, hc, rfl, rfl⟩

/-- The coordinator takes a request and answers it, unless the request crashes it. -/
theorem serve (hcalm : Calm c d h) (ht : Traffic h) {outside : Outside} {position : Nat}
    (hs : h.step? outside (.serve position) = some h') :
    (∃ d', Calm c d' h') ∨ Crashed c h' := by
  obtain ⟨d₀, a, hservice, ha, hcases⟩ := ht.answer_cases hs
  rw [hcalm.service] at hservice
  cases hservice
  rcases hcases with ⟨fault, d', hd, hs', hserved⟩ | ⟨x, d', hd, hs', -, hserved⟩
  · right
    refine ⟨fault, by rw [hs']; rfl, a, ?_, outside, ?_⟩
    · rw [(History.step?_eq_some.1 hs).2]
      exact (h.trace.record_extends ..).sent a
        (ht.sound.arrived a (List.mem_append_left _ (List.mem_of_getElem? ha)))
    · rw [hserved]
      exact hcalm.works.crash hd
  · left
    rcases hcalm.toSmooth.serve ht hs with hsmooth | ⟨⟨d'', fault, hcrash⟩, -⟩
    · refine ⟨_, hsmooth, hs', ?_⟩
      rw [hserved]
      exact hcalm.works.serve hd
    · rw [hs'] at hcrash
      cases hcrash

/-- Whatever an undisturbed step does, the cluster stays calm, or a request has crashed the
coordinator. -/
theorem step (hcalm : Calm c d h) (ht : Traffic h) (hn : Numbered h.state)
    (hfew : h.state.Unwrapped) {outside : Outside} {a : Action} (ok : Undisturbed h.state a)
    (hs : h.step? outside a = some h') : (∃ d', Calm c d' h') ∨ Crashed c h' := by
  obtain ⟨hstep, htrace⟩ := History.step?_eq_some.1 hs
  by_cases hserve : ∃ position, a = .serve position
  · obtain ⟨position, rfl⟩ := hserve
    exact hcalm.serve ht hs
  · have hserve : ∀ position, a ≠ .serve position := fun position heq => hserve ⟨position, heq⟩
    refine .inl ⟨d, hcalm.keep ht hn hfew ok.unbroken hserve hs, ?_, ?_⟩
    · rw [State.service_of_step? ok hserve hstep]
      exact hcalm.service
    · rw [htrace, Trace.record_served fun position _ heq => absurd heq (hserve position)]
      exact hcalm.works

end Calm

/-! ## Crashes -/

/-- Nothing undisturbed happens to a service that has crashed. -/
theorem State.service_of_crashed {s s' : State} {d : Coordinator} {fault : Crash}
    (hs : s.service = .crashed d fault) {outside : Outside} {a : Action} (ok : Undisturbed s a)
    (h : s.step? outside a = some s') : s'.service = .crashed d fault := by
  rw [State.service_of_step? ok ?_ h, hs]
  rintro position rfl
  have hscript : ∀ script, s.service ≠ .script script := by
    intro script hscript
    rw [hs] at hscript
    cases hscript
  obtain ⟨c, m, hc, -⟩ := State.serve?_cases hscript h
  rw [hs] at hc
  cases hc

/-- A crash is for good. -/
theorem Crashed.step {c : Coordinator} {h h' : History} (hcrashed : Crashed c h)
    {outside : Outside} {a : Action} (ok : Undisturbed h.state a)
    (hs : h.step? outside a = some h') : Crashed c h' := by
  obtain ⟨hstep, htrace⟩ := History.step?_eq_some.1 hs
  obtain ⟨fault, hfault, b, hb, outside', hrun⟩ := hcrashed
  obtain ⟨d, hservice⟩ := Service.fault?_eq_some.1 hfault
  have hservice' := State.service_of_crashed hservice ok hstep
  refine ⟨fault, Service.fault?_eq_some.2 ⟨d, hservice'⟩, b, ?_, outside', ?_⟩
  · rw [htrace]
    exact (h.trace.record_extends ..).sent b hb
  · rw [htrace, Trace.record_served]
    · exact hrun
    · intro position c _ hc
      rw [hservice] at hc
      cases hc

/-- After an undisturbed run the cluster is calm, or a request has crashed the coordinator. -/
theorem Run.calm {c : Coordinator} {h : History} (run : Run Undisturbed (History.start c) h)
    (hc : c.producer.AliasesApart) (hfew : h.state.Unwrapped) :
    (∃ d, Calm c d h) ∨ Crashed c h := by
  induction run with
  | nil => exact .inl ⟨c, Calm.start hc⟩
  | @snoc before after outside a run ok hs ih =>
    have honest := run.mono fun _ _ => Undisturbed.honest
    have hfew' := hfew.of_grows (.of_step? (History.step?_eq_some.1 hs).1)
    rcases ih hfew' with ⟨d, hcalm⟩ | hcrashed
    · exact hcalm.step honest.traffic honest.numbered hfew' ok hs
    · exact .inr (hcrashed.step ok hs)

end LoadTest.Cluster
