import LoadTest.Proofs.Cluster.Closing
import LoadTest.Proofs.Cluster.Polling
import LoadTest.Proofs.Cluster.Users
import LoadTest.Proofs.Polls
/-!
# The course of a call

A course follows one call through a cluster and keeps its attempts: when each began and
ended, and what was read. Whatever else happens in the cluster, a call moves only by its own
attempts, by waking up and by being abandoned. So a polling pop comes to what its attempts
come to by themselves, and if nothing keeps it waiting, it is over in time.
-/

namespace LoadTest

namespace Cluster

open Transport

/-! ## What a step does to a call -/

/-- The call that an action moves on, if it moves one on. -/
def Action.call? : Action → Option Nat
  | .attempt call | .complete call | .expire call | .wake call | .cancel call => some call
  | _ => none

/-- What an action does to the time and to the calls. -/
inductive Turns (s s' : State) : Action → Prop where
  | pass {nanos : Nat} (hnow : s'.now = s.now + nanos) (hcalls : s'.calls = s.calls) :
    Turns s s' (.pass nanos)
  | idle {a : Action} (hnow : s'.now = s.now) (hcalls : s'.calls = s.calls) : Turns s s' a
  | moves {a : Action} {call : Nat} {c : Call} (ha : a.call? = some call) (hnow : s'.now = s.now)
    (hcalls : s'.calls = s.calls.set call c) : Turns s s' a
  | begins {user : Nat} {method : Method} {u : User} (hu : s.users[user]? = some u)
    (hnow : s'.now = s.now) (hcalls : s'.calls = s.calls ++
      [{ user := user, method := method, began := s.now, attempted := s.now }]) :
    Turns s s' (.begin user method)

/-- An action ends an attempt of a call: the request could not be registered or sent, its
reply has come, or no reply has come in time. -/
inductive Ends (s : State) (call : Nat) : Action → Try → Prop where
  | unregistered {c : Call} {u : User} {w : Worker} {e : Error}
    (hc : s.calls[call]? = some c) (hp : c.phase = .ready) (ho : s.owner? c = some (u, w))
    (he : (w.table.register u.consumer.uid).1 = .error e) :
    Ends s call (.attempt call) ⟨s.now, s.now, .error e⟩
  | unsent {c : Call} {u : User} {w : Worker} {ticket : Correlation.Ticket}
    (hc : s.calls[call]? = some c) (hp : c.phase = .ready) (ho : s.owner? c = some (u, w))
    (hr : (w.table.register u.consumer.uid).1 = .ok ticket) (he : s.hub.coordinator = none) :
    Ends s call (.attempt call) ⟨s.now, s.now, .error .coordinatorClosed⟩
  | answered {c : Call} {u : User} {w : Worker} {ticket : Correlation.Ticket} {deadline : Nat}
    {reply : Except Error Json} (hc : s.calls[call]? = some c)
    (hp : c.phase = .waiting ticket deadline) (ho : s.owner? c = some (u, w))
    (hr : w.table.outcome? ticket = some reply) :
    Ends s call (.complete call) ⟨c.attempted, s.now, c.method.outcome reply⟩
  | overdue {c : Call} {u : User} {w : Worker} {ticket : Correlation.Ticket} {deadline : Nat}
    (hc : s.calls[call]? = some c) (hp : c.phase = .waiting ticket deadline)
    (ho : s.owner? c = some (u, w)) :
    Ends s call (.expire call)
      ⟨c.attempted, s.now, .error (.noDataReceived w.options.requestTimeout)⟩

variable {s s' : State} {call : Nat} {c c' : Call} {u : User} {w : Worker} {outside : Outside}
  {a : Action}

theorem Ends.call?_eq {t : Try} (h : Ends s call a t) : a.call? = some call := by
  cases h <;> rfl

theorem Ends.exists_call {t : Try} (h : Ends s call a t) : ∃ c, s.calls[call]? = some c := by
  cases h with
  | unregistered hc | unsent hc | answered hc | overdue hc => exact ⟨_, hc⟩

namespace State

/-- Time passes or nothing happens, one call moves on, or a user begins another one. -/
theorem turns_of_step? (h : s.step? outside a = some s') : Turns s s' a := by
  have hstays : s.Stays s' → Turns s s' a := fun hs => .idle hs.now hs.calls
  have hend : ∀ {call c u w reply}, a.call? = some call →
      ∀ s₁ : State, s₁.now = s.now → s₁.calls = s.calls →
        Turns s (s₁.endAttempt call c u w reply) a := by
    intro call c u w reply ha s₁ hnow hcalls
    obtain ⟨events, he⟩ := s₁.endAttempt_eq call c u w reply
    rw [he]
    exact .moves ha hnow (congrArg (List.set · call _) hcalls)
  cases a with
  | pass nanos =>
    cases h
    exact .pass rfl rfl
  | serve position => exact hstays (serve?_frame h)
  | perform => exact hstays (perform?_frame h)
  | inject worker topic data => exact hstays (inject?_frame h)
  | receive worker position =>
    obtain ⟨w, m, -, -, -, rfl⟩ := receive?_cases h
    exact .idle rfl rfl
  | endReplies worker =>
    obtain ⟨w, -, -, rfl⟩ := endReplies?_cases h
    exact .idle rfl rfl
  | attempt call =>
    obtain ⟨c, u, w, -, -, -, -, ⟨messages, -, -, -, -, rfl⟩ | ⟨e, -, -, rfl⟩⟩ :=
      attempt?_cases h
    · exact .moves rfl rfl rfl
    · exact hend rfl _ rfl rfl
  | complete call =>
    obtain ⟨c, ticket, deadline, u, w, reply, -, -, -, -, -, rfl⟩ := complete?_cases h
    exact hend rfl _ rfl rfl
  | expire call =>
    obtain ⟨c, ticket, deadline, u, w, -, -, -, -, -, rfl⟩ := expire?_cases h
    exact hend rfl _ rfl rfl
  | wake call =>
    obtain ⟨c, deadline, -, -, rfl⟩ := wake?_cases h
    exact .moves rfl rfl rfl
  | cancel call =>
    obtain ⟨c, -, ⟨-, rfl⟩ | ⟨ticket, deadline, u, w, -, -, -, rfl⟩⟩ := cancel?_cases h
    · exact .moves rfl rfl rfl
    · exact .moves rfl rfl rfl
  | connect client options keepsEvents =>
    obtain ⟨-, rfl⟩ := connect?_cases h
    exact .idle rfl rfl
  | join worker identifier =>
    obtain ⟨w, -, rfl⟩ := join?_cases h
    exact .idle rfl rfl
  | begin user method =>
    obtain ⟨u, hu, -⟩ := Option.bind_eq_some_iff.1 h
    cases begin?_cases h
    exact .begins hu rfl rfl
  | disconnect worker =>
    obtain ⟨w, -, h⟩ := Option.bind_eq_some_iff.1 h
    cases h
    exact .idle rfl rfl
  | dropWorker worker =>
    obtain ⟨w, -, h⟩ := Option.bind_eq_some_iff.1 h
    cases h
    exact .idle rfl rfl
  | closeService =>
    cases h
    exact .idle rfl rfl
  | testStop attempt =>
    obtain ⟨c, folder, rfl⟩ := testStop?_cases h
    exact .idle rfl rfl
  | stop attempt =>
    obtain ⟨c, folder, rfl⟩ := stop?_cases h
    exact .idle rfl rfl

/-- Time passes by itself only. -/
theorem now_of_step? (h : s.step? outside a = some s') (ha : ∀ nanos, a ≠ .pass nanos) :
    s'.now = s.now := by
  cases turns_of_step? h with
  | pass => exact absurd rfl (ha _)
  | idle hnow | moves _ hnow | begins _ hnow => exact hnow

/-- A call stays as it is while other things happen. -/
theorem call_of_step? (h : s.step? outside a = some s') (ha : a.call? ≠ some call)
    (hc : s.calls[call]? = some c) : s'.calls[call]? = some c := by
  cases turns_of_step? h with
  | pass _ hcalls | idle _ hcalls => rw [hcalls, hc]
  | moves hother _ hcalls =>
    rw [hcalls, List.getElem?_set_ne, hc]
    rintro rfl
    exact ha hother
  | begins _ _ hcalls =>
    rw [hcalls]
    exact (List.getElem?_append_left (List.getElem?_eq_some_iff.1 hc).1).trans hc

/-- A call that was not there before has just begun. -/
theorem begun_of_step? (h : s.step? outside a = some s') (hc : s.calls[call]? = none)
    (hc' : s'.calls[call]? = some c') :
    s'.now = s.now ∧ ∃ user method, (∃ u, s.users[user]? = some u) ∧
      c' = { user := user, method := method, began := s.now, attempted := s.now } := by
  have hlength := List.getElem?_eq_none_iff.1 hc
  have hlt := (List.getElem?_eq_some_iff.1 hc').1
  cases turns_of_step? h with
  | pass _ hcalls | idle _ hcalls =>
    rw [hcalls] at hlt
    omega
  | moves _ _ hcalls =>
    rw [hcalls, List.length_set] at hlt
    omega
  | begins hu hnow hcalls =>
    rw [hcalls, List.length_append, List.length_singleton] at hlt
    obtain rfl : call = s.calls.length := by omega
    rw [hcalls, List.getElem?_concat_length] at hc'
    cases hc'
    exact ⟨hnow, _, _, ⟨_, hu⟩, rfl⟩

/-- A call keeps its owner, and a worker keeps its options and its way with events. -/
theorem owner?_of_step? (h : s.step? outside a = some s') (ho : s.owner? c = some (u, w))
    (hu : c'.user = c.user) : ∃ w', s'.owner? c' = some (u, w') ∧ w'.options = w.options ∧
      w'.keepsEvents = w.keepsEvents := by
  obtain ⟨huser, hw⟩ := owner?_eq_some.1 ho
  obtain ⟨w', hw', -⟩ := (Grows.of_step? h).workers hw
  refine ⟨w', owner?_eq_some.2 ⟨hu ▸ (Grows.of_step? h).users huser, hw'⟩, ?_⟩
  let f : Worker → ConsumerOptions × Bool := fun w => (w.options, w.keepsEvents)
  obtain ⟨rest, hrest⟩ := map_workers_of_step? (f := f) (fun _ _ _ => rfl) h
  have hget : (s.workers.map f)[u.worker]? = some (f w) := by
    rw [List.getElem?_map, hw]
    rfl
  have hget' : (s.workers.map f ++ rest)[u.worker]? = _ :=
    List.getElem?_append_left (List.getElem?_eq_some_iff.1 hget).1
  rw [hrest, hget, List.getElem?_map, hw'] at hget'
  exact Prod.mk.inj (Option.some.inj hget')

end State

/-- A call has moved on by an action of its own. -/
inductive Call.Moves (s : State) (call : Nat) (c : Call) (w : Worker) : Action → Call → Prop where
  | sends {ticket : Correlation.Ticket} (hp : c.phase = .ready)
    (hnone : ∀ t, ¬ Ends s call (.attempt call) t) :
    Moves s call c w (.attempt call) { c with
      attempted := s.now
      phase := .waiting ticket (s.now + w.options.requestTimeout.toNanos) }
  | fails {e : Error} (hp : c.phase = .ready)
    (ht : Ends s call (.attempt call) ⟨s.now, s.now, .error e⟩) :
    Moves s call c w (.attempt call)
      (({ c with attempted := s.now } : Call).after s.now w (.error e))
  | completes {ticket : Correlation.Ticket} {deadline : Nat} {reply : Except Error Json}
    (hp : c.phase = .waiting ticket deadline) (hr : w.table.outcome? ticket = some reply)
    (ht : Ends s call (.complete call) ⟨c.attempted, s.now, c.method.outcome reply⟩) :
    Moves s call c w (.complete call) (c.after s.now w reply)
  | expires {ticket : Correlation.Ticket} {deadline : Nat}
    (hp : c.phase = .waiting ticket deadline)
    (ht : Ends s call (.expire call)
      ⟨c.attempted, s.now, .error (.noDataReceived w.options.requestTimeout)⟩) :
    Moves s call c w (.expire call)
      (c.after s.now w (.error (.noDataReceived w.options.requestTimeout)))
  | wakes {deadline : Nat} (hp : c.phase = .sleeping deadline) (hd : deadline ≤ s.now) :
    Moves s call c w (.wake call) { c with phase := .ready }
  | leaves (hp : c.result? = none) : Moves s call c w (.cancel call) { c with phase := .cancelled }

/-- A call that moves on has no result yet. -/
theorem Call.Moves.result?_eq_none (h : c.Moves s call w a c') : c.result? = none := by
  cases h with
  | sends hp | fails hp | completes hp | expires hp | wakes hp => rw [Call.result?, hp]
  | leaves hp => exact hp

/-- A call that moves on stays the same call. -/
theorem Call.Moves.same (h : c.Moves s call w a c') :
    c'.user = c.user ∧ c'.method = c.method ∧ c'.began = c.began := by
  have hafter : ∀ (c : Call) now reply, (c.after now w reply).user = c.user ∧
      (c.after now w reply).method = c.method ∧ (c.after now w reply).began = c.began := by
    intro c now reply
    unfold Call.after
    split <;> exact ⟨rfl, rfl, rfl⟩
  cases h with
  | fails | completes | expires => exact hafter _ _ _
  | sends | wakes | leaves => exact ⟨rfl, rfl, rfl⟩

/-- An action that moves a call on does one of these things to it. -/
theorem State.moves_of_step? (h : s.step? outside a = some s') (ha : a.call? = some call)
    (hc : s.calls[call]? = some c) (ho : s.owner? c = some (u, w)) :
    s'.now = s.now ∧ ∃ c', s'.calls[call]? = some c' ∧ c.Moves s call w a c' := by
  obtain ⟨hu, hw⟩ := owner?_eq_some.1 ho
  have hlt := (List.getElem?_eq_some_iff.1 hc).1
  refine ⟨now_of_step? h (by rintro nanos rfl; cases ha), ?_⟩
  cases a with
  | attempt k =>
    cases ha
    have hp : c.phase = .ready := by
      obtain ⟨c₁, u₁, w₁, hc₁, hp, -⟩ := attempt?_cases h
      rwa [Option.some.inj (hc.symm.trans hc₁)]
    -- a table that refuses the request ends the attempt
    have hrefused : ∀ {e}, w.table.register u.consumer.uid = (.error e, w.table.refused) →
        ∃ c', s'.calls[call]? = some c' ∧ c.Moves s call w (.attempt call) c' := by
      intro e hreg
      cases (attempt?_of_refused hc hp hu hw hreg).symm.trans h
      exact ⟨_, getElem?_endAttempt hc _ _ _ _,
        .fails hp (.unregistered hc hp ho (by rw [hreg]))⟩
    rcases w.table.register_cases u.consumer.uid with
      ⟨hopen, hfree, hreg⟩ | ⟨-, hreg⟩ | ⟨-, -, hreg⟩
    · obtain ⟨c₁, u₁, w₁, hc₁, -, hu₁, hw₁, hcases⟩ := attempt?_cases h
      obtain rfl := Option.some.inj (hc.symm.trans hc₁)
      obtain rfl := Option.some.inj (hu.symm.trans hu₁)
      obtain rfl := Option.some.inj (hw.symm.trans hw₁)
      obtain ⟨messages, -, -, hcoord, -, rfl⟩ | ⟨e, he, -, rfl⟩ := hcases
      · refine ⟨_, List.getElem?_set_self hlt, .sends hp fun t ht => ?_⟩
        cases ht with
        | unregistered hc₂ _ ho₂ he =>
          cases hc.symm.trans hc₂
          cases ho.symm.trans ho₂
          rw [hreg] at he
          cases he
        | unsent _ _ _ _ he =>
          rw [hcoord] at he
          cases he
      · obtain ⟨hclosed, -⟩ | ⟨⟨x, hx, huid⟩, -⟩ | ⟨hcoord, rfl⟩ := he
        · rw [hopen] at hclosed
          cases hclosed
        · exact absurd huid (hfree x hx)
        · exact ⟨_, getElem?_endAttempt hc _ _ _ _,
            .fails hp (.unsent hc hp ho (by rw [hreg]) hcoord)⟩
    · exact hrefused hreg
    · exact hrefused hreg
  | complete k =>
    cases ha
    obtain ⟨c₁, ticket, deadline, u₁, w₁, reply, hc₁, hp, hu₁, hw₁, hr, rfl⟩ := complete?_cases h
    obtain rfl := Option.some.inj (hc.symm.trans hc₁)
    obtain rfl := Option.some.inj (hu.symm.trans hu₁)
    obtain rfl := Option.some.inj (hw.symm.trans hw₁)
    exact ⟨_, getElem?_endAttempt hc _ _ _ _, .completes hp hr (.answered hc hp ho hr)⟩
  | expire k =>
    cases ha
    obtain ⟨c₁, ticket, deadline, u₁, w₁, hc₁, hp, hu₁, hw₁, -, rfl⟩ := expire?_cases h
    obtain rfl := Option.some.inj (hc.symm.trans hc₁)
    obtain rfl := Option.some.inj (hu.symm.trans hu₁)
    obtain rfl := Option.some.inj (hw.symm.trans hw₁)
    exact ⟨_, getElem?_endAttempt hc _ _ _ _, .expires hp (.overdue hc hp ho)⟩
  | wake k =>
    cases ha
    obtain ⟨c₁, deadline, hc₁, hp, -⟩ := wake?_cases h
    obtain rfl := Option.some.inj (hc.symm.trans hc₁)
    have h := (wake?_eq hc hp).symm.trans h
    split at h
    · next hd =>
      cases h
      exact ⟨_, List.getElem?_set_self hlt, .wakes hp hd⟩
    · cases h
  | cancel k =>
    cases ha
    have h : s.cancel? call = some s' := h
    have hover : c.result? = none := by
      unfold Call.result?
      simp only [cancel?, hc, Option.bind_eq_bind, Option.bind_some] at h
      split at h
      · cases h
      · cases h
      all_goals next hp => simp [hp]
    obtain ⟨c₁, hc₁, ⟨-, rfl⟩ | ⟨ticket, deadline, u₁, w₁, -, -, -, rfl⟩⟩ := cancel?_cases h
    · obtain rfl := Option.some.inj (hc.symm.trans hc₁)
      exact ⟨_, List.getElem?_set_self hlt, .leaves hover⟩
    · obtain rfl := Option.some.inj (hc.symm.trans hc₁)
      exact ⟨_, List.getElem?_set_self hlt, .leaves hover⟩
  | _ => cases ha

theorem Ends.unique {t t' : Try} (h : Ends s call a t) (h' : Ends s call a t') : t = t' := by
  cases h with
  | unregistered hc _ ho he =>
    cases h' with
    | unregistered hc' _ ho' he' =>
      cases hc.symm.trans hc'
      cases ho.symm.trans ho'
      cases he.symm.trans he'
      rfl
    | unsent hc' _ ho' hr _ =>
      cases hc.symm.trans hc'
      cases ho.symm.trans ho'
      cases he.symm.trans hr
  | unsent hc _ ho hr _ =>
    cases h' with
    | unregistered hc' _ ho' he =>
      cases hc.symm.trans hc'
      cases ho.symm.trans ho'
      cases hr.symm.trans he
    | unsent => rfl
  | answered hc hp ho hr =>
    cases h' with
    | answered hc' hp' ho' hr' =>
      cases hc.symm.trans hc'
      cases hp.symm.trans hp'
      cases ho.symm.trans ho'
      cases hr.symm.trans hr'
      rfl
  | overdue hc _ ho =>
    cases h' with
    | overdue hc' _ ho' =>
      cases hc.symm.trans hc'
      cases ho.symm.trans ho'
      rfl

/-! ## Courses -/

/-- A run of a cluster, and the attempts of a call that have ended in it, the first one
first. -/
inductive Course (allowed : State → Action → Prop) (call : Nat) (first : State) :
    State → List Try → Prop where
  | nil : Course allowed call first first []
  | other {s s' : State} {tries : List Try} {outside : Outside} {a : Action}
    (course : Course allowed call first s tries) (ok : allowed s a)
    (step : s.step? outside a = some s') (none : ∀ t, ¬ Ends s call a t) :
    Course allowed call first s' tries
  | ended {s s' : State} {tries : List Try} {outside : Outside} {a : Action} {t : Try}
    (course : Course allowed call first s tries) (ok : allowed s a)
    (step : s.step? outside a = some s') (ends : Ends s call a t) :
    Course allowed call first s' (tries ++ [t])

/-- Every run is a course of each call. -/
theorem Run.course {allowed : State → Action → Prop} {first h : History}
    (run : Run allowed first h) (call : Nat) :
    ∃ tries, Course allowed call first.state h.state tries := by
  induction run with
  | nil => exact ⟨[], .nil⟩
  | @snoc h h' outside a _ ok step ih =>
    obtain ⟨tries, course⟩ := ih
    have hstep := (History.step?_eq_some.1 step).1
    by_cases hends : ∃ t, Ends h.state call a t
    · obtain ⟨t, ht⟩ := hends
      exact ⟨_, .ended course ok hstep ht⟩
    · exact ⟨_, .other course ok hstep (not_exists.1 hends)⟩

/-- The time up to which a call can be left alone: a call that is ready goes on at once, and
one that waits or sleeps has its deadline. -/
def Call.latest? (c : Call) (now : Nat) : Option Nat :=
  match c.phase with
  | .ready => some now
  | .waiting _ deadline | .sleeping deadline => some deadline
  | .finished _ | .cancelled => none

/-- Time passes only as long as a call can be left alone. -/
def State.KeepsTime (call : Nat) (s : State) : Action → Prop
  | .pass nanos => ∀ c ∈ s.calls[call]?, ∀ latest ∈ c.latest? s.now, s.now + nanos ≤ latest
  | _ => True

instance (call : Nat) (s : State) : ∀ a, Decidable (s.KeepsTime call a)
  | .pass nanos => inferInstanceAs <| Decidable <|
      ∀ c ∈ s.calls[call]?, ∀ latest ∈ c.latest? s.now, s.now + nanos ≤ latest
  | .serve _ | .perform | .receive .. | .endReplies _ | .attempt _ | .complete _ | .expire _
  | .wake _ | .cancel _ | .inject .. | .connect .. | .join .. | .begin .. | .disconnect _
  | .dropWorker _ | .closeService | .testStop _ | .stop _ => .isTrue trivial

namespace State

/-- An attempt can be made by every call that is ready. -/
theorem exists_attempt (hc : s.calls[call]? = some c) (hp : c.phase = .ready)
    (ho : s.owner? c = some (u, w)) : ∃ s', s.attempt? call = some s' := by
  simp only [attempt?, hc, hp, ho, Option.bind_eq_bind, Option.bind_some]
  split
  · exact ⟨_, rfl⟩
  · split
    · exact ⟨_, rfl⟩
    · exact ⟨_, rfl⟩

/-- A call that is not over goes on by an action of its own, or time may pass. -/
theorem goes_on (hc : s.calls[call]? = some c) (ho : s.owner? c = some (u, w))
    (hr : c.result? = none) (hp : c.phase ≠ .cancelled) (outside : Outside) :
    (∃ a s', a.call? = some call ∧ a ≠ .cancel call ∧ s.step? outside a = some s') ∨
      ∃ nanos, 0 < nanos ∧ s.KeepsTime call (.pass nanos) := by
  obtain ⟨hu, hw⟩ := owner?_eq_some.1 ho
  -- as long as there is time left, it may pass
  have hpass : ∀ {deadline}, c.latest? s.now = some deadline → s.now < deadline →
      ∃ nanos, 0 < nanos ∧ s.KeepsTime call (.pass nanos) := by
    intro deadline hlatest hlt
    refine ⟨deadline - s.now, by omega, fun c' hc' latest hlatest' => ?_⟩
    cases hc.symm.trans hc'
    cases hlatest.symm.trans hlatest'
    omega
  cases hphase : c.phase with
  | ready =>
    obtain ⟨s', hs'⟩ := exists_attempt hc hphase ho
    exact .inl ⟨.attempt call, s', rfl, nofun, hs'⟩
  | waiting ticket deadline =>
    cases hreply : w.table.outcome? ticket with
    | some reply =>
      exact .inl ⟨.complete call, _, rfl, nofun,
        (complete?_eq hc hphase hu hw).trans (congrArg _ hreply)⟩
    | none =>
      by_cases hlt : s.now < deadline
      · exact .inr (hpass (by rw [Call.latest?, hphase]) hlt)
      · exact .inl ⟨.expire call, _, rfl, nofun,
          (expire?_eq hc hphase hu hw).trans (if_pos ⟨Nat.le_of_not_lt hlt, hreply⟩)⟩
  | sleeping deadline =>
    by_cases hlt : s.now < deadline
    · exact .inr (hpass (by rw [Call.latest?, hphase]) hlt)
    · exact .inl ⟨.wake call, _, rfl, nofun,
        (wake?_eq hc hphase).trans (if_pos (Nat.le_of_not_lt hlt))⟩
  | finished result =>
    rw [Call.result?, hphase] at hr
    cases hr
  | cancelled => exact absurd hphase hp

end State

end Cluster

/-! ## Polling pops -/

namespace Method

variable {key : String} {wait : Option Duration} {reply : Except Error Json}

/-- An attempt of a pop reads no test data. -/
theorem outcome_pop_data (payload : Option Payload) :
    (pop key wait).outcome reply ≠ .ok (.testdata payload) := by
  intro h
  cases reply with
  | error e => cases h
  | ok v =>
    obtain ⟨x, hx⟩ := @read_pop key wait v _ h
    cases hx

/-- An attempt of a pop does not fail with the error of a pop that has timed out. -/
theorem outcome_pop_genuine (hreply : ∀ key limit, reply ≠ .error (.popTimeout key limit))
    (key' : String) (limit : Duration) :
    (pop key wait).outcome reply ≠ .error (.popTimeout key' limit) := by
  intro h
  cases reply with
  | error e =>
    cases h
    exact hreply _ _ rfl
  | ok v =>
    have h : readKeystore .pop key v = .error (.popTimeout key' limit) := h
    unfold readKeystore at h
    split at h
    · cases h
    · split at h <;> cases h

end Method

namespace Cluster

variable {s s' : State} {call : Nat} {c c' : Call} {u : User} {w : Worker} {outside : Outside}
  {a : Action}

/-- No attempt of a pop fails with the error of a pop that has timed out. -/
theorem Ends.genuine {t : Try} (h : Ends s call a t) (hc : s.calls[call]? = some c)
    {key : String} {wait : Option Duration} (hm : c.method = .pop key wait) (key' : String)
    (limit : Duration) : t.reading ≠ .error (.popTimeout key' limit) := by
  cases h with
  | unregistered _ _ _ he =>
    intro heq
    cases heq
    rcases Correlation.Table.register_cases _ _ with ⟨-, -, hreg⟩ | ⟨-, hreg⟩ | ⟨-, -, hreg⟩ <;>
      rw [hreg] at he <;> cases he
  | unsent | overdue =>
    intro heq
    cases heq
  | answered hc' _ _ hr =>
    cases hc.symm.trans hc'
    rw [hm]
    refine Method.outcome_pop_genuine ?_ key' limit
    rintro _ _ rfl
    rcases Correlation.Table.outcome?_cases hr with ⟨v, hv, -⟩ | ⟨hv, -⟩ <;> cases hv

theorem Call.after_of_finish {now : Nat} {reply : Except Error Json}
    {result : Except Error Answer} (h : c.method.next c.isFirst (.ofNanos (now - c.began))
      (c.method.outcome reply) = .finish result) :
    c.after now w reply = { c with phase := .finished result } := by
  rw [Call.after, h]

theorem Call.after_of_again {now : Nat} {reply : Except Error Json}
    (h : c.method.next c.isFirst (.ofNanos (now - c.began)) (c.method.outcome reply) = .again) :
    c.after now w reply = { c with
      isFirst := false
      phase := .sleeping (now + w.options.pollInterval.toNanos) } := by
  rw [Call.after, h]

/-- The poll that a pop makes for a worker. -/
def Call.poll (c : Call) (key : String) (wait : Option Duration) (w : Worker) : Poll :=
  ⟨key, wait, w.options.pollInterval.toNanos, c.began⟩

/-- Where a pop is after some attempts. -/
def Call.IsAt (c : Call) (p : Poll) (timeout now : Nat) (tries : List Try) : Prop :=
  match c.phase with
  | .ready => c.isFirst = tries.isEmpty ∧ p.due tries ≤ now
  | .waiting _ deadline => c.isFirst = tries.isEmpty ∧ p.due tries ≤ c.attempted ∧
    c.attempted ≤ now ∧ deadline = c.attempted + timeout
  | .sleeping deadline => c.isFirst = tries.isEmpty ∧ deadline = p.due tries
  | .finished _ | .cancelled => True

/-- Where a pop is that has never been left alone for too long. -/
def Call.IsInTime (c : Call) (p : Poll) (now : Nat) (tries : List Try) : Prop :=
  match c.phase with
  | .ready => now = p.due tries
  | .waiting _ deadline => c.attempted = p.due tries ∧ now ≤ deadline
  | .sleeping deadline => now ≤ deadline
  | .finished _ | .cancelled => True

/-- A pop has come to what its attempts come to. If time is kept, it is in time. -/
structure Call.Obeys (c : Call) (p : Poll) (timeout now : Nat) (tries : List Try)
    (timed : Prop) : Prop where
  yields : p.Yields tries c.result?
  place : c.IsAt p timeout now tries
  /-- No attempt fails with the error of a pop that has timed out. -/
  genuine : ∀ t ∈ tries, ∀ key limit, t.reading ≠ .error (.popTimeout key limit)
  prompt : timed → p.Prompt timeout tries ∧ c.IsInTime p now tries

namespace Call.Obeys

variable {p : Poll} {timeout now : Nat} {tries : List Try} {timed : Prop} {key : String}
  {wait : Option Duration}

/-- A pop that has just begun. -/
theorem begin (p : Poll) (timeout user : Nat) (method : Method) (timed : Prop) :
    Obeys { user := user, method := method, began := p.began, attempted := p.began } p timeout
      p.began [] timed where
  yields := .begins
  place := ⟨rfl, Nat.le_refl _⟩
  genuine := nofun
  prompt _ := ⟨.nil, rfl⟩

/-- Time passes while other things happen. -/
theorem pass (h : c.Obeys p timeout now tries timed) {nanos : Nat}
    (hlatest : timed → ∀ latest ∈ c.latest? now, now + nanos ≤ latest) :
    c.Obeys p timeout (now + nanos) tries timed where
  yields := h.yields
  genuine := h.genuine
  place := by
    have hplace := h.place
    unfold Call.IsAt at hplace ⊢
    split at hplace
    · exact ⟨hplace.1, Nat.le_add_right_of_le hplace.2⟩
    · exact ⟨hplace.1, hplace.2.1, Nat.le_add_right_of_le hplace.2.2.1, hplace.2.2.2⟩
    · exact hplace
    · trivial
    · trivial
  prompt ht := by
    obtain ⟨hprompt, htime⟩ := h.prompt ht
    have hlatest := hlatest ht
    refine ⟨hprompt, ?_⟩
    unfold Call.IsInTime at htime ⊢
    unfold Call.latest? at hlatest
    split at htime
    · next hp =>
      simp only [hp, Option.mem_some_iff, forall_eq'] at hlatest
      omega
    · next hp =>
      simp only [hp, Option.mem_some_iff, forall_eq'] at hlatest
      exact ⟨htime.1, hlatest⟩
    · next hp =>
      simp only [hp, Option.mem_some_iff, forall_eq'] at hlatest
      exact hlatest
    · trivial
    · trivial

/-- An attempt that began when it was due, or later, has ended. -/
theorem after (h : c.Obeys p timeout now tries timed) (hm : c.method = .pop key wait)
    (hpoll : p = c.poll key wait w) (hnone : c.result? = none)
    (hfirst : c.isFirst = tries.isEmpty) {began : Nat} (hdue : p.due tries ≤ began)
    (hended : began ≤ now) (htimed : timed → began = p.due tries ∧ now ≤ began + timeout)
    {reply : Except Error Json}
    (hreply : ∀ key limit, c.method.outcome reply ≠ .error (.popTimeout key limit)) :
    (({ c with attempted := began } : Call).after now w reply).Obeys p timeout now
      (tries ++ [⟨began, now, c.method.outcome reply⟩]) timed := by
  have hyields : p.Yields tries none := hnone ▸ h.yields
  have hbegan : p.began ≤ now := hyields.began_le_due.trans (hdue.trans hended)
  obtain ⟨r, hb, hnext⟩ : ∃ r, p.Brings tries.isEmpty ⟨began, now, c.method.outcome reply⟩ r ∧
      Method.nextPop p.key p.wait tries.isEmpty (.ofNanos (now - p.began))
        (c.method.outcome reply) = .of r :=
    Poll.brings_nextPop hbegan (hm ▸ Method.outcome_pop_data)
  have hyields' := hyields.attempt hdue hended hb
  have hgenuine : ∀ t ∈ tries ++ [⟨began, now, c.method.outcome reply⟩], ∀ key limit,
      t.reading ≠ .error (.popTimeout key limit) :=
    List.forall_mem_append.2 ⟨h.genuine, List.forall_mem_singleton.2 hreply⟩
  have hprompt : timed → p.Prompt timeout (tries ++ [⟨began, now, c.method.outcome reply⟩]) :=
    fun ht => (h.prompt ht).1.concat (htimed ht).1 (htimed ht).2
  have hnext' : ({ c with attempted := began } : Call).method.next c.isFirst
      (.ofNanos (now - c.began)) (c.method.outcome reply) = .of r := by
    subst hpoll
    rw [hm] at hnext ⊢
    rw [hfirst, Method.next]
    exact hnext
  cases r with
  | some result =>
    rw [Call.after_of_finish hnext']
    exact ⟨hyields', trivial, hgenuine, fun ht => ⟨hprompt ht, trivial⟩⟩
  | none =>
    rw [Call.after_of_again hnext']
    have hdue' : now + w.options.pollInterval.toNanos =
        p.due (tries ++ [⟨began, now, c.method.outcome reply⟩]) := by
      rw [Poll.due_concat, hpoll]
      rfl
    refine ⟨hyields', ⟨?_, hdue'⟩, hgenuine, fun ht => ⟨hprompt ht, ?_⟩⟩
    · simp
    · exact Nat.le_add_right _ _

/-- A call moves on: with the attempt that has ended, if one has. -/
theorem moves (h : c.Obeys p w.options.requestTimeout.toNanos s.now tries timed)
    (hc : s.calls[call]? = some c) (hm : c.method = .pop key wait)
    (hpoll : p = c.poll key wait w) (hmoves : c.Moves s call w a c') :
    (∃ t, Ends s call a t ∧
        c'.Obeys p w.options.requestTimeout.toNanos s.now (tries ++ [t]) timed) ∨
      (∀ t, ¬ Ends s call a t) ∧
        c'.Obeys p w.options.requestTimeout.toNanos s.now tries timed := by
  have hresult := hmoves.result?_eq_none
  have hyields : p.Yields tries none := hresult ▸ h.yields
  have hplace := h.place
  have htime := fun ht => (h.prompt ht).2
  unfold Call.IsAt at hplace
  unfold Call.IsInTime at htime
  cases hmoves with
  | sends hp hnone =>
    simp only [hp] at hplace htime
    exact .inr ⟨hnone, hyields, ⟨hplace.1, hplace.2, Nat.le_refl _, rfl⟩, h.genuine,
      fun ht => ⟨(h.prompt ht).1, htime ht, Nat.le_add_right _ _⟩⟩
  | fails hp ht =>
    simp only [hp] at hplace htime
    refine .inl ⟨_, ht, h.after hm hpoll hresult hplace.1 hplace.2 (Nat.le_refl _) ?_
      (ht.genuine hc hm)⟩
    exact fun ht => ⟨htime ht, Nat.le_add_right _ _⟩
  | completes hp hr ht =>
    simp only [hp] at hplace htime
    refine .inl ⟨_, ht, h.after hm hpoll hresult hplace.1 hplace.2.1 hplace.2.2.1 ?_
      (ht.genuine hc hm)⟩
    exact fun ht => ⟨(htime ht).1, hplace.2.2.2 ▸ (htime ht).2⟩
  | expires hp ht =>
    simp only [hp] at hplace htime
    refine .inl ⟨_, ht, h.after hm hpoll hresult hplace.1 hplace.2.1 hplace.2.2.1 ?_
      (ht.genuine hc hm)⟩
    exact fun ht => ⟨(htime ht).1, hplace.2.2.2 ▸ (htime ht).2⟩
  | wakes hp hd =>
    simp only [hp] at hplace htime
    have hnone : ∀ t, ¬ Ends s call (.wake call) t := by
      intro t ht
      cases ht
    -- it wakes up when the next attempt is due, and not later if time is kept
    have hnow : p.due tries ≤ s.now := hplace.2 ▸ hd
    exact .inr ⟨hnone, hyields, ⟨hplace.1, hnow⟩, h.genuine,
      fun ht => ⟨(h.prompt ht).1, Nat.le_antisymm (hplace.2 ▸ htime ht) hnow⟩⟩
  | leaves =>
    have hnone : ∀ t, ¬ Ends s call (.cancel call) t := by
      intro t ht
      cases ht
    exact .inr ⟨hnone, hyields, trivial, h.genuine, fun ht => ⟨(h.prompt ht).1, trivial⟩⟩

/-- A pop that keeps time and is not over is in time. -/
theorem now_le (h : c.Obeys p timeout now tries timed) (ht : timed) {limit : Duration}
    (hw : p.wait = some limit) (hresult : c.result? = none) (hp : c.phase ≠ .cancelled) :
    now ≤ p.began + limit.toNanos + p.interval + timeout := by
  have hdue := (hresult ▸ h.yields).due_le hw
  have hplace := h.place
  have htime := (h.prompt ht).2
  unfold Call.IsAt at hplace
  unfold Call.IsInTime at htime
  split at htime
  · omega
  · next hphase =>
    simp only [hphase] at hplace
    omega
  · next hphase =>
    simp only [hphase] at hplace
    omega
  · next hphase =>
    rw [Call.result?, hphase] at hresult
    cases hresult
  · next hphase => exact absurd hphase hp

end Call.Obeys

/-- A call has an owner, and if it is a pop, it has come to what its attempts come to. -/
def Call.Follows (s : State) (c : Call) (tries : List Try) (timed : Prop) : Prop :=
  ∃ u w, s.owner? c = some (u, w) ∧ ∀ key wait, c.method = .pop key wait →
    c.Obeys (c.poll key wait w) w.options.requestTimeout.toNanos s.now tries timed

namespace Call.Follows

variable {tries : List Try} {timed : Prop}

/-- A call that has just begun. -/
theorem begin (hn : Numbered s) (h : s.step? outside a = some s') (hc : s.calls[call]? = none)
    (hc' : s'.calls[call]? = some c') (timed : Prop) : Follows s' c' [] timed := by
  obtain ⟨hnow, user, method, ⟨u, hu⟩, rfl⟩ := State.begun_of_step? h hc hc'
  have hlt := hn.homes u (List.mem_of_getElem? hu)
  obtain ⟨w, ho, -⟩ := State.owner?_of_step? (c := ⟨user, method, s.now, s.now, true, .ready⟩)
    h (State.owner?_eq_some.2 ⟨hu, List.getElem?_eq_getElem hlt⟩) rfl
  refine ⟨u, w, ho, fun key wait _ => ?_⟩
  rw [hnow]
  exact .begin (Call.poll ⟨user, method, s.now, s.now, true, .ready⟩ key wait w) _ user method
    timed

/-- Other things happen. -/
theorem other (hf : c.Follows s tries timed) (h : s.step? outside a = some s')
    (hc : s.calls[call]? = some c) (htime : timed → s.KeepsTime call a) :
    c.Follows s' tries timed := by
  obtain ⟨u, w, ho, hobeys⟩ := hf
  obtain ⟨w', ho', hoptions, -⟩ := State.owner?_of_step? h ho rfl
  refine ⟨u, w', ho', fun key wait hm => ?_⟩
  have hobeys := hobeys key wait hm
  rw [Call.poll, hoptions]
  by_cases hpass : ∃ nanos, a = .pass nanos
  · obtain ⟨nanos, rfl⟩ := hpass
    cases h
    exact hobeys.pass fun ht => htime ht c hc
  · rw [State.now_of_step? h (not_exists.1 hpass)]
    exact hobeys

/-- The call moves on: with the attempt that has ended, if one has. -/
theorem moves (hf : c.Follows s tries timed) (h : s.step? outside a = some s')
    (hc : s.calls[call]? = some c) (ha : a.call? = some call) :
    ∃ c', s'.calls[call]? = some c' ∧
      ((∃ t, Ends s call a t ∧ c'.Follows s' (tries ++ [t]) timed) ∨
        (∀ t, ¬ Ends s call a t) ∧ c'.Follows s' tries timed) := by
  obtain ⟨u, w, ho, hobeys⟩ := hf
  obtain ⟨hnow, c', hc', hmoves⟩ := State.moves_of_step? h ha hc ho
  obtain ⟨w', ho', hoptions, -⟩ := State.owner?_of_step? h ho hmoves.same.1
  obtain ⟨-, hmethod, hbegan⟩ := hmoves.same
  have hpoll : ∀ key wait, c'.poll key wait w' = c.poll key wait w := by
    intro key wait
    rw [Call.poll, Call.poll, hoptions, hbegan]
  refine ⟨c', hc', ?_⟩
  by_cases hends : ∃ t, Ends s call a t
  · obtain ⟨t, ht⟩ := hends
    refine .inl ⟨t, ht, u, w', ho', fun key wait hm => ?_⟩
    rw [hmethod] at hm
    rw [hpoll, hoptions, hnow]
    rcases (hobeys key wait hm).moves hc hm rfl hmoves with ⟨t', ht', hobeys'⟩ | ⟨hnone, -⟩
    · rwa [ht.unique ht']
    · exact absurd ht (hnone t)
  · refine .inr ⟨not_exists.1 hends, u, w', ho', fun key wait hm => ?_⟩
    rw [hmethod] at hm
    rw [hpoll, hoptions, hnow]
    rcases (hobeys key wait hm).moves hc hm rfl hmoves with ⟨t, ht, -⟩ | ⟨-, hobeys'⟩
    · exact absurd ⟨t, ht⟩ hends
    · exact hobeys'

end Call.Follows

/-- What holds in a course: a call that is not there yet has made no attempt, and one that is
there has come to what its attempts come to. -/
structure Course.Sound (call : Nat) (s : State) (tries : List Try) (timed : Prop) : Prop where
  numbered : Numbered s
  fresh : s.calls[call]? = none → tries = []
  follows : ∀ c, s.calls[call]? = some c → c.Follows s tries timed

namespace Course

variable {allowed : State → Action → Prop} {service : Service} {tries : List Try} {timed : Prop}

theorem Sound.of_follows (hn : Numbered s) (hc : s.calls[call]? = some c)
    (hf : c.Follows s tries timed) : Sound call s tries timed where
  numbered := hn
  fresh hnone := by
    rw [hc] at hnone
    cases hnone
  follows c' hc' := by
    rw [hc] at hc'
    cases hc'
    exact hf

/-- One step: an attempt has ended, or none. -/
theorem Sound.step (hs : Sound call s tries timed) (h : s.step? outside a = some s')
    (htime : timed → s.KeepsTime call a) :
    (∀ t, Ends s call a t → Sound call s' (tries ++ [t]) timed) ∧
      ((∀ t, ¬ Ends s call a t) → Sound call s' tries timed) := by
  have hn := hs.numbered.of_step? h
  cases hc : s.calls[call]? with
  | none =>
    refine ⟨fun t ht => ?_, fun _ => ⟨hn, fun _ => hs.fresh hc, fun c' hc' => ?_⟩⟩
    · obtain ⟨c, hc'⟩ := ht.exists_call
      cases hc.symm.trans hc'
    · rw [hs.fresh hc]
      exact .begin hs.numbered h hc hc' timed
  | some c =>
    by_cases ha : a.call? = some call
    · obtain ⟨c', hc', ⟨t, ht, hf⟩ | ⟨hnone, hf⟩⟩ := (hs.follows c hc).moves h hc ha
      · refine ⟨fun t' ht' => ?_, fun hnone => absurd ht (hnone t)⟩
        rw [ht'.unique ht]
        exact .of_follows hn hc' hf
      · exact ⟨fun t ht => absurd ht (hnone t), fun _ => .of_follows hn hc' hf⟩
    · exact ⟨fun t ht => absurd ht.call?_eq ha, fun _ => .of_follows hn
        (State.call_of_step? h ha hc) ((hs.follows c hc).other h hc htime)⟩

theorem sound (course : Course allowed call { service := service } s tries)
    (htime : timed → ∀ s a, allowed s a → s.KeepsTime call a) :
    Sound call s tries timed := by
  induction course with
  | nil => exact ⟨.start service, fun _ => rfl, nofun⟩
  | other _ ok step none ih => exact (ih.step step fun ht => htime ht _ _ ok).2 none
  | ended _ ok step ends ih => exact (ih.step step fun ht => htime ht _ _ ok).1 _ ends

/-- Whatever happens in a cluster, a pop comes to what its attempts come to by themselves: the
value of the first attempt that brings one, the error of the first that fails for good, or its
timeout, by the first attempt that finds nothing and ends when the time is up. It makes one
attempt if its wait is no span of time. If no attempt takes longer than a timeout, and each
begins when it is due, all of them end by the wait, an interval and the timeout. That is so if
time passes only as long as the call can be left alone, and then a pop with a wait is over by
that time too. Until it is over it can always go on. -/
theorem pop_as_meant {key : String} {wait : Option Duration}
    (course : Course allowed call { service := service } s tries)
    (hc : s.calls[call]? = some c) (ho : s.owner? c = some (u, w))
    (hm : c.method = .pop key wait) :
    (∀ r, (c.poll key wait w).Yields tries r ↔ r = c.result?) ∧
    (∀ key' limit, c.result? = some (.error (.popTimeout key' limit)) →
      key' = key ∧ wait = some limit ∧
        ∃ before t, tries = before ++ [t] ∧ c.began + limit.toNanos ≤ t.ended) ∧
    (∀ limit, wait = some limit → limit.toNanos = 0 →
      (tries = [] ∧ c.result? = none) ∨ ∃ t result, tries = [t] ∧ c.result? = some result) ∧
    (∀ limit timeout, wait = some limit → (c.poll key wait w).Prompt timeout tries →
      ∀ t ∈ tries,
        t.ended ≤ c.began + limit.toNanos + w.options.pollInterval.toNanos + timeout) ∧
    ((∀ s a, allowed s a → s.KeepsTime call a) →
      (c.poll key wait w).Prompt w.options.requestTimeout.toNanos tries ∧
      ∀ limit, wait = some limit → c.began + limit.toNanos + w.options.pollInterval.toNanos +
        w.options.requestTimeout.toNanos < s.now → c.result? ≠ none ∨ c.phase = .cancelled) ∧
    (c.result? = none → c.phase ≠ .cancelled → ∀ outside,
      (∃ a s', a.call? = some call ∧ a ≠ .cancel call ∧ s.step? outside a = some s') ∨
        ∃ nanos, 0 < nanos ∧ s.KeepsTime call (.pass nanos)) := by
  obtain ⟨u', w', ho', hobeys⟩ := (course.sound id).follows c hc
  cases ho.symm.trans ho'
  have hobeys := hobeys key wait hm
  have hyields := hobeys.yields
  refine ⟨?_, ?_, ?_, ?_, ?_, ?_⟩
  · intro r
    constructor
    · exact fun h => h.unique hyields
    · rintro rfl
      exact hyields
  · intro key' limit hresult
    exact hyields.timeout_of_popTimeout hobeys.genuine hresult
  · intro limit hw hzero
    exact hyields.once hw hzero
  · intro limit timeout hw hprompt
    exact hyields.ended_le hprompt hw
  · intro htime
    refine ⟨(hobeys.prompt htime).1, fun limit hw hlate => ?_⟩
    by_contra hover
    rw [not_or, ne_eq, not_not] at hover
    exact absurd (hobeys.now_le htime hw hover.1 hover.2) (Nat.not_le_of_lt hlate)
  · exact State.goes_on hc ho

end Course

/-- A pop that waits for one and a half seconds asks at once, after a second and after two
seconds, and the last reply takes a while. All of them are null. -/
def patient : List (Outside × Action) :=
  [.connect "w" {} true, .join 0 "A", .begin 0 (.pop "q" (some ⟨1, 500000000⟩)),
    .attempt 0, .serve 0, .receive 0 0, .complete 0, .pass 1000000000, .wake 0,
    .attempt 0, .serve 0, .receive 0 0, .complete 0, .pass 1000000000, .wake 0,
    .attempt 0, .serve 0, .pass 700000000, .receive 0 0, .complete 0].map (still, ·)

/-- The key and the wait of a pop that has timed out, and those that its error tells. -/
private def timedOut? (c : Call) : Option ((String × Duration) × (String × Duration)) :=
  match c.method, c.result? with
  | .pop key (some wait), some (.error (.popTimeout key' wait')) =>
    some ((key, wait), (key', wait'))
  | _, _ => none

private theorem timedOut?_eq_some {c : Call} {key key' : String} {wait wait' : Duration}
    (hc : timedOut? c = some ((key, wait), (key', wait'))) :
    c.method = .pop key (some wait) ∧ c.result? = some (.error (.popTimeout key' wait')) := by
  unfold timedOut? at hc
  split at hc
  · next hm hr =>
    cases hc
    exact ⟨hm, hr⟩
  · cases hc

/-- The pop has timed out, after the wait and before the wait, an interval and a timeout. -/
theorem patient_times_out : ∃ h tries c u w,
    (History.start {}).run? (State.KeepsTime 0) patient = some h ∧
    Course (State.KeepsTime 0) 0 { service := .coordinator {} } h.state tries ∧
    h.state.calls[0]? = some c ∧ h.state.owner? c = some (u, w) ∧
    c.method = .pop "q" (some ⟨1, 500000000⟩) ∧
    c.result? = some (.error (.popTimeout "q" ⟨1, 500000000⟩)) ∧
    (∃ before t, tries = before ++ [t] ∧ c.began + 1500000000 ≤ t.ended) ∧
    ∀ t ∈ tries, t.ended ≤ c.began + 1500000000 + w.options.pollInterval.toNanos +
      w.options.requestTimeout.toNanos := by
  obtain ⟨h, hh⟩ : ∃ h, (History.start {}).run? (State.KeepsTime 0) patient = some h :=
    Option.isSome_iff_exists.1 (by decide +kernel)
  have hfacts : ((History.start {}).run? (State.KeepsTime 0) patient).map (fun h =>
      (h.state.calls[0]?.bind timedOut?, (h.state.calls[0]?.bind h.state.owner?).isSome)) =
        some (some (("q", ⟨1, 500000000⟩), ("q", ⟨1, 500000000⟩)), true) := by
    decide +kernel
  rw [hh] at hfacts
  simp only [Option.map_some, Option.some.injEq, Prod.mk.injEq] at hfacts
  obtain ⟨hcall, howner⟩ := hfacts
  obtain ⟨c, hc, hcall⟩ := Option.bind_eq_some_iff.1 hcall
  obtain ⟨hm, hresult⟩ := timedOut?_eq_some hcall
  rw [hc] at howner
  obtain ⟨⟨u, w⟩, ho⟩ := Option.isSome_iff_exists.1 howner
  have run : Run (State.KeepsTime 0) (History.start {}) h := Run.nil.of_run? hh
  obtain ⟨tries, course⟩ := run.course 0
  obtain ⟨-, htimeout, -, hends, htime, -⟩ := course.pop_as_meant hc ho hm
  obtain ⟨-, hwait, hlast⟩ := htimeout _ _ hresult
  exact ⟨h, tries, c, u, w, hh, course, hc, ho, hm, hresult, hlast,
    hends _ _ hwait (htime fun _ _ => id).1⟩

end Cluster

end LoadTest
