import LoadTest.Proofs.Cluster.Courses
/-!
# Polling without a connection

A table that is closed stays closed, and it refuses every request with an error that is said to
go away. A pop takes that error for an empty list, except on its first attempt. So a pop that
has begun to poll goes on polling until its time is up, and one without a limit polls for ever.
-/

namespace LoadTest

/-- The error of a closed table ends a pop on its first attempt, and counts as an empty list
later. -/
theorem Method.next_pop_closed (key : String) (wait : Option Duration) (isFirst : Bool)
    (elapsed : Duration) :
    (pop key wait).next isFirst elapsed (.error .replyChannelClosed) =
      if isFirst then .finish (.error .replyChannelClosed) else emptyPop key wait elapsed := by
  cases isFirst <;> rfl

namespace Cluster

open Transport Correlation

/-! ## Refused attempts -/

/-- Where a pop is after an attempt that a closed table has refused. -/
inductive Call.Refused (c : Call) (key : String) (wait : Option Duration) (now interval : Nat) :
    Phase → Prop where
  | first (hfirst : c.isFirst = true) :
    Refused c key wait now interval (.finished (.error .replyChannelClosed))
  | late {limit : Duration} (hpolls : c.isFirst = false) (hwait : wait = some limit)
    (hup : limit.toNanos ≤ now - c.began) :
    Refused c key wait now interval (.finished (.error (.popTimeout key limit)))
  | again (hpolls : c.isFirst = false)
    (hleft : ∀ limit, wait = some limit → ¬ limit.toNanos ≤ now - c.began) :
    Refused c key wait now interval (.sleeping (now + interval))

variable {s s' : State} {worker call : Nat} {c c' : Call} {u : User} {w : Worker}
  {outside : Outside} {a : Action} {key : String} {wait : Option Duration}

/-- What the refusal of an attempt makes of a pop. -/
theorem Call.refused_after (hm : c.method = .pop key wait) (now attempted : Nat) (w : Worker) :
    c.Refused key wait now w.options.pollInterval.toNanos (({ c with
      attempted := attempted } : Call).after now w (.error .replyChannelClosed)).phase := by
  have hnext : ({ c with attempted := attempted } : Call).method.next c.isFirst
      (.ofNanos (now - c.began)) (c.method.outcome (.error .replyChannelClosed)) =
        if c.isFirst then .finish (.error .replyChannelClosed)
        else Method.emptyPop key wait (.ofNanos (now - c.began)) := by
    rw [show ({ c with attempted := attempted } : Call).method = _ from hm]
    exact Method.next_pop_closed ..
  by_cases hfirst : c.isFirst = true
  · rw [if_pos hfirst] at hnext
    rw [after_of_finish hnext]
    exact .first hfirst
  · rw [if_neg hfirst] at hnext
    rw [Bool.not_eq_true] at hfirst
    cases wait with
    | none =>
      rw [after_of_again hnext]
      exact .again hfirst nofun
    | some limit =>
      rw [Method.emptyPop, Duration.toNanos_ofNanos] at hnext
      by_cases hup : limit.toNanos ≤ now - c.began
      · rw [if_pos hup] at hnext
        rw [after_of_finish hnext]
        exact .late hfirst rfl hup
      · rw [if_neg hup] at hnext
        rw [after_of_again hnext]
        refine .again hfirst ?_
        rintro _ ⟨⟩
        exact hup

/-- The attempt ends the pop if it is the first one or the time is up, and then with an error. -/
theorem Call.Refused.error_iff {now interval : Nat} {c' : Call}
    (h : c.Refused key wait now interval c'.phase) : (∃ e, c'.result? = some (.error e)) ↔
      c.isFirst = true ∨ ∃ limit, wait = some limit ∧ limit.toNanos ≤ now - c.began := by
  unfold Call.result?
  generalize c'.phase = phase at h
  cases h with
  | first hfirst => exact iff_of_true ⟨_, rfl⟩ (.inl hfirst)
  | late _ hwait hup => exact iff_of_true ⟨_, rfl⟩ (.inr ⟨_, hwait, hup⟩)
  | again hpolls hleft =>
    refine iff_of_false nofun ?_
    rintro (hfirst | ⟨limit, hwait, hup⟩)
    · rw [hpolls] at hfirst
      cases hfirst
    · exact hleft limit hwait hup

/-! ## Courses on a closed table -/

/-- Other things that happen later belong to the same course. -/
theorem Course.trans {allowed : State → Action → Prop} {first : State} {tries tries' : List Try}
    (course : Course allowed call first s tries) (later : Course allowed call s s' tries') :
    Course allowed call first s' (tries ++ tries') := by
  induction later with
  | nil => rwa [List.append_nil]
  | other _ ok step none ih => exact ih.other ok step none
  | ended _ ok step ends ih =>
    rw [← List.append_assoc]
    exact ih.ended ok step ends

theorem Course.reaches {allowed : State → Action → Prop} {first : State} {tries : List Try}
    (course : Course allowed call first s tries) : first.Reaches s := by
  induction course with
  | nil => exact .refl
  | other _ _ step _ ih | ended _ _ step _ ih => exact ih.tail ⟨_, _, step⟩

namespace State

/-- A closed table stays closed. -/
theorem Reaches.closed_later {service : Service} (run : Reaches { service := service } s)
    (hw : s.workers[worker]? = some w) (hclosed : w.table.isClosed = true) (h : s.Reaches s') :
    ∃ w', s'.workers[worker]? = some w' ∧ w'.table.isClosed = true := by
  obtain ⟨tale, htale⟩ := run.exists_tale
  obtain ⟨w', more, hw', -, hrun, -⟩ := h.later htale hw
  have hclose := (htale.run (table?_eq hw)).kept.isClosed.1 hclosed
  exact ⟨w', hw', hrun.kept.isClosed.2 (List.mem_append_left _ hclose)⟩

/-- A pop without a limit is past its first attempt, has no request out and no result. -/
structure Adrift (s : State) (worker call : Nat) (key : String) (c : Call) (u : User) : Prop where
  has : s.Has worker call c u
  method : c.method = .pop key none
  polls : c.isFirst = false
  idle : c.ticket? = none
  unfinished : c.result? = none

namespace Adrift

/-- An attempt of the pop is refused. -/
theorem reading_of_ends (h : s.Adrift worker call key c u) (hw : s.workers[worker]? = some w)
    (hclosed : w.table.isClosed = true) {t : Try} (ht : Ends s call a t) :
    t.reading = .error .replyChannelClosed := by
  obtain ⟨⟨hc, hu, rfl⟩, -, -, hidle, -⟩ := h
  have ho : s.owner? c = some (u, w) := owner?_eq_some.2 ⟨hu, hw⟩
  have hr := congrArg Prod.fst (Table.register_of_closed hclosed u.consumer.uid)
  cases ht with
  | unregistered hc' _ ho' he =>
    cases hc.symm.trans hc'
    cases ho.symm.trans ho'
    cases hr.symm.trans he
    rfl
  | unsent hc' _ ho' hr' =>
    cases hc.symm.trans hc'
    cases ho.symm.trans ho'
    cases hr.symm.trans hr'
  | answered hc' hp | overdue hc' hp =>
    cases hc.symm.trans hc'
    rw [Call.ticket?, hp] at hidle
    cases hidle

/-- The pop moves on, and polls as before. -/
theorem of_moves (h : s.Adrift worker call key c u) (hw : s.workers[worker]? = some w)
    (hclosed : w.table.isClosed = true) (hmoves : c.Moves s call w a c')
    (hhas : s'.Has worker call c' u) : s'.Adrift worker call key c' u := by
  obtain ⟨⟨hc, hu, rfl⟩, hm, hpolls, hidle, hunfinished⟩ := h
  have ho : s.owner? c = some (u, w) := owner?_eq_some.2 ⟨hu, hw⟩
  have hr := congrArg Prod.fst (Table.register_of_closed hclosed u.consumer.uid)
  cases hmoves with
  | sends hp hnone =>
    -- nothing can be sent, since a closed table ends the attempt
    exact absurd (.unregistered hc hp ho hr) (hnone _)
  | fails hp ht =>
    have he := reading_of_ends ⟨⟨hc, hu, rfl⟩, hm, hpolls, hidle, hunfinished⟩ hw hclosed ht
    cases he
    have hagain : ({ c with attempted := s.now } : Call).method.next c.isFirst
        (.ofNanos (s.now - c.began)) (c.method.outcome (.error .replyChannelClosed)) = .again := by
      rw [hpolls, show ({ c with attempted := s.now } : Call).method = _ from hm]
      exact Method.next_pop_closed ..
    rw [Call.after_of_again hagain] at hhas ⊢
    exact ⟨hhas, hm, rfl, rfl, rfl⟩
  | completes hp | expires hp =>
    rw [Call.ticket?, hp] at hidle
    cases hidle
  | wakes => exact ⟨hhas, hm, hpolls, rfl, rfl⟩
  | leaves => exact ⟨hhas, hm, hpolls, rfl, rfl⟩

/-- Whatever happens, the pop polls as before. -/
theorem step (h : s.Adrift worker call key c u) (hw : s.workers[worker]? = some w)
    (hclosed : w.table.isClosed = true) (step : s.step? outside a = some s') :
    ∃ c', s'.Adrift worker call key c' u := by
  obtain ⟨hc, hu, rfl⟩ := h.has
  have ho : s.owner? c = some (u, w) := owner?_eq_some.2 ⟨hu, hw⟩
  have hu' := (Grows.of_step? step).users hu
  by_cases ha : a.call? = some call
  · obtain ⟨-, c', hc', hmoves⟩ := moves_of_step? step ha hc ho
    exact ⟨c', h.of_moves hw hclosed hmoves ⟨hc', hmoves.same.1 ▸ hu', rfl⟩⟩
  · exact ⟨c, ⟨call_of_step? step ha hc, hu', rfl⟩, h.method, h.polls, h.idle, h.unfinished⟩

variable {service : Service}

/-- All attempts that the pop makes from now on are refused, and it has never a result. -/
theorem course (run : Reaches { service := service } s) (hw : s.workers[worker]? = some w)
    (hclosed : w.table.isClosed = true) (h : s.Adrift worker call key c u)
    {allowed : State → Action → Prop} {tries : List Try}
    (course : Course allowed call s s' tries) :
    (∀ t ∈ tries, t.reading = .error .replyChannelClosed) ∧
      ∃ c', s'.Adrift worker call key c' u := by
  induction course with
  | nil => exact ⟨nofun, c, h⟩
  | other before _ step none ih =>
    obtain ⟨htries, c', hadrift⟩ := ih
    obtain ⟨w', hw', hclosed'⟩ := run.closed_later hw hclosed before.reaches
    exact ⟨htries, hadrift.step hw' hclosed' step⟩
  | ended before _ step ends ih =>
    obtain ⟨htries, c', hadrift⟩ := ih
    obtain ⟨w', hw', hclosed'⟩ := run.closed_later hw hclosed before.reaches
    exact ⟨List.forall_mem_append.2 ⟨htries,
      List.forall_mem_singleton.2 (hadrift.reading_of_ends hw' hclosed' ends)⟩,
      hadrift.step hw' hclosed' step⟩

/-- A pop that is ready makes its attempt. -/
theorem attempts (h : s.Adrift worker call key c u) (hw : s.workers[worker]? = some w)
    (hclosed : w.table.isClosed = true) (hp : c.phase = .ready) :
    ∃ s' t c', Course (fun _ _ => True) call s s' [t] ∧ s'.Adrift worker call key c' u ∧
      c'.phase ≠ .cancelled := by
  obtain ⟨hc, hu, rfl⟩ := h.has
  have hr := Table.register_of_closed hclosed u.consumer.uid
  have hstep : s.step? still (.attempt call) = some _ := attempt?_of_refused hc hp hu hw hr
  have hends : Ends s call (.attempt call) ⟨s.now, s.now, .error .replyChannelClosed⟩ :=
    .unregistered hc hp (owner?_eq_some.2 ⟨hu, hw⟩) (congrArg Prod.fst hr)
  obtain ⟨c', hadrift⟩ := h.step hw hclosed hstep
  refine ⟨_, _, c', .ended .nil trivial hstep hends, hadrift, ?_⟩
  obtain rfl := Option.some.inj ((getElem?_endAttempt hc _ _ u _).symm.trans hadrift.has.call)
  have hrefused := Call.refused_after h.method s.now s.now w
  intro hcancelled
  rw [hcancelled] at hrefused
  cases hrefused

/-- A pop that sleeps becomes ready when its time has come. -/
theorem wakes (h : s.Adrift worker call key c u) {deadline : Nat}
    (hp : c.phase = .sleeping deadline) :
    ∃ s' c', Course (fun _ _ => True) call s s' [] ∧ s'.Adrift worker call key c' u ∧
      s'.workers = s.workers ∧ c'.phase = .ready := by
  obtain ⟨hc, hu, rfl⟩ := h.has
  have hlt := (List.getElem?_eq_some_iff.1 hc).1
  let s₁ : State := { s with now := s.now + (deadline - s.now) }
  have hpass : s.step? still (.pass (deadline - s.now)) = some s₁ := rfl
  have hwake : s₁.step? still (.wake call) = some (s₁.setCall call { c with phase := .ready }) :=
    (wake?_eq (s := s₁) hc hp).trans
      (if_pos (show deadline ≤ s.now + (deadline - s.now) by omega))
  refine ⟨_, { c with phase := .ready }, .other (.other .nil trivial hpass ?_) trivial hwake ?_,
    ⟨⟨List.getElem?_set_self hlt, hu, rfl⟩, h.method, h.polls, rfl, rfl⟩, rfl, rfl⟩
  · intro t ht
    cases ht
  · intro t ht
    cases ht

/-- A pop that is not abandoned can make another attempt. -/
theorem again (h : s.Adrift worker call key c u) (hw : s.workers[worker]? = some w)
    (hclosed : w.table.isClosed = true) (hp : c.phase ≠ .cancelled) :
    ∃ s' t c', Course (fun _ _ => True) call s s' [t] ∧ s'.Adrift worker call key c' u ∧
      c'.phase ≠ .cancelled := by
  cases hphase : c.phase with
  | ready => exact h.attempts hw hclosed hphase
  | sleeping deadline =>
    obtain ⟨s', c', hcourse, hadrift, hworkers, hready⟩ := h.wakes hphase
    obtain ⟨s'', t, c'', hcourse', hnext⟩ := hadrift.attempts (hworkers ▸ hw) hclosed hready
    exact ⟨s'', t, c'', hcourse.trans hcourse', hnext⟩
  | waiting ticket deadline =>
    have hidle := h.idle
    rw [Call.ticket?, hphase] at hidle
    cases hidle
  | finished result =>
    have hunfinished := h.unfinished
    rw [Call.result?, hphase] at hunfinished
    cases hunfinished
  | cancelled => exact absurd hphase hp

/-- A pop that is not abandoned can make any number of attempts. -/
theorem exists_course (run : Reaches { service := service } s)
    (hw : s.workers[worker]? = some w) (hclosed : w.table.isClosed = true)
    (h : s.Adrift worker call key c u) (hp : c.phase ≠ .cancelled) (n : Nat) :
    ∃ s' tries c', Course (fun _ _ => True) call s s' tries ∧ tries.length = n ∧
      s'.Adrift worker call key c' u ∧ c'.phase ≠ .cancelled := by
  -- the pop is where it was after every attempt, so there is always one more
  induction n with
  | zero => exact ⟨s, [], c, .nil, rfl, h, hp⟩
  | succ n ih =>
    obtain ⟨s', tries, c', hcourse, hlength, hadrift, hp'⟩ := ih
    obtain ⟨w', hw', hclosed'⟩ := run.closed_later hw hclosed hcourse.reaches
    obtain ⟨s'', t, c'', hcourse', hadrift', hp''⟩ := hadrift.again hw' hclosed' hp'
    refine ⟨s'', tries ++ [t], c'', hcourse.trans hcourse', ?_, hadrift', hp''⟩
    rw [List.length_append, hlength, List.length_singleton]

end Adrift

end State

/-! ## Severed workers -/

/-- The table of a worker is closed. Every attempt of a pop is refused and sends nothing. It ends
the pop, with an error, if it is the first one or the time of the pop is up, and else the pop
sleeps. A pop without a limit that has begun to poll has never a result, and unless it is abandoned
it can make any number of attempts more. -/
structure Severed (s : State) (worker : Nat) (w : Worker) : Prop where
  closed : w.table.isClosed = true
  refuses : ∀ {call c u key wait}, s.Has worker call c u → c.method = .pop key wait →
    c.phase = .ready → ∃ s' c', s.attempt? call = some s' ∧ s'.hub = s.hub ∧
      s'.calls[call]? = some c' ∧
      c.Refused key wait s.now w.options.pollInterval.toNanos c'.phase ∧
      ((∃ e, c'.result? = some (.error e)) ↔
        c.isFirst = true ∨ ∃ limit, wait = some limit ∧ limit.toNanos ≤ s.now - c.began)
  endless : ∀ {call c u key}, s.Adrift worker call key c u →
    (∀ {allowed s' tries}, Course allowed call s s' tries →
      (∀ t ∈ tries, t.reading = .error .replyChannelClosed) ∧
        ∃ c', s'.calls[call]? = some c' ∧ c'.result? = none) ∧
    (c.phase ≠ .cancelled → ∀ n, ∃ s' tries,
      Course (fun _ _ => True) call s s' tries ∧ tries.length = n)

/-- Once a worker has closed its table it is severed, now and later. -/
theorem State.Reaches.severed {service : Service} (run : Reaches { service := service } s)
    (hw : s.workers[worker]? = some w) (hclosed : w.table.isClosed = true) (h : s.Reaches s') :
    ∃ w', s'.workers[worker]? = some w' ∧ Severed s' worker w' := by
  obtain ⟨w', hw', hclosed'⟩ := run.closed_later hw hclosed h
  refine ⟨w', hw', hclosed', ?_, ?_⟩
  · rintro call c u key wait ⟨hc, hu, rfl⟩ hm hp
    have hr := Table.register_of_closed hclosed' u.consumer.uid
    have hrefused := Call.refused_after hm s'.now s'.now w'
    exact ⟨_, _, attempt?_of_refused hc hp hu hw' hr, hub_endAttempt ..,
      getElem?_endAttempt hc _ _ u _, hrefused, hrefused.error_iff⟩
  · intro call c u key hadrift
    refine ⟨fun hcourse => ?_, fun hp n => ?_⟩
    · obtain ⟨htries, c', hadrift'⟩ := hadrift.course (run.trans h) hw' hclosed' hcourse
      exact ⟨htries, c', hadrift'.has.call, hadrift'.unfinished⟩
    · obtain ⟨s'', tries, -, hcourse, hlength, -⟩ :=
        hadrift.exists_course (run.trans h) hw' hclosed' hp n
      exact ⟨s'', tries, hcourse, hlength⟩

/-- A pop without a limit has polled once when the coordinator forgets its worker, which closes
its table. -/
def severing : List Action :=
  [.connect "w" {} true, .join 0 "A", .begin 0 (.pop "q" none), .attempt 0, .serve 0,
    .receive 0 0, .complete 0, .disconnect 0, .endReplies 0]

/-- The pop can make any number of attempts more, and comes to no result by them. -/
theorem severing_endless : ∃ s w c u, State.run? still { service := .coordinator {} } severing =
      some s ∧ s.workers[0]? = some w ∧ w.table.isClosed = true ∧ s.Adrift 0 0 "q" c u ∧
    ∀ n, ∃ s' tries, Course (fun _ _ => True) 0 s s' tries ∧ tries.length = n ∧
      (∀ t ∈ tries, t.reading = .error .replyChannelClosed) ∧
      ∃ c', s'.calls[0]? = some c' ∧ c'.result? = none := by
  obtain ⟨s, w, c, u, hs, hw, hclosed, hadrift, hp⟩ : ∃ s w c u,
      State.run? still { service := .coordinator {} } severing = some s ∧
      s.workers[0]? = some w ∧ w.table.isClosed = true ∧ s.Adrift 0 0 "q" c u ∧
      c.phase ≠ .cancelled :=
    ⟨_, _, _, _, rfl, rfl, rfl, ⟨⟨rfl, rfl, rfl⟩, rfl, rfl, rfl, rfl⟩, nofun⟩
  obtain ⟨w', -, hsevered⟩ := (State.Reaches.of_run? hs).severed hw hclosed .refl
  obtain ⟨hrefused, hmore⟩ := hsevered.endless hadrift
  refine ⟨s, w, c, u, hs, hw, hclosed, hadrift, fun n => ?_⟩
  obtain ⟨s', tries, hcourse, hlength⟩ := hmore hp n
  exact ⟨s', tries, hcourse, hlength, hrefused hcourse⟩

/-- An attempt on the closed table ends with an error, and the pop sleeps until the next one. -/
theorem severing_polls_on : ∃ s s' w c, State.run? still { service := .coordinator {} } severing =
      some s ∧ s.workers[0]? = some w ∧ w.table.isClosed = true ∧
    State.run? still s [.pass 1000000000, .wake 0, .attempt 0] = some s' ∧
    s'.consumed.map (·.error) = [none, some Error.replyChannelClosed.message] ∧
    s'.calls[0]? = some c ∧ c.phase = .sleeping 2000000000 :=
  ⟨_, _, _, _, rfl, rfl, rfl, rfl, rfl, rfl, rfl⟩

end Cluster

end LoadTest
