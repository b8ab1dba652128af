import LoadTest.Proofs.Cluster.View
import LoadTest.Proofs.Correlation.Silence
/-!
# The tables of a cluster

Every run of a cluster is, for each of its workers, a run of the worker's table. The tale of
a cluster tells for each worker what has happened to its table, and the calls that wait are
calls that live there.
-/

namespace LoadTest.Cluster

open Transport Correlation

/-- What has happened to the table of each worker. -/
abbrev Tale := Nat → List Correlation.Event

namespace State

/-- The table of a worker. -/
def table? (s : State) (worker : Nat) : Option Table := s.workers[worker]?.map (·.table)

/-- Whether a worker reads its replies. -/
def reads? (s : State) (worker : Nat) : Option Bool := s.workers[worker]?.map (·.isReading)

/-- A call was begun by a user of a worker. -/
def Belongs (s : State) (call worker : Nat) : Prop :=
  ∃ c u, s.calls[call]? = some c ∧ s.users[c.user]? = some u ∧ u.worker = worker

section Fields

variable {s : State} {worker call : Nat} {w : Worker} {c : Call} {u : User}

theorem table?_eq (hw : s.workers[worker]? = some w) : s.table? worker = some w.table := by
  rw [table?, hw]
  rfl

theorem reads?_eq (hw : s.workers[worker]? = some w) : s.reads? worker = some w.isReading := by
  rw [reads?, hw]
  rfl

/-- A state whose workers are those of another one, but for one table. -/
theorem fields_of_setTable {s' : State} (hw : s.workers[worker]? = some w) {t : Table}
    (h : s'.workers = (s.setTable worker t).workers) :
    s'.table? = Function.update s.table? worker (some t) ∧ s'.reads? = s.reads? := by
  have hget : ∀ i, s'.workers[i]? =
      if worker = i then some { w with table := t } else s.workers[i]? := by
    intro i
    rw [h, setTable, List.getElem?_modify]
    by_cases hi : worker = i
    · rw [hi] at hw
      rw [hi, hw, if_pos rfl]
      simp
    · rw [if_neg hi]
      cases s.workers[i]? with
      | none => rfl
      | some v => simp [hi]
  constructor
  · funext i
    rw [table?, hget]
    by_cases hi : worker = i
    · rw [hi, if_pos rfl, Function.update_self]
      rfl
    · rw [if_neg hi, Function.update_of_ne fun heq => hi heq.symm, table?]
  · funext i
    rw [reads?, hget, reads?]
    by_cases hi : worker = i
    · rw [hi] at hw
      rw [hi, if_pos rfl, hw]
      rfl
    · rw [if_neg hi]

theorem workers_endAttempt (s : State) (call : Nat) (c : Call) (u : User) (w : Worker)
    (reply : Except Error Json) : (s.endAttempt call c u w reply).workers = s.workers := by
  obtain ⟨events, he⟩ := s.endAttempt_eq call c u w reply
  rw [he]

theorem calls_endAttempt (s : State) (call : Nat) (c : Call) (u : User) (w : Worker)
    (reply : Except Error Json) :
    (s.endAttempt call c u w reply).calls = s.calls.set call (c.after s.now w reply) := by
  obtain ⟨events, he⟩ := s.endAttempt_eq call c u w reply
  rw [he]

theorem hub_endAttempt (s : State) (call : Nat) (c : Call) (u : User) (w : Worker)
    (reply : Except Error Json) : (s.endAttempt call c u w reply).hub = s.hub := by
  obtain ⟨events, he⟩ := s.endAttempt_eq call c u w reply
  rw [he]

theorem belongs_of (hc : s.calls[call]? = some c) (hu : s.users[c.user]? = some u) :
    s.Belongs call u.worker :=
  ⟨c, u, hc, hu, rfl⟩

theorem Belongs.mono {s' : State} (h : s.Belongs call worker) (hg : Grows s s') :
    s'.Belongs call worker := by
  obtain ⟨c, u, hc, hu, hw⟩ := h
  obtain ⟨c', hc', huser, -⟩ := hg.calls hc
  exact ⟨c', u, hc', by rw [huser]; exact hg.users hu, hw⟩

theorem Belongs.unique {worker' : Nat} (h : s.Belongs call worker)
    (h' : s.Belongs call worker') : worker = worker' := by
  obtain ⟨c, u, hc, hu, rfl⟩ := h
  obtain ⟨c', u', hc', hu', rfl⟩ := h'
  rw [hc] at hc'
  cases hc'
  rw [hu] at hu'
  cases hu'
  rfl

end Fields

end State

/-! ## Tales -/

/-- A tale holds of a cluster: each table has come about through what the tale tells, and
the calls that wait live there, each under a ticket of its own. -/
structure Tale.Holds (tale : Tale) (s : State) : Prop where
  run : ∀ {i t}, s.table? i = some t → Correlation.Run (tale i) t
  fresh : ∀ {i}, s.table? i = none → tale i = []
  lives : ∀ {k ticket}, waitingOf s.calls k = some ticket →
    ∃ i, s.Belongs k i ∧ ticket ∈ live (tale i)
  apart : ∀ {j k i ticket}, s.Belongs j i → s.Belongs k i → waitingOf s.calls j = some ticket →
    waitingOf s.calls k = some ticket → j = k

/-- A tale goes on from one state to another. A worker that does not read its replies never
reads again, and nothing more is decided in its table. -/
structure Tale.Continues (tale : Tale) (s : State) (tale' : Tale) (s' : State) : Prop where
  more : ∀ i, ∃ more, tale' i = tale i ++ more ∧
    (s.reads? i = some false → ∀ e ∈ more, e.IsSilent)
  deaf : ∀ {i}, s.reads? i = some false → s'.reads? i = some false

namespace Tale

variable {tale tale' tale'' : Tale} {s s' s'' : State}

/-- One more part of the tale of a worker. -/
def add (tale : Tale) (worker : Nat) (more : List Correlation.Event) : Tale :=
  Function.update tale worker (tale worker ++ more)

theorem add_self (tale : Tale) (worker : Nat) (more : List Correlation.Event) :
    tale.add worker more worker = tale worker ++ more :=
  Function.update_self ..

theorem add_of_ne {worker i : Nat} (h : i ≠ worker) (more : List Correlation.Event) :
    tale.add worker more i = tale i :=
  Function.update_of_ne h ..

namespace Continues

theorem of_deaf (h : ∀ {i}, s.reads? i = some false → s'.reads? i = some false) :
    Continues tale s tale s' where
  more _ := ⟨[], (List.append_nil _).symm, fun _ _ he => absurd he List.not_mem_nil⟩
  deaf := h

theorem trans (h : Continues tale s tale' s') (h' : Continues tale' s' tale'' s'') :
    Continues tale s tale'' s'' where
  more i := by
    obtain ⟨more, hm, hsilent⟩ := h.more i
    obtain ⟨more', hm', hsilent'⟩ := h'.more i
    refine ⟨more ++ more', by rw [hm', hm, List.append_assoc], fun hdeaf e he => ?_⟩
    rcases List.mem_append.1 he with he | he
    · exact hsilent hdeaf e he
    · exact hsilent' (h.deaf hdeaf) e he
  deaf hdeaf := h'.deaf (h.deaf hdeaf)

theorem add {i : Nat} {more : List Correlation.Event}
    (hsilent : s.reads? i = some false → ∀ e ∈ more, e.IsSilent)
    (hdeaf : ∀ {j}, s.reads? j = some false → s'.reads? j = some false) :
    Continues tale s (tale.add i more) s' where
  more j := by
    by_cases hj : j = i
    · rw [hj]
      exact ⟨more, tale.add_self i more, hsilent⟩
    · exact ⟨[], by rw [add_of_ne hj, List.append_nil], fun _ _ he => absurd he List.not_mem_nil⟩
  deaf := hdeaf

end Continues

namespace Holds

variable {i k : Nat} {ticket : Ticket} {t t' : Table} {more : List Correlation.Event}

theorem start (service : Service) : Holds (fun _ => []) { service := service } where
  run h := by cases h
  fresh _ := rfl
  lives h := by cases h
  apart _ _ h := by cases h

/-- A call that waits is a call that lives in the table of its worker. -/
theorem live_of_belongs (h : tale.Holds s) (hw : waitingOf s.calls k = some ticket)
    (hb : s.Belongs k i) : ticket ∈ live (tale i) := by
  obtain ⟨j, hj, hlive⟩ := h.lives hw
  rw [hb.unique hj]
  exact hlive

theorem live_of_waiting (h : tale.Holds s) {c : Call} {u : User} {deadline : Nat}
    (hc : s.calls[k]? = some c) (hp : c.phase = .waiting ticket deadline)
    (hu : s.users[c.user]? = some u) : ticket ∈ live (tale u.worker) := by
  have hticket : c.ticket? = some ticket := by rw [Call.ticket?, hp]
  exact h.live_of_belongs ((waitingOf_eq hc).trans hticket) (State.belongs_of hc hu)

/-- A call that waits stays with its worker. -/
theorem belongs_of_grows (h : tale.Holds s) (hg : Grows s s')
    (hw : waitingOf s.calls k = some ticket) (hb : s'.Belongs k i) : s.Belongs k i := by
  obtain ⟨j, hj, -⟩ := h.lives hw
  rw [hb.unique (hj.mono hg)]
  exact hj

/-- At most a new worker has connected. -/
theorem still (h : tale.Holds s) (hg : Grows s s')
    (ht : ∀ {i t}, s'.table? i = some t → s.table? i = some t ∨ s.table? i = none ∧ t = {})
    (hn : ∀ {i}, s'.table? i = none → s.table? i = none)
    (hw : waitingOf s'.calls = waitingOf s.calls) : tale.Holds s' where
  run {i t} htable := by
    rcases ht htable with hold | ⟨hnone, rfl⟩
    · exact h.run hold
    · rw [h.fresh hnone]
      exact .start
  fresh hnone := h.fresh (hn hnone)
  lives hwait := by
    rw [hw] at hwait
    obtain ⟨i, hb, hlive⟩ := h.lives hwait
    exact ⟨i, hb.mono hg, hlive⟩
  apart hj hk hwj hwk := by
    rw [hw] at hwj hwk
    exact h.apart (h.belongs_of_grows hg hwj hj) (h.belongs_of_grows hg hwk hk) hwj hwk

/-- Nothing has happened to the tables and the calls that wait. -/
theorem of_eq (h : tale.Holds s) (hg : Grows s s') (ht : s'.table? = s.table?)
    (hw : waitingOf s'.calls = waitingOf s.calls) : tale.Holds s' := by
  refine h.still hg ?_ ?_ hw
  · intro i t htable
    rw [ht] at htable
    exact .inl htable
  · intro i hnone
    rw [ht] at hnone
    exact hnone

/-- The table of a worker after one more part of its tale. -/
theorem run_add (h : tale.Holds s) (ht : s'.table? = Function.update s.table? i (some t'))
    (hrun : Correlation.Run (tale i ++ more) t') {j : Nat} (hj : s'.table? j = some t) :
    Correlation.Run (tale.add i more j) t := by
  rw [ht] at hj
  by_cases hji : j = i
  · rw [hji, Function.update_self] at hj
    cases hj
    rw [hji, add_self]
    exact hrun
  · rw [Function.update_of_ne hji] at hj
    rw [add_of_ne hji]
    exact h.run hj

theorem fresh_add (h : tale.Holds s) (ht : s'.table? = Function.update s.table? i (some t'))
    {j : Nat} (hj : s'.table? j = none) : tale.add i more j = [] := by
  rw [ht] at hj
  by_cases hji : j = i
  · rw [hji, Function.update_self] at hj
    cases hj
  · rw [Function.update_of_ne hji] at hj
    rw [add_of_ne hji]
    exact h.fresh hj

/-- Something happens to a table that neither begins nor ends a call. -/
theorem turn (h : tale.Holds s) (hg : Grows s s')
    (ht : s'.table? = Function.update s.table? i (some t'))
    (hrun : Correlation.Run (tale i ++ more) t') (hlive : live (tale i ++ more) = live (tale i))
    (hw : waitingOf s'.calls = waitingOf s.calls) : (tale.add i more).Holds s' where
  run := h.run_add ht hrun
  fresh := h.fresh_add ht
  lives {k ticket} hwait := by
    rw [hw] at hwait
    obtain ⟨j, hb, hmem⟩ := h.lives hwait
    refine ⟨j, hb.mono hg, ?_⟩
    by_cases hj : j = i
    · rw [hj, add_self, hlive]
      rw [hj] at hmem
      exact hmem
    · rw [add_of_ne hj]
      exact hmem
  apart hj hk hwj hwk := by
    rw [hw] at hwj hwk
    exact h.apart (h.belongs_of_grows hg hwj hj) (h.belongs_of_grows hg hwk hk) hwj hwk

/-- A call registers under a correlation id that no call has. -/
theorem register (h : tale.Holds s) (hg : Grows s s') {uid : UInt64} (hb : s.Belongs k i)
    (htable : s.table? i = some t) (hfree : ∀ e ∈ t.entries, e.ticket.uid ≠ uid)
    (hr : t.register uid = (.ok ⟨uid, t.nextToken⟩, t'))
    (ht : s'.table? = Function.update s.table? i (some t'))
    (hw : waitingOf s'.calls =
      Function.update (waitingOf s.calls) k (some ⟨uid, t.nextToken⟩)) :
    (tale.add i [.registered uid (.ok ⟨uid, t.nextToken⟩)]).Holds s' := by
  have hstep : t.Step (live (tale i)) (.registered uid (t.register uid).1) _ := .register uid
  rw [hr] at hstep
  have hlive : live (tale i ++ [.registered uid (.ok ⟨uid, t.nextToken⟩)]) =
      live (tale i) ++ [⟨uid, t.nextToken⟩] := live_concat _ _
  have hcases : ∀ {j ticket}, waitingOf s'.calls j = some ticket →
      j = k ∧ ticket = ⟨uid, t.nextToken⟩ ∨ j ≠ k ∧ waitingOf s.calls j = some ticket := by
    intro j ticket hj
    rw [hw] at hj
    by_cases hjk : j = k
    · rw [hjk, Function.update_self] at hj
      exact .inl ⟨hjk, (Option.some.inj hj).symm⟩
    · rw [Function.update_of_ne hjk] at hj
      exact .inr ⟨hjk, hj⟩
  -- No call of the worker waits under the new ticket yet.
  have hnew : ∀ {j}, s'.Belongs j i → waitingOf s.calls j ≠ some ⟨uid, t.nextToken⟩ := by
    intro j hj hwait
    have hmem := h.live_of_belongs hwait (h.belongs_of_grows hg hwait hj)
    rw [← (h.run htable).kept.tickets] at hmem
    obtain ⟨e, he, hticket⟩ := List.mem_map.1 hmem
    exact hfree e he (by rw [hticket])
  refine ⟨h.run_add ht ((h.run htable).step hstep), h.fresh_add ht, ?_, ?_⟩
  · intro j ticket hwait
    rcases hcases hwait with ⟨rfl, rfl⟩ | ⟨-, hwait⟩
    · refine ⟨i, hb.mono hg, ?_⟩
      rw [add_self, hlive]
      exact List.mem_append_right _ (List.mem_singleton.2 rfl)
    · obtain ⟨i', hb', hmem⟩ := h.lives hwait
      refine ⟨i', hb'.mono hg, ?_⟩
      by_cases hi : i' = i
      · rw [hi, add_self, hlive]
        rw [hi] at hmem
        exact List.mem_append_left _ hmem
      · rw [add_of_ne hi]
        exact hmem
  · intro j j' i' ticket hj hj' hwj hwj'
    rcases hcases hwj with ⟨rfl, rfl⟩ | ⟨-, hwj⟩
    · rcases hcases hwj' with ⟨rfl, -⟩ | ⟨-, hwj'⟩
      · rfl
      · rw [hj.unique (hb.mono hg)] at hj'
        exact absurd hwj' (hnew hj')
    · rcases hcases hwj' with ⟨rfl, rfl⟩ | ⟨-, hwj'⟩
      · rw [hj'.unique (hb.mono hg)] at hj
        exact absurd hwj (hnew hj)
      · exact h.apart (h.belongs_of_grows hg hwj hj) (h.belongs_of_grows hg hwj' hj') hwj hwj'

/-- A call does not wait any more, and its entry goes. -/
theorem leave (h : tale.Holds s) (hg : Grows s s') {e : Correlation.Event}
    (hb : s.Belongs k i) (hwait : waitingOf s.calls k = some ticket)
    (htable : s.table? i = some t) (hstep : t.Step (live (tale i)) e t')
    (he : e.after (live (tale i)) = (live (tale i)).filter (· ≠ ticket))
    (ht : s'.table? = Function.update s.table? i (some t'))
    (hw : waitingOf s'.calls = Function.update (waitingOf s.calls) k none) :
    (tale.add i [e]).Holds s' := by
  have hold : ∀ {j ticket'}, waitingOf s'.calls j = some ticket' →
      j ≠ k ∧ waitingOf s.calls j = some ticket' := by
    intro j ticket' hj
    rw [hw] at hj
    by_cases hjk : j = k
    · rw [hjk, Function.update_self] at hj
      cases hj
    · rw [Function.update_of_ne hjk] at hj
      exact ⟨hjk, hj⟩
  refine ⟨h.run_add ht ((h.run htable).step hstep), h.fresh_add ht, ?_, ?_⟩
  · intro j ticket' hj
    obtain ⟨hjk, hwj⟩ := hold hj
    obtain ⟨i', hb', hmem⟩ := h.lives hwj
    refine ⟨i', hb'.mono hg, ?_⟩
    by_cases hi : i' = i
    · rw [hi] at hb' hmem
      rw [hi, add_self, live_concat, he]
      refine List.mem_filter.2 ⟨hmem, ?_⟩
      have hne : ticket' ≠ ticket := by
        rintro rfl
        exact hjk (h.apart hb' hb hwj hwait)
      simpa using hne
    · rw [add_of_ne hi]
      exact hmem
  · intro j j' i' ticket' hj hj' hwj hwj'
    exact h.apart (h.belongs_of_grows hg (hold hwj).2 hj) (h.belongs_of_grows hg (hold hwj').2 hj')
      (hold hwj).2 (hold hwj').2

/-! ## Steps -/

variable {worker : Nat} {w : Worker} {c : Call} {u : User} {e : Correlation.Event}

/-- A tale that goes on with the table of one worker. -/
theorem exists_add (h : (tale.add i more).Holds s')
    (hsilent : s.reads? i = some false → ∀ e ∈ more, e.IsSilent) (hreads : s'.reads? = s.reads?) :
    ∃ tale', Holds tale' s' ∧ tale.Continues s tale' s' := by
  refine ⟨_, h, .add hsilent fun hdeaf => ?_⟩
  rw [hreads]
  exact hdeaf

/-- An event at a table neither begins nor ends a call. -/
theorem exists_turn (h : tale.Holds s) (hg : Grows s s') (hw : s.workers[worker]? = some w)
    (hstep : w.table.Step (live (tale worker)) e t')
    (he : e.after (live (tale worker)) = live (tale worker))
    (hsilent : w.isReading = false → e.IsSilent)
    (hworkers : s'.workers = (s.setTable worker t').workers)
    (hcalls : waitingOf s'.calls = waitingOf s.calls) :
    ∃ tale', Holds tale' s' ∧ tale.Continues s tale' s' := by
  obtain ⟨htable, hreads⟩ := State.fields_of_setTable hw hworkers
  refine (h.turn hg htable ((h.run (State.table?_eq hw)).step hstep)
    ((live_concat _ _).trans he) hcalls).exists_add ?_ hreads
  intro hdeaf x hx
  rw [State.reads?_eq hw] at hdeaf
  rw [List.mem_singleton.1 hx]
  exact hsilent (Option.some.inj hdeaf)

/-- The call of a ticket does not wait any more, and its entry goes. -/
theorem exists_leave (h : tale.Holds s) (hg : Grows s s') (hc : s.calls[k]? = some c)
    (hu : s.users[c.user]? = some u) (hw : s.workers[u.worker]? = some w) {deadline : Nat}
    (hp : c.phase = .waiting ticket deadline)
    (hstep : ticket ∈ live (tale u.worker) →
      w.table.Step (live (tale u.worker)) e (w.table.remove ticket))
    (he : e.after (live (tale u.worker)) = (live (tale u.worker)).filter (· ≠ ticket))
    (hsilent : e.IsSilent)
    (hworkers : s'.workers = (s.setTable u.worker (w.table.remove ticket)).workers)
    (hcalls : waitingOf s'.calls = Function.update (waitingOf s.calls) k none) :
    ∃ tale', Holds tale' s' ∧ tale.Continues s tale' s' := by
  obtain ⟨htable, hreads⟩ := State.fields_of_setTable hw hworkers
  have hwait : waitingOf s.calls k = some ticket :=
    (waitingOf_eq hc).trans (by rw [Call.ticket?, hp])
  refine (h.leave hg (State.belongs_of hc hu) hwait (State.table?_eq hw)
    (hstep (h.live_of_waiting hc hp hu)) he htable hcalls).exists_add ?_ hreads
  intro _ x hx
  rw [List.mem_singleton.1 hx]
  exact hsilent

/-- The wait of a call is over, whatever it has come to. -/
theorem exists_over (h : tale.Holds s) (hg : Grows s s') (hc : s.calls[k]? = some c)
    (hu : s.users[c.user]? = some u) (hw : s.workers[u.worker]? = some w) {deadline : Nat}
    (hp : c.phase = .waiting ticket deadline) {reply : Except Error Json}
    (hs' : s' = (s.setTable u.worker (w.table.remove ticket)).endAttempt k c u w reply) :
    ∃ tale', Holds tale' s' ∧ tale.Continues s tale' s' := by
  refine h.exists_leave hg hc hu hw hp (.wait w.options.requestTimeout) rfl (fun _ => rfl) ?_ ?_
  · rw [hs', State.workers_endAttempt]
  · rw [hs', State.calls_endAttempt]
    exact (waitingOf_set hc _).trans (by rw [Call.after_ticket?])

/-- A call makes an attempt, which registers it or comes to nothing. -/
theorem exists_attempt (h : tale.Holds s) (hg : Grows s s') {call : Nat}
    (hs : s.attempt? call = some s') : ∃ tale', Holds tale' s' ∧ tale.Continues s tale' s' := by
  obtain ⟨c, u, w, hc, hready, hu, hw, hsend | hfail⟩ := State.attempt?_cases hs
  · obtain ⟨messages, hopen, hfree, -, -, hs'⟩ := hsend
    have hworkers : s'.workers =
        (s.setTable u.worker (w.table.registered u.consumer.uid)).workers := by
      rw [hs']
      rfl
    obtain ⟨htable, hreads⟩ := State.fields_of_setTable hw hworkers
    refine (h.register hg (State.belongs_of hc hu) (State.table?_eq hw) hfree
      (Table.register_of_free hopen hfree) htable ?_).exists_add ?_ hreads
    · rw [hs']
      exact waitingOf_set hc _
    · intro _ e he
      rw [List.mem_singleton.1 he]
      exact fun _ => rfl
  · obtain ⟨error, -, -, hs'⟩ := hfail
    have hworkers : s'.workers = (s.setTable u.worker w.table.refused).workers := by
      rw [hs', State.workers_endAttempt]
    obtain ⟨htable, hreads⟩ := State.fields_of_setTable hw hworkers
    obtain ⟨more, hrun, hlive, hsilent⟩ := (h.run (State.table?_eq hw)).refused u.consumer.uid
    refine (h.turn hg htable hrun hlive ?_).exists_add (fun _ => hsilent) hreads
    have hnone : waitingOf s.calls call = none :=
      (waitingOf_eq hc).trans (by rw [Call.ticket?, hready])
    rw [hs', State.calls_endAttempt]
    exact (waitingOf_set hc _).trans (by rw [Call.after_ticket?, ← hnone, Function.update_eq_self])

/-- A worker without a table of its own connects. -/
theorem exists_connect (h : tale.Holds s) (hg : Grows s s') {w : Worker} (hw : w.table = {})
    (hworkers : s'.workers = s.workers ++ [w]) (hcalls : s'.calls = s.calls) :
    ∃ tale', Holds tale' s' ∧ tale.Continues s tale' s' := by
  have hold : ∀ {i : Nat} {v : Worker}, s.workers[i]? = some v → s'.workers[i]? = some v := by
    intro i v hv
    rw [hworkers]
    exact (List.getElem?_append_left (List.getElem?_eq_some_iff.1 hv).1).trans hv
  refine ⟨tale, h.still hg ?_ ?_ (by rw [hcalls]), .of_deaf ?_⟩
  · intro i t htable
    obtain ⟨v, hv, rfl⟩ := Option.map_eq_some_iff.1 htable
    cases hi : s.workers[i]? with
    | some v' =>
      rw [hold hi] at hv
      cases hv
      exact .inl (State.table?_eq hi)
    | none =>
      refine .inr ⟨by rw [State.table?, hi]; rfl, ?_⟩
      rw [hworkers, List.getElem?_append_right (List.getElem?_eq_none_iff.1 hi)] at hv
      rw [List.mem_singleton.1 (List.mem_of_getElem? hv), hw]
  · intro i hnone
    cases hi : s.workers[i]? with
    | some v =>
      rw [State.table?_eq (hold hi)] at hnone
      cases hnone
    | none =>
      rw [State.table?, hi]
      rfl
  · intro i hdeaf
    obtain ⟨v, hv, hv'⟩ := Option.map_eq_some_iff.1 hdeaf
    rw [State.reads?_eq (hold hv), hv']

/-- A worker stops reading its replies. -/
theorem exists_drop (h : tale.Holds s) (hg : Grows s s') (hw : s.workers[worker]? = some w)
    (hworkers : s'.workers = s.workers.set worker { w with isReading := false })
    (hcalls : s'.calls = s.calls) : ∃ tale', Holds tale' s' ∧ tale.Continues s tale' s' := by
  have hlt : worker < s.workers.length := (List.getElem?_eq_some_iff.1 hw).1
  have hget : ∀ i, s'.workers[i]? =
      if worker = i then some { w with isReading := false } else s.workers[i]? := by
    intro i
    rw [hworkers, List.getElem?_set, if_pos hlt]
  refine ⟨tale, h.of_eq hg ?_ (by rw [hcalls]), .of_deaf ?_⟩
  · funext i
    rw [State.table?, State.table?, hget]
    split
    · next hi =>
      rw [← hi, hw]
      rfl
    · rfl
  · intro i hdeaf
    rw [State.reads?, hget]
    split
    · rfl
    · exact hdeaf

/-- A tale can be told on, whatever happens. -/
theorem step (h : tale.Holds s) {outside : Outside} {a : Action}
    (hs : s.step? outside a = some s') : ∃ tale', Holds tale' s' ∧ tale.Continues s tale' s' := by
  have hg : Grows s s' := .of_step? hs
  -- Most actions change neither the workers nor the phases of calls.
  have hsame : s'.workers = s.workers → waitingOf s'.calls = waitingOf s.calls →
      ∃ tale', Holds tale' s' ∧ tale.Continues s tale' s' := by
    intro hw hc
    refine ⟨tale, h.of_eq hg ?_ hc, .of_deaf ?_⟩
    · funext i
      rw [State.table?, hw, State.table?]
    · intro i hdeaf
      rw [State.reads?, hw]
      exact hdeaf
  have hframe : s.Stays s' → ∃ tale', Holds tale' s' ∧ tale.Continues s tale' s' :=
    fun hf => hsame hf.workers (by rw [hf.calls])
  -- A call that does not wait stays one that does not wait.
  have hidle : ∀ {call : Nat} {c c' : Call}, s.calls[call]? = some c → c.ticket? = none →
      c'.ticket? = none → waitingOf (s.calls.set call c') = waitingOf s.calls := by
    intro call c c' hc hnone hnone'
    rw [waitingOf_set hc, hnone', ← hnone, ← waitingOf_eq hc, Function.update_eq_self]
  cases a with
  | pass nanos =>
    cases hs
    exact hsame rfl rfl
  | serve position => exact hframe (State.serve?_frame hs)
  | perform => exact hframe (State.perform?_frame hs)
  | inject worker topic data => exact hframe (State.inject?_frame hs)
  | receive worker position =>
    obtain ⟨w, m, hw, hreading, -, rfl⟩ := State.receive?_cases hs
    refine h.exists_turn hg hw (.message m) rfl ?_ rfl rfl
    rw [hreading]
    exact fun hdeaf => by cases hdeaf
  | endReplies worker =>
    obtain ⟨w, hw, ⟨hreading, -, -⟩, rfl⟩ := State.endReplies?_cases hs
    refine h.exists_turn hg hw .close rfl ?_ rfl rfl
    rw [hreading]
    exact fun hdeaf => by cases hdeaf
  | attempt call => exact h.exists_attempt hg hs
  | complete call =>
    obtain ⟨c, ticket, deadline, u, w, reply, hc, hp, hu, hw, -, rfl⟩ := State.complete?_cases hs
    exact h.exists_over hg hc hu hw hp rfl
  | expire call =>
    obtain ⟨c, ticket, deadline, u, w, hc, hp, hu, hw, -, rfl⟩ := State.expire?_cases hs
    exact h.exists_over hg hc hu hw hp rfl
  | wake call =>
    obtain ⟨c, deadline, hc, hp, rfl⟩ := State.wake?_cases hs
    exact hsame rfl (hidle hc (by rw [Call.ticket?, hp]) rfl)
  | cancel call =>
    obtain ⟨c, hc, ⟨hnone, rfl⟩ | ⟨ticket, deadline, u, w, hp, hu, hw, rfl⟩⟩ :=
      State.cancel?_cases hs
    · exact hsame rfl (hidle hc hnone rfl)
    · exact h.exists_leave hg hc hu hw hp .drop rfl (fun _ => rfl) rfl
        (waitingOf_set hc _)
  | connect client options keepsEvents =>
    obtain ⟨-, rfl⟩ := State.connect?_cases hs
    exact h.exists_connect hg rfl rfl rfl
  | join worker identifier =>
    obtain ⟨w, hw, rfl⟩ := State.join?_cases hs
    exact h.exists_turn hg hw .nextUid rfl (fun _ _ => rfl) rfl rfl
  | begin user method =>
    cases State.begin?_cases hs
    exact hsame rfl (waitingOf_concat rfl)
  | disconnect worker =>
    obtain ⟨w, -, hs⟩ := Option.bind_eq_some_iff.1 hs
    cases hs
    exact hsame rfl rfl
  | dropWorker worker =>
    obtain ⟨w, hw, hs⟩ := Option.bind_eq_some_iff.1 hs
    cases hs
    exact h.exists_drop hg hw rfl rfl
  | closeService =>
    cases hs
    exact hsame rfl rfl
  | testStop attempt =>
    obtain ⟨c, folder, rfl⟩ := State.testStop?_cases hs
    exact hsame rfl rfl
  | stop attempt =>
    obtain ⟨c, folder, rfl⟩ := State.stop?_cases hs
    exact hsame rfl rfl

end Holds

end Tale

/-! ## Runs -/

namespace State

/-- Some action leads from one state to another. -/
def Next (s s' : State) : Prop := ∃ outside a, s.step? outside a = some s'

/-- Some actions, in whatever order, lead from one state to another. -/
def Reaches : State → State → Prop := Relation.ReflTransGen Next

namespace Reaches

variable {s s' : State}

/-- What can be computed can be reached. -/
theorem of_run? {outside : Outside} {actions : List Action}
    (h : s.run? outside actions = some s') : s.Reaches s' := by
  induction actions generalizing s with
  | nil =>
    cases h
    exact .refl
  | cons a rest ih =>
    obtain ⟨next, hnext, hrest⟩ := Option.bind_eq_some_iff.1 h
    exact .head ⟨outside, a, hnext⟩ (ih hrest)

theorem grows (h : s.Reaches s') : Grows s s' := by
  induction h with
  | refl => exact ⟨id, fun hc => ⟨_, hc, rfl, rfl⟩, fun hw => ⟨_, hw, rfl, Nat.le_refl _⟩⟩
  | tail _ hnext ih =>
    obtain ⟨outside, a, hstep⟩ := hnext
    exact ih.trans (.of_step? hstep)

/-- A tale can be told on through any run. -/
theorem continues (h : s.Reaches s') {tale : Tale} (ht : tale.Holds s) :
    ∃ tale' : Tale, tale'.Holds s' ∧ tale.Continues s tale' s' := by
  induction h with
  | refl => exact ⟨tale, ht, .of_deaf id⟩
  | tail _ hnext ih =>
    obtain ⟨tale', ht', hc⟩ := ih
    obtain ⟨outside, a, hstep⟩ := hnext
    obtain ⟨tale'', ht'', hc'⟩ := ht'.step hstep
    exact ⟨tale'', ht'', hc.trans hc'⟩

/-- Of every state that can be reached some tale can be told. -/
theorem exists_tale {service : Service} (h : Reaches { service := service } s) :
    ∃ tale : Tale, tale.Holds s := by
  obtain ⟨tale, ht, -⟩ := h.continues (.start service)
  exact ⟨tale, ht⟩

end Reaches

end State

end LoadTest.Cluster
