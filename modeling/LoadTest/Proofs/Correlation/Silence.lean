import LoadTest.Proofs.Correlation.Lifetimes
/-!
# Tables that have fallen silent

Only a reply or the close of the channel decides about a call. Once the channel has closed,
or where neither comes any more, whatever happens to a table adds no outcome to it.
-/

namespace LoadTest.Correlation

/-- An event decides about no call. -/
def Event.IsSilent (e : Event) : Prop := ∀ uid, e.decides? uid = none

theorem decision?_append (uid : UInt64) (life life' : List Event) :
    decision? uid (life ++ life') = (decision? uid life).or (decision? uid life') :=
  List.findSome?_append

theorem decision?_of_silent {life : List Event} (h : ∀ e ∈ life, e.IsSilent) (uid : UInt64) :
    decision? uid life = none :=
  List.findSome?_eq_none_iff.2 fun e he => h e he uid

/-- A call lives since some events had happened, or it was registered after them. -/
theorem Life.of_append {events more : List Event} {ticket : Ticket} {life : List Event}
    (h : Life (events ++ more) ticket life) :
    (∃ earlier, life = earlier ++ more ∧ Life events ticket earlier) ∨
      ∃ before, more = before ++ .registered ticket.uid (.ok ticket) :: life := by
  obtain ⟨before, hb⟩ := h.begins
  rcases List.append_eq_append_iff.1 hb with ⟨late, -, hmore⟩ | ⟨early, hevents, hrest⟩
  · exact .inr ⟨late, hmore⟩
  · cases early with
    | nil => exact .inr ⟨[], hrest.symm⟩
    | cons e earlier =>
      obtain ⟨rfl, rfl⟩ := List.cons.inj hrest
      exact .inl ⟨earlier, rfl, ⟨before, hevents⟩,
        fun x hx => h.lasts x (List.mem_append_left _ hx)⟩

namespace Run

variable {events more : List Event} {t t' : Table} {ticket : Ticket}

/-- The outcome of a call is what was decided first in its life. -/
theorem outcome?_eq (run : Run events t) {life : List Event} (h : Life events ticket life) :
    t.outcome? ticket = decision? ticket.uid life :=
  run.kept.distinct.outcome? (run.kept.entry ticket life h).1

/-- Only a call that lives has an outcome. -/
theorem live_of_outcome (run : Run events t) {reply : Except Error Json}
    (h : t.outcome? ticket = some reply) : ticket ∈ live events := by
  rw [← run.kept.tickets]
  rcases Table.outcome?_cases h with ⟨v, -, hmem⟩ | ⟨-, hmem⟩
  · exact List.mem_map_of_mem hmem
  · exact List.mem_map_of_mem hmem

/-- Once the channel has closed, every call that lives has an outcome. -/
theorem exists_outcome (run : Run events t) (hclosed : t.isClosed = true)
    (h : ticket ∈ live events) : ∃ reply, t.outcome? ticket = some reply := by
  obtain ⟨life, hlife⟩ := run.exists_life h
  rw [run.outcome?_eq hlife]
  have hdecided : Slot.ofDecision (decision? ticket.uid life) ≠ .waiting :=
    run.kept.quiet hclosed _ (run.kept.entry ticket life hlife).1
  cases hd : decision? ticket.uid life with
  | none =>
    rw [hd] at hdecided
    exact absurd rfl hdecided
  | some reply => exact ⟨reply, rfl⟩

/-- The close of the channel decides about a call that still waits. -/
theorem outcome?_close (run : Run events t) (h : ticket ∈ live events)
    (hnone : t.outcome? ticket = none) :
    t.close.outcome? ticket = some (.error .closedBeforeResponse) := by
  obtain ⟨life, hlife⟩ := run.exists_life h
  rw [run.outcome?_eq hlife] at hnone
  rw [(run.step .close).outcome?_eq (hlife.concat id), decision?_concat, hnone]
  rfl

/-- In a table whose channel has closed no registration has succeeded since. -/
theorem not_registered (run : Run (events ++ more) t') (hclosed : .closed ∈ events)
    {before life : List Event} :
    more ≠ before ++ .registered ticket.uid (.ok ticket) :: life := by
  rintro rfl
  obtain ⟨t₁, t₂, run₁, hs⟩ := run.exists_step (List.append_assoc _ _ _).symm
  have hshut := run₁.kept.isClosed.2 (List.mem_append_left _ hclosed)
  cases (hs.quiet hshut (run₁.kept.quiet hshut) 0).2.2 _ _ rfl

/-- Events that decide nothing do not close a table. -/
theorem isClosed_of_append (run : Run events t) (run' : Run (events ++ more) t')
    (h : ∀ e ∈ more, e.IsSilent) (hclosed : t'.isClosed = true) : t.isClosed = true := by
  rcases List.mem_append.1 (run'.kept.isClosed.1 hclosed) with hmem | hmem
  · exact run.kept.isClosed.2 hmem
  · cases h _ hmem 0

/-- After the channel has closed, or through events that decide nothing, a table gets no new
outcome. -/
theorem outcome?_of_append (run : Run events t) (run' : Run (events ++ more) t')
    (h : t.isClosed = true ∨ ∀ e ∈ more, e.IsSilent) {reply : Except Error Json}
    (ho : t'.outcome? ticket = some reply) : t.outcome? ticket = some reply := by
  obtain ⟨life, hlife⟩ := run'.exists_life (run'.live_of_outcome ho)
  rw [run'.outcome?_eq hlife] at ho
  rcases hlife.of_append with ⟨earlier, rfl, hearlier⟩ | ⟨before, hmore⟩
  · rw [run.outcome?_eq hearlier]
    rw [decision?_append] at ho
    rcases h with hclosed | hsilent
    · obtain ⟨reply', hreply⟩ := run.exists_outcome hclosed (run.kept.tickets ▸
        List.mem_map_of_mem (run.kept.entry ticket earlier hearlier).1)
      rw [run.outcome?_eq hearlier] at hreply
      rw [hreply] at ho ⊢
      exact ho
    · rw [decision?_of_silent hsilent, Option.or_none] at ho
      exact ho
  · rcases h with hclosed | hsilent
    · exact absurd hmore (run'.not_registered (run.kept.isClosed.1 hclosed))
    · have hlate : ∀ e ∈ life, e.IsSilent := fun e he => hsilent e (by
        rw [hmore]
        exact List.mem_append_right _ (List.mem_cons_of_mem _ he))
      rw [decision?_of_silent hlate] at ho
      cases ho

/-- A registration that is refused uses up a token and decides nothing. -/
theorem refuse (run : Run events t) {uid : UInt64} {error : Error}
    (hr : t.register uid = (.error error, t.refused)) :
    ∃ more, Run (events ++ more) t.refused ∧ live (events ++ more) = live events ∧
      ∀ e ∈ more, e.IsSilent := by
  have hstep : t.Step (live events) (.registered uid (t.register uid).1) _ := .register uid
  rw [hr] at hstep
  refine ⟨[.registered uid (.error error)], run.step hstep, live_concat _ _, ?_⟩
  intro e he
  rw [List.mem_singleton.1 he]
  exact fun _ => rfl

/-- A registration that is taken back at once uses up a token and decides nothing. -/
theorem takeBack (run : Run events t) {uid : UInt64}
    (hfree : ∀ e ∈ t.entries, e.ticket.uid ≠ uid)
    (hr : t.register uid = (.ok ⟨uid, t.nextToken⟩, t.registered uid)) :
    ∃ more, Run (events ++ more) t.refused ∧ live (events ++ more) = live events ∧
      ∀ e ∈ more, e.IsSilent := by
  have hregister : t.Step (live events) (.registered uid (t.register uid).1) _ := .register uid
  rw [hr] at hregister
  have hlive : live (events ++ [.registered uid (.ok ⟨uid, t.nextToken⟩)]) =
      live events ++ [⟨uid, t.nextToken⟩] := live_concat _ _
  have hnew : ⟨uid, t.nextToken⟩ ∈
      live (events ++ [.registered uid (.ok ⟨uid, t.nextToken⟩)]) := by
    rw [hlive]
    exact List.mem_append_right _ (List.mem_singleton.2 rfl)
  have run' := (run.step hregister).step (.drop hnew)
  rw [Table.remove_registered hfree, List.append_assoc] at run'
  refine ⟨_, run', ?_, ?_⟩
  · have hkeep : ∀ k ∈ live events, decide (k ≠ ⟨uid, t.nextToken⟩) = true := by
      intro k hk
      rw [← run.kept.tickets] at hk
      obtain ⟨e, he, rfl⟩ := List.mem_map.1 hk
      have hne : e.ticket ≠ ⟨uid, t.nextToken⟩ := fun heq => hfree e he (by rw [heq])
      simpa using hne
    rw [← List.append_assoc, live_concat, hlive, Event.after, List.filter_append,
      List.filter_eq_self.2 hkeep]
    simp
  · intro e he
    rcases List.mem_append.1 he with he | he
    · rw [List.mem_singleton.1 he]
      exact fun _ => rfl
    · rw [List.mem_singleton.1 he]
      exact fun _ => rfl

/-- A registration that comes to nothing uses up a token and decides nothing. -/
theorem refused (run : Run events t) (uid : UInt64) :
    ∃ more, Run (events ++ more) t.refused ∧ live (events ++ more) = live events ∧
      ∀ e ∈ more, e.IsSilent := by
  rcases t.register_cases uid with ⟨-, hfree, hr⟩ | ⟨-, hr⟩ | ⟨-, -, hr⟩
  · exact run.takeBack hfree hr
  · exact run.refuse hr
  · exact run.refuse hr

end Run

end LoadTest.Correlation
