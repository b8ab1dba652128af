import LoadTest.Proofs.Cluster.Isolation
/-!
# Late replies

The correlation id belongs to a consumer and not to a call. A call is therefore answered by
the first reply to its consumer that is read after its request was sent, which may be the
late reply to an earlier call. A consumer that has lost no request gets its own replies.
-/

namespace LoadTest.Cluster

/-- A call has been answered by the reply to the request that it waits with. -/
def History.OwnAnswer (h : History) (call : Nat) (v : Json) : Prop :=
  ∃ x ∈ h.trace.heard, x.resolves = some x.reply.attempt ∧ x.reply.attempt.call = call ∧
    x.reply.response = v ∧ h.state.view.waiting call = some x.reply.attempt.ticket

/-- Whatever answer a call gets is the reply to its own request. -/
def History.Fresh (h : History) : Prop :=
  ∀ call v, h.state.answer? call = some v → h.OwnAnswer call v

/-- Since a request was sent, a reply to another request of its consumer was read, and none
to the request itself before that. -/
def Trace.Overtaken (t : Trace) (a : Attempt) : Prop :=
  ∃ earlier x later, t.heard.drop a.since = earlier ++ x :: later ∧
    x.reply.attempt.SameConsumer a ∧ x.reply.attempt ≠ a ∧ ∀ y ∈ earlier, y.reply.attempt ≠ a

namespace Trace.Sound

variable {t : Trace}

/-- The reply that resolves a call is the one to its own request exactly if no other reply to
its consumer was read first. -/
theorem own_iff (h : t.Sound) {x : Heard} (hx : x ∈ t.heard) {a : Attempt}
    (ha : x.resolves = some a) : x.reply.attempt = a ↔ ¬ t.Overtaken a := by
  have hfirst := (h.resolves x hx a ha).2
  rw [Trace.firstReply?, List.find?_eq_some_iff_append] at hfirst
  obtain ⟨hsame, before, after, hdrop, hbefore⟩ := hfirst
  have hother : ∀ y ∈ before, ¬ y.reply.attempt.SameConsumer a := by
    intro y hy
    simpa using hbefore y hy
  constructor
  · rintro hown ⟨earlier, y, later, hdrop', hsame', hne, hearlier⟩
    rw [hdrop] at hdrop'
    rcases List.append_eq_append_iff.1 hdrop' with ⟨mid, hmid, htail⟩ | ⟨mid, hmid, htail⟩
    · cases mid with
      | nil =>
        cases htail
        exact hne hown
      | cons z mid =>
        cases htail
        apply hearlier x
        · rw [hmid]
          exact List.mem_append_right _ List.mem_cons_self
        · exact hown
    · cases mid with
      | nil =>
        cases htail
        exact hne hown
      | cons z mid =>
        cases htail
        apply hother y
        · rw [hmid]
          exact List.mem_append_right _ List.mem_cons_self
        · exact hsame'
  · intro hnot
    by_contra hne
    apply hnot
    refine ⟨before, x, after, hdrop, by simpa using hsame, hne, ?_⟩
    intro y hy heq
    apply hother y hy
    rw [heq]
    exact .refl a

/-- One reply at most resolves a request. -/
theorem resolves_unique (h : t.Sound) {x y : Heard} (hx : x ∈ t.heard) (hy : y ∈ t.heard)
    {a : Attempt} (hxa : x.resolves = some a) (hya : y.resolves = some a) : x = y := by
  have hfirst := (h.resolves x hx a hxa).2
  rw [(h.resolves y hy a hya).2] at hfirst
  exact (Option.some.inj hfirst).symm

end Trace.Sound

namespace Traffic

variable {h : History}

/-- The request with which a call waits for its answer. -/
theorem eq_of_waiting (ht : Traffic h) {a b : Attempt} (ha : a ∈ h.trace.sent)
    (hb : b ∈ h.trace.sent) (hcall : a.call = b.call) (hticket : a.ticket = b.ticket) : a = b :=
  ht.sound.eq_of_ticket ha hb (ht.worker_of_call hb ha hcall) hticket

/-- A consumer that has lost no request is answered by its own replies. -/
theorem own_of_lost (ht : Traffic h) {x : Heard} (hx : x ∈ h.trace.heard) {a : Attempt}
    (ha : x.resolves = some a) (hlost : ∀ b ∈ h.trace.lost, ¬ b.SameConsumer a) :
    x.reply.attempt = a := by
  obtain ⟨hsent, hfirst⟩ := ht.sound.resolves x hx a ha
  rcases ht.registered.steady a hsent with ⟨b, hb, hba⟩ | ⟨y, hy, hya, hres⟩ | hwait
  · exact absurd hba (hlost b hb)
  · rw [ht.sound.resolves_unique hx hy ha hres]
    exact hya
  · obtain ⟨b, hb, hbw, hbt, -, hslot⟩ := ht.registered.entry a.worker _ hwait
    obtain rfl := ht.sound.eq_of_ticket hb hsent hbw hbt
    have hnone : h.trace.firstReply? b = none := hslot
    rw [hnone] at hfirst
    cases hfirst

end Traffic

/-- After any run of workers and users that send nothing but the requests of their calls,
every answer is fresh exactly if no request whose call is answered has been overtaken by the
reply to another request of its consumer. The reply is always one to the same consumer, and
the right one for a consumer that has lost no request. -/
theorem Run.fresh_iff {c : Coordinator} {h : History} (run : Run Honest (History.start c) h) :
    (h.Fresh ↔ ∀ a ∈ h.trace.sent, h.state.view.waiting a.call = some a.ticket →
      h.state.answer? a.call ≠ none → ¬ h.trace.Overtaken a) ∧
    ∀ call v, h.state.answer? call = some v → ∃ a ∈ h.trace.sent, ∃ x ∈ h.trace.heard,
      a.call = call ∧ h.state.view.waiting call = some a.ticket ∧ x.resolves = some a ∧
      x.reply.response = v ∧ x.reply ∈ h.trace.served ∧ x.reply.attempt.SameConsumer a ∧
      (x.reply.attempt = a ↔ ¬ h.trace.Overtaken a) ∧
      ((∀ b ∈ h.trace.lost, ¬ b.SameConsumer a) → x.reply.attempt = a) := by
  have ht := run.traffic
  have hanswer : ∀ call v, h.state.answer? call = some v → ∃ a ∈ h.trace.sent,
      ∃ x ∈ h.trace.heard, a.call = call ∧ h.state.view.waiting call = some a.ticket ∧
        x.resolves = some a ∧ x.reply.response = v := by
    intro call v hv
    obtain ⟨x, hx, a, hres, hcall, hresponse, hwait⟩ := ht.resolved hv
    exact ⟨a, (ht.sound.resolves x hx a hres).1, x, hx, hcall, hwait, hres, hresponse⟩
  refine ⟨⟨?_, ?_⟩, ?_⟩
  · intro hfresh a ha hwait hsome
    obtain ⟨v, hv⟩ := Option.ne_none_iff_exists'.1 hsome
    obtain ⟨x, hx, hres, hcall, -, hwait'⟩ := hfresh a.call v hv
    have hown : x.reply.attempt = a := by
      apply ht.eq_of_waiting (ht.sound.resolves x hx _ hres).1 ha hcall
      rw [hwait] at hwait'
      exact (Option.some.inj hwait').symm
    rw [hown] at hres
    exact (ht.sound.own_iff hx hres).1 hown
  · intro hall call v hv
    obtain ⟨a, ha, x, hx, hcall, hwait, hres, hresponse⟩ := hanswer call v hv
    have hown : x.reply.attempt = a := by
      refine (ht.sound.own_iff hx hres).2 (hall a ha (by rw [hcall]; exact hwait) ?_)
      rw [hcall, hv]
      exact Option.some_ne_none v
    exact ⟨x, hx, by rw [hown]; exact hres, by rw [hown]; exact hcall, hresponse,
      by rw [hown]; exact hwait⟩
  · intro call v hv
    obtain ⟨a, ha, x, hx, hcall, hwait, hres, hresponse⟩ := hanswer call v hv
    exact ⟨a, ha, x, hx, hcall, hwait, hres, hresponse, ht.sound.heard x hx,
      ht.sound.sameConsumer hx hres, ht.sound.own_iff hx hres, ht.own_of_lost hx hres⟩

/-- A user whose first call times out makes a second one, and then the reply to the first
comes. -/
def late : List (Outside × Action) :=
  [.connect "w" {} true, .join 0 "A", .begin 0 (.get "a"), .attempt 0, .pass 10000000000,
    .expire 0, .begin 0 (.inc "n" 1), .attempt 1, .serve 0, .receive 0 0].map (still, ·)

private theorem late_run : ∃ h, (History.start {}).run? Honest late = some h ∧
    (h.state.answer? 1).isSome ∧ h.trace.heard.map (·.reply.attempt.call) = [0] := by
  obtain ⟨h, hh⟩ : ∃ h, (History.start {}).run? Honest late = some h :=
    Option.isSome_iff_exists.1 (by decide +kernel)
  have hfacts : ((History.start {}).run? Honest late).map (fun h =>
      ((h.state.answer? 1).isSome, h.trace.heard.map (·.reply.attempt.call))) =
        some (true, [0]) := by
    decide +kernel
  rw [hh] at hfacts
  simp only [Option.map_some, Option.some.injEq, Prod.mk.injEq] at hfacts
  exact ⟨h, hh, hfacts.1, hfacts.2⟩

/-- The only reply that is read in that run is the one to the first call. -/
private theorem call_of_late {h : History} (hcalls : h.trace.heard.map (·.reply.attempt.call) = [0])
    {x : Heard} (hx : x ∈ h.trace.heard) : x.reply.attempt.call = 0 := by
  have hmem := List.mem_map_of_mem (f := (·.reply.attempt.call)) hx
  rw [hcalls] at hmem
  exact List.mem_singleton.1 hmem

/-- The second call is answered by the reply to the first. -/
theorem late_not_fresh : ∃ h, (History.start {}).run? Honest late = some h ∧ ¬ h.Fresh := by
  obtain ⟨h, hh, hsome, hcalls⟩ := late_run
  refine ⟨h, hh, fun hfresh => ?_⟩
  obtain ⟨v, hv⟩ := Option.isSome_iff_exists.1 hsome
  obtain ⟨x, hx, -, hcall, -⟩ := hfresh 1 v hv
  rw [call_of_late hcalls hx] at hcall
  cases hcall

/-- The request of the second call has been overtaken. -/
theorem late_overtaken : ∃ h, (History.start {}).run? Honest late = some h ∧
    ∃ a ∈ h.trace.sent, a.call = 1 ∧ h.trace.Overtaken a := by
  obtain ⟨h, hh, hsome, hcalls⟩ := late_run
  have run : Run Honest (History.start {}) h := Run.nil.of_run? hh
  obtain ⟨v, hv⟩ := Option.isSome_iff_exists.1 hsome
  obtain ⟨a, ha, x, hx, hcall, -, -, -, -, -, hiff, -⟩ := run.fresh_iff.2 1 v hv
  refine ⟨h, hh, a, ha, hcall, ?_⟩
  by_contra hnot
  have hown := hiff.2 hnot
  have hzero := call_of_late hcalls hx
  rw [hown, hcall] at hzero
  cases hzero

end LoadTest.Cluster
