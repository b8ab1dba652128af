import LoadTest.Proofs.Testdata.Requests
/-!
# Iterations

The counter of a scenario is the number of iterations that it was given since the last
reset. It never passes the bound, so counting on never wraps around. As long as its table
can be served, a scenario is given one iteration per request up to its bound and is told to
stop from then on.
-/

namespace LoadTest.Testdata

/-! ## The answers to one scenario -/

/-- The actions that answer the requests for a scenario. -/
def answers (identifier : String) (round : List Exchange) : List (Option TestdataAction) :=
  (round.filter fun x => x.identifier = identifier).map Exchange.action?

/-- The number of iterations that a scenario was given. -/
def given (identifier : String) (round : List Exchange) : Nat :=
  (answers identifier round).count (some .consume)

/-- The answers that are due to a number of requests under a bound. -/
def allotted (bound n : Nat) : List (Option TestdataAction) :=
  List.replicate (min n bound) (some .consume) ++ List.replicate (n - bound) (some .stop)

theorem answers_concat_self (round : List Exchange) (x : Exchange) :
    answers x.identifier (round ++ [x]) = answers x.identifier round ++ [x.action?] := by
  simp [answers]

theorem answers_concat_of_ne (round : List Exchange) {x : Exchange} {identifier : String}
    (h : x.identifier ≠ identifier) :
    answers identifier (round ++ [x]) = answers identifier round := by
  simp [answers, h]

theorem count_allotted (bound n : Nat) :
    (allotted bound n).count (some .consume) = min n bound := by
  simp [allotted, List.count_replicate]

/-- One more request is answered by an iteration as long as the bound is not reached. -/
theorem allotted_succ (bound n : Nat) :
    allotted bound (n + 1) =
      allotted bound n ++ [some (if n < bound then .consume else .stop)] := by
  by_cases h : n < bound
  · have hmin : min (n + 1) bound = min n bound + 1 := by omega
    have hrest : n + 1 - bound = 0 := by omega
    have hnone : n - bound = 0 := by omega
    simp only [allotted, hmin, hrest, hnone, if_pos h, List.replicate_zero, List.append_nil]
    exact List.replicate_succ'
  · have hmin : min (n + 1) bound = min n bound := by omega
    have hrest : n + 1 - bound = n - bound + 1 := by omega
    rw [allotted, allotted, hmin, hrest, if_neg h, List.append_assoc, ← List.replicate_succ']

/-! ## One request -/

namespace Producer.Handles

variable {p p' : Producer} {outside : String → Moment} {identifier : String}
  {reply : Except Crash Served}

private theorem toNat_succ {n m : UInt64} (h : n < m) : (n + 1).toNat = n.toNat + 1 := by
  have hlt := UInt64.lt_iff_toNat_lt.1 h
  have hfits := Nat.lt_of_le_of_lt hlt m.toNat_lt
  rw [UInt64.toNat_add]
  exact Nat.mod_eq_of_lt hfits

/-- A counter moves by one exactly if an iteration is given. -/
theorem progress_self (h : p.Handles outside identifier reply p') :
    (p'.progress identifier).toNat = (p.progress identifier).toNat +
      if actionOf? reply = some .consume then 1 else 0 := by
  have hkeep : ∀ tables, Producer.progress
      ⟨p.scenarios, tables, p.served.insert identifier (p.progress identifier)⟩ identifier =
        p.progress identifier := by
    intro tables
    rw [progress, iteration?, Dict.get?_insert_self, Option.getD_some]
  cases h with
  | unknown | boundless | exhausted => rfl
  | failed | crashed => rw [hkeep]; rfl
  | served hs _ =>
    rw [progress, iteration?, Dict.get?_insert_self, Option.getD_some]
    exact toNat_succ (due?_eq_some.1 hs).2

/-- Only a scenario with a bound is tracked, and never beyond its bound. -/
theorem bounded (h : p.Handles outside identifier reply p') {n : UInt64}
    (hn : p'.iteration? identifier = some n) :
    p.iteration? identifier = some n ∨
      ∃ s, p.scenarios.get? identifier = some s ∧ 0 < s.iterations ∧ n ≤ s.iterations := by
  cases h with
  | unknown | boundless | exhausted => exact .inl hn
  | @failed s _ _ hs _ | @crashed s _ _ hs _ =>
    obtain ⟨hs, hlt⟩ := due?_eq_some.1 hs
    rw [iteration?, Dict.get?_insert_self] at hn
    cases hn
    exact .inr ⟨s, hs, UInt64.lt_of_le_of_lt UInt64.zero_le hlt, UInt64.le_of_lt hlt⟩
  | @served s _ _ hs _ =>
    obtain ⟨hs, hlt⟩ := due?_eq_some.1 hs
    rw [iteration?, Dict.get?_insert_self] at hn
    cases hn
    refine .inr ⟨s, hs, UInt64.lt_of_le_of_lt UInt64.zero_le hlt, ?_⟩
    rw [UInt64.le_iff_toNat_le, toNat_succ hlt]
    exact UInt64.lt_iff_toNat_lt.1 hlt

/-- A scenario that is unknown or has no bound is told to stop. -/
theorem stop_of_boundless (h : p.Handles outside identifier reply p')
    (h0 : ∀ s, p.scenarios.get? identifier = some s → s.iterations = 0) :
    actionOf? reply = some .stop := by
  cases hdue : p.due? identifier with
  | none =>
    obtain ⟨⟨log, rfl⟩, -⟩ := h.of_not_due hdue
    rfl
  | some s =>
    obtain ⟨hs, hlt⟩ := due?_eq_some.1 hdue
    rw [h0 s hs] at hlt
    exact absurd hlt UInt64.not_lt_zero

/-- A scenario whose table can be served is given an iteration exactly below its bound. -/
theorem action_of_served (h : p.Handles outside identifier reply p') {s : Scenario}
    (hs : p.scenarios.get? identifier = some s)
    (hok : ∀ f, p.due? identifier = some s → (p.materialize outside s).1 ≠ .error f) :
    actionOf? reply =
      some (if (p.progress identifier).toNat < s.iterations.toNat then .consume else .stop) := by
  by_cases hlt : p.progress identifier < s.iterations
  · have hdue := due?_eq_some.2 ⟨hs, hlt⟩
    have hreply := h.of_due hdue
    rw [if_pos (UInt64.lt_iff_toNat_lt.1 hlt)]
    cases hm : (p.materialize outside s).1 with
    | ok payload =>
      rw [hm] at hreply
      rw [hreply]
      rfl
    | error f => exact absurd hm (hok f hdue)
  · have hdue : p.due? identifier = none := by
      rw [due?, hs]
      simpa using hlt
    obtain ⟨⟨log, rfl⟩, -⟩ := h.of_not_due hdue
    rw [if_neg fun h => hlt (UInt64.lt_iff_toNat_lt.2 h)]
    rfl

end Producer.Handles

/-! ## Rounds of requests -/

/-- How a round of requests is answered: a scenario that is unknown or has no bound is told
to stop, and one whose table was served whenever it was due is given its iterations first
and is told to stop from then on. -/
structure Regular (scenarios : Dict Scenario) (round : List Exchange) : Prop where
  refused : ∀ identifier, (∀ s, scenarios.get? identifier = some s → s.iterations = 0) →
    ∀ x ∈ round, x.identifier = identifier → x.action? = some .stop
  granted : ∀ identifier s, scenarios.get? identifier = some s →
    (∀ x ∈ round, x.identifier = identifier → ¬ x.Fails) →
    answers identifier round =
      allotted s.iterations.toNat (answers identifier round).length

/-- The counters of a producer and the answers that it gave agree. -/
structure Tallied (scenarios : Dict Scenario) (c : Chronicle) : Prop where
  /-- Every counter is the number of iterations given since the last reset. -/
  counted : ∀ identifier n, c.producer.iteration? identifier = some n →
    n.toNat = given identifier c.current
  /-- Only scenarios with a bound are tracked, and never beyond it. -/
  bounded : ∀ identifier n, c.producer.iteration? identifier = some n →
    ∃ s, scenarios.get? identifier = some s ∧ 0 < s.iterations ∧ n ≤ s.iterations
  /-- Every round was answered as it should be. -/
  rounds : ∀ round ∈ c.rounds, Regular scenarios round

/-- What every demand preserves: the books of a producer with fixed scenarios, where an
untracked scenario counts as given nothing. -/
private structure Balanced (scenarios : Dict Scenario) (c : Chronicle) : Prop where
  fixed : c.producer.scenarios = scenarios
  filed : c.producer.Filed
  counted : ∀ identifier, (c.producer.progress identifier).toNat = given identifier c.current
  bounded : ∀ identifier n, c.producer.iteration? identifier = some n →
    ∃ s, scenarios.get? identifier = some s ∧ 0 < s.iterations ∧ n ≤ s.iterations
  rounds : ∀ round ∈ c.rounds, Regular scenarios round

private theorem Regular.nil (scenarios : Dict Scenario) : Regular scenarios [] where
  refused := fun _ _ _ hx => absurd hx List.not_mem_nil
  granted := fun _ _ _ _ => by simp [answers, allotted]

/-- A round goes on regularly with a request that meets a counter equal to what was given. -/
private theorem Regular.concat {scenarios : Dict Scenario} {round : List Exchange}
    (h : Regular scenarios round) {x : Exchange} (hfixed : x.before.scenarios = scenarios)
    (hfiled : x.before.Filed)
    (hcounted : (x.before.progress x.identifier).toNat = given x.identifier round) :
    Regular scenarios (round ++ [x]) where
  refused := by
    intro identifier h0 y hy hid
    rcases List.mem_append.1 hy with hy | hy
    · exact h.refused identifier h0 y hy hid
    · obtain rfl := List.mem_singleton.1 hy
      subst hid
      exact (y.handles hfiled).stop_of_boundless (hfixed ▸ h0)
  granted := by
    intro identifier s hs hok
    have hround := h.granted identifier s hs fun y hy => hok y (List.mem_append_left _ hy)
    by_cases hid : x.identifier = identifier
    · subst hid
      generalize hlen : (answers x.identifier round).length = n at hround
      have hgiven : (x.before.progress x.identifier).toNat = min n s.iterations.toNat := by
        rw [hcounted, given, hround, count_allotted]
      have hx := (x.handles hfiled).action_of_served (hfixed ▸ hs) fun f hdue hf =>
        hok x (by simp) rfl ⟨s, f, hdue, hf⟩
      have hbelow : min n s.iterations.toNat < s.iterations.toNat ↔ n < s.iterations.toNat := by
        omega
      rw [hgiven] at hx
      simp only [hbelow] at hx
      rw [answers_concat_self, List.length_append, hlen, hround, List.length_singleton,
        allotted_succ, Exchange.action?, hx]
    · rw [answers_concat_of_ne round hid]
      exact hround

private theorem given_concat (round : List Exchange) (x : Exchange) (identifier : String) :
    given identifier (round ++ [x]) = given identifier round +
      if x.identifier = identifier ∧ x.action? = some .consume then 1 else 0 := by
  by_cases hid : x.identifier = identifier
  · subst hid
    rw [given, answers_concat_self, List.count_append, List.count_singleton, given]
    simp
  · rw [given, answers_concat_of_ne round hid, if_neg fun h => hid h.1]
    rfl

private theorem Balanced.next {scenarios : Dict Scenario} {c : Chronicle}
    (h : Balanced scenarios c) (outside : String → Moment) (identifier : String) :
    Balanced scenarios (c.step (.next outside identifier)) := by
  let x : Exchange := ⟨c.producer, outside, identifier⟩
  have hx := x.handles h.filed
  refine ⟨hx.scenarios.trans h.fixed, ?_, ?_, ?_, ?_⟩
  · intro other s hs
    rw [show (c.step (.next outside identifier)).producer.scenarios = c.producer.scenarios from
      hx.scenarios] at hs
    exact h.filed other s hs
  · intro other
    show (x.after.progress other).toNat = given other (c.current ++ [x])
    rw [given_concat]
    by_cases hid : x.identifier = other
    · subst hid
      rw [hx.progress_self, ← h.counted x.identifier]
      simp [Exchange.action?, x]
    · rw [Producer.progress, hx.iteration?_of_ne hid, if_neg fun h => hid h.1, ← h.counted other]
      rfl
  · intro other n hn
    by_cases hid : x.identifier = other
    · subst hid
      rcases hx.bounded hn with hold | ⟨s, hs, hpos, hle⟩
      · exact h.bounded _ n hold
      · exact ⟨s, h.fixed ▸ hs, hpos, hle⟩
    · exact h.bounded other n ((hx.iteration?_of_ne hid).symm.trans hn)
  · intro round hround
    rcases List.mem_append.1 hround with hround | hround
    · exact h.rounds round (List.mem_append_left _ hround)
    · obtain rfl := List.mem_singleton.1 hround
      have hcurrent := h.rounds c.current (by simp [Chronicle.rounds])
      exact hcurrent.concat h.fixed h.filed (h.counted identifier)

private theorem Balanced.reset {scenarios : Dict Scenario} {c : Chronicle}
    (h : Balanced scenarios c) : Balanced scenarios (c.step .reset) := by
  have hiteration : ∀ identifier, (c.step .reset).producer.iteration? identifier =
      (c.producer.iteration? identifier).map fun _ => 0 :=
    fun identifier => Dict.get?_map _ _ identifier
  refine ⟨h.fixed, h.filed, ?_, ?_, ?_⟩
  · intro identifier
    rw [Producer.progress, hiteration]
    cases c.producer.iteration? identifier <;> rfl
  · intro identifier n hn
    rw [hiteration] at hn
    obtain ⟨m, hm, rfl⟩ := Option.map_eq_some_iff.1 hn
    obtain ⟨s, hs, hpos, -⟩ := h.bounded identifier m hm
    exact ⟨s, hs, hpos, UInt64.zero_le⟩
  · intro round hround
    rcases List.mem_append.1 hround with hround | hround
    · exact h.rounds round hround
    · obtain rfl := List.mem_singleton.1 hround
      exact .nil scenarios

/-- After any requests and resets the counters of a producer are the iterations that it gave,
and every round was answered by the bounds. -/
theorem Chronicle.tallied (scenarios : List Scenario) (tables : Dict Table)
    (demands : List Demand) :
    Tallied (Producer.make scenarios tables).scenarios
      (Chronicle.run ⟨.make scenarios tables, [], []⟩ demands) := by
  have hstart : Balanced (Producer.make scenarios tables).scenarios
      ⟨.make scenarios tables, [], []⟩ := by
    refine ⟨rfl, Producer.filed_make scenarios tables, fun _ => rfl, ?_, ?_⟩
    · intro identifier n hn
      cases hn
    · intro round hround
      obtain rfl := List.mem_singleton.1 hround
      exact .nil _
  have hend : Balanced (Producer.make scenarios tables).scenarios
      (Chronicle.run ⟨.make scenarios tables, [], []⟩ demands) := by
    refine Chronicle.run_of_step (fun c d h => ?_) hstart demands
    cases d with
    | next outside identifier => exact h.next outside identifier
    | reset => exact h.reset
  refine ⟨?_, hend.bounded, hend.rounds⟩
  intro identifier n hn
  rw [← hend.counted identifier, Producer.progress, hn, Option.getD_some]

/-- With one iteration to serve, the second request is told to stop until a reset. -/
example (outside : String → Moment) :
    (Chronicle.run ⟨.make [⟨"A", 1, ∅⟩] ∅, [], []⟩
      [.next outside "A", .next outside "A", .reset, .next outside "A"]).rounds.map
        (answers "A") = [[some .consume, some .stop], [some .consume]] := by
  rfl

end LoadTest.Testdata
