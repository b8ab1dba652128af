import LoadTest.Proofs.Testdata.Payloads
/-!
# What a stop leaves behind

A request that is told to stop because no iteration is due leaves the producer as it was. If
its variables could not be served, the sources that were read before the fault stay read:
nothing is rolled back. That is all that such a stop consumes. Its iteration does not count,
and nothing else is touched, so the snapshot moves in the persisting counters that were read,
and nowhere else.
-/

namespace LoadTest.Testdata

namespace Exchange

/-- A request reads a source of its scenario: an iteration is due, and serving its table
reads the source. -/
def Draws (x : Exchange) (name : String) : Prop :=
  ∃ s t, x.before.due? x.identifier = some s ∧ x.before.tables.get? x.identifier = some t ∧
    t.Draws x.outside name

/-- The variables of an iteration that was due could not be served, which ends in a stop. -/
def StopsShort (x : Exchange) : Prop :=
  ∃ s t e, x.before.due? x.identifier = some s ∧
    x.before.tables.get? x.identifier = some t ∧
    (t.materialize x.outside s.aliases).1 = .error (.error e)

/-- A request leaves everything as it was, but for the sources that it reads: each of them
is read once. At most its scenario is tracked from now on. -/
structure LeavesDrawn (x : Exchange) : Prop where
  scenarios : x.after.scenarios = x.before.scenarios
  served : x.after.served = x.before.served ∨
    x.before.iteration? x.identifier = none ∧
      x.after.served = x.before.served.insert x.identifier 0
  keys : ∀ other, (x.after.tables.get? other).map (·.keys) =
    (x.before.tables.get? other).map (·.keys)
  drawn : ∀ name, x.Draws name → ∃ source value next,
    x.before.source? x.identifier name = some source ∧
      source.read (x.outside name) = .ok (value, next) ∧
      x.after.source? x.identifier name = some next
  kept : ∀ other name, ¬ (other = x.identifier ∧ x.Draws name) →
    x.after.source? other name = x.before.source? other name

variable {x : Exchange}

/-- A stop, seen from inside: no iteration was due, or its variables could not be served. -/
theorem stop_cases (hx : x.before.Filed) (hstop : x.action? = some .stop) :
    (x.before.due? x.identifier = none ∧ x.after = x.before) ∨
      ∃ s t e, x.before.due? x.identifier = some s ∧
        x.before.tables.get? x.identifier = some t ∧
        (t.materialize x.outside s.aliases).1 = .error (.error e) ∧
        x.after = { x.before with
          tables := x.before.tables.insert x.identifier (t.materialize x.outside s.aliases).2
          served := x.before.served.insert x.identifier (x.before.progress x.identifier) } := by
  have hhandles := x.handles hx
  unfold action? at hstop
  cases hdue : x.before.due? x.identifier with
  | none => exact .inl ⟨rfl, (hhandles.of_not_due hdue).2⟩
  | some s =>
    have hs := hx _ s (Producer.due?_eq_some.1 hdue).1
    obtain ⟨tables, ⟨payload, -, hreply, -⟩ | ⟨f, hm, hreply, hafter⟩⟩ :=
      hhandles.cases_of_due hdue
    · rw [hreply] at hstop
      cases hstop
    · cases f with
      | crash c =>
        rw [show x.reply = .error c from hreply] at hstop
        cases hstop
      | error e =>
        rcases Producer.materialize_cases hm with ⟨-, hok, -⟩ | ⟨t, ht, hresult, htables⟩
        · cases hok
        · rw [hs] at ht htables
          exact .inr ⟨s, t, e, rfl, ht, hresult.symm, htables ▸ hafter⟩

/-- A stop leaves everything but the sources that it has read. -/
theorem leavesDrawn_of_stop (hx : x.before.Filed) (hstop : x.action? = some .stop) :
    x.LeavesDrawn := by
  rcases stop_cases hx hstop with ⟨hdue, hsame⟩ | ⟨s, t, e, hdue, ht, -, hafter⟩
  · have hnone : ∀ name, ¬ x.Draws name := by
      rintro name ⟨s, t, hs, -⟩
      rw [hdue] at hs
      cases hs
    constructor
    case drawn => exact fun name h => absurd h (hnone name)
    all_goals simp only [hsame, implies_true, true_or]
  · have hdraws : ∀ name, x.Draws name ↔ t.Draws x.outside name := by
      refine fun name => ⟨?_, fun h => ⟨s, t, hdue, ht, h⟩⟩
      rintro ⟨s', t', hs', ht', h⟩
      obtain rfl := Option.some.inj (ht.symm.trans ht')
      exact h
    have hself : ∀ name, x.after.source? x.identifier name =
        (t.materialize x.outside s.aliases).2.sources.get? name := by
      intro name
      rw [Producer.source?, hafter, Dict.get?_insert_self]
      rfl
    have hbefore : ∀ name, x.before.source? x.identifier name = t.sources.get? name := by
      intro name
      rw [Producer.source?, ht]
      rfl
    have hother : ∀ other, x.identifier ≠ other →
        x.after.tables.get? other = x.before.tables.get? other := by
      intro other hne
      rw [hafter]
      exact Dict.get?_insert_of_ne _ _ hne
    constructor
    case scenarios => rw [hafter]
    case served =>
      rw [hafter]
      show x.before.served.insert _ _ = _ ∨ _
      cases hn : x.before.iteration? x.identifier with
      | none => exact .inr ⟨rfl, by rw [Producer.progress, hn]; rfl⟩
      | some n =>
        left
        rw [Producer.progress, hn]
        exact Dict.insert_of_get? hn
    case keys =>
      intro other
      by_cases hne : x.identifier = other
      · subst hne
        rw [hafter, Dict.get?_insert_self, ht]
        exact congrArg some (t.materialize_advances x.outside s.aliases).1
      · rw [hother other hne]
    case drawn =>
      intro name h
      rw [hself, hbefore]
      exact (t.materialize_reads x.outside s.aliases name).1 ((hdraws name).1 h)
    case kept =>
      intro other name h
      by_cases hne : x.identifier = other
      · subst hne
        rw [hself, hbefore]
        refine (t.materialize_reads x.outside s.aliases name).2 fun hd => ?_
        exact h ⟨rfl, (hdraws name).2 hd⟩
      · rw [Producer.source?, Producer.source?, hother other hne]

/-! ## The snapshot -/

/-- A snapshot moves in the counters that a request has read, each by one step, and in
nothing else. -/
structure SavesDrawn (x : Exchange) : Prop where
  drawn : ∀ name c, x.Draws name → x.before.counter? x.identifier name = some c →
    ∃ n, checkedAdd? c.next c.step = some n ∧
      (x.after.snapshot.get? x.identifier).bind (·.get? name) =
        some (.str (Counter.saved { c with next := n }))
  kept : ∀ other name, ¬ (other = x.identifier ∧ x.Draws name) →
    (x.after.snapshot.get? other).bind (·.get? name) =
      (x.before.snapshot.get? other).bind (·.get? name)
  unchanged : (∀ name, x.Draws name → x.before.counter? x.identifier name = none) →
    x.after.snapshot = x.before.snapshot

/-- What is left of the sources decides what is left of the snapshot. -/
theorem LeavesDrawn.savesDrawn (h : x.LeavesDrawn) : x.SavesDrawn := by
  have hkept : ∀ other name, ¬ (other = x.identifier ∧ x.Draws name) →
      x.after.counter? other name = x.before.counter? other name := by
    intro other name hnot
    rw [Producer.counter?, h.kept other name hnot]
    rfl
  constructor
  case drawn =>
    intro name c hd hc
    obtain ⟨source, value, next, hs, hread, hnext⟩ := h.drawn name hd
    obtain ⟨hsource, hpersists⟩ := Producer.counter?_eq_some.1 hc
    obtain rfl := Option.some.inj (hs.symm.trans hsource)
    cases Source.reads_of_read hread with
    | @counter _ c' _ hcount =>
      obtain ⟨-, hstep, hkeeps, hadded⟩ := Counter.read_eq_ok hcount
      refine ⟨c'.next, checkedAdd?_eq_some.2 hadded, ?_⟩
      rw [Producer.get?_snapshot_bind,
        Producer.counter?_eq_some.2 ⟨hnext, hkeeps.trans hpersists⟩, Option.map_some,
        Counter.saved, Counter.saved, hstep]
  case kept =>
    intro other name hnot
    rw [Producer.get?_snapshot_bind, Producer.get?_snapshot_bind, hkept other name hnot]
  case unchanged =>
    intro hnone
    refine Producer.snapshot_congr fun other name => ?_
    by_cases hd : other = x.identifier ∧ x.Draws name
    · obtain ⟨rfl, hd⟩ := hd
      obtain ⟨source, value, next, hs, hread, hnext⟩ := h.drawn name hd
      have hmoved := Source.onward_of_read hread
      have hbefore := hnone name hd
      rw [hbefore]
      rw [Producer.counter?, hs, Option.bind_some] at hbefore
      rw [Producer.counter?, hnext, Option.bind_some]
      rw [hbefore] at hmoved
      generalize next.persisting? = c at hmoved
      cases hmoved
      rfl
    · exact hkept other name hd

/-- A stop that is due to no fault leaves the producer as it was. Any other stop tracks its
scenario at most, and leaves everything as it was but for the sources that were read up to
the fault, which are one read on, and the snapshot accordingly. -/
theorem stop_leaves (hx : x.before.Filed) (hstop : x.action? = some .stop) :
    (¬ x.StopsShort → x.after = x.before) ∧ x.LeavesDrawn ∧ x.SavesDrawn := by
  have hleaves := leavesDrawn_of_stop hx hstop
  refine ⟨fun hshort => ?_, hleaves, hleaves.savesDrawn⟩
  rcases stop_cases hx hstop with ⟨-, hsame⟩ | ⟨s, t, e, hdue, ht, hm, -⟩
  · exact hsame
  · exact absurd ⟨s, t, e, hdue, ht, hm⟩ hshort

end Exchange

/-- A scenario that serves a persisting counter, and then a key that belongs to no source. -/
def unfinished : Definition :=
  ⟨[⟨"A", 3, ∅, [⟨"n", false, .integerIncrementer 1 1 true⟩], ["ghost.value"]⟩]⟩

/-- The first request for the scenario. -/
def unfinishedRequest (p : Producer) : Exchange := ⟨p, fun _ => ⟨⟨0, 0⟩, 0⟩, "A"⟩

theorem unfinished_leaves :
    ∃ p, unfinished.build ∅ = .ok p ∧ p.Filed ∧ (unfinishedRequest p).action? = some .stop ∧
      (unfinishedRequest p).LeavesDrawn ∧ (unfinishedRequest p).SavesDrawn := by
  have hbuilt : unfinished.build ∅ = .ok _ := rfl
  have hfiled := Definition.filed_of_build hbuilt
  exact ⟨_, hbuilt, hfiled, rfl, (Exchange.stop_leaves (x := unfinishedRequest _) hfiled rfl).2⟩

/-- A stop can move the snapshot: the counter was read before the fault. -/
theorem unfinished_moves_snapshot :
    ∃ p, unfinished.build ∅ = .ok p ∧ (unfinishedRequest p).action? = some .stop ∧
      (p.snapshot.get? "A").bind (·.get? "n") = some (.str "1 | step=1") ∧
      ((unfinishedRequest p).after.snapshot.get? "A").bind (·.get? "n") =
        some (.str "2 | step=1") :=
  ⟨_, rfl, rfl, rfl, rfl⟩

end LoadTest.Testdata
