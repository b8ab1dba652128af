import LoadTest.Proofs.Testdata.Building
/-!
# Persisting counters

A snapshot holds the saved texts of the persisting counters of a producer and nothing else.
Requests and resets leave each such counter in its place and with its step, and move it on by
whole steps. So whether there is anything to keep for the next run is decided when a producer
is built.
-/

namespace LoadTest

namespace Dict

variable {α β : Type}

/-- A dropped entry was the only one under its key. -/
theorem get?_filterMap (f : α → Option β) (d : Dict α) (k : String) :
    (d.filterMap f).get? k = (d.get? k).bind f := by
  obtain ⟨es, hasc⟩ := d
  simp only [get?, filterMap]
  induction es with
  | nil => rfl
  | cons e es ih =>
    obtain ⟨he, hes⟩ := List.pairwise_cons.1 hasc
    rw [lookup_cons]
    cases hf : f e.2 with
    | some b =>
      rw [List.filterMap_cons_some (by rw [hf]; rfl), lookup_cons, ih hes]
      split
      · exact hf.symm
      · rfl
    | none =>
      rw [List.filterMap_cons_none (by rw [hf]; rfl), ih hes]
      split
      · next hk =>
        have hout : lookup k es = none := by
          apply lookup_eq_none
          intro x hx hxk
          have hlt := he x hx
          rw [hk, hxk] at hlt
          exact String.lt_irrefl _ hlt
        rw [hout]
        exact hf.symm
      · rfl

/-- A dictionary is empty if no key has a value. -/
theorem isEmpty_iff {d : Dict α} : d.isEmpty = true ↔ ∀ k, d.get? k = none := by
  obtain ⟨es, hasc⟩ := d
  cases es with
  | nil => simp [isEmpty, get?]
  | cons e es =>
    constructor
    · intro h
      cases h
    · intro h
      have he := h e.1
      simp [get?, lookup_cons] at he

end Dict

namespace Testdata

/-! ## One counter -/

namespace Counter

/-- A counter comes from another one by reads: the same counter, some steps on. -/
structure Onward (c c' : Counter) : Prop where
  step : c'.step = c.step
  persists : c'.persists = c.persists
  next : ∃ k : ℕ, c'.next.toInt = c.next.toInt + k * c.step.toInt

theorem Onward.refl (c : Counter) : c.Onward c := ⟨rfl, rfl, 0, by simp⟩

theorem Onward.trans {c c' c'' : Counter} (h : c.Onward c') (h' : c'.Onward c'') :
    c.Onward c'' := by
  obtain ⟨k, hk⟩ := h.next
  obtain ⟨k', hk'⟩ := h'.next
  refine ⟨h'.step.trans h.step, h'.persists.trans h.persists, k + k', ?_⟩
  rw [hk', hk, h.step]
  push_cast
  ring

/-- A read gives the next value and moves the counter by one step. -/
theorem read_eq_ok {c c' : Counter} {v : Json} (h : c.read = .ok (v, c')) :
    v = .ofInt64 c.next ∧ c'.step = c.step ∧ c'.persists = c.persists ∧
      c'.next.toInt = c.next.toInt + c.step.toInt := by
  unfold read at h
  split at h
  · next n hn =>
    cases h
    exact ⟨rfl, rfl, rfl, checkedAdd?_eq_some.1 hn⟩
  · cases h

theorem onward_of_read {c c' : Counter} {v : Json} (h : c.read = .ok (v, c')) :
    c.Onward c' := by
  obtain ⟨-, hstep, hpersists, hnext⟩ := read_eq_ok h
  exact ⟨hstep, hpersists, 1, by simpa using hnext⟩

end Counter

namespace Source

/-- The counter of a source, if it is one that persists. -/
def persisting? : Source → Option Counter
  | counter c => if c.persists then some c else none
  | _ => none

theorem initial?_eq (source : Source) :
    source.initial? = source.persisting?.map fun c => .str c.saved := by
  cases source with
  | counter c => cases hc : c.persists <;> simp [initial?, persisting?, hc]
  | _ => rfl

theorem persisting?_eq_some {source : Source} {c : Counter} :
    source.persisting? = some c ↔ source = .counter c ∧ c.persists = true := by
  cases source with
  | counter c' =>
    cases hc : c'.persists with
    | true =>
      simp only [persisting?, hc, if_true, Option.some.injEq, counter.injEq]
      exact ⟨fun h => ⟨h, h ▸ hc⟩, fun h => h.1⟩
    | false =>
      simp only [persisting?, hc, Bool.false_eq_true, if_false, counter.injEq]
      refine ⟨nofun, ?_⟩
      rintro ⟨rfl, h⟩
      rw [hc] at h
      cases h
  | _ => simp [persisting?]

/-- A read moves a persisting counter on, and makes none. -/
theorem onward_of_read {source next : Source} {m : Moment} {v : Json}
    (h : source.read m = .ok (v, next)) :
    Option.Rel Counter.Onward source.persisting? next.persisting? := by
  cases reads_of_read h with
  | @counter c c' _ hread =>
    have honward := Counter.onward_of_read hread
    simp only [persisting?, honward.persists]
    cases c.persists with
    | true => exact .some honward
    | false => exact .none
  | _ => exact .none

end Source

/-! ## All counters of a producer -/

namespace Producer

/-- The persisting counter under a name in a scenario. -/
def counter? (p : Producer) (identifier name : String) : Option Counter :=
  (p.source? identifier name).bind Source.persisting?

/-- A producer comes from another one by requests and resets, as far as its persisting
counters tell. -/
def Onward (p p' : Producer) : Prop :=
  ∀ identifier name,
    Option.Rel Counter.Onward (p.counter? identifier name) (p'.counter? identifier name)

variable {p p' p'' : Producer}

private theorem rel_refl (c : Option Counter) : Option.Rel Counter.Onward c c := by
  cases c with
  | none => exact .none
  | some c => exact .some (.refl c)

theorem Onward.refl (p : Producer) : p.Onward p := fun _ _ => rel_refl _

theorem Onward.trans (h : p.Onward p') (h' : p'.Onward p'') : p.Onward p'' := by
  intro identifier name
  have hfirst := h identifier name
  have hsecond := h' identifier name
  generalize p.counter? identifier name = c at hfirst ⊢
  generalize p'.counter? identifier name = c' at hfirst hsecond
  generalize p''.counter? identifier name = c'' at hsecond ⊢
  cases hfirst with
  | none =>
    cases hsecond
    exact .none
  | some hc =>
    cases hsecond with
    | some hc' => exact .some (hc.trans hc')

/-- A persisting counter stays in its place. -/
theorem Onward.get (h : p.Onward p') {identifier name : String} {c : Counter}
    (hc : p.counter? identifier name = some c) :
    ∃ c', p'.counter? identifier name = some c' ∧ c.Onward c' := by
  have hrel := h identifier name
  rw [hc] at hrel
  generalize p'.counter? identifier name = c' at hrel
  cases hrel with
  | some honward => exact ⟨_, rfl, honward⟩

/-- No counter comes to persist later. -/
theorem Onward.get?_eq_none_iff (h : p.Onward p') (identifier name : String) :
    p'.counter? identifier name = none ↔ p.counter? identifier name = none := by
  have hrel := h identifier name
  generalize p.counter? identifier name = c at hrel
  generalize p'.counter? identifier name = c' at hrel
  cases hrel <;> simp

theorem onward_reset (p : Producer) : p.Onward p.reset := fun _ _ => rel_refl _

/-- Serving a table moves its persisting counters on. -/
private theorem onward_materialize (t : Table) (outside : String → Moment)
    (aliases : Dict String) (name : String) :
    Option.Rel Counter.Onward ((t.sources.get? name).bind Source.persisting?)
      (((t.materialize outside aliases).2.sources.get? name).bind Source.persisting?) := by
  rcases (t.materialize_advances outside aliases).2 name with
    hsame | ⟨source, v, next, hsource, hread, hnext⟩
  · rw [hsame]
    exact rel_refl _
  · rw [hsource, hnext]
    exact Source.onward_of_read hread

/-- A request moves the persisting counters on. -/
theorem Handles.onward {outside : String → Moment} {identifier : String}
    {reply : Except Crash Served} (h : p.Handles outside identifier reply p') (hp : p.Filed) :
    p.Onward p' := by
  intro other name
  unfold counter? source?
  rcases h.table hp other with hsame | ⟨rfl, s, t, -, ht, hnext⟩
  · rw [hsame]
    exact rel_refl _
  · rw [ht, hnext]
    exact onward_materialize t outside s.aliases name

/-! ## What a snapshot holds -/

theorem get?_snapshot (p : Producer) (identifier : String) :
    p.snapshot.get? identifier = (p.tables.get? identifier).bind fun t =>
      if (t.sources.filterMap Source.initial?).isEmpty then none
      else some (t.sources.filterMap Source.initial?) :=
  Dict.get?_filterMap _ _ _

/-- A snapshot holds the saved text of each persisting counter, and nothing else. -/
theorem get?_snapshot_bind (p : Producer) (identifier name : String) :
    (p.snapshot.get? identifier).bind (·.get? name) =
      (p.counter? identifier name).map fun c => .str c.saved := by
  rw [get?_snapshot, counter?, source?]
  cases p.tables.get? identifier with
  | none => rfl
  | some t =>
    have hvalues : (t.sources.filterMap Source.initial?).get? name =
        ((t.sources.get? name).bind Source.persisting?).map fun c => .str c.saved := by
      rw [Dict.get?_filterMap, Option.map_bind]
      congr
      funext source
      exact source.initial?_eq
    simp only [Option.bind_some]
    rw [← hvalues]
    split
    · next hempty => exact (Dict.isEmpty_iff.1 hempty name).symm
    · rfl

/-- A scenario has a part of the snapshot exactly if one of its counters persists. -/
theorem get?_snapshot_eq_none_iff {identifier : String} :
    p.snapshot.get? identifier = none ↔ ∀ name, p.counter? identifier name = none := by
  constructor
  · intro h name
    have hname := p.get?_snapshot_bind identifier name
    rw [h] at hname
    simpa using hname.symm
  · intro h
    have hnames : ∀ name, (p.snapshot.get? identifier).bind (·.get? name) = none := by
      intro name
      rw [get?_snapshot_bind, h, Option.map_none]
    simp only [get?_snapshot] at hnames ⊢
    cases ht : p.tables.get? identifier with
    | none => rfl
    | some t =>
      simp only [ht, Option.bind_some] at hnames ⊢
      split
      · rfl
      · next hfilled =>
        simp only [if_neg hfilled, Option.bind_some] at hnames
        exact absurd (Dict.isEmpty_iff.2 hnames) hfilled

/-- A snapshot is empty exactly if no counter persists. -/
theorem isEmpty_snapshot_iff :
    p.snapshot.isEmpty = true ↔ ∀ identifier name, p.counter? identifier name = none := by
  simp only [Dict.isEmpty_iff, get?_snapshot_eq_none_iff]

/-- Whether there is anything to keep never changes. -/
theorem Onward.isEmpty_snapshot (h : p.Onward p') :
    p'.snapshot.isEmpty = p.snapshot.isEmpty := by
  rw [Bool.eq_iff_iff, isEmpty_snapshot_iff, isEmpty_snapshot_iff]
  simp only [h.get?_eq_none_iff]

/-- Producers with the same persisting counters leave the same snapshot. -/
theorem snapshot_congr
    (h : ∀ identifier name, p'.counter? identifier name = p.counter? identifier name) :
    p'.snapshot = p.snapshot := by
  apply Dict.ext_get?
  intro identifier
  have hnames : ∀ name, (p'.snapshot.get? identifier).bind (·.get? name) =
      (p.snapshot.get? identifier).bind (·.get? name) := by
    intro name
    rw [get?_snapshot_bind, get?_snapshot_bind, h]
  have hnone : p'.snapshot.get? identifier = none ↔ p.snapshot.get? identifier = none := by
    simp only [get?_snapshot_eq_none_iff, h]
  cases hp' : p'.snapshot.get? identifier with
  | none => rw [hnone.1 hp']
  | some values' =>
    cases hp : p.snapshot.get? identifier with
    | none =>
      rw [hnone.2 hp] at hp'
      cases hp'
    | some values =>
      rw [hp, hp'] at hnames
      exact congrArg some (Dict.ext_get? hnames)

end Producer

/-! ## What counters serve -/

theorem Producer.counter?_eq_some {p : Producer} {identifier name : String} {c : Counter} :
    p.counter? identifier name = some c ↔
      p.source? identifier name = some (.counter c) ∧ c.persists = true := by
  rw [counter?, Option.bind_eq_some_iff]
  constructor
  · rintro ⟨source, hsource, hc⟩
    obtain ⟨rfl, hpersists⟩ := Source.persisting?_eq_some.1 hc
    exact ⟨hsource, hpersists⟩
  · rintro ⟨hsource, hpersists⟩
    exact ⟨_, hsource, Source.persisting?_eq_some.2 ⟨rfl, hpersists⟩⟩

namespace Exchange

/-- The value that the answer gives to a variable. -/
def served? (x : Exchange) (name : String) : Option Json :=
  (x.reply.toOption.bind (·.response.data)).bind (·.variables.get? name)

/-- A variable that is a persisting counter is served the next value, and the counter moves
by one step. -/
theorem served?_counter {x : Exchange} (hx : x.before.Filed) {name : String} {c : Counter}
    {v : Json} (hc : x.before.counter? x.identifier name = some c)
    (hv : x.served? name = some v) :
    v = .ofInt64 c.next ∧ ∃ c', x.after.counter? x.identifier name = some c' ∧
      c'.step = c.step ∧ c'.next.toInt = c.next.toInt + c.step.toInt := by
  obtain ⟨hsource, hpersists⟩ := Producer.counter?_eq_some.1 hc
  obtain ⟨t, ht, hname⟩ := Option.bind_eq_some_iff.1 hsource
  have hhandles := x.handles hx
  unfold served? at hv
  generalize x.reply = reply at hhandles hv
  generalize x.after = p at hhandles ⊢
  cases hhandles with
  | unknown | boundless | exhausted | failed | crashed => cases hv
  | @served s payload tables hdue hm =>
    have hs := hx x.identifier s (Producer.due?_eq_some.1 hdue).1
    rcases Producer.materialize_cases hm with ⟨hnone, -, -⟩ | ⟨t', ht', hresult, htables⟩
    · rw [hs, ht] at hnone
      cases hnone
    · rw [hs] at ht' htables
      obtain rfl := Option.some.inj (ht.symm.trans ht')
      obtain ⟨base, attr, source, value, next, hresolve, hbase, hread, hnext, hprojected⟩ :=
        Table.served_of_materialize hresult.symm hv
      -- the name of a source stands for the source itself
      have hcontains : t.sources.contains name = true := by
        rw [Dict.contains, hname]
        rfl
      rw [resolve, if_pos hcontains] at hresolve
      cases hresolve
      obtain rfl := Option.some.inj (hname.symm.trans hbase)
      cases hprojected
      cases Source.reads_of_read hread with
      | @counter c c' _ hcount =>
        obtain ⟨hvalue, hstep, hkept, hadded⟩ := Counter.read_eq_ok hcount
        refine ⟨hvalue, c', Producer.counter?_eq_some.2 ⟨?_, hkept.trans hpersists⟩, hstep, hadded⟩
        show (tables.get? x.identifier).bind (·.sources.get? name) = _
        rw [show tables = _ from htables, Dict.get?_insert_self]
        exact hnext

end Exchange

/-- From a built producer on, requests and resets only move its persisting counters on. -/
theorem Chronicle.run_onward {p : Producer} (hp : p.Filed) (demands : List Demand) :
    (run ⟨p, [], []⟩ demands).producer.Filed ∧ p.Onward (run ⟨p, [], []⟩ demands).producer := by
  refine (run_of_stable (P := fun p' => p'.Filed ∧ p.Onward p') (fun _ h => h.1) ?_ ?_
    ⟨hp, .refl p⟩ demands).1
  · intro p' p'' outside identifier reply h hx
    exact ⟨hx.filed h.1, h.2.trans (hx.onward h.1)⟩
  · intro p' h
    exact ⟨h.1, h.2.trans p'.onward_reset⟩

end Testdata

end LoadTest
