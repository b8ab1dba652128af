import LoadTest.Proofs.Testdata.Persisting
/-!
# Tables served over and over

The n-th value of a source is fixed when the source is made, apart from random integers and
times. Whenever a table is served without a fault, each source that its keys refer to is read
exactly once, however many keys share it. So all of them stand at the same read, and the n-th
serving gives every key the n-th value of its source.
-/

namespace LoadTest.Testdata

/-! ## The values of a source -/

/-- The row of the `n`-th read, counted from zero, of rows that are read from the start. -/
def Rows.nth (r : Rows) (n : ℕ) : Json :=
  match r.rows[if r.repeats then n % r.rows.length else n]? with
  | some row => .ofDict row
  | none => .null

/-- The value of the `n`-th read of a source, counted from zero. A counter has one as long as
it fits 64 bits. -/
def Source.nth? (m : Moment) (n : ℕ) : Source → Option Json
  | literal v => some v
  | counter c => (int64? (c.next.toInt + n * c.step.toInt)).map .ofInt64
  | rows r => some (r.nth n)
  | random r => some (.ofInt64 (Int64.ofInt (r.pick m.drawn)))
  | clock c => (c.read m).toOption
  | onConsumer => none

/-- The part of a value that a key asks for: all of it, or an attribute. -/
def part? : Option String → Json → Option Json
  | none, v => some v
  | some _, .null => some .null
  | some attr, .obj members => Dict.lookup attr members
  | some _, _ => none

theorem part?_of_projected {key : String} {value v : Json} {attr : Option String}
    (h : Serving.projected key value attr = .ok v) : part? attr value = some v := by
  cases attr with
  | none =>
    cases h
    rfl
  | some attr =>
    simp only [Serving.projected] at h
    split at h
    · next w hw =>
      cases h
      unfold project at hw
      split at hw
      · cases hw
        rfl
      · split at hw
        · next hlookup =>
          cases hw
          exact hlookup
        · cases hw
      · cases hw
    · cases h

/-! ### Positions -/

/-- Where `n` reads leave rows that are read from the start. -/
structure Rows.At (n : ℕ) (r : Rows) : Prop where
  within : r.position ≤ r.rows.length
  cycle : r.repeats = true → r.rows ≠ [] → n % r.rows.length = r.position % r.rows.length
  once : r.repeats = false → r.position = min n r.rows.length

namespace Rows

theorem read_keeps (r : Rows) : r.read.2.rows = r.rows ∧ r.read.2.repeats = r.repeats := by
  unfold read
  split
  · exact ⟨rfl, rfl⟩
  · split <;> exact ⟨rfl, rfl⟩

/-- A read before the end moves on by one row. -/
private theorem At.read_within {n : ℕ} {r : Rows} (h : r.At n) {row : Dict Json}
    (hrow : r.rows[r.position]? = some row) :
    r.nth n = .ofDict row ∧ At (n + 1) { r with position := r.position + 1 } := by
  obtain ⟨hlt, -⟩ := List.getElem?_eq_some_iff.1 hrow
  cases hr : r.repeats with
  | true =>
    have hmod := h.cycle hr (List.ne_nil_of_length_pos (Nat.zero_lt_of_lt hlt))
    refine ⟨?_, hlt, fun _ _ => ?_, nofun⟩
    · rw [nth, hr, if_pos rfl, hmod, Nat.mod_eq_of_lt hlt, hrow]
    · show (n + 1) % r.rows.length = (r.position + 1) % r.rows.length
      rw [Nat.add_mod, hmod, ← Nat.add_mod]
  | false =>
    have hn : r.position = n := by
      have := h.once hr
      omega
    refine ⟨?_, hlt, nofun, fun _ => ?_⟩
    · rw [nth, hr, if_neg Bool.false_ne_true, ← hn, hrow]
    · show r.position + 1 = min (n + 1) r.rows.length
      omega

/-- A read behind the end starts over, if the rows repeat. -/
private theorem At.read_around {n : ℕ} {r : Rows} (h : r.At n) (hend : r.position = r.rows.length)
    (hr : r.repeats = true) {row : Dict Json} {rest : List (Dict Json)}
    (hrows : r.rows = row :: rest) :
    r.nth n = .ofDict row ∧ At (n + 1) { r with position := 1 } := by
  have hmod := h.cycle hr (by rw [hrows]; exact List.cons_ne_nil _ _)
  rw [hend, Nat.mod_self] at hmod
  refine ⟨?_, ?_, fun _ _ => ?_, fun honce => ?_⟩
  · rw [nth, hr, if_pos rfl, hmod, hrows]
    rfl
  · show 1 ≤ r.rows.length
    rw [hrows]
    exact Nat.succ_pos _
  · show (n + 1) % r.rows.length = 1 % r.rows.length
    rw [Nat.add_mod, hmod, Nat.zero_add, Nat.mod_mod]
  · exact absurd (hr.symm.trans honce) nofun

/-- A read behind the end gives nothing and stays there, if there is no row to start over. -/
private theorem At.read_behind {n : ℕ} {r : Rows} (h : r.At n) (hend : r.position = r.rows.length)
    (hover : r.repeats = true → r.rows = []) : r.nth n = .null ∧ r.At (n + 1) := by
  cases hr : r.repeats with
  | true =>
    have hrows := hover hr
    refine ⟨?_, h.within, fun _ hne => absurd hrows hne, fun honce => ?_⟩
    · rw [nth, hrows]
      rfl
    · exact absurd (hr.symm.trans honce) nofun
  | false =>
    have hn : r.rows.length ≤ n := by
      have := h.once hr
      omega
    refine ⟨?_, h.within, fun hcycle => ?_, fun _ => by omega⟩
    · rw [nth, hr, if_neg Bool.false_ne_true, List.getElem?_eq_none hn]
    · exact absurd (hr.symm.trans hcycle) nofun

/-- A read is the read that is due, and moves on to the next one. -/
theorem At.read {n : ℕ} {r : Rows} (h : r.At n) : r.read.1 = r.nth n ∧ r.read.2.At (n + 1) := by
  unfold Rows.read
  cases hrow : r.rows[r.position]? with
  | some row =>
    obtain ⟨hnth, hnext⟩ := h.read_within hrow
    exact ⟨hnth.symm, hnext⟩
  | none =>
    have hend : r.position = r.rows.length :=
      Nat.le_antisymm h.within (List.getElem?_eq_none_iff.1 hrow)
    simp only
    split
    · next row rest hr hrows =>
      obtain ⟨hnth, hnext⟩ := h.read_around hend hr hrows
      exact ⟨hnth.symm, hnext⟩
    · next hover =>
      have hover : r.repeats = true → r.rows = [] := by
        intro hr
        cases hrows : r.rows with
        | nil => rfl
        | cons row rest => exact absurd hrows (hover row rest hr)
      obtain ⟨hnth, hnext⟩ := h.read_behind hend hover
      exact ⟨hnth.symm, hnext⟩

end Rows

namespace Source

/-- What `n` reads leave of a source. -/
inductive At (n : ℕ) : Source → Source → Prop where
  | literal (v : Json) : At n (.literal v) (.literal v)
  | counter {c c' : Counter} (hstep : c'.step = c.step)
    (hnext : c'.next.toInt = c.next.toInt + n * c.step.toInt) : At n (.counter c) (.counter c')
  | rows {r r' : Rows} (hrows : r'.rows = r.rows) (hrepeats : r'.repeats = r.repeats)
    (h : r'.At n) : At n (.rows r) (.rows r')
  | random (r : IntRange) : At n (.random r) (.random r)
  | clock (c : Clock) : At n (.clock c) (.clock c)
  | onConsumer : At n .onConsumer .onConsumer

/-- A read gives the value that is due, and leaves the source one read on. -/
theorem At.read {n : ℕ} {source current next : Source} {m : Moment} {v : Json}
    (h : source.At n current) (hread : current.read m = .ok (v, next)) :
    source.At (n + 1) next ∧ (current.isOnConsumer = false → source.nth? m n = some v) := by
  cases reads_of_read hread with
  | literal =>
    cases h
    exact ⟨.literal v, fun _ => rfl⟩
  | counter hcount =>
    cases h with
    | @counter c c' hstep hnext =>
      obtain ⟨rfl, hstep', -, hnext'⟩ := Counter.read_eq_ok hcount
      refine ⟨.counter (hstep'.trans hstep) ?_, fun _ => ?_⟩
      · rw [hnext', hnext, hstep]
        push_cast
        ring
      · rw [nth?, ← hnext, int64?_toInt]
        rfl
  | rows r' =>
    cases h with
    | @rows r _ hrows hrepeats h =>
      obtain ⟨hvalue, hnext⟩ := h.read
      obtain ⟨hrows', hrepeats'⟩ := r'.read_keeps
      refine ⟨.rows (hrows'.trans hrows) (hrepeats'.trans hrepeats) hnext, fun _ => ?_⟩
      rw [nth?, hvalue, Rows.nth, Rows.nth, hrows, hrepeats]
  | random =>
    cases h
    exact ⟨.random _, fun _ => rfl⟩
  | clock htold =>
    cases h
    refine ⟨.clock _, fun _ => ?_⟩
    rw [nth?, htold]
    rfl
  | onConsumer =>
    cases h
    exact ⟨.onConsumer, nofun⟩

/-- The worker fills in from the start what it fills in later. -/
theorem At.eq_onConsumer {n : ℕ} {source current : Source} (h : source.At n current)
    (hw : current.isOnConsumer = true) : source = .onConsumer := by
  cases h with
  | onConsumer => rfl
  | _ => cases hw

end Source

/-- A source that was just made stands at the start. -/
theorem SourceConfig.Makes.at_zero {config : SourceConfig} {saved : Option Json}
    {source : Source} (h : config.Makes saved source) : source.At 0 source := by
  cases h with
  | literal v => exact .literal v
  | counter | fresh | resumed => exact .counter rfl (by simp)
  | rows rows repeats =>
    exact .rows rfl rfl ⟨Nat.zero_le _, fun _ _ => rfl, fun _ => (Nat.zero_min _).symm⟩
  | random r => exact .random r
  | clock c _ => exact .clock c
  | onConsumer => exact .onConsumer

/-! ## Serving every key once -/

/-- What a key is given from sources as they stand: nothing if the worker fills it in, or the
value that its source is read for or an attribute of it. -/
inductive Given (sources : Dict Source) (outside : String → Moment) (key : String) :
    Option Json → Prop where
  | filledIn {base : String} {attr : Option String} {source : Source}
    (hr : resolve sources key = some (base, attr)) (hs : sources.get? base = some source)
    (hw : source.isOnConsumer = true) : Given sources outside key none
  | value {base : String} {attr : Option String} {source next : Source} {value v : Json}
    (hr : resolve sources key = some (base, attr)) (hs : sources.get? base = some source)
    (hw : source.isOnConsumer = false) (hread : source.read (outside base) = .ok (value, next))
    (hv : Serving.projected key value attr = .ok v) : Given sources outside key (some v)

namespace Serving

variable {sources : Dict Source} {outside : String → Moment} {s : Serving}

/-- Some keys have been served, and nothing but them. -/
structure Complete (sources : Dict Source) (outside : String → Moment) (done : List String)
    (s : Serving) : Prop where
  given : ∀ key ∈ done, Given sources outside key (s.payload.variables.get? key)
  nothing : ∀ key, key ∉ done → s.payload.variables.get? key = none
  /-- Each source that they refer to has been read, unless the worker fills it in. -/
  read : ∀ key ∈ done, ∀ base attr source, resolve sources key = some (base, attr) →
    sources.get? base = some source → source.isOnConsumer = false →
    ∃ v, s.values.get? base = some v

theorem complete_start (sources : Dict Source) (outside : String → Moment) :
    Complete sources outside [] ⟨sources, ∅, {}⟩ :=
  ⟨nofun, fun _ _ => rfl, nofun⟩

/-- Serving one more key without a fault. -/
theorem Complete.step {done : List String} (hc : Complete sources outside done s)
    (h : Faithful sources outside s) (aliases : Dict String) (key : String)
    (hok : (step outside aliases key s).2 = none) :
    Complete sources outside (done ++ [key]) (step outside aliases key s).1 := by
  have hsteps := h.steps aliases key
  generalize Serving.step outside aliases key s = r at hok hsteps
  cases hsteps with
  | undeclared | unknownAttribute | unreadable | unprojectable => cases hok
  | filledIn hr hs hw =>
    refine ⟨?_, fun k hk => hc.nothing k fun hd => hk (List.mem_append_left _ hd), ?_⟩
    · intro k hk
      by_cases hd : k ∈ done
      · exact hc.given k hd
      · obtain rfl := List.mem_singleton.1 ((List.mem_append.1 hk).resolve_left hd)
        rw [hc.nothing k hd]
        exact .filledIn hr hs hw
    · intro k hk b a x hb hx hfill
      rcases List.mem_append.1 hk with hd | hk
      · exact hc.read k hd b a x hb hx hfill
      · obtain rfl := List.mem_singleton.1 hk
        cases hr.symm.trans hb
        rw [← Option.some.inj (hs.symm.trans hx), hw] at hfill
        cases hfill
  | served hr hs hw _ hread _ hrecalls hp =>
    refine ⟨?_, ?_, ?_⟩
    · intro k hk
      simp only [serve, Dict.get?_insert, hrecalls.payload]
      split
      · next hkey => exact hkey ▸ .value hr hs hw hread hp
      · next hkey =>
        refine hc.given k ((List.mem_append.1 hk).resolve_right fun hk => ?_)
        exact hkey (List.mem_singleton.1 hk).symm
    · intro k hk
      simp only [serve, Dict.get?_insert, hrecalls.payload]
      rw [if_neg fun hkey => hk (by simp [hkey])]
      exact hc.nothing k fun hd => hk (List.mem_append_left _ hd)
    · intro k hk b a x hb hx hfill
      rcases List.mem_append.1 hk with hd | hk
      · obtain ⟨w, hw⟩ := hc.read k hd b a x hb hx hfill
        exact ⟨w, hrecalls.kept b w hw⟩
      · obtain rfl := List.mem_singleton.1 hk
        cases hr.symm.trans hb
        exact ⟨_, hrecalls.value⟩

theorem Complete.run {done : List String} (hc : Complete sources outside done s)
    (h : Faithful sources outside s) (aliases : Dict String) (keys : List String)
    (hok : (run outside aliases keys s).2 = none) :
    Complete sources outside (done ++ keys) (run outside aliases keys s).1 := by
  induction keys generalizing done s with
  | nil => simpa [Serving.run] using hc
  | cons key keys ih =>
    have hstep := hc.step h aliases key
    have hfaithful := (h.step aliases key).1
    unfold Serving.run at hok ⊢
    generalize Serving.step outside aliases key s = r at hok hstep hfaithful ⊢
    obtain ⟨s', f⟩ := r
    cases f with
    | none => simpa using ih (hstep rfl) hfaithful hok
    | some f => cases hok

end Serving

namespace Table

/-- What a table that can be served gives to each key. -/
theorem given_of_materialize {t : Table} {outside : String → Moment} {aliases : Dict String}
    {payload : Payload} (h : (t.materialize outside aliases).1 = .ok payload) :
    (∀ key ∈ t.keys, Given t.sources outside key (payload.variables.get? key)) ∧
      (∀ key, key ∉ t.keys → payload.variables.get? key = none) ∧
      ∀ key ∈ t.keys, ∀ base attr source, Testdata.resolve t.sources key = some (base, attr) →
        t.sources.get? base = some source → source.isOnConsumer = false →
        ∃ v next, source.read (outside base) = .ok (v, next) ∧
          (t.materialize outside aliases).2.sources.get? base = some next := by
  have hstart := Serving.faithful_start t.sources outside
  have hfaithful := (hstart.run aliases t.keys).1
  have hcomplete := (Serving.complete_start t.sources outside).run hstart aliases t.keys
  unfold materialize at h ⊢
  generalize Serving.run outside aliases t.keys ⟨t.sources, ∅, {}⟩ = r at h hfaithful hcomplete ⊢
  obtain ⟨s, f⟩ := r
  cases f with
  | some f => cases h
  | none =>
    cases h
    have hdone := hcomplete rfl
    refine ⟨hdone.given, hdone.nothing, ?_⟩
    intro key hkey base attr source hr hs hw
    obtain ⟨v, hv⟩ := hdone.read key hkey base attr source hr hs hw
    rcases hfaithful base with ⟨hunread, -⟩ | ⟨source', v', next, hs', hread, -, hnext⟩
    · rw [hv] at hunread
      cases hunread
    · obtain rfl := Option.some.inj (hs.symm.trans hs')
      exact ⟨v', next, hread, hnext⟩

/-! ## Serving a table again and again -/

/-- What the `n`-th serving of a table gives to a key, counted from zero. -/
def nth? (t : Table) (outside : String → Moment) (n : ℕ) (key : String) : Option Json :=
  if key ∈ t.keys then do
    let (base, attr) ← resolve t.sources key
    let source ← t.sources.get? base
    let value ← source.nth? (outside base) n
    part? attr value
  else none

/-- What `n` servings leave of a table: the sources of its keys have all been read `n` times. -/
structure At (n : ℕ) (start current : Table) : Prop where
  keys : current.keys = start.keys
  resolve : ∀ key, Testdata.resolve current.sources key = Testdata.resolve start.sources key
  sources : ∀ key ∈ start.keys, ∀ base attr,
    Testdata.resolve start.sources key = some (base, attr) →
    ∃ source current', start.sources.get? base = some source ∧
      current.sources.get? base = some current' ∧ source.At n current'

/-- A table with sources at their start stands at its start. -/
theorem AllSources.at_zero {t : Table} (h : t.AllSources fun source => source.At 0 source) :
    t.At 0 t := by
  refine ⟨rfl, fun _ => rfl, fun key _ base attr hr => ?_⟩
  obtain ⟨source, hs⟩ := get?_of_resolve hr
  exact ⟨source, source, hs, hs, h base source hs⟩

variable {n : ℕ} {start current : Table} {outside : String → Moment} {aliases : Dict String}
  {payload : Payload}

/-- One more serving leaves the sources of all keys one read on. -/
theorem At.materialize (h : start.At n current)
    (hm : (current.materialize outside aliases).1 = .ok payload) :
    start.At (n + 1) (current.materialize outside aliases).2 := by
  obtain ⟨hkeys, hadvanced⟩ := current.materialize_advances outside aliases
  refine ⟨hkeys.trans h.keys, fun key => (hadvanced.resolve key).trans (h.resolve key), ?_⟩
  intro key hkey base attr hr
  obtain ⟨source, now, hs, hnow, hat⟩ := h.sources key hkey base attr hr
  cases hw : now.isOnConsumer with
  | true =>
    obtain ⟨next, hnext, -, hfilled⟩ := hadvanced.get?_eq_some hnow
    rw [hw] at hfilled
    obtain rfl := hat.eq_onConsumer hw
    refine ⟨_, next, hs, hnext, ?_⟩
    cases next with
    | onConsumer => exact .onConsumer
    | _ => cases hfilled
  | false =>
    obtain ⟨-, -, hread⟩ := given_of_materialize hm
    obtain ⟨v, next, hread, hnext⟩ := hread key (h.keys ▸ hkey) base attr now
      ((h.resolve key).trans hr) hnow hw
    exact ⟨source, next, hs, hnext, (hat.read hread).1⟩

/-- The `n`-th serving gives every key the `n`-th value of its source. -/
theorem At.served (h : start.At n current)
    (hm : (current.materialize outside aliases).1 = .ok payload) (key : String) :
    payload.variables.get? key = start.nth? outside n key ∧
      (key ∈ start.keys → payload.variables.get? key = none →
        ∃ base attr, Testdata.resolve start.sources key = some (base, attr) ∧
          start.sources.get? base = some .onConsumer) := by
  obtain ⟨hgiven, hnothing, -⟩ := given_of_materialize hm
  rw [h.keys] at hgiven hnothing
  rw [nth?]
  by_cases hkey : key ∈ start.keys
  · have hvalue := hgiven key hkey
    generalize payload.variables.get? key = o at hvalue ⊢
    cases hvalue with
    | @filledIn base attr now hr hnow hw =>
      rw [h.resolve key] at hr
      obtain ⟨source, now', hs, hnow', hat⟩ := h.sources key hkey base attr hr
      obtain rfl := Option.some.inj (hnow.symm.trans hnow')
      obtain rfl := hat.eq_onConsumer hw
      refine ⟨?_, fun _ _ => ⟨base, attr, hr, hs⟩⟩
      simp [hkey, hr, hs, Source.nth?]
    | @value base attr now next value v hr hnow hw hread hv =>
      rw [h.resolve key] at hr
      obtain ⟨source, now', hs, hnow', hat⟩ := h.sources key hkey base attr hr
      obtain rfl := Option.some.inj (hnow.symm.trans hnow')
      refine ⟨?_, nofun⟩
      simp [hkey, hr, hs, (hat.read hread).2 hw, part?_of_projected hv]
  · exact ⟨by rw [if_neg hkey, hnothing key hkey], fun hmem => absurd hmem hkey⟩

end Table

end LoadTest.Testdata
