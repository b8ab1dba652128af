import LoadTest.Testdata.Table
import Mathlib
/-!
# Tables served key by key

Serving a table reads its sources as it goes along and remembers what it has read. It comes
to the same as giving every key its meaning by itself, from the sources as they stood at the
start: the first key without a meaning is the one at which serving fails. The invariant says
that a source is either unread and untouched, or was read exactly once.
-/

namespace LoadTest.Testdata

/-! ## Reading a source -/

namespace Source

/-- What is read from a source of each kind, and the source that is left. -/
inductive Reads (m : Moment) : Source → Json → Source → Prop where
  | literal (v : Json) : Reads m (.literal v) v (.literal v)
  | counter {c next : Counter} {v : Json} (h : c.read = .ok (v, next)) :
    Reads m (.counter c) v (.counter next)
  | rows (r : Rows) : Reads m (.rows r) r.read.1 (.rows r.read.2)
  | random (r : IntRange) :
    Reads m (.random r) (.ofInt64 (Int64.ofInt (r.pick m.drawn))) (.random r)
  | clock {c : Clock} {v : Json} (h : c.read m = .ok v) : Reads m (.clock c) v (.clock c)
  | onConsumer : Reads m .onConsumer .null .onConsumer

variable {source next : Source} {m : Moment} {v : Json}

theorem reads_of_read (h : source.read m = .ok (v, next)) : source.Reads m v next := by
  cases source with
  | literal w =>
    cases h
    exact .literal _
  | counter c =>
    simp only [read] at h
    split at h
    · next hc =>
      cases h
      exact .counter hc
    · cases h
  | rows r =>
    cases h
    exact .rows r
  | random r =>
    cases h
    exact .random r
  | clock c =>
    simp only [read] at h
    split at h
    · next hc =>
      cases h
      exact .clock hc
    · cases h
  | onConsumer =>
    cases h
    exact .onConsumer

/-- Reading a source changes neither its attributes nor who fills it in. -/
theorem read_keeps (h : source.read m = .ok (v, next)) :
    next.attributes = source.attributes ∧ next.isOnConsumer = source.isOnConsumer := by
  cases reads_of_read h with
  | literal | counter | random | clock | onConsumer => exact ⟨rfl, rfl⟩
  | rows r =>
    have hrows : r.read.2.rows = r.rows := by
      unfold Rows.read
      split
      · rfl
      · split <;> rfl
    exact ⟨by simp only [attributes, Rows.columns, hrows], rfl⟩

end Source

/-! ## The meaning of a key -/

/-- What a key is served as from sources as they stand: nothing if the worker fills it in,
or the value of its source or of an attribute of it. -/
def meaning (sources : Dict Source) (outside : String → Moment) (key : String) :
    Except Failure (Option Json) :=
  match resolve sources key with
  | none => .error (.error (.materialize key "no variable source declared"))
  | some (base, attr) =>
    match sources.get? base with
    | none => .error (.error (.materialize base "no variable source declared"))
    | some source =>
      if source.isOnConsumer then .ok none
      else if Serving.lacks source attr then
        .error (.error (.materialize key
          ("\"" ++ base ++ "\" has no attribute \"" ++ attr.getD "" ++ "\"")))
      else
        match source.read (outside base) with
        | .error e => .error e
        | .ok (value, _) => (Serving.projected key value attr).map some

/-- Why a key has no meaning. -/
def fault? (sources : Dict Source) (outside : String → Moment) (key : String) :
    Option Failure :=
  match meaning sources outside key with
  | .error f => some f
  | .ok _ => none

/-- The causes for which a key has no meaning. -/
inductive Fault (sources : Dict Source) (outside : String → Moment) (key : String) :
    Failure → Prop where
  | undeclared (hr : resolve sources key = none) :
    Fault sources outside key (.error (.materialize key "no variable source declared"))
  | unknownAttribute {base attr : String} {source : Source}
    (hr : resolve sources key = some (base, some attr)) (hs : sources.get? base = some source)
    (hw : source.isOnConsumer = false) (hl : Serving.lacks source (some attr) = true) :
    Fault sources outside key
      (.error (.materialize key ("\"" ++ base ++ "\" has no attribute \"" ++ attr ++ "\"")))
  | unreadable {base : String} {attr : Option String} {source : Source} {f : Failure}
    (hr : resolve sources key = some (base, attr)) (hs : sources.get? base = some source)
    (hw : source.isOnConsumer = false) (hl : Serving.lacks source attr = false)
    (he : source.read (outside base) = .error f) :
    Fault sources outside key f
  | unprojectable {base attr : String} {source next : Source} {v : Json} {e : Error}
    (hr : resolve sources key = some (base, some attr)) (hs : sources.get? base = some source)
    (hw : source.isOnConsumer = false) (hl : Serving.lacks source (some attr) = false)
    (hv : source.read (outside base) = .ok (v, next)) (he : project key v attr = .error e) :
    Fault sources outside key (.error e)

/-- A key is resolved to a source that is declared. -/
theorem get?_of_resolve {sources : Dict Source} {key base : String} {attr : Option String}
    (h : resolve sources key = some (base, attr)) : ∃ source, sources.get? base = some source := by
  unfold resolve at h
  split at h
  · next hkey =>
    cases h
    exact Option.isSome_iff_exists.1 hkey
  · split at h
    · split at h
      · next hbase =>
        cases h
        exact Option.isSome_iff_exists.1 hbase
      · cases h
    · cases h

/-- A key has no meaning for one of these causes. -/
theorem fault?_eq_some {sources : Dict Source} {outside : String → Moment} {key : String}
    {f : Failure} : fault? sources outside key = some f ↔ Fault sources outside key f := by
  constructor
  · intro h
    unfold fault? meaning at h
    cases hr : resolve sources key with
    | none =>
      simp only [hr, Option.some.injEq] at h
      exact h ▸ .undeclared hr
    | some target =>
      obtain ⟨base, attr⟩ := target
      obtain ⟨source, hs⟩ := get?_of_resolve hr
      simp only [hr, hs] at h
      cases hw : source.isOnConsumer with
      | true => simp [hw] at h
      | false =>
        cases hl : Serving.lacks source attr with
        | true =>
          cases attr with
          | none => cases hl
          | some attr =>
            simp only [hw, hl, Bool.false_eq_true, if_false, if_true, Option.some.injEq] at h
            exact h ▸ .unknownAttribute hr hs hw hl
        | false =>
          simp only [hw, hl, Bool.false_eq_true, if_false] at h
          cases hv : source.read (outside base) with
          | error e =>
            simp only [hv, Option.some.injEq] at h
            exact h ▸ .unreadable hr hs hw hl hv
          | ok r =>
            obtain ⟨v, next⟩ := r
            cases attr with
            | none =>
              simp [hv, Serving.projected, Except.map] at h
            | some attr =>
              cases he : project key v attr with
              | ok w => simp [hv, Serving.projected, Except.map, he] at h
              | error e =>
                simp only [hv, Serving.projected, Except.map, he, Option.some.injEq] at h
                exact h ▸ .unprojectable hr hs hw hl hv he
  · intro h
    unfold fault? meaning
    cases h with
    | undeclared hr => simp only [hr]
    | unknownAttribute hr hs hw hl =>
      simp only [hr, hs, hw, hl, Bool.false_eq_true, if_false, if_true, Option.getD_some]
    | unreadable hr hs hw hl he => simp only [hr, hs, hw, hl, he, Bool.false_eq_true, if_false]
    | unprojectable hr hs hw hl hv he =>
      simp only [hr, hs, hw, hl, hv, Serving.projected, he, Except.map, Bool.false_eq_true,
        if_false]

/-- Each source of a table was left alone, or was read once. -/
def Advanced (outside : String → Moment) (before after : Dict Source) : Prop :=
  ∀ base, after.get? base = before.get? base ∨
    ∃ source v next, before.get? base = some source ∧
      source.read (outside base) = .ok (v, next) ∧ after.get? base = some next

namespace Advanced

variable {outside : String → Moment} {before after : Dict Source} {base : String}

/-- A source stays missing. -/
theorem get?_eq_none (h : Advanced outside before after) (hb : before.get? base = none) :
    after.get? base = none := by
  rcases h base with hsame | ⟨source, -, -, hsource, -⟩
  · rw [hsame, hb]
  · rw [hb] at hsource
    cases hsource

/-- A source stays, with its attributes, and is filled in where it was before. -/
theorem get?_eq_some (h : Advanced outside before after) {source : Source}
    (hb : before.get? base = some source) :
    ∃ current, after.get? base = some current ∧ current.attributes = source.attributes ∧
      current.isOnConsumer = source.isOnConsumer := by
  rcases h base with hsame | ⟨source', v, next, hsource', hread, hnext⟩
  · exact ⟨source, hsame.trans hb, rfl, rfl⟩
  · obtain rfl := Option.some.inj (hb.symm.trans hsource')
    exact ⟨next, hnext, Source.read_keeps hread⟩

/-- Reading sources does not change which source a key belongs to. -/
theorem resolve (h : Advanced outside before after) (key : String) :
    Testdata.resolve after key = Testdata.resolve before key := by
  have hcontains : ∀ base, after.contains base = before.contains base := by
    intro base
    rw [Dict.contains, Dict.contains]
    cases hb : before.get? base with
    | none => rw [h.get?_eq_none hb]
    | some source =>
      obtain ⟨current, hcurrent, -⟩ := h.get?_eq_some hb
      rw [hcurrent]
      rfl
  simp only [Testdata.resolve, hcontains]

end Advanced

namespace Serving

/-- A serving that started from some sources remembers exactly what it has read from them. -/
def Faithful (sources : Dict Source) (outside : String → Moment) (s : Serving) : Prop :=
  ∀ base,
    (s.values.get? base = none ∧ s.sources.get? base = sources.get? base) ∨
    ∃ source v next, sources.get? base = some source ∧
      source.read (outside base) = .ok (v, next) ∧
      s.values.get? base = some v ∧ s.sources.get? base = some next

variable {sources : Dict Source} {outside : String → Moment} {s : Serving}

theorem faithful_start (sources : Dict Source) (outside : String → Moment) :
    Faithful sources outside ⟨sources, ∅, {}⟩ :=
  fun _ => .inl ⟨rfl, rfl⟩

theorem Faithful.advanced (h : Faithful sources outside s) :
    Advanced outside sources s.sources := by
  intro base
  rcases h base with ⟨-, hsame⟩ | ⟨source, v, next, hsource, hread, -, hnext⟩
  · exact .inl hsame
  · exact .inr ⟨source, v, next, hsource, hread, hnext⟩

/-- The value of a source is what the source gave at the start, and reading it is
remembered. -/
theorem Faithful.valueOf (h : Faithful sources outside s) {base : String}
    {source current : Source} (hsource : sources.get? base = some source)
    (hcurrent : s.sources.get? base = some current) :
    match source.read (outside base) with
    | .error e => valueOf outside base current s = .error e
    | .ok (v, _) => ∃ s', valueOf outside base current s = .ok (v, s') ∧
        Faithful sources outside s' := by
  rcases h base with ⟨hunread, hsame⟩ | ⟨source', v, next, hsource', hread, hvalue, -⟩
  · obtain rfl := Option.some.inj (hcurrent.symm.trans (hsame.trans hsource))
    cases hread : current.read (outside base) with
    | error e => simp only [Serving.valueOf, hunread, hread]
    | ok r =>
      obtain ⟨v, next⟩ := r
      simp only [Serving.valueOf, hunread, hread]
      refine ⟨_, rfl, fun other => ?_⟩
      by_cases hother : base = other
      · subst hother
        exact .inr ⟨current, v, next, hsource, hread, Dict.get?_insert_self _ _ _,
          Dict.get?_insert_self _ _ _⟩
      · simp only [Dict.get?_insert_of_ne _ _ hother]
        exact h other
  · obtain rfl := Option.some.inj (hsource.symm.trans hsource')
    simp only [hread, Serving.valueOf, hvalue]
    exact ⟨s, rfl, h⟩

/-- The value of a source is remembered by now, and nothing else is read, forgotten or served
meanwhile. -/
structure Recalls (base : String) (value : Json) (s s' : Serving) : Prop where
  payload : s'.payload = s.payload
  value : s'.values.get? base = some value
  kept : ∀ other x, s.values.get? other = some x → s'.values.get? other = some x
  others : ∀ other, base ≠ other → s'.values.get? other = s.values.get? other

theorem recalls_of_valueOf {base : String} {source : Source} {v : Json} {s' : Serving}
    (h : valueOf outside base source s = .ok (v, s')) : Recalls base v s s' := by
  unfold Serving.valueOf at h
  split at h
  · next w hw =>
    cases h
    exact ⟨rfl, hw, fun _ _ hx => hx, fun _ _ => rfl⟩
  · next hunread =>
    split at h
    · cases h
    · cases h
      refine ⟨rfl, Dict.get?_insert_self _ _ _, fun other x hx => ?_,
        fun _ hne => Dict.get?_insert_of_ne _ _ hne⟩
      have hother : base ≠ other := by
        rintro rfl
        rw [hunread] at hx
        cases hx
      rw [Dict.get?_insert_of_ne _ _ hother, hx]

/-- What serving a key does, given the sources at the start. It stops before a source is read,
or the source of the key has been read by now, and it stops there or serves the key. -/
inductive Steps (sources : Dict Source) (outside : String → Moment) (aliases : Dict String)
    (key : String) (s : Serving) : Serving × Option Failure → Prop where
  | undeclared (hr : resolve sources key = none) :
    Steps sources outside aliases key s
      (s, some (.error (.materialize key "no variable source declared")))
  | filledIn {base : String} {attr : Option String} {source : Source}
    (hr : resolve sources key = some (base, attr)) (hs : sources.get? base = some source)
    (hw : source.isOnConsumer = true) : Steps sources outside aliases key s (s, none)
  | unknownAttribute {base : String} {attr : Option String} {source : Source}
    (hr : resolve sources key = some (base, attr)) (hs : sources.get? base = some source)
    (hw : source.isOnConsumer = false) (hl : lacks source attr = true) :
    Steps sources outside aliases key s (s, some (.error (.materialize key
      ("\"" ++ base ++ "\" has no attribute \"" ++ attr.getD "" ++ "\""))))
  | unreadable {base : String} {attr : Option String} {source : Source} {f : Failure}
    (hr : resolve sources key = some (base, attr)) (hs : sources.get? base = some source)
    (hw : source.isOnConsumer = false) (hl : lacks source attr = false)
    (he : source.read (outside base) = .error f) :
    Steps sources outside aliases key s (s, some f)
  | unprojectable {base : String} {attr : Option String} {source next : Source} {value : Json}
    {s' : Serving} {f : Failure} (hr : resolve sources key = some (base, attr))
    (hs : sources.get? base = some source) (hw : source.isOnConsumer = false)
    (hl : lacks source attr = false) (hread : source.read (outside base) = .ok (value, next))
    (hf : Faithful sources outside s') (hrecalls : Recalls base value s s')
    (hp : projected key value attr = .error f) :
    Steps sources outside aliases key s (s', some f)
  | served {base : String} {attr : Option String} {source next : Source} {value v : Json}
    {s' : Serving} (hr : resolve sources key = some (base, attr))
    (hs : sources.get? base = some source) (hw : source.isOnConsumer = false)
    (hl : lacks source attr = false) (hread : source.read (outside base) = .ok (value, next))
    (hf : Faithful sources outside s') (hrecalls : Recalls base value s s')
    (hp : projected key value attr = .ok v) :
    Steps sources outside aliases key s (serve aliases key v s', none)

/-- Reading sources does not change what serving a key does. -/
theorem Faithful.steps (h : Faithful sources outside s) (aliases : Dict String) (key : String) :
    Steps sources outside aliases key s (step outside aliases key s) := by
  unfold Serving.step
  rw [h.advanced.resolve key]
  cases hr : resolve sources key with
  | none => exact .undeclared hr
  | some target =>
    obtain ⟨base, attr⟩ := target
    obtain ⟨source, hs⟩ := get?_of_resolve hr
    obtain ⟨current, hcurrent, hattributes, hfilled⟩ := h.advanced.get?_eq_some hs
    have hlacks : lacks current attr = lacks source attr := by
      simp only [lacks, hattributes]
    simp only [hcurrent, hfilled, hlacks]
    cases hw : source.isOnConsumer with
    | true => exact .filledIn hr hs hw
    | false =>
      cases hl : lacks source attr with
      | true => exact .unknownAttribute hr hs hw hl
      | false =>
        have hvalue := h.valueOf hs hcurrent
        cases hread : source.read (outside base) with
        | error e =>
          rw [hread] at hvalue
          simp only [hvalue, Bool.false_eq_true, if_false]
          exact .unreadable hr hs hw hl hread
        | ok r =>
          rw [hread] at hvalue
          obtain ⟨s', hs', hf⟩ := hvalue
          have hrecalls := recalls_of_valueOf hs'
          simp only [hs', Bool.false_eq_true, if_false]
          cases hp : projected key r.1 attr with
          | error f => exact .unprojectable hr hs hw hl hread hf hrecalls hp
          | ok v => exact .served hr hs hw hl hread hf hrecalls hp

/-- Serving a key fails as the meaning of the key does, and remembers what it reads. -/
theorem Faithful.step (h : Faithful sources outside s) (aliases : Dict String)
    (key : String) :
    Faithful sources outside (step outside aliases key s).1 ∧
      (step outside aliases key s).2 = fault? sources outside key := by
  unfold fault? meaning
  have hsteps := h.steps aliases key
  generalize Serving.step outside aliases key s = r at hsteps
  cases hsteps with
  | undeclared hr => exact ⟨h, by simp only [hr]⟩
  | filledIn hr hs hw => exact ⟨h, by simp only [hr, hs, hw, if_true]⟩
  | unknownAttribute hr hs hw hl =>
    exact ⟨h, by simp only [hr, hs, hw, hl, Bool.false_eq_true, if_false, if_true]⟩
  | unreadable hr hs hw hl he =>
    exact ⟨h, by simp only [hr, hs, hw, hl, he, Bool.false_eq_true, if_false]⟩
  | unprojectable hr hs hw hl hread hf _ hp =>
    exact ⟨hf, by simp only [hr, hs, hw, hl, hread, hp, Except.map, Bool.false_eq_true, if_false]⟩
  | served hr hs hw hl hread hf _ hp =>
    exact ⟨hf, by simp only [hr, hs, hw, hl, hread, hp, Except.map, Bool.false_eq_true, if_false]⟩

/-- Serving keys fails at the first one without a meaning, and remembers what it reads. -/
theorem Faithful.run (h : Faithful sources outside s) (aliases : Dict String)
    (keys : List String) :
    Faithful sources outside (run outside aliases keys s).1 ∧
      (run outside aliases keys s).2 = keys.findSome? (fault? sources outside) := by
  induction keys generalizing s with
  | nil => exact ⟨h, rfl⟩
  | cons key keys ih =>
    obtain ⟨hstep, hfault⟩ := h.step aliases key
    rw [List.findSome?_cons, ← hfault]
    unfold Serving.run
    generalize Serving.step outside aliases key s = r at hstep
    obtain ⟨s', f⟩ := r
    cases f with
    | none => exact ih hstep
    | some f => exact ⟨hstep, rfl⟩

/-! ### What has been served -/

/-- Every value that has been served comes from one that was read. -/
def Honest (sources : Dict Source) (s : Serving) : Prop :=
  ∀ key v, s.payload.variables.get? key = some v →
    ∃ base attr value, resolve sources key = some (base, attr) ∧
      s.values.get? base = some value ∧ projected key value attr = .ok v

theorem honest_start (sources : Dict Source) : Honest sources ⟨sources, ∅, {}⟩ := by
  intro key v hv
  cases hv

theorem Honest.step (hs : Honest sources s) (h : Faithful sources outside s)
    (aliases : Dict String) (key : String) :
    Honest sources (step outside aliases key s).1 := by
  have hrecall : ∀ {base value s'}, Recalls base value s s' → Honest sources s' := by
    intro base value s' hrecalls k v hk
    rw [hrecalls.payload] at hk
    obtain ⟨b, a, x, hr, hx, hp⟩ := hs k v hk
    exact ⟨b, a, x, hr, hrecalls.kept b x hx, hp⟩
  have hsteps := h.steps aliases key
  generalize Serving.step outside aliases key s = r at hsteps
  cases hsteps with
  | undeclared | filledIn | unknownAttribute | unreadable => exact hs
  | unprojectable _ _ _ _ _ _ hrecalls _ => exact hrecall hrecalls
  | served hr _ _ _ _ _ hrecalls hp =>
    intro k w hk
    simp only [serve, Dict.get?_insert] at hk
    split at hk
    · next hkey =>
      cases hk
      exact ⟨_, _, _, hkey ▸ hr, hrecalls.value, hkey ▸ hp⟩
    · exact hrecall hrecalls k w hk

theorem Honest.run (hs : Honest sources s) (h : Faithful sources outside s)
    (aliases : Dict String) (keys : List String) :
    Honest sources (Serving.run outside aliases keys s).1 := by
  induction keys generalizing s with
  | nil => exact hs
  | cons key keys ih =>
    have hstep := hs.step h aliases key
    have hfaithful := (h.step aliases key).1
    unfold Serving.run
    generalize Serving.step outside aliases key s = r at hstep hfaithful
    obtain ⟨s', f⟩ := r
    cases f with
    | none => exact ih hstep hfaithful
    | some f => exact hstep

end Serving

/-! ## Serving a table -/

namespace Table

/-- Serving comes as far as a key if all keys before it have a meaning. -/
def Reaches (t : Table) (outside : String → Moment) (key : String) : Prop :=
  ∃ before after, t.keys = before ++ key :: after ∧
    ∀ k ∈ before, fault? t.sources outside k = none

/-- A table is left with the same keys, and each source was read at most once. -/
theorem materialize_advances (t : Table) (outside : String → Moment) (aliases : Dict String) :
    (t.materialize outside aliases).2.keys = t.keys ∧
      Advanced outside t.sources (t.materialize outside aliases).2.sources := by
  have hrun := (Serving.faithful_start t.sources outside).run aliases t.keys
  unfold materialize
  generalize Serving.run outside aliases t.keys ⟨t.sources, ∅, {}⟩ = r at hrun
  obtain ⟨s, f⟩ := r
  cases f <;> exact ⟨rfl, hrun.1.advanced⟩

/-- Serving a table fails at the first key without a meaning. -/
theorem materialize_eq_error_iff {t : Table} {outside : String → Moment} {aliases : Dict String}
    {f : Failure} :
    (t.materialize outside aliases).1 = .error f ↔
      ∃ key, t.Reaches outside key ∧ fault? t.sources outside key = some f := by
  have hrun := ((Serving.faithful_start t.sources outside).run aliases t.keys).2
  have hmaterialize : (t.materialize outside aliases).1 = .error f ↔
      t.keys.findSome? (fault? t.sources outside) = some f := by
    unfold materialize
    rw [← hrun]
    generalize Serving.run outside aliases t.keys ⟨t.sources, ∅, {}⟩ = r
    obtain ⟨s, g⟩ := r
    cases g <;> simp
  rw [hmaterialize, List.findSome?_eq_some_iff]
  constructor
  · rintro ⟨before, key, after, hkeys, hkey, hbefore⟩
    exact ⟨key, ⟨before, after, hkeys, hbefore⟩, hkey⟩
  · rintro ⟨key, ⟨before, after, hkeys, hbefore⟩, hkey⟩
    exact ⟨before, key, after, hkeys, hkey, hbefore⟩

/-- A table can be served exactly if each of its keys has a meaning. -/
theorem materialize_ok_iff {t : Table} {outside : String → Moment} {aliases : Dict String} :
    (∃ payload, (t.materialize outside aliases).1 = .ok payload) ↔
      ∀ key ∈ t.keys, fault? t.sources outside key = none := by
  rw [← List.findSome?_eq_none_iff,
    ← ((Serving.faithful_start t.sources outside).run aliases t.keys).2]
  unfold materialize
  generalize Serving.run outside aliases t.keys ⟨t.sources, ∅, {}⟩ = r
  obtain ⟨s, f⟩ := r
  cases f <;> simp

/-- What a table serves under a key was read from its source, which is left behind that
read. -/
theorem served_of_materialize {t : Table} {outside : String → Moment} {aliases : Dict String}
    {payload : Payload} (h : (t.materialize outside aliases).1 = .ok payload) {key : String}
    {v : Json} (hv : payload.variables.get? key = some v) :
    ∃ base attr source value next, Testdata.resolve t.sources key = some (base, attr) ∧
      t.sources.get? base = some source ∧ source.read (outside base) = .ok (value, next) ∧
      (t.materialize outside aliases).2.sources.get? base = some next ∧
      Serving.projected key value attr = .ok v := by
  have hstart := Serving.faithful_start t.sources outside
  have hfaithful := (hstart.run aliases t.keys).1
  have hhonest := (Serving.honest_start t.sources).run hstart aliases t.keys
  unfold materialize at h ⊢
  generalize Serving.run outside aliases t.keys ⟨t.sources, ∅, {}⟩ = r at h hfaithful hhonest ⊢
  obtain ⟨s, f⟩ := r
  cases f with
  | some f => cases h
  | none =>
    cases h
    obtain ⟨base, attr, value, hresolve, hvalue, hprojected⟩ := hhonest key v hv
    rcases hfaithful base with ⟨hunread, -⟩ | ⟨source, x, next, hsource, hread, hx, hnext⟩
    · rw [hvalue] at hunread
      cases hunread
    · obtain rfl := Option.some.inj (hvalue.symm.trans hx)
      exact ⟨base, attr, source, value, next, hresolve, hsource, hread, hnext, hprojected⟩

end Table

end LoadTest.Testdata
