import LoadTest.Proofs.Testdata.Crashes
import LoadTest.Proofs.Testdata.Sequences
import LoadTest.Proofs.Text.Delimiters
/-!
# What a table serves

What a serving does is said without the serving: to which source a key belongs, what keeps a
key from having a value, which sources have been read in the end, and what the payload maps
every key and every alias to. All of it speaks of the sources as they stood at the start, so
the order of the keys decides only which of two faults comes first, and which of two keys
with one alias comes last.
-/

namespace LoadTest.Testdata

/-! ## The source of a key -/

theorem splitLastDot_eq_some {key base attr : String} :
    splitLastDot key = some (base, attr) ↔ key = base ++ "." ++ attr ∧ '.' ∉ attr.toList := by
  have hchars : key = base ++ "." ++ attr ↔
      key.toList.reverse = attr.toList.reverse ++ '.' :: base.toList.reverse := by
    rw [← String.toList_inj, ← List.reverse_inj]
    simp [String.toList_append]
  rw [hchars]
  constructor
  · intro h
    rcases Text.span_cases '.' key.toList.reverse with
      ⟨-, hspan⟩ | ⟨behind, before, hlast, hkey, hspan⟩
    · rw [splitLastDot, hspan] at h
      cases h
    · rw [splitLastDot, hspan] at h
      cases h
      rw [String.toList_ofList, String.toList_ofList, List.reverse_reverse, List.reverse_reverse,
        List.mem_reverse]
      exact ⟨hkey, hlast⟩
  · rintro ⟨hkey, hattr⟩
    rw [splitLastDot, hkey, Text.span_append fun hdot => hattr (List.mem_reverse.1 hdot)]
    simp

/-- The source that a key belongs to: the one of exactly its name, or else the one named by
what stands before its last dot, of which the key is an attribute. -/
inductive BelongsTo (sources : Dict Source) (key : String) :
    String → Option String → Source → Prop where
  | whole {source : Source} (hs : sources.get? key = some source) :
    BelongsTo sources key key none source
  | part {base attr : String} {source : Source} (hnone : sources.get? key = none)
    (hkey : key = base ++ "." ++ attr) (hlast : '.' ∉ attr.toList)
    (hs : sources.get? base = some source) : BelongsTo sources key base (some attr) source

section Meaning

variable {sources : Dict Source} {outside : String → Moment} {key base : String}
  {attr : Option String} {source : Source}

/-- A key is resolved to the source that it belongs to. -/
theorem belongsTo_iff : BelongsTo sources key base attr source ↔
    resolve sources key = some (base, attr) ∧ sources.get? base = some source := by
  unfold resolve Dict.contains
  constructor
  · intro h
    cases h with
    | whole hs => simp [hs]
    | part hnone hkey hlast hs =>
      simp [hnone, splitLastDot_eq_some.2 ⟨hkey, hlast⟩, hs]
  · rintro ⟨hr, hs⟩
    split at hr
    · cases hr
      exact .whole hs
    · next hnone =>
      have hnone : sources.get? key = none := by simpa using hnone
      split at hr
      · next b a hsplit =>
        obtain ⟨hkey, hlast⟩ := splitLastDot_eq_some.1 hsplit
        split at hr
        · cases hr
          exact .part hnone hkey hlast hs
        · cases hr
      · cases hr

/-- A key belongs to one source. -/
theorem BelongsTo.unique (h : BelongsTo sources key base attr source) {base' : String}
    {attr' : Option String} {source' : Source} (h' : BelongsTo sources key base' attr' source') :
    base' = base ∧ attr' = attr ∧ source' = source := by
  obtain ⟨hr, hs⟩ := belongsTo_iff.1 h
  obtain ⟨hr', hs'⟩ := belongsTo_iff.1 h'
  cases hr.symm.trans hr'
  exact ⟨rfl, rfl, (Option.some.inj (hs.symm.trans hs')).symm⟩

/-- A key is resolved unless it belongs to no source. -/
theorem resolve_eq_none : resolve sources key = none ↔
    ∀ base attr source, ¬ BelongsTo sources key base attr source := by
  constructor
  · intro hr base attr source h
    rw [(belongsTo_iff.1 h).1] at hr
    cases hr
  · intro h
    cases hr : resolve sources key with
    | none => rfl
    | some target =>
      obtain ⟨source, hs⟩ := get?_of_resolve hr
      exact absurd (belongsTo_iff.2 ⟨hr, hs⟩) (h _ _ _)

/-! ## The value of a key -/

theorem isOnConsumer_iff : source.isOnConsumer = true ↔ source = .onConsumer := by
  cases source <;> simp [Source.isOnConsumer]

theorem isOnConsumer_eq_false : source.isOnConsumer = false ↔ source ≠ .onConsumer := by
  rw [Ne, ← isOnConsumer_iff, Bool.not_eq_true]

theorem lacks_iff : Serving.lacks source attr = true ↔
    ∃ a, attr = some a ∧ source.attributes ≠ [] ∧ a ∉ source.attributes := by
  cases attr with
  | none => simp [Serving.lacks]
  | some a => simp [Serving.lacks]

/-- A value is projected to the part of it that is asked for. -/
theorem projected_eq_ok {value v : Json} :
    Serving.projected key value attr = .ok v ↔ part? attr value = some v := by
  refine ⟨part?_of_projected, fun h => ?_⟩
  unfold part? at h
  split at h
  · cases h
    rfl
  · cases h
    rfl
  · next members => simp [Serving.projected, project, h]
  · cases h

theorem part?_eq_none {value : Json} :
    part? attr value = none ↔ ∃ a e, attr = some a ∧ project key value a = .error e := by
  cases attr with
  | none => simp [part?]
  | some a =>
    have hsome : ∀ v, Serving.projected key value (some a) = .ok v ↔
        part? (some a) value = some v := fun _ => projected_eq_ok
    simp only [Serving.projected] at hsome
    rw [Option.eq_none_iff_forall_ne_some]
    cases hp : project key value a with
    | ok w =>
      have hw := (hsome w).1 (by rw [hp])
      refine ⟨fun h => absurd hw (h w), ?_⟩
      rintro ⟨_, e, ⟨⟩, he⟩
      rw [hp] at he
      cases he
    | error e =>
      refine ⟨fun _ => ⟨a, e, rfl, hp⟩, fun _ v hv => ?_⟩
      have he := (hsome v).2 hv
      rw [hp] at he
      cases he

end Meaning

/-- The worker fills a key in. -/
def FilledIn (sources : Dict Source) (key : String) : Prop :=
  ∃ base attr, BelongsTo sources key base attr .onConsumer

/-- A key has a value: its source, which the worker does not fill in, is read for a value of
which this is the part that the key asks for. -/
def HasValue (sources : Dict Source) (outside : String → Moment) (key : String) (v : Json) :
    Prop :=
  ∃ base attr source value next, BelongsTo sources key base attr source ∧
    source ≠ .onConsumer ∧ source.read (outside base) = .ok (value, next) ∧
    part? attr value = some v

/-- The value that a key is served with, if it has one. -/
def value? (sources : Dict Source) (outside : String → Moment) (key : String) : Option Json :=
  match meaning sources outside key with
  | .ok o => o
  | .error _ => none

/-- What keeps a key from being served. -/
inductive Unservable (sources : Dict Source) (outside : String → Moment) (key : String) :
    Prop where
  | undeclared (h : ∀ base attr source, ¬ BelongsTo sources key base attr source)
  | unknownAttribute {base attr : String} {source : Source}
    (h : BelongsTo sources key base (some attr) source) (hw : source ≠ .onConsumer)
    (hknown : source.attributes ≠ []) (hattr : attr ∉ source.attributes)
  | unreadable {base : String} {attr : Option String} {source : Source} {f : Failure}
    (h : BelongsTo sources key base attr source) (hw : source ≠ .onConsumer)
    (he : source.read (outside base) = .error f)
  | unprojectable {base : String} {attr : Option String} {source next : Source} {value : Json}
    (h : BelongsTo sources key base attr source) (hw : source ≠ .onConsumer)
    (hread : source.read (outside base) = .ok (value, next)) (hpart : part? attr value = none)

section Meaning

variable {sources : Dict Source} {outside : String → Moment} {key : String}

/-- A key can be served exactly if it has a meaning. -/
theorem unservable_iff : Unservable sources outside key ↔ fault? sources outside key ≠ none := by
  rw [Option.ne_none_iff_exists']
  simp only [fault?_eq_some]
  constructor
  · intro h
    -- an attribute that is known to be lacking is noticed before the source is read
    have hlacking : ∀ {base attr source}, BelongsTo sources key base attr source →
        source ≠ .onConsumer → Serving.lacks source attr = true →
        ∃ f, Fault sources outside key f := by
      intro base attr source h hw hl
      obtain ⟨hr, hs⟩ := belongsTo_iff.1 h
      obtain ⟨a, rfl, -, -⟩ := lacks_iff.1 hl
      exact ⟨_, .unknownAttribute hr hs (isOnConsumer_eq_false.2 hw) hl⟩
    cases h with
    | undeclared h => exact ⟨_, .undeclared (resolve_eq_none.2 h)⟩
    | unknownAttribute h hw hknown hattr =>
      exact hlacking h hw (lacks_iff.2 ⟨_, rfl, hknown, hattr⟩)
    | @unreadable base attr source f h hw he =>
      cases hl : Serving.lacks source attr with
      | true => exact hlacking h hw hl
      | false =>
        obtain ⟨hr, hs⟩ := belongsTo_iff.1 h
        exact ⟨_, .unreadable hr hs (isOnConsumer_eq_false.2 hw) hl he⟩
    | @unprojectable base attr source next value h hw hread hpart =>
      cases hl : Serving.lacks source attr with
      | true => exact hlacking h hw hl
      | false =>
        obtain ⟨hr, hs⟩ := belongsTo_iff.1 h
        obtain ⟨a, e, rfl, he⟩ : ∃ a e, attr = some a ∧ project key value a = .error e :=
          part?_eq_none.1 hpart
        exact ⟨_, .unprojectable hr hs (isOnConsumer_eq_false.2 hw) hl hread he⟩
  · rintro ⟨f, h⟩
    cases h with
    | undeclared hr => exact .undeclared (resolve_eq_none.1 hr)
    | unknownAttribute hr hs hw hl =>
      obtain ⟨a, ha, hknown, hattr⟩ := lacks_iff.1 hl
      cases ha
      exact .unknownAttribute (belongsTo_iff.2 ⟨hr, hs⟩) (isOnConsumer_eq_false.1 hw) hknown hattr
    | unreadable hr hs hw _ he =>
      exact .unreadable (belongsTo_iff.2 ⟨hr, hs⟩) (isOnConsumer_eq_false.1 hw) he
    | unprojectable hr hs hw _ hread he =>
      exact .unprojectable (belongsTo_iff.2 ⟨hr, hs⟩) (isOnConsumer_eq_false.1 hw) hread
        (part?_eq_none.2 ⟨_, _, rfl, he⟩)

/-- The meaning of a key that can be served. -/
theorem meaning_of_servable (h : ¬ Unservable sources outside key) :
    (∃ v, HasValue sources outside key v ∧ meaning sources outside key = .ok (some v)) ∨
      FilledIn sources key ∧ meaning sources outside key = .ok none := by
  have hfault : fault? sources outside key = none := not_not.1 (unservable_iff.not.1 h)
  unfold fault? at hfault
  cases hm : meaning sources outside key with
  | error f => simp [hm] at hfault
  | ok o =>
    unfold meaning at hm
    split at hm
    · cases hm
    · next base attr hr =>
      split at hm
      · cases hm
      · next source hs =>
        split at hm
        · next hw =>
          cases hm
          exact .inr ⟨⟨base, attr, isOnConsumer_iff.1 hw ▸ belongsTo_iff.2 ⟨hr, hs⟩⟩, rfl⟩
        · next hw =>
          split at hm
          · cases hm
          · split at hm
            · cases hm
            · next value next hread =>
              cases hp : Serving.projected key value attr with
              | error e => simp [hp, Except.map] at hm
              | ok v =>
                simp only [hp, Except.map, Except.ok.injEq] at hm
                subst hm
                exact .inl ⟨v, ⟨base, attr, source, value, next, belongsTo_iff.2 ⟨hr, hs⟩,
                  mt isOnConsumer_iff.2 hw, hread, projected_eq_ok.1 hp⟩, rfl⟩

/-- A key has one value, and only if the worker does not fill it in. -/
theorem HasValue.unique {v : Json} (h : HasValue sources outside key v) :
    ¬ FilledIn sources key ∧ ∀ w, HasValue sources outside key w → w = v := by
  obtain ⟨base, attr, source, value, next, hb, hw, hread, hpart⟩ := h
  constructor
  · rintro ⟨b, a, hb'⟩
    exact hw (hb.unique hb').2.2.symm
  · rintro w ⟨b, a, s, x, n, hb', -, hread', hpart'⟩
    obtain ⟨rfl, rfl, rfl⟩ := hb.unique hb'
    cases hread.symm.trans hread'
    exact Option.some.inj (hpart'.symm.trans hpart)

/-- A key that can be served is served with its value, unless the worker fills it in. -/
theorem value?_of_servable (h : ¬ Unservable sources outside key) :
    (∀ v, value? sources outside key = some v ↔ HasValue sources outside key v) ∧
      (value? sources outside key = none ↔ FilledIn sources key) := by
  unfold value?
  rcases meaning_of_servable h with ⟨w, hw, hm⟩ | ⟨hfilled, hm⟩
  · obtain ⟨hfilled, hunique⟩ := hw.unique
    rw [hm]
    refine ⟨fun v => ⟨?_, fun hv => congrArg some (hunique v hv).symm⟩, ?_⟩
    · rintro ⟨⟩
      exact hw
    · exact ⟨nofun, fun h => absurd h hfilled⟩
  · rw [hm]
    exact ⟨fun v => ⟨nofun, fun hv => absurd hfilled hv.unique.1⟩, fun _ => hfilled, fun _ => rfl⟩

end Meaning

/-! ## The sources that are read -/

/-- Serving a key reads a source: the key belongs to it, it is not known to lack the
attribute, and it can be read. -/
def Draws (sources : Dict Source) (outside : String → Moment) (key base : String) : Prop :=
  ∃ attr source value next, BelongsTo sources key base attr source ∧ source ≠ .onConsumer ∧
    Serving.lacks source attr = false ∧ source.read (outside base) = .ok (value, next)

/-- A key that has a value is served from a source that is read. -/
theorem Draws.of_servable {sources : Dict Source} {outside : String → Moment}
    {key base : String} {attr : Option String} {source : Source}
    (h : ¬ Unservable sources outside key) (hb : BelongsTo sources key base attr source)
    (hw : source ≠ .onConsumer) : Draws sources outside key base := by
  cases hl : Serving.lacks source attr with
  | true =>
    obtain ⟨a, rfl, hknown, hattr⟩ := lacks_iff.1 hl
    exact absurd (.unknownAttribute hb hw hknown hattr) h
  | false =>
    cases hread : source.read (outside base) with
    | error f => exact absurd (.unreadable hb hw hread) h
    | ok r => exact ⟨attr, source, r.1, r.2, hb, hw, hl, hread⟩

namespace Serving

variable {sources : Dict Source} {outside : String → Moment} {s : Serving}

/-- What serving a key puts into the payload, and which source it has read. -/
theorem Faithful.step_spec (h : Faithful sources outside s) (aliases : Dict String)
    (key : String) :
    (Serving.step outside aliases key s).1.payload =
        (value? sources outside key).elim s.payload
          (fun v => (serve aliases key v s).payload) ∧
      ∀ base, (∃ v, (Serving.step outside aliases key s).1.values.get? base = some v) ↔
        (∃ v, s.values.get? base = some v) ∨ Draws sources outside key base := by
  -- a key that stops before its source is read draws on nothing
  have hnone : (∀ base, ¬ Draws sources outside key base) → ∀ base,
      (∃ v, s.values.get? base = some v) ↔
        (∃ v, s.values.get? base = some v) ∨ Draws sources outside key base :=
    fun hdraws base => ⟨.inl, fun h => h.resolve_right (hdraws base)⟩
  have hread : ∀ {base value s'}, Recalls base value s s' → Draws sources outside key base →
      ∀ b, (∃ v, s'.values.get? b = some v) ↔
        (∃ v, s.values.get? b = some v) ∨ Draws sources outside key b := by
    intro base value s' hrecalls hdraws b
    by_cases hb : base = b
    · subst hb
      exact ⟨fun _ => .inr hdraws, fun _ => ⟨_, hrecalls.value⟩⟩
    · rw [hrecalls.others b hb]
      refine ⟨.inl, fun h => h.resolve_right ?_⟩
      rintro ⟨a, x, -, -, hb', -⟩
      obtain ⟨_, _, _, _, hbase, -⟩ := hdraws
      exact hb (hbase.unique hb').1.symm
  have hsteps := h.steps aliases key
  generalize Serving.step outside aliases key s = r at hsteps
  unfold value? meaning
  cases hsteps with
  | undeclared hr =>
    refine ⟨by simp only [hr, Option.elim_none], hnone ?_⟩
    rintro base ⟨attr, source, -, -, hb, -⟩
    exact resolve_eq_none.1 hr _ _ _ hb
  | filledIn hr hs hw =>
    refine ⟨by simp only [hr, hs, hw, if_true, Option.elim_none], hnone ?_⟩
    rintro b ⟨a, x, -, -, hb, hx, -⟩
    obtain ⟨-, -, rfl⟩ := (belongsTo_iff.2 ⟨hr, hs⟩).unique hb
    exact hx (isOnConsumer_iff.1 hw)
  | unknownAttribute hr hs hw hl =>
    refine ⟨by simp only [hr, hs, hw, hl, Bool.false_eq_true, if_false, if_true,
      Option.elim_none], hnone ?_⟩
    rintro b ⟨a, x, -, -, hb, -, hx, -⟩
    obtain ⟨rfl, rfl, rfl⟩ := (belongsTo_iff.2 ⟨hr, hs⟩).unique hb
    rw [hl] at hx
    cases hx
  | unreadable hr hs hw hl he =>
    refine ⟨by simp only [hr, hs, hw, hl, he, Bool.false_eq_true, if_false,
      Option.elim_none], hnone ?_⟩
    rintro b ⟨a, x, _, _, hb, -, -, hx⟩
    obtain ⟨rfl, rfl, rfl⟩ := (belongsTo_iff.2 ⟨hr, hs⟩).unique hb
    rw [he] at hx
    cases hx
  | unprojectable hr hs hw hl hread' _ hrecalls hp =>
    refine ⟨?_, hread hrecalls ⟨_, _, _, _, belongsTo_iff.2 ⟨hr, hs⟩,
      isOnConsumer_eq_false.1 hw, hl, hread'⟩⟩
    simp only [hr, hs, hw, hl, hread', hp, Except.map, hrecalls.payload, Bool.false_eq_true,
      if_false, Option.elim_none]
  | served hr hs hw hl hread' _ hrecalls hp =>
    have hvalues := hread hrecalls ⟨_, _, _, _, belongsTo_iff.2 ⟨hr, hs⟩,
      isOnConsumer_eq_false.1 hw, hl, hread'⟩
    refine ⟨?_, hvalues⟩
    simp only [hr, hs, hw, hl, hread', hp, Except.map, serve, hrecalls.payload,
      Bool.false_eq_true, if_false, Option.elim_some]

/-- Serving keys reads the sources that keys up to the first one without a meaning draw on. -/
theorem Faithful.run_draws (h : Faithful sources outside s) (aliases : Dict String)
    (keys : List String) (base : String) :
    (∃ v, (Serving.run outside aliases keys s).1.values.get? base = some v) ↔
      (∃ v, s.values.get? base = some v) ∨
        ∃ before key after, keys = before ++ key :: after ∧
          (∀ k ∈ before, fault? sources outside k = none) ∧ Draws sources outside key base := by
  induction keys generalizing s with
  | nil => simp [Serving.run]
  | cons key keys ih =>
    obtain ⟨hfaithful, hfault⟩ := h.step aliases key
    have hvalues := (h.step_spec aliases key).2 base
    unfold Serving.run
    generalize Serving.step outside aliases key s = r at hfaithful hfault hvalues ⊢
    obtain ⟨s', f⟩ := r
    cases f with
    | some f =>
      refine hvalues.trans (or_congr_right ⟨?_, ?_⟩)
      · exact fun hd => ⟨[], key, keys, rfl, List.forall_mem_nil _, hd⟩
      rintro ⟨before, k, after, hkeys, hbefore, hd⟩
      cases before with
      | nil =>
        cases hkeys
        exact hd
      | cons b before =>
        cases hkeys
        rw [hbefore key List.mem_cons_self] at hfault
        cases hfault
    | none =>
      refine (ih hfaithful).trans ?_
      rw [hvalues, or_assoc]
      refine or_congr_right ⟨?_, ?_⟩
      · rintro (hd | ⟨before, k, after, rfl, hbefore, hd⟩)
        · exact ⟨[], key, keys, rfl, List.forall_mem_nil _, hd⟩
        · exact ⟨key :: before, k, after, rfl,
            List.forall_mem_cons.2 ⟨hfault.symm, hbefore⟩, hd⟩
      · rintro ⟨before, k, after, hkeys, hbefore, hd⟩
        cases before with
        | nil =>
          cases hkeys
          exact .inl hd
        | cons b before =>
          cases hkeys
          exact .inr ⟨before, k, after, rfl, (List.forall_mem_cons.1 hbefore).2, hd⟩

end Serving

namespace Table

/-- Serving a table reads a source: it comes as far as a key that draws on it. -/
def Draws (t : Table) (outside : String → Moment) (base : String) : Prop :=
  ∃ key, t.Reaches outside key ∧ Testdata.Draws t.sources outside key base

/-- Serving a table is serving its keys. -/
theorem materialize_run (t : Table) (outside : String → Moment) (aliases : Dict String) :
    t.materialize outside aliases =
      let r := Serving.run outside aliases t.keys ⟨t.sources, ∅, {}⟩
      (r.2.elim (.ok r.1.payload) .error, { t with sources := r.1.sources }) := by
  unfold materialize
  split
  · next heq =>
    rw [heq]
    rfl
  · next heq =>
    rw [heq]
    rfl

/-- Whatever becomes of serving a table, the sources that keys up to the first fault draw on
have been read once, and the others are as they were. -/
theorem materialize_reads (t : Table) (outside : String → Moment) (aliases : Dict String)
    (base : String) :
    (t.Draws outside base → ∃ source value next, t.sources.get? base = some source ∧
        source.read (outside base) = .ok (value, next) ∧
        (t.materialize outside aliases).2.sources.get? base = some next) ∧
      (¬ t.Draws outside base →
        (t.materialize outside aliases).2.sources.get? base = t.sources.get? base) := by
  have hstart := Serving.faithful_start t.sources outside
  have hfaithful := (hstart.run aliases t.keys).1 base
  have hdraws := hstart.run_draws aliases t.keys base
  have hstarted : ¬ ∃ v, (∅ : Dict Json).get? base = some v := nofun
  have hread : (∃ v, (Serving.run outside aliases t.keys ⟨t.sources, ∅, {}⟩).1.values.get? base =
      some v) ↔ t.Draws outside base := by
    refine hdraws.trans ⟨fun h => ?_, fun h => ?_⟩
    · obtain ⟨before, key, after, hkeys, hbefore, hd⟩ := h.resolve_left hstarted
      exact ⟨key, ⟨before, after, hkeys, hbefore⟩, hd⟩
    · obtain ⟨key, ⟨before, after, hkeys, hbefore⟩, hd⟩ := h
      exact .inr ⟨before, key, after, hkeys, hbefore, hd⟩
  rw [← hread, materialize_run]
  rcases hfaithful with ⟨hunread, hsame⟩ | ⟨source, v, next, hs, hv, hvalue, hnext⟩
  · refine ⟨?_, fun _ => hsame⟩
    rintro ⟨v, hv⟩
    rw [hunread] at hv
    cases hv
  · exact ⟨fun _ => ⟨source, v, next, hs, hv, hnext⟩, fun h => absurd ⟨v, hvalue⟩ h⟩

end Table

/-! ## The payload -/

namespace Serving

variable {sources : Dict Source} {outside : String → Moment} {aliases : Dict String}
  {s : Serving}

/-- The payload of some keys: their values, and for each alias the value of the last of them
that has the alias and a value. -/
structure Pays (sources : Dict Source) (outside : String → Moment) (aliases : Dict String)
    (done : List String) (payload : Payload) : Prop where
  variables_eq : ∀ key, payload.variables.get? key =
    if key ∈ done then value? sources outside key else none
  aliases_eq : ∀ a, payload.aliases.get? a = done.reverse.findSome? fun key =>
    if aliases.get? key = some a then value? sources outside key else none

/-- One more key is paid for. -/
theorem Pays.step {done : List String} (hp : Pays sources outside aliases done s.payload)
    (h : Faithful sources outside s) (key : String) :
    Pays sources outside aliases (done ++ [key])
      (Serving.step outside aliases key s).1.payload := by
  rw [(h.step_spec aliases key).1]
  refine ⟨fun k => ?_, fun a => ?_⟩
  · cases hv : value? sources outside key with
    | none =>
      simp only [Option.elim_none, hp.variables_eq, List.mem_append, List.mem_singleton]
      by_cases hk : k = key
      · subst hk
        simp [hv]
      · simp [hk]
    | some v =>
      simp only [Option.elim_some, serve, Dict.get?_insert, hp.variables_eq, List.mem_append,
        List.mem_singleton]
      by_cases hk : key = k
      · subst hk
        simp [hv]
      · simp [hk, Ne.symm hk]
  · rw [List.reverse_append, List.reverse_singleton, List.singleton_append, List.findSome?_cons]
    cases hv : value? sources outside key with
    | none => simp [hp.aliases_eq]
    | some v =>
      cases ha : aliases.get? key with
      | none => simp [serve, ha, hp.aliases_eq]
      | some b =>
        by_cases hb : b = a
        · subst hb
          simp [serve, ha]
        · simp [serve, ha, Dict.get?_insert_of_ne, hb, hp.aliases_eq]

theorem Pays.run {done : List String} (hp : Pays sources outside aliases done s.payload)
    (h : Faithful sources outside s) (keys : List String)
    (hok : (Serving.run outside aliases keys s).2 = none) :
    Pays sources outside aliases (done ++ keys)
      (Serving.run outside aliases keys s).1.payload := by
  induction keys generalizing done s with
  | nil => simpa [Serving.run] using hp
  | cons key keys ih =>
    have hstep := hp.step h key
    have hfaithful := (h.step aliases key).1
    unfold Serving.run at hok ⊢
    generalize Serving.step outside aliases key s = r at hok hstep hfaithful ⊢
    obtain ⟨s', f⟩ := r
    cases f with
    | none => simpa using ih hstep hfaithful hok
    | some f => cases hok

end Serving

namespace Table

/-- What is served of a table, and what is left of it. -/
structure ServedAs (t : Table) (outside : String → Moment) (aliases : Dict String)
    (payload : Payload) (after : Table) : Prop where
  keys : after.keys = t.keys
  /-- A source that a served key belongs to is read once, unless the worker fills it in. -/
  read : ∀ key ∈ t.keys, ∀ base attr source, BelongsTo t.sources key base attr source →
    source ≠ .onConsumer → ∃ value next, source.read (outside base) = .ok (value, next) ∧
      after.sources.get? base = some next
  /-- Every other source is left alone. -/
  untouched : ∀ base, (∀ key ∈ t.keys, ∀ attr source,
      BelongsTo t.sources key base attr source → source = .onConsumer) →
    after.sources.get? base = t.sources.get? base
  /-- The served keys have their values, except those that the worker fills in. -/
  «variables» : ∀ key v, payload.variables.get? key = some v ↔
    key ∈ t.keys ∧ HasValue t.sources outside key v
  filledIn : ∀ key ∈ t.keys, payload.variables.get? key = none ↔ FilledIn t.sources key
  /-- An alias has the value of the last key that is served under it. -/
  aliases : ∀ a, payload.aliases.get? a = t.keys.reverse.findSome? fun key =>
    if aliases.get? key = some a then payload.variables.get? key else none

/-- A table that can be served is served as it should be. -/
theorem servedAs_of_materialize {t : Table} {outside : String → Moment} {aliases : Dict String}
    {payload : Payload} (h : (t.materialize outside aliases).1 = .ok payload) :
    t.ServedAs outside aliases payload (t.materialize outside aliases).2 := by
  have hservable : ∀ key ∈ t.keys, ¬ Unservable t.sources outside key := by
    intro key hkey hun
    exact unservable_iff.1 hun (materialize_ok_iff.1 ⟨payload, h⟩ key hkey)
  have hreaches : ∀ key ∈ t.keys, t.Reaches outside key := by
    intro key hkey
    obtain ⟨before, after, hkeys⟩ := List.append_of_mem hkey
    refine ⟨before, after, hkeys, fun k hk => not_not.1 ?_⟩
    exact unservable_iff.not.1 (hservable k (by simp [hkeys, hk]))
  have hpays : Serving.Pays t.sources outside aliases t.keys payload := by
    have hempty : Serving.Pays t.sources outside aliases []
        (⟨t.sources, ∅, {}⟩ : Serving).payload := ⟨fun _ => rfl, fun _ => rfl⟩
    have hrun := hempty.run (Serving.faithful_start t.sources outside) t.keys
    rw [materialize_run] at h
    generalize Serving.run outside aliases t.keys ⟨t.sources, ∅, {}⟩ = r at h hrun
    obtain ⟨s, f⟩ := r
    cases f with
    | some f => cases h
    | none =>
      cases h
      exact hrun rfl
  have hvariables : ∀ key ∈ t.keys,
      payload.variables.get? key = value? t.sources outside key := by
    intro key hkey
    rw [hpays.variables_eq, if_pos hkey]
  constructor
  case keys => exact (t.materialize_advances outside aliases).1
  case read =>
    intro key hkey base attr source hb hw
    have hdraws := Draws.of_servable (hservable key hkey) hb hw
    obtain ⟨source', value, next, hs, hread, hnext⟩ :=
      (t.materialize_reads outside aliases base).1 ⟨key, hreaches key hkey, hdraws⟩
    obtain rfl := Option.some.inj ((belongsTo_iff.1 hb).2.symm.trans hs)
    exact ⟨value, next, hread, hnext⟩
  case untouched =>
    intro base hnone
    refine (t.materialize_reads outside aliases base).2 ?_
    rintro ⟨key, ⟨before, after, hkeys, -⟩, attr, source, -, -, hb, hw, -⟩
    exact hw (hnone key (by simp [hkeys]) attr source hb)
  case «variables» =>
    intro key v
    by_cases hkey : key ∈ t.keys
    · rw [hvariables key hkey, (value?_of_servable (hservable key hkey)).1 v]
      exact ⟨fun hv => ⟨hkey, hv⟩, fun hv => hv.2⟩
    · rw [hpays.variables_eq, if_neg hkey]
      exact ⟨nofun, fun hv => absurd hv.1 hkey⟩
  case filledIn =>
    intro key hkey
    rw [hvariables key hkey]
    exact (value?_of_servable (hservable key hkey)).2
  case aliases =>
    intro a
    rw [hpays.aliases_eq, ← List.head?_filterMap, ← List.head?_filterMap]
    refine congrArg List.head? (List.filterMap_congr fun key hkey => ?_)
    rw [hvariables key (List.mem_reverse.1 hkey)]

/-- Serving a table is what it should be, for every table: it crashes exactly if it comes as
far as a time that cannot be told; else it fails exactly if one of its keys cannot be served,
wherever that key stands, and serves what it should exactly if all of them can. -/
theorem materialize_as_meant (t : Table) (outside : String → Moment) (aliases : Dict String) :
    ((∃ e, (t.materialize outside aliases).1 = .error (.error e)) ↔
        (∃ key ∈ t.keys, Unservable t.sources outside key) ∧ ¬ t.MissesTime outside) ∧
      ((∃ c, (t.materialize outside aliases).1 = .error (.crash c)) ↔ t.MissesTime outside) ∧
      ((∃ payload, (t.materialize outside aliases).1 = .ok payload) ↔
        ∀ key ∈ t.keys, ¬ Unservable t.sources outside key) ∧
      ∀ payload, (t.materialize outside aliases).1 = .ok payload →
        t.ServedAs outside aliases payload (t.materialize outside aliases).2 := by
  have hok : (∃ payload, (t.materialize outside aliases).1 = .ok payload) ↔
      ∀ key ∈ t.keys, ¬ Unservable t.sources outside key := by
    simp only [materialize_ok_iff, unservable_iff, not_not]
  have hcrash : (∃ c, (t.materialize outside aliases).1 = .error (.crash c)) ↔
      t.MissesTime outside := materialize_crash_iff
  refine ⟨?_, hcrash, hok, fun _ => servedAs_of_materialize⟩
  have hsome : (∃ key ∈ t.keys, Unservable t.sources outside key) ↔
      ¬ ∃ payload, (t.materialize outside aliases).1 = .ok payload := by
    rw [hok]
    push Not
    rfl
  rw [hsome, ← hcrash]
  rcases (t.materialize outside aliases).1 with (e | c) | payload <;> simp

/-- A format with an unknown specifier crashes a serving, although another key belongs to no
source. -/
theorem crash_hides_fault :
    (materialize ⟨Dict.ofList [("t", .clock ⟨some "%Q", 0⟩)], ["t", "ghost.value"]⟩
        (fun _ => ⟨⟨0, 0⟩, 0⟩) ∅).1 = .error (.crash .badTimeFormat) ∧
      ∀ base attr source,
        ¬ BelongsTo (Dict.ofList [("t", .clock ⟨some "%Q", 0⟩)]) "ghost.value" base attr
          source :=
  ⟨rfl, resolve_eq_none.1 rfl⟩

end Table

end LoadTest.Testdata
