import LoadTest.Proofs.Testdata.Sequences
/-!
# Scenarios served in lockstep

As long as nothing fails, the n-th iteration that a scenario is given since its producer was
built has the n-th value of each variable, whatever is asked for other scenarios meanwhile and
however often the counters start over. A request that is told to stop changes nothing.
-/

namespace LoadTest.Testdata

namespace Table

/-- A key that is served after some others is listed behind them, unless it is one of them. -/
theorem keys_expose {t : Table} {keys : List String} (h : t.keys = keys.eraseDups)
    (key : String) : (t.expose key).keys = (keys ++ [key]).eraseDups := by
  rw [List.eraseDups_append, expose, h]
  by_cases hkey : key ∈ keys <;> simp [List.removeAll, List.eraseDups_cons, hkey, h]

/-- So are several keys. -/
theorem keys_exposeAll {t : Table} {keys more : List String} (h : t.keys = keys.eraseDups) :
    (more.foldl expose t).keys = (keys ++ more).eraseDups := by
  induction more generalizing t keys with
  | nil => rw [List.foldl_nil, List.append_nil, h]
  | cons key more ih =>
    rw [List.foldl_cons, ih (keys_expose h key), List.append_assoc, List.singleton_append]

end Table

/-! ## The iterations of a scenario -/

namespace ScenarioConfig

/-- The keys that a scenario serves: its variables that are not hidden, and what it exposes. -/
def served (s : ScenarioConfig) : List String :=
  (s.variables.filter (!·.hidden)).map (·.key) ++ s.expose

/-- The variable that a key refers to, and the attribute that it asks for. A variable of
exactly that key comes before a split at the last dot. -/
def refer? (s : ScenarioConfig) (key : String) : Option (VariableConfig × Option String) :=
  match s.declared? key with
  | some v => some (v, none)
  | none => do
    let (base, attr) ← splitLastDot key
    let v ← s.declared? base
    return (v, some attr)

/-- What the `n`-th iteration of a scenario, counted from zero, has under a key: the `n`-th
value of the variable that the key refers to, or an attribute of it. -/
def nth? (s : ScenarioConfig) (saved : Option (Dict Json)) (outside : String → Moment) (n : ℕ)
    (key : String) : Option Json :=
  if key ∈ s.served then do
    let (v, attr) ← s.refer? key
    let source ← (v.source.build (saved.bind (·.get? v.key))).toOption
    let value ← source.nth? (outside v.key) n
    part? attr value
  else none

theorem key_of_declared? {s : ScenarioConfig} {name : String} {v : VariableConfig}
    (h : s.declared? name = some v) : v.key = name := by
  simpa using List.find?_some h

/-- The variable of a key is declared under its own name. -/
theorem declared?_of_refer? {s : ScenarioConfig} {key : String} {v : VariableConfig}
    {attr : Option String} (h : s.refer? key = some (v, attr)) : s.declared? v.key = some v := by
  unfold refer? at h
  split at h
  · next hv =>
    cases h
    rw [key_of_declared? hv, hv]
  · simp only [Option.bind_eq_bind, Option.bind_eq_some_iff] at h
    obtain ⟨⟨base, attr⟩, -, w, hw, hv⟩ := h
    cases hv
    rw [key_of_declared? hw, hw]

/-! ### The table of a scenario -/

variable {s : ScenarioConfig} {saved : Option (Dict Json)} {t : Table}

/-- Declaring variables serves those that are not hidden, behind the keys served before. -/
theorem keys_declareAll {vs : List VariableConfig} {t t' : Table} {keys : List String}
    (h : declareAll saved vs t = .ok t') (ht : t.keys = keys.eraseDups) :
    t'.keys = (keys ++ (vs.filter (!·.hidden)).map (·.key)).eraseDups := by
  induction vs generalizing t keys with
  | nil =>
    cases h
    rw [List.filter_nil, List.map_nil, List.append_nil, ht]
  | cons v vs ih =>
    obtain ⟨source, -, h⟩ := declareAll_cons_eq_ok_iff.1 h
    cases hv : v.hidden with
    | true =>
      rw [List.filter_cons_of_neg (by simp [hv])]
      refine ih h ?_
      rw [if_pos hv]
      exact ht
    | false =>
      rw [List.filter_cons_of_pos (by simp [hv]), List.map_cons, ← List.singleton_append,
        ← List.append_assoc]
      refine ih h ?_
      rw [if_neg (by simp [hv])]
      exact Table.keys_expose (t := t.declareHidden v.key source) ht v.key

/-- A table lists the keys that its scenario serves, each where it comes first. -/
theorem keys_buildTable (h : s.buildTable saved = .ok t) : t.keys = s.served.eraseDups := by
  obtain ⟨declared, hdeclared, rfl⟩ := buildTable_eq_ok_iff.1 h
  have hnone : ({} : Table).keys = ([] : List String).eraseDups := rfl
  exact Table.keys_exposeAll (keys_declareAll hdeclared hnone)

theorem mem_buildTable (h : s.buildTable saved = .ok t) {key : String} :
    key ∈ t.keys ↔ key ∈ s.served := by
  rw [keys_buildTable h, List.mem_eraseDups]

/-- A table has the sources of the declared variables. -/
theorem contains_buildTable (h : s.buildTable saved = .ok t) (name : String) :
    t.sources.contains name = (s.declared? name).isSome := by
  have hname := get?_buildTable h name
  rw [Dict.contains]
  cases hv : s.declared? name with
  | none =>
    rw [hv] at hname
    rw [hname]
    rfl
  | some v =>
    rw [hv] at hname
    obtain ⟨source, -, hsource⟩ := hname
    rw [hsource]
    rfl

/-- A key of a table is resolved to the variable that it refers to. -/
theorem resolve_buildTable (h : s.buildTable saved = .ok t) (key : String) :
    resolve t.sources key = (s.refer? key).map fun (v, attr) => (v.key, attr) := by
  unfold resolve refer?
  simp only [contains_buildTable h]
  cases hv : s.declared? key with
  | some v => simp [key_of_declared? hv]
  | none =>
    cases hsplit : splitLastDot key with
    | none => simp
    | some target =>
      obtain ⟨base, attr⟩ := target
      cases hw : s.declared? base with
      | none => simp [hw]
      | some w => simp [hw, key_of_declared? hw]

/-- A table has the source of the variable that a key refers to. -/
theorem source_of_refer? (h : s.buildTable saved = .ok t) {key : String} {v : VariableConfig}
    {attr : Option String} (hv : s.refer? key = some (v, attr)) :
    ∃ source, v.source.build (saved.bind (·.get? v.key)) = .ok source ∧
      t.sources.get? v.key = some source := by
  have hname := get?_buildTable h v.key
  rw [declared?_of_refer? hv] at hname
  exact hname

/-- What a table gives at its `n`-th serving is the `n`-th iteration of its scenario. -/
theorem nth?_buildTable (h : s.buildTable saved = .ok t) (outside : String → Moment) (n : ℕ)
    (key : String) : t.nth? outside n key = s.nth? saved outside n key := by
  unfold Table.nth? nth?
  rw [resolve_buildTable h]
  simp only [mem_buildTable h]
  cases hv : s.refer? key with
  | none => rfl
  | some target =>
    obtain ⟨v, attr⟩ := target
    obtain ⟨source, hsource, hget⟩ := source_of_refer? h hv
    simp [hget, hsource, Except.toOption]

/-- What the `n`-th iteration has under a key is the `n`-th value of the source that the variable
stands for, or an attribute of it. -/
theorem nth?_eq_of_makes {key : String} {v : VariableConfig} {attr : Option String}
    {source : Source} (hkey : key ∈ s.served) (hv : s.refer? key = some (v, attr))
    (hsource : v.source.Makes (saved.bind (·.get? v.key)) source) (outside : String → Moment)
    (n : ℕ) : s.nth? saved outside n key = (source.nth? (outside v.key) n).bind (part? attr) := by
  rw [nth?, if_pos hkey, hv]
  simp [SourceConfig.build_of_makes hsource, Except.toOption]

end ScenarioConfig

/-! ## The table of a built producer -/

namespace Definition

variable {snapshot : Snapshot}

/-- A built producer has the table of each scenario that has one. -/
theorem table_of_build {d : Definition} {p : Producer} (h : d.build snapshot = .ok p)
    {s : ScenarioConfig} (hs : s ∈ d.scenarios) :
    (s.hasTable = false ∧ p.tables.get? s.identifier = none) ∨
      s.hasTable = true ∧ ∃ t, s.buildTable (snapshot.get? s.identifier) = .ok t ∧
        p.tables.get? s.identifier = some t := by
  obtain ⟨hvalid, tables, htables, rfl⟩ := build_eq_ok_iff.1 h
  have honly : ∀ s' ∈ d.scenarios, s'.identifier = s.identifier → s' = s := fun s' hs' hid =>
    List.inj_on_of_nodup_map (validate_eq_ok_iff.1 hvalid).2 hs' hs hid
  have htable := get?_buildTables htables s.identifier
  cases hfind : d.scenarios.reverse.find? fun s' =>
      s'.identifier = s.identifier ∧ s'.hasTable with
  | none =>
    rw [hfind] at htable
    have hnone := List.find?_eq_none.1 hfind s (List.mem_reverse.2 hs)
    exact .inl ⟨by simpa using hnone, htable⟩
  | some s' =>
    rw [hfind] at htable
    have hid : s'.identifier = s.identifier ∧ s'.hasTable = true := by
      simpa using List.find?_some hfind
    obtain rfl := honly s' (List.mem_reverse.1 (List.mem_of_find?_eq_some hfind)) hid.1
    exact .inr ⟨hid.2, htable⟩

end Definition

/-! ## Requests -/

/-- As long as its table can be served, a scenario is told to stop and nothing changes, or it
is given its next iteration and its table is left served once more. -/
theorem Producer.Handles.serves_or_stops {p p' : Producer} {outside : String → Moment}
    {identifier : String} {reply : Except Crash Served}
    (h : p.Handles outside identifier reply p') (hp : p.Filed)
    (hok : ∀ s f, p.due? identifier = some s → (p.materialize outside s).1 ≠ .error f) :
    ((∃ log, reply = .ok ⟨.stop, log⟩) ∧ p' = p) ∨
      ∃ payload, reply = .ok ⟨.consume payload, []⟩ ∧
        ((p.tables.get? identifier = none ∧ p'.tables.get? identifier = none ∧ payload = {}) ∨
          ∃ t aliases, p.tables.get? identifier = some t ∧
            (t.materialize outside aliases).1 = .ok payload ∧
            p'.tables.get? identifier = some (t.materialize outside aliases).2) := by
  cases h with
  | unknown | boundless | exhausted => exact .inl ⟨⟨_, rfl⟩, rfl⟩
  | @failed s e _ hs hm => exact absurd (congrArg Prod.fst hm) (hok s (.error e) hs)
  | @crashed s c _ hs hm => exact absurd (congrArg Prod.fst hm) (hok s (.crash c) hs)
  | @served s payload _ hs hm =>
    have hname := hp identifier s (due?_eq_some.1 hs).1
    refine .inr ⟨payload, rfl, ?_⟩
    rcases materialize_cases hm with ⟨hnone, hempty, hsame⟩ | ⟨t, ht, hresult, hnext⟩
    · rw [hname] at hnone
      cases hempty
      exact .inl ⟨hnone, (congrArg (·.get? identifier) hsame).trans hnone, rfl⟩
    · rw [hname] at ht hnext
      exact .inr ⟨t, s.aliases, ht, hresult.symm,
        (congrArg (·.get? identifier) hnext).trans (Dict.get?_insert_self _ _ _)⟩

namespace Chronicle

/-- All exchanges since the producer was built. -/
def exchanges (c : Chronicle) : List Exchange := c.rounds.flatten

theorem exchanges_next (c : Chronicle) (outside : String → Moment) (identifier : String) :
    (c.step (.next outside identifier)).exchanges =
      c.exchanges ++ [⟨c.producer, outside, identifier⟩] := by
  simp [exchanges, rounds, step]

theorem exchanges_reset (c : Chronicle) : (c.step .reset).exchanges = c.exchanges := by
  simp [exchanges, rounds, step]

end Chronicle

/-- The exchanges that gave an iteration to a scenario. -/
def consumed (identifier : String) (xs : List Exchange) : List Exchange :=
  xs.filter fun x => x.identifier = identifier ∧ x.action? = some .consume

/-- A scenario that started with a table, or with none, was given the values of each serving in
their order, and its table stands where these leave it. -/
private structure InStep (start : Option Table) (identifier : String) (c : Chronicle) : Prop where
  filed : c.producer.Filed
  table : Option.Rel (Table.At (consumed identifier c.exchanges).length) start
    (c.producer.tables.get? identifier)
  values : ∀ n x, (consumed identifier c.exchanges)[n]? = some x →
    ∃ payload, x.reply = .ok ⟨.consume payload, []⟩ ∧
      ∀ key, payload.variables.get? key = start.bind (·.nth? x.outside n key) ∧
        (payload.variables.get? key = none → ∀ t, start = some t → key ∈ t.keys →
          ∃ base attr, resolve t.sources key = some (base, attr) ∧
            t.sources.get? base = some .onConsumer)
  stops : ∀ x ∈ c.exchanges, x.identifier = identifier → x.action? ≠ some .consume →
    x.action? = some .stop ∧ x.after = x.before

namespace InStep

variable {start : Option Table} {identifier : String} {c : Chronicle}

/-- A request that gives nothing to the scenario adds nothing to what it was given. -/
private theorem consumed_concat_of_not (xs : List Exchange) {x : Exchange}
    (h : ¬ (x.identifier = identifier ∧ x.action? = some .consume)) :
    consumed identifier (xs ++ [x]) = consumed identifier xs := by
  simp [consumed, h]

private theorem consumed_concat (xs : List Exchange) {x : Exchange}
    (h : x.action? = some .consume) :
    consumed x.identifier (xs ++ [x]) = consumed x.identifier xs ++ [x] := by
  simp [consumed, h]

/-- A request that gives nothing to the scenario and does not touch its table. -/
private theorem idle (h : InStep start identifier c) {x : Exchange} (hx : x.before = c.producer)
    (hnot : ¬ (x.identifier = identifier ∧ x.action? = some .consume))
    (htable : x.after.tables.get? identifier = c.producer.tables.get? identifier)
    (hstop : x.identifier = identifier → x.action? = some .stop ∧ x.after = x.before) :
    InStep start identifier (c.step (.next x.outside x.identifier)) := by
  obtain ⟨before, outside, asked⟩ := x
  cases hx
  have hconsumed : consumed identifier (c.step (.next outside asked)).exchanges =
      consumed identifier c.exchanges := by
    rw [c.exchanges_next]
    exact consumed_concat_of_not _ hnot
  refine ⟨(Exchange.handles h.filed).filed h.filed, ?_, hconsumed ▸ h.values, ?_⟩
  · rw [hconsumed]
    exact htable ▸ h.table
  · rw [c.exchanges_next]
    exact List.forall_mem_append.2 ⟨h.stops, List.forall_mem_singleton.2 fun hid _ => hstop hid⟩

/-- The next iteration of the scenario. -/
private theorem serve (h : InStep start identifier c) {x : Exchange} (hx : x.before = c.producer)
    (hid : x.identifier = identifier) {payload : Payload}
    (hreply : x.reply = .ok ⟨.consume payload, []⟩)
    (hserved : (c.producer.tables.get? identifier = none ∧
        x.after.tables.get? identifier = none ∧ payload = {}) ∨
      ∃ t aliases, c.producer.tables.get? identifier = some t ∧
        (t.materialize x.outside aliases).1 = .ok payload ∧
        x.after.tables.get? identifier = some (t.materialize x.outside aliases).2) :
    InStep start identifier (c.step (.next x.outside x.identifier)) := by
  obtain ⟨before, outside, asked⟩ := x
  cases hx
  cases hid
  have haction : Exchange.action? ⟨c.producer, outside, asked⟩ = some .consume := by
    rw [Exchange.action?, hreply]
    rfl
  have hconsumed : consumed asked (c.step (.next outside asked)).exchanges =
      consumed asked c.exchanges ++ [⟨c.producer, outside, asked⟩] := by
    rw [c.exchanges_next]
    exact consumed_concat _ haction
  have htable := h.table
  refine ⟨(Exchange.handles h.filed).filed h.filed, ?_, ?_, ?_⟩
  · rw [hconsumed, List.length_append, List.length_singleton]
    show Option.Rel _ start (Exchange.after ⟨c.producer, outside, asked⟩ |>.tables.get? asked)
    rcases hserved with ⟨hnone, hnone', -⟩ | ⟨t, aliases, ht, hm, hnext⟩
    · rw [hnone] at htable
      rw [hnone']
      cases htable
      exact .none
    · rw [ht] at htable
      rw [hnext]
      cases htable with
      | some hat => exact .some (hat.materialize hm)
  · rw [hconsumed]
    intro n y hy
    rw [List.getElem?_append] at hy
    split at hy
    · exact h.values n y hy
    · next hle =>
      obtain ⟨hlt, hget⟩ := List.getElem?_eq_some_iff.1 hy
      have hn : n = (consumed asked c.exchanges).length := by
        rw [List.length_singleton] at hlt
        omega
      obtain rfl : _ = y := by simpa using hget
      refine ⟨payload, hreply, fun key => ?_⟩
      rcases hserved with ⟨hnone, -, rfl⟩ | ⟨t, aliases, ht, hm, -⟩
      · rw [hnone] at htable
        cases htable
        exact ⟨rfl, nofun⟩
      · rw [ht] at htable
        cases htable with
        | some hat =>
          obtain ⟨hvalue, hmissing⟩ := hat.served hm key
          refine ⟨hn ▸ hvalue, ?_⟩
          rintro hnone _ ⟨⟩ hkey
          exact hmissing hkey hnone
  · rw [c.exchanges_next]
    exact List.forall_mem_append.2
      ⟨h.stops, List.forall_mem_singleton.2 fun _ hnot => absurd haction hnot⟩

private theorem next (h : InStep start identifier c) (outside : String → Moment) (asked : String)
    (hok : asked = identifier → ¬ Exchange.Fails ⟨c.producer, outside, asked⟩) :
    InStep start identifier (c.step (.next outside asked)) := by
  let x : Exchange := ⟨c.producer, outside, asked⟩
  have hx := x.handles h.filed
  by_cases hid : asked = identifier
  · subst hid
    rcases hx.serves_or_stops h.filed fun s f hdue hf => hok rfl ⟨s, f, hdue, hf⟩ with
      ⟨⟨log, hreply⟩, hsame⟩ | ⟨payload, hreply, hserved⟩
    · have haction : x.action? = some .stop := by
        rw [Exchange.action?, hreply]
        rfl
      exact h.idle (x := x) rfl (fun h => nomatch haction.symm.trans h.2)
        (congrArg (·.tables.get? asked) hsame) fun _ => ⟨haction, hsame⟩
    · exact h.serve (x := x) rfl rfl hreply hserved
  · exact h.idle (x := x) rfl (fun h => hid h.1)
      ((hx.table h.filed identifier).resolve_right fun h => hid h.1.symm) fun h => absurd h hid

private theorem reset (h : InStep start identifier c) : InStep start identifier (c.step .reset) :=
  ⟨h.filed, c.exchanges_reset ▸ h.table, c.exchanges_reset ▸ h.values, c.exchanges_reset ▸ h.stops⟩

/-- A scenario stays in step as long as nothing fails. -/
private theorem run (h : InStep start identifier c) (demands : List Demand)
    (hok : ∀ x ∈ (c.run demands).exchanges, x.identifier = identifier → ¬ x.Fails) :
    InStep start identifier (c.run demands) := by
  refine Chronicle.run_of_step (P := fun c =>
    (∀ x ∈ c.exchanges, x.identifier = identifier → ¬ x.Fails) → InStep start identifier c)
    ?_ (fun _ => h) demands hok
  intro c d ih hok
  cases d with
  | next outside asked =>
    rw [c.exchanges_next] at hok
    have h := ih fun x hx => hok x (List.mem_append_left _ hx)
    exact h.next outside asked (hok _ (List.mem_append_right _ (List.mem_singleton_self _)))
  | reset => exact (ih (c.exchanges_reset ▸ hok)).reset

end InStep

/-- Scenarios are served in lockstep. Suppose that no iteration of a scenario of a built
producer fails. Whatever is asked, also for other scenarios and across resets, the `n`-th
iteration that it was given has the `n`-th value of the variable under every key that it serves,
and nothing else; only what the worker fills in is left out. It is the `n`-th value of the source
that the configuration of the variable stands for. All other requests for the scenario are told
to stop and change nothing. -/
theorem Definition.lockstep {d : Definition} {snapshot : Snapshot} {p : Producer}
    (h : d.build snapshot = .ok p) {s : ScenarioConfig} (hs : s ∈ d.scenarios)
    (demands : List Demand) :
    let c := Chronicle.run ⟨p, [], []⟩ demands
    (∀ x ∈ c.exchanges, x.identifier = s.identifier → ¬ x.Fails) →
      (∀ n x, (consumed s.identifier c.exchanges)[n]? = some x →
        ∃ payload, x.reply = .ok ⟨.consume payload, []⟩ ∧
          ∀ key,
            payload.variables.get? key =
              s.nth? (snapshot.get? s.identifier) x.outside n key ∧
            (∀ v attr, key ∈ s.served → s.refer? key = some (v, attr) → ∃ source,
              v.source.Makes ((snapshot.get? s.identifier).bind (·.get? v.key)) source ∧
              payload.variables.get? key = (source.nth? (x.outside v.key) n).bind (part? attr)) ∧
            (key ∈ s.served → payload.variables.get? key = none →
              ∃ v attr, s.refer? key = some (v, attr) ∧ v.source = .onConsumer)) ∧
      ∀ x ∈ c.exchanges, x.identifier = s.identifier → x.action? ≠ some .consume →
        x.action? = some .stop ∧ x.after = x.before := by
  intro c hok
  have hbuilt := allSources_of_build (P := fun source => source.At 0 source) h
    fun _ _ _ _ _ _ hmakes => hmakes.at_zero
  have hstart : InStep (p.tables.get? s.identifier) s.identifier ⟨p, [], []⟩ := by
    refine ⟨hbuilt.1, ?_, nofun, nofun⟩
    cases ht : p.tables.get? s.identifier with
    | none => exact .none
    | some t => exact .some (hbuilt.2 s.identifier t ht).at_zero
  have hend := hstart.run demands hok
  refine ⟨fun n x hx => ?_, hend.stops⟩
  obtain ⟨payload, hreply, hvalues⟩ := hend.values n x hx
  refine ⟨payload, hreply, fun key => ?_⟩
  obtain ⟨hvalue, hmissing⟩ := hvalues key
  rcases table_of_build h hs with ⟨hbare, hnone⟩ | ⟨-, t, hbuild, ht⟩
  · rw [hnone] at hvalue
    have hserved : s.served = [] := by
      obtain ⟨hvariables, hexpose⟩ := ScenarioConfig.hasTable_eq_false_iff.1 hbare
      rw [ScenarioConfig.served, hvariables, hexpose]
      rfl
    rw [ScenarioConfig.nth?, hserved]
    exact ⟨hvalue, nofun, nofun⟩
  · rw [ht, Option.bind_some, ScenarioConfig.nth?_buildTable hbuild] at hvalue
    refine ⟨hvalue, fun v attr hkey hv => ?_, fun hkey hleft => ?_⟩
    · obtain ⟨source, hmade, -⟩ := ScenarioConfig.source_of_refer? hbuild hv
      have hmakes := SourceConfig.makes_of_build hmade
      refine ⟨source, hmakes, hvalue.trans ?_⟩
      exact ScenarioConfig.nth?_eq_of_makes hkey hv hmakes x.outside n
    · obtain ⟨base, attr, hr, hsource⟩ :=
        hmissing hleft t ht ((ScenarioConfig.mem_buildTable hbuild).2 hkey)
      rw [ScenarioConfig.resolve_buildTable hbuild] at hr
      obtain ⟨⟨v, attr⟩, hv, htarget⟩ := Option.map_eq_some_iff.1 hr
      cases htarget
      obtain ⟨source, hmade, hget⟩ := ScenarioConfig.source_of_refer? hbuild hv
      obtain rfl := Option.some.inj (hsource.symm.trans hget)
      exact ⟨v, attr, hv, (SourceConfig.makes_of_build hmade).eq_onConsumer⟩

/-- Users in turn, tickets counted down, and a stamp that the worker fills in. -/
def counterDesk : Definition :=
  ⟨[⟨"A", 9, ∅,
      [⟨"user", true, .rowReader
        [Dict.ofList [("name", .str "alice"), ("id", .bool true)],
          Dict.ofList [("name", .str "bob"), ("id", .bool false)]] true⟩,
        ⟨"ticket", false, .integerIncrementer 7 (-3) false⟩, ⟨"stamp", false, .onConsumer⟩],
      ["user.name", "user.id"]⟩,
    ⟨"B", 9, ∅, [⟨"visit", false, .integerIncrementer 1 1 false⟩], []⟩]⟩

/-- A request for a scenario. -/
def demandOf (identifier : String) : Demand := .next (fun _ => ⟨⟨0, 0⟩, 0⟩) identifier

theorem counterDesk_lockstep :
    ∃ p, counterDesk.build ∅ = .ok p ∧
      let c := Chronicle.run ⟨p, [], []⟩
        [demandOf "A", demandOf "B", demandOf "A", .reset, demandOf "A"]
      ∃ x payload, (consumed "A" c.exchanges)[2]? = some x ∧
        x.reply = .ok ⟨.consume payload, []⟩ ∧
        payload.variables.get? "ticket" = some (.ofInt64 1) ∧
        payload.variables.get? "user.name" = some (.str "alice") ∧
        payload.variables.get? "stamp" = none := by
  refine ⟨_, rfl, ?_⟩
  have h := (@Definition.lockstep counterDesk ∅ _ rfl _ List.mem_cons_self
    [demandOf "A", demandOf "B", demandOf "A", .reset, demandOf "A"] ?_).1 2 _ rfl
  · obtain ⟨payload, hreply, hvalues⟩ := h
    obtain ⟨source, hsource, hticket⟩ := (hvalues "ticket").2.1 _ _ (by decide) rfl
    cases hsource
    exact ⟨_, payload, rfl, hreply, hticket, (hvalues "user.name").1, (hvalues "stamp").1⟩
  · refine List.forall_mem_cons.2 ⟨?_, List.forall_mem_cons.2 ⟨?_, List.forall_mem_cons.2 ⟨?_,
      List.forall_mem_cons.2 ⟨?_, nofun⟩⟩⟩⟩
    all_goals
      rintro - ⟨s, f, hdue, hf⟩
      cases hdue
      cases hf

end LoadTest.Testdata
