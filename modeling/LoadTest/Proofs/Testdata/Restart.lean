import LoadTest.Proofs.Persistence.Writing
import LoadTest.Proofs.Testdata.Snapshots
/-!
# Restarting from a snapshot

Which counters persist is a matter of the definition alone. So a definition that was built
once can be built from whatever its producer leaves behind, and the counters of the new
producer stand where those of the old one stopped.
-/

namespace LoadTest.Testdata

open Persistence

/-! ## Making one source again -/

namespace SourceConfig

/-- Whether a configuration asks for a counter that persists. -/
def persists : SourceConfig → Bool
  | integerIncrementer _ _ persist => persist
  | _ => false

variable {config : SourceConfig}

/-- Without persistence the saved value does not matter. -/
theorem build_of_not_persists (h : config.persists = false) (saved saved' : Option Json) :
    config.build saved = config.build saved' := by
  cases config with
  | integerIncrementer start step persist =>
    cases persist with
    | false => rfl
    | true => cases h
  | _ => rfl

/-- Only counters persist. -/
theorem persists_iff :
    config.persists = true ↔ ∃ start step, config = integerIncrementer start step true := by
  cases config <;> simp [persists]

/-- A persisting counter goes on where a saved one stopped. -/
theorem build_saved (h : config.persists = true) (c : Counter) :
    config.build (some (.str c.saved)) = .ok (.counter ⟨c.next, c.step, true⟩) := by
  obtain ⟨start, step, rfl⟩ := persists_iff.1 h
  exact build_of_makes (.resumed rfl c.isSaved_saved)

/-- Nothing that was saved keeps a persisting counter from being made. -/
theorem build_none (h : config.persists = true) :
    ∃ source, config.build none = .ok source := by
  obtain ⟨start, step, rfl⟩ := persists_iff.1 h
  exact ⟨_, build_of_makes (.fresh nofun)⟩

/-- The source persists if its configuration says so. -/
theorem isSome_persisting? {saved : Option Json} {source : Source}
    (h : config.build saved = .ok source) : source.persisting?.isSome = config.persists := by
  cases makes_of_build h <;> rfl

end SourceConfig

/-! ## Building again -/

/-- A variable whose source could be made from one snapshot can be made from saved counters. -/
theorem VariableConfig.fault?_of_saved {v : VariableConfig} {saved saved' : Option (Dict Json)}
    (h : v.fault? saved = none) {counter : Option Counter}
    (hsaved : saved'.bind (·.get? v.key) = counter.map fun c => .str c.saved) :
    v.fault? saved' = none := by
  unfold fault? at h ⊢
  rw [hsaved]
  cases hp : v.source.persists with
  | false =>
    rw [SourceConfig.build_of_not_persists hp _ (saved.bind (·.get? v.key))]
    exact h
  | true =>
    cases counter with
    | none =>
      obtain ⟨source, hsource⟩ := SourceConfig.build_none hp
      rw [Option.map_none, hsource]
    | some c => rw [Option.map_some, SourceConfig.build_saved hp c]

namespace Definition

variable {d : Definition} {snapshot : Snapshot} {p₀ p p' : Producer}

/-- A definition that was built once can be built from what any producer leaves behind. -/
theorem exists_build (h : d.build snapshot = .ok p₀) (p : Producer) :
    ∃ p', d.build p.snapshot = .ok p' := by
  have hvalid := (build_eq_ok_iff.1 h).1
  cases hb : d.build p.snapshot with
  | ok p' => exact ⟨p', rfl⟩
  | error f =>
    obtain ⟨s, v, ⟨front, back, before, after, hscenarios, hvariables, -, -⟩, hfault⟩ :=
      (build_error_iff hvalid).1 hb
    have hfine := fault?_of_build h (s := s) (v := v) (by simp [hscenarios])
      (by simp [hvariables])
    rw [VariableConfig.fault?_of_saved hfine (p.get?_snapshot_bind s.identifier v.key)] at hfault
    cases hfault

/-- The counters that persist when a definition is built from a snapshot of its producer are
those of the producer. -/
theorem counter?_of_rebuild (h : d.build snapshot = .ok p₀) (honward : p₀.Onward p)
    (h' : d.build p.snapshot = .ok p') (identifier name : String) :
    p'.counter? identifier name = p.counter? identifier name := by
  have hfirst := source?_of_build h identifier name
  have hsecond := source?_of_build h' identifier name
  rw [Producer.get?_snapshot_bind] at hsecond
  have hnone := honward.get?_eq_none_iff identifier name
  cases hv : d.declared? identifier name with
  | none =>
    simp only [hv] at hfirst hsecond
    rw [hnone.2 (by rw [Producer.counter?, hfirst]; rfl), Producer.counter?, hsecond]
    rfl
  | some v =>
    simp only [hv] at hfirst hsecond
    obtain ⟨source, hbuild, hsource⟩ := hfirst
    obtain ⟨source', hbuild', hsource'⟩ := hsecond
    have hcounter : p₀.counter? identifier name = source.persisting? := by
      rw [Producer.counter?, hsource]
      rfl
    have hcounter' : p'.counter? identifier name = source'.persisting? := by
      rw [Producer.counter?, hsource']
      rfl
    have hpersists := SourceConfig.isSome_persisting? hbuild
    have hpersists' := SourceConfig.isSome_persisting? hbuild'
    cases hc : p.counter? identifier name with
    | none =>
      rw [← hcounter, hnone.1 hc] at hpersists
      rw [← hpersists] at hpersists'
      rw [hcounter']
      simpa using hpersists'
    | some c =>
      have hp : v.source.persists = true := by
        rw [← hpersists, ← hcounter]
        cases h₀ : p₀.counter? identifier name with
        | none =>
          rw [hnone.2 h₀] at hc
          cases hc
        | some c₀ => rfl
      rw [hc, Option.map_some, SourceConfig.build_saved hp c] at hbuild'
      cases hbuild'
      have hkept := (Producer.counter?_eq_some.1 hc).2
      rw [hcounter', Source.persisting?, if_pos rfl, ← hkept]

end Definition

/-! ## The snapshot file -/

/-- The bytes of a text are those of no other text. -/
theorem fromUTF8?_toUTF8 (s : String) : String.fromUTF8? s.toUTF8 = some s := by
  have hvalid : s.toUTF8.IsValidUTF8 := s.isValidUTF8
  rw [String.fromUTF8?, dif_pos hvalid]
  rfl

/-- What a producer leaves behind is loaded from a file that holds its text. -/
theorem load_snapshot {p : Producer} {persister : Persister} {folder : Folder} {l : Location}
    (hl : persister.location = some l)
    (hfile : folder.read? l.name = some p.snapshot.toText.toUTF8) :
    persister.load folder = .ok (some p.snapshot) := by
  rw [Persister.load, hl]
  simp only [hfile, fromUTF8?_toUTF8, p.ofText_snapshot]

/-- What a persister has written for a producer is loaded again. -/
theorem load_of_persist {p : Producer} {persister persister' : Persister}
    {folder folder' : Folder} {a : Attempt}
    (h : persister.persist folder a p.snapshot = (.ok true, persister', folder')) :
    persister'.load folder' = .ok (some p.snapshot) := by
  cases hdue : persister.due? p.snapshot with
  | none =>
    rw [Persister.persist_of_not_due folder a hdue] at h
    cases h
  | some l =>
    have hl := (Persister.due?_eq_some.1 hdue).2.2
    rw [Persister.persist_of_due folder a hdue] at h
    rcases folder.replace_cases a.fault (l.temporaryName a.process a.thread) l.name
        p.snapshot.toText.toUTF8 with ⟨f, hf, hread, -⟩ | ⟨e, f, hf, -⟩
    · rw [hf] at h
      cases h
      exact load_snapshot hl hread
    · rw [hf] at h
      cases h

/-! ## The next run -/

/-- After any requests and resets, what a built producer leaves behind is read back as it was
written, and building the definition from it succeeds. The new producer leaves the same behind,
and each of its persisting counters is the one that the old producer had. What a counter serves
depends on nothing but its next value and its step, so with the counters all values that the old
producer would still have served are carried over; the last clause says so of the next one. -/
theorem Definition.restarts {d : Definition} {snapshot : Snapshot} {p₀ : Producer}
    (h : d.build snapshot = .ok p₀) (demands : List Demand) :
    let p := (Chronicle.run ⟨p₀, [], []⟩ demands).producer
    Snapshot.ofText p.snapshot.toText = .ok p.snapshot ∧
    (∀ (persister persister' : Persister) (folder folder' : Folder) (a : Attempt),
      persister.persist folder a p.snapshot = (.ok true, persister', folder') →
        persister'.load folder' = .ok (some p.snapshot)) ∧
    (∀ identifier,
      p.snapshot.get? identifier = none ↔ ∀ name, p.counter? identifier name = none) ∧
    ∃ p', d.build p.snapshot = .ok p' ∧ p'.snapshot = p.snapshot ∧
      (∀ identifier name, p'.counter? identifier name = p.counter? identifier name) ∧
      ∀ x x' : Exchange, x.before = p → x'.before = p' → x'.identifier = x.identifier →
        ∀ name v v', (p.counter? x.identifier name).isSome →
          x.served? name = some v → x'.served? name = some v' → v' = v := by
  intro p
  obtain ⟨hfiled, honward⟩ := Chronicle.run_onward (Definition.filed_of_build h) demands
  obtain ⟨p', h'⟩ := exists_build h p
  have hfiled' := Definition.filed_of_build h'
  have hcounters := counter?_of_rebuild h honward h'
  refine ⟨p.ofText_snapshot, fun _ _ _ _ _ => load_of_persist, fun _ =>
    Producer.get?_snapshot_eq_none_iff, p', h', Producer.snapshot_congr hcounters, hcounters, ?_⟩
  intro x x' hx hx' hidentifier name v v' hpersists hv hv'
  obtain ⟨c, hc⟩ := Option.isSome_iff_exists.1 hpersists
  have hvalue := (Exchange.served?_counter (hx ▸ hfiled) (hx ▸ hc) hv).1
  have hc' : x'.before.counter? x'.identifier name = some c := by
    rw [hx', hidentifier, hcounters, hc]
  have hvalue' := (Exchange.served?_counter (hx' ▸ hfiled') hc' hv').1
  rw [hvalue, hvalue']

/-- Tickets that are numbered on from run to run, and visits that are counted anew. -/
def ticketOffice : Definition :=
  ⟨[⟨"A", 9, ∅, [⟨"ticket", false, .integerIncrementer (-3) 5 true⟩], []⟩,
    ⟨"B", 9, ∅, [⟨"visit", false, .integerIncrementer 1 1 false⟩], []⟩]⟩

/-- A request for a ticket. -/
def demandTicket : Demand := .next (fun _ => ⟨⟨0, 0⟩, 0⟩) "A"

theorem ticketOffice_restarts :
    ∃ p₀, ticketOffice.build ∅ = .ok p₀ ∧
      let p := (Chronicle.run ⟨p₀, [], []⟩ [demandTicket, .reset, demandTicket]).producer
      p.counter? "A" "ticket" = some ⟨7, 5, true⟩ ∧ p.snapshot.get? "B" = none ∧
        ∃ p', ticketOffice.build p.snapshot = .ok p' ∧
          p'.counter? "A" "ticket" = some ⟨7, 5, true⟩ := by
  have h := @Definition.restarts ticketOffice ∅ _ rfl [demandTicket, .reset, demandTicket]
  obtain ⟨-, -, -, p', hbuild, -, hcounters, -⟩ := h
  exact ⟨_, rfl, rfl, rfl, p', hbuild, hcounters "A" "ticket"⟩

end LoadTest.Testdata
