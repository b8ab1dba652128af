import LoadTest.Proofs.Persistence.Tenure
import LoadTest.Proofs.Testdata.Restart
/-!
# From one run to the next

A snapshot is written once in a run, while requests may go on to be served, so the next run
goes on from the moment of that write. What a persisting counter gave before that moment never
comes again; what it gave after it lies on the way of the next run.
-/

namespace LoadTest

open Testdata Persistence

namespace Tenure

/-- How the producers that a coordinator had so far follow from each other, and from the one
it was made with. -/
structure Ordered (p : Producer) (t : Tenure) : Prop where
  /-- The messages met producers on the way from the first one to the present one. -/
  deliveries : ∀ x ∈ t.deliveries, x.before.producer.Filed ∧ p.Onward x.before.producer ∧
    x.after.producer.Onward t.coordinator.producer
  /-- So did the savings. -/
  savings : ∀ x ∈ t.savings, p.Onward x.before.producer ∧
    x.before.producer.Onward t.coordinator.producer
  /-- What was written before a message stays written. -/
  early : ∀ x ∈ t.deliveries, x.before.persister.hasPersisted = true →
    t.coordinator.persister.hasPersisted = true
  /-- The write parts the messages into those before it and those after it. -/
  parted : ∀ w ∈ t.savings, w.Writes → ∀ x ∈ t.deliveries,
    if x.before.persister.hasPersisted then w.before.producer.Onward x.before.producer
    else x.after.producer.Onward w.before.producer

variable {p : Producer} {location : Option Location} {folder : Folder} {t : Tenure}

theorem ordered_start (p : Producer) (location : Option Location) (folder : Folder) :
    Ordered p (start p location folder) := by
  constructor <;> simp [start]

namespace Ordered

theorem message (h : t.Ordered p) (hkept : t.Kept p location folder) (outside : Outside)
    (m : Message) : (t.step (.message outside m)).Ordered p := by
  let x : Delivery := ⟨t.coordinator, outside, m⟩
  have honward := (x.onward hkept.filed).2
  constructor
  · intro y hy
    rcases List.mem_append.1 hy with hy | hy
    · obtain ⟨hfiled, hbefore, hafter⟩ := h.deliveries y hy
      exact ⟨hfiled, hbefore, hafter.trans honward⟩
    · obtain rfl := List.mem_singleton.1 hy
      exact ⟨hkept.filed, hkept.onward, .refl _⟩
  · intro w hw
    obtain ⟨hbefore, hafter⟩ := h.savings w hw
    exact ⟨hbefore, hafter.trans honward⟩
  · intro y hy hpersisted
    show x.after.persister.hasPersisted = true
    rw [x.persister_after]
    rcases List.mem_append.1 hy with hy | hy
    · exact h.early y hy hpersisted
    · obtain rfl := List.mem_singleton.1 hy
      exact hpersisted
  · intro w hw hwrites y hy
    rcases List.mem_append.1 hy with hy | hy
    · exact h.parted w hw hwrites y hy
    · obtain rfl := List.mem_singleton.1 hy
      rw [if_pos (hkept.known.2 ⟨w, hw, hwrites⟩)]
      exact (h.savings w hw).2

theorem save (h : t.Ordered p) (hkept : t.Kept p location folder) (testStops : Bool)
    (a : Attempt) : (t.save testStops a).Ordered p := by
  let x : Saving := ⟨t.coordinator, t.folder, a, testStops⟩
  constructor
  · intro y hy
    obtain ⟨hfiled, hbefore, hafter⟩ := h.deliveries y hy
    exact ⟨hfiled, hbefore, hafter.trans x.onward⟩
  · intro w hw
    rcases List.mem_append.1 hw with hw | hw
    · obtain ⟨hbefore, hafter⟩ := h.savings w hw
      exact ⟨hbefore, hafter.trans x.onward⟩
    · obtain rfl := List.mem_singleton.1 hw
      exact ⟨hkept.onward, x.onward⟩
  · intro y hy hpersisted
    exact x.hasPersisted_after.2 (.inl (h.early y hy hpersisted))
  · intro w hw hwrites y hy
    rcases List.mem_append.1 hw with hw | hw
    · exact h.parted w hw hwrites y hy
    · obtain rfl := List.mem_singleton.1 hw
      -- nothing was written before, so every message came before this write
      have hnot : y.before.persister.hasPersisted = false := by
        have hfirst := ((Saving.lawful hkept.place).writes hwrites).2.1
        cases hy' : y.before.persister.hasPersisted with
        | false => rfl
        | true => exact (h.early y hy hy').symm.trans hfirst
      rw [hnot, if_neg (by decide)]
      exact (h.deliveries y hy).2.2

end Ordered

theorem ordered_run (hp : p.Filed) (location : Option Location) (folder : Folder)
    (happenings : List Happening) :
    Kept p location folder ((start p location folder).run happenings) ∧
      Ordered p ((start p location folder).run happenings) := by
  refine run_of_step (P := fun t => Kept p location folder t ∧ Ordered p t) ?_
    ⟨kept_start hp location folder, ordered_start p location folder⟩ happenings
  rintro t happening ⟨hkept, h⟩
  refine ⟨hkept.step happening, ?_⟩
  cases happening with
  | message outside m => exact h.message hkept outside m
  | testStop a => exact h.save hkept true a
  | stop a => exact h.save hkept false a

/-! ## What the next run finds -/

/-- When every saving has succeeded and the run has ended, a snapshot with something in it has
been written. -/
theorem exists_writes {happenings : List Happening} {a : Attempt} {l : Location} (hp : p.Filed)
    (hfilled : p.snapshot.isEmpty = false)
    (hok : ∀ x ∈ ((start p (some l) folder).run (happenings ++ [.stop a])).savings,
      x.result = .ok ()) :
    ∃ w ∈ ((start p (some l) folder).run (happenings ++ [.stop a])).savings, w.Writes := by
  have hkept := kept_run hp (some l) folder happenings
  have hlast := kept_run hp (some l) folder (happenings ++ [.stop a])
  have hrun : (start p (some l) folder).run (happenings ++ [.stop a]) =
      ((start p (some l) folder).run happenings).save false a := by
    rw [run, List.foldl_append]
    rfl
  rw [hrun] at hok hlast ⊢
  let x : Saving := ⟨((start p (some l) folder).run happenings).coordinator,
    ((start p (some l) folder).run happenings).folder, a, false⟩
  have hx : x ∈ (((start p (some l) folder).run happenings).save false a).savings := by
    simp [save, x]
  have hsnapshot : x.snapshot.isEmpty = false := hkept.onward.isEmpty_snapshot.trans hfilled
  exact hlast.known.1 (Saving.hasPersisted_of_ok hkept.place hsnapshot (hok x hx))

/-- The next run loads the snapshot that was written. -/
theorem Kept.load {l : Location} (h : t.Kept p (some l) folder) {w : Saving}
    (hw : w ∈ t.savings) (hwrites : w.Writes) :
    (⟨some l, false⟩ : Persister).load t.folder = .ok (some w.before.producer.snapshot) :=
  load_snapshot rfl (h.written l rfl w hw hwrites)

/-! ## What a counter gives before and after the write -/

/-- A counter that has moved on does not come back to what it was. -/
theorem not_onward_of_step {c c' later : Counter} (hstep : c.step ≠ 0) (hsame : c'.step = c.step)
    (hnext : c'.next.toInt = c.next.toInt + c.step.toInt) (h : c'.Onward later) :
    ¬ later.Onward c := by
  intro hback
  obtain ⟨k, hk⟩ := h.next
  obtain ⟨j, hj⟩ := hback.next
  rw [h.step, hsame] at hj
  rw [hsame] at hk
  have hzero : ((k + j + 1 : ℕ) : ℤ) * c.step.toInt = 0 := by
    push_cast
    linarith
  rcases mul_eq_zero.1 hzero with hcount | hnone
  · omega
  · exact hstep (Int64.toInt_inj.1 hnone)

/-- The counters of a message that came after the write are on the way from those written, and
those of a message before it are not any more. -/
theorem Ordered.persisted_iff (h : t.Ordered p) {w : Saving} (hw : w ∈ t.savings)
    (hwrites : w.Writes) {x : Delivery} (hx : x ∈ t.deliveries) {y : Exchange}
    (hy : x.exchange? = some y) {name : String} {c c₁ : Counter} {v : Json}
    (hc : x.before.producer.counter? y.identifier name = some c) (hstep : c.step ≠ 0)
    (hv : y.served? name = some v) (hc₁ : w.before.producer.counter? y.identifier name = some c₁) :
    x.before.persister.hasPersisted = true ↔ c₁.Onward c := by
  have hparted := h.parted w hw hwrites x hx
  cases hpersisted : x.before.persister.hasPersisted with
  | true =>
    rw [hpersisted, if_pos rfl] at hparted
    obtain ⟨c', hc', honward⟩ := hparted.get hc₁
    obtain rfl := Option.some.inj (hc.symm.trans hc')
    simpa using honward
  | false =>
    rw [hpersisted, if_neg (by decide), x.producer_after, hy] at hparted
    have hbefore : y.before = x.before.producer := Coordinator.before_of_exchange? hy
    obtain ⟨-, c', hc', hsame, hnext⟩ := Exchange.served?_counter
      (hbefore ▸ (h.deliveries x hx).1) (hbefore ▸ hc) hv
    obtain ⟨c'', hc'', honward⟩ := hparted.get hc'
    obtain rfl := Option.some.inj (hc₁.symm.trans hc'')
    simpa using not_onward_of_step hstep hsame hnext honward

/-- Counters on the way from one that give the same value are the same. -/
theorem eq_of_onward {c₀ c c' : Counter} (h : c₀.Onward c) (h' : c₀.Onward c')
    (hvalue : Json.ofInt64 c.next = Json.ofInt64 c'.next) : c = c' := by
  have hnext : c.next = c'.next := by
    have hread := congrArg Json.int64? hvalue
    rw [Json.int64?_ofInt64, Json.int64?_ofInt64] at hread
    exact Option.some.inj hread
  have hstep := h.step.trans h'.step.symm
  have hpersists := h.persists.trans h'.persists.symm
  cases c
  cases c'
  simp_all

/-- In the next run every persisting counter goes on from where the last one stopped. -/
theorem Ordered.onward_next {p₁ : Producer} {t' : Tenure} (h : t'.Ordered p₁) {x : Delivery}
    (hx : x ∈ t'.deliveries) {y : Exchange} (hy : x.exchange? = some y) {name : String}
    {c₁ : Counter} (hc₁ : p₁.counter? y.identifier name = some c₁) {v : Json}
    (hv : y.served? name = some v) : ∃ c, c₁.Onward c ∧ v = .ofInt64 c.next := by
  obtain ⟨hfiled, honward, -⟩ := h.deliveries x hx
  have hbefore : y.before = x.before.producer := Coordinator.before_of_exchange? hy
  obtain ⟨c, hc, hnext⟩ := honward.get hc₁
  exact ⟨c, hnext, (Exchange.served?_counter (hbefore ▸ hfiled) (hbefore ▸ hc) hv).1⟩

/-- When every saving of a run has succeeded and the run has ended, the next run can start from
the snapshot file. A value that a persisting counter gave is on the way of the next run exactly
if it was given after the write, so none that was given before is given again. -/
theorem repeats_only_after_write {d : Definition} {snapshot : Snapshot} {p₀ : Producer}
    (h₀ : d.build snapshot = .ok p₀) (l : Location) (folder : Folder)
    (happenings : List Happening) (a : Attempt)
    (hok : ∀ x ∈ ((start p₀ (some l) folder).run (happenings ++ [.stop a])).savings,
      x.result = .ok ()) :
    let t := (start p₀ (some l) folder).run (happenings ++ [.stop a])
    let reader : Persister := ⟨some l, false⟩
    (p₀.snapshot.isEmpty = false →
      ∃ s p₁, reader.load t.folder = .ok (some s) ∧ d.build s = .ok p₁) ∧
    ∀ loaded p₁, reader.load t.folder = .ok loaded → d.build (loaded.getD ∅) = .ok p₁ →
      ∀ x ∈ t.deliveries, ∀ y, x.exchange? = some y →
      ∀ name c v, x.before.producer.counter? y.identifier name = some c → c.step ≠ 0 →
        y.served? name = some v →
        (x.before.persister.hasPersisted = true ↔
          ∃ c₁, p₁.counter? y.identifier name = some c₁ ∧ c₁.Onward c) ∧
        ∀ location' folder' happenings',
          ∀ x' ∈ ((start p₁ location' folder').run happenings').deliveries, ∀ y',
            x'.exchange? = some y' → y'.identifier = y.identifier →
            y'.served? name = some v → x.before.persister.hasPersisted = true := by
  intro t reader
  have hfiled₀ := Definition.filed_of_build h₀
  obtain ⟨hkept, hordered⟩ := ordered_run hfiled₀ (some l) folder (happenings ++ [.stop a])
  constructor
  · intro hfilled
    obtain ⟨w, hw, hwrites⟩ := exists_writes hfiled₀ hfilled hok
    obtain ⟨p₁, h₁⟩ := Definition.exists_build h₀ w.before.producer
    exact ⟨_, p₁, hkept.load hw hwrites, h₁⟩
  · intro loaded p₁ hloaded h₁ x hx y hy name c v hc hstep hv
    obtain ⟨-, honward, -⟩ := hordered.deliveries x hx
    -- the counter was there from the start, so there was something to write
    obtain ⟨c₀, hc₀⟩ : ∃ c₀, p₀.counter? y.identifier name = some c₀ := by
      rw [← Option.ne_none_iff_exists', Ne, ← honward.get?_eq_none_iff, hc]
      exact Option.some_ne_none c
    have hfilled : p₀.snapshot.isEmpty = false := by
      rw [← Bool.not_eq_true, Producer.isEmpty_snapshot_iff]
      intro hnone
      rw [hnone] at hc₀
      cases hc₀
    obtain ⟨w, hw, hwrites⟩ := exists_writes hfiled₀ hfilled hok
    have hsame := (hkept.load hw hwrites).symm.trans hloaded
    cases hsame
    have hw₀ := (hordered.savings w hw).1
    have hcounters := Definition.counter?_of_rebuild h₀ hw₀ h₁ y.identifier name
    obtain ⟨c₁, hc₁, hwritten⟩ := hw₀.get hc₀
    have hiff := hordered.persisted_iff hw hwrites hx hy hc hstep hv hc₁
    rw [hc₁] at hcounters
    refine ⟨by simp [hcounters, hiff], ?_⟩
    intro location' folder' happenings' x' hx' y' hy' hidentifier hv'
    have hordered' :=
      (ordered_run (Definition.filed_of_build h₁) location' folder' happenings').2
    obtain ⟨c', hnext, hvalue'⟩ := hordered'.onward_next hx' hy' (hidentifier ▸ hcounters) hv'
    have hbefore : y.before = x.before.producer := Coordinator.before_of_exchange? hy
    have hvalue := (Exchange.served?_counter (hbefore ▸ (hordered.deliveries x hx).1)
      (hbefore ▸ hc) hv).1
    obtain ⟨c'', hc'', hthere⟩ := honward.get hc₀
    obtain rfl := Option.some.inj (hc.symm.trans hc'')
    obtain rfl := eq_of_onward hthere (hwritten.trans hnext) (hvalue.symm.trans hvalue')
    exact hiff.2 hnext

/-! ## Tickets after the snapshot -/

/-- A run gave a value to a variable of a scenario. -/
def Gives (t : Tenure) (identifier name : String) (v : Json) : Prop :=
  ∃ x ∈ t.deliveries, ∃ y, x.exchange? = some y ∧ y.identifier = identifier ∧
    y.served? name = some v

/-- Where the ticket office keeps its snapshot. -/
def ticketFile : Location := ⟨"persistent", "tickets.json"⟩

/-- A worker asks for a ticket. -/
def askTicket : Happening :=
  .message ⟨fun _ => ⟨⟨0, 0⟩, 0⟩, ⟨0, 0⟩⟩ (⟨1, "w", .testdata "A"⟩ : Production).toMessage

/-- The producer of a new ticket office. -/
def ticketProducer : Producer := (ticketOffice.build ∅).toOption.getD {}

theorem build_ticketOffice : ticketOffice.build ∅ = .ok ticketProducer := rfl

/-- One ticket before the test stops, and one more before the run ends. -/
def ticketRun : Tenure :=
  (start ticketProducer (some ticketFile) .missing).run
    ([askTicket, .testStop {}, askTicket] ++ [.stop {}])

theorem ticketRun_ok : ∀ x ∈ ticketRun.savings, x.result = .ok () := by
  have hall : (ticketRun.savings.all fun x => x.result.toOption.isSome) = true := by
    decide +kernel
  intro x hx
  have hsome := List.all_eq_true.1 hall x hx
  cases hr : x.result with
  | ok u => rfl
  | error e =>
    rw [hr] at hsome
    cases hsome

theorem ticketRun_succeeded :
    ∃ s p₁, (⟨some ticketFile, false⟩ : Persister).load ticketRun.folder = .ok (some s) ∧
      ticketOffice.build s = .ok p₁ :=
  (repeats_only_after_write build_ticketOffice ticketFile .missing
    [askTicket, .testStop {}, askTicket] {} ticketRun_ok).1 (by decide +kernel)

/-- A producer whose counter of tickets stands at 2 gives the ticket 2, if it gives any. -/
theorem gives_ticket {t : Tenure} {x : Delivery} (hx : x ∈ t.deliveries)
    (hfiled : x.before.producer.Filed)
    (hexchange : x.exchange? = some ⟨x.before.producer, fun _ => ⟨⟨0, 0⟩, 0⟩, "A"⟩)
    (hcounter : x.before.producer.counter? "A" "ticket" = some ⟨2, 5, true⟩)
    (hgiven : ((⟨x.before.producer, fun _ => ⟨⟨0, 0⟩, 0⟩, "A"⟩ : Exchange).served?
      "ticket").isSome = true) : t.Gives "A" "ticket" (.ofInt64 2) := by
  obtain ⟨v, hv⟩ := Option.isSome_iff_exists.1 hgiven
  refine ⟨x, hx, _, hexchange, rfl, ?_⟩
  rw [hv, (Exchange.served?_counter hfiled hcounter hv).1]

/-- The ticket that is given between the stop of the test and the end of the run is given
again by the next run, although every saving succeeds. -/
theorem ticket_repeats :
    (∀ x ∈ ticketRun.savings, x.result = .ok ()) ∧
    ∃ s p₁, (⟨some ticketFile, false⟩ : Persister).load ticketRun.folder = .ok (some s) ∧
      ticketOffice.build s = .ok p₁ ∧ p₁.counter? "A" "ticket" = some ⟨2, 5, true⟩ ∧
      ticketRun.Gives "A" "ticket" (.ofInt64 2) ∧
      ((start p₁ (some ticketFile) ticketRun.folder).run [askTicket, .stop {}]).Gives
        "A" "ticket" (.ofInt64 2) := by
  let early := (start ticketProducer (some ticketFile) .missing).run [askTicket]
  let late := (start ticketProducer (some ticketFile) .missing).run [askTicket, .testStop {}]
  let written : Saving := ⟨early.coordinator, early.folder, {}, true⟩
  let p₁ : Producer := (ticketOffice.build early.coordinator.producer.snapshot).toOption.getD {}
  have hfiled : ticketProducer.Filed := Producer.filed_make _ _
  have hkept := fun happenings => kept_run hfiled (some ticketFile) .missing happenings
  have hwrites : written.Writes := by
    have hsome : written.persisted.1.toOption = some true := by decide +kernel
    unfold Saving.Writes
    cases hr : written.persisted.1 with
    | ok b =>
      rw [hr] at hsome
      exact congrArg _ (Option.some.inj hsome)
    | error e =>
      rw [hr] at hsome
      cases hsome
  have hbuild : ticketOffice.build early.coordinator.producer.snapshot = .ok p₁ := by
    obtain ⟨p, hp⟩ := Definition.exists_build build_ticketOffice early.coordinator.producer
    simp only [p₁, hp, Except.toOption, Option.getD_some]
  have hcounter : p₁.counter? "A" "ticket" = some ⟨2, 5, true⟩ := by
    rw [Definition.counter?_of_rebuild build_ticketOffice (hkept [askTicket]).onward hbuild]
    decide +kernel
  refine ⟨ticketRun_ok, _, p₁, (hkept _).load (w := written) List.mem_cons_self hwrites, hbuild,
    hcounter, ?_, ?_⟩
  · exact gives_ticket (x := ⟨late.coordinator, _, _⟩)
      (List.mem_cons_of_mem _ (List.mem_singleton.2 rfl)) (hkept _).filed
      (Coordinator.exchange?_toMessage _ _ _ _ _) (by decide +kernel) (by decide +kernel)
  · exact gives_ticket (x := ⟨.make p₁ ⟨some ticketFile, false⟩, _, _⟩)
      (List.mem_singleton.2 rfl) (Definition.filed_of_build hbuild)
      (Coordinator.exchange?_toMessage _ _ _ _ _) hcounter
      (by decide +kernel)

end Tenure

end LoadTest
