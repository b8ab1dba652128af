import LoadTest.Coordinator
import LoadTest.Proofs.Persistence.Writing
import LoadTest.Proofs.Serving
import LoadTest.Proofs.Testdata.Persisting
/-!
# The tenure of a coordinator

From its making on a coordinator takes messages, and is told now and then that the test stops
or that the run ends; both bring the snapshot to the disk, where any step of the write may
fail. Whatever comes in whatever order, the snapshot file is written once at most, and the
coordinator knows whether it was. A write that failed is made up for by the next one.
-/

namespace LoadTest

open Testdata Persistence

/-! ## What a message does to the test data -/

/-- A request that was read is that of a usable envelope. -/
theorem Message.exists_envelope_of_request {m : Message} {r : Request}
    (h : (m.envelope?.bind fun e => (Request.ofJson e.request).toOption) = some r) :
    ∃ e, m.envelope? = some e ∧ Request.ofJson e.request = .ok r := by
  obtain ⟨e, he, hr⟩ := Option.bind_eq_some_iff.1 h
  refine ⟨e, he, ?_⟩
  cases hj : Request.ofJson e.request with
  | error mismatch =>
    rw [hj] at hr
    cases hr
  | ok r' =>
    rw [hj] at hr
    cases hr
    rfl

namespace Coordinator

/-- The exchange with the producer that a message leads to, if it asks for test data. -/
def exchange? (c : Coordinator) (outside : Outside) (m : Message) : Option Exchange :=
  match m.envelope?.bind fun e => (Request.ofJson e.request).toOption with
  | some r =>
    if r.kind? = some .testdata then some ⟨c.producer, outside.read, r.identifier⟩ else none
  | none => none

theorem before_of_exchange? {c : Coordinator} {outside : Outside} {m : Message} {x : Exchange}
    (h : c.exchange? outside m = some x) : x.before = c.producer := by
  unfold exchange? at h
  split at h
  · split at h
    · cases h
      rfl
    · cases h
  · cases h

/-- A worker's request for test data leads to an exchange about its scenario. -/
theorem exchange?_toMessage (c : Coordinator) (outside : Outside) (uid : UInt64)
    (cid identifier : String) :
    c.exchange? outside (⟨uid, cid, .testdata identifier⟩ : Production).toMessage =
      some ⟨c.producer, outside.read, identifier⟩ := by
  have henvelope : ((⟨uid, cid, .testdata identifier⟩ : Production).toMessage).envelope? =
      some ⟨uid, cid, (Request.testdata identifier).toJson⟩ := by
    rw [Message.envelope?, Production.toMessage, if_pos rfl, Envelope.ofJson_toJson]
    rfl
  rw [exchange?, henvelope]
  simp only [Option.bind_some, Request.ofJson_toJson, Except.toOption]
  rfl

/-- What the producer answers in an exchange is what the reply carries to the worker. -/
theorem receive?_of_exchange? {c : Coordinator} {outside : Outside} {m : Message}
    {x : Exchange} (hx : c.exchange? outside m = some x) {served : Served}
    (hreply : x.reply = .ok served) :
    ∃ e h, m.envelope? = some e ∧ (c.receive? outside m).1 = .ok (some h) ∧
      h.reply = (⟨e.uid, served.response.toJson⟩ : Consumption).toMessage e.cid := by
  unfold exchange? at hx
  split at hx
  · next r hr =>
    split at hx
    · next hk =>
      cases hx
      obtain ⟨e, he, hok⟩ := Message.exists_envelope_of_request hr
      have hhandle : (c.producer.handle outside.read r.identifier).1 = .ok served := hreply
      refine ⟨e, ⟨eventOf e.request outside.took none,
        (⟨e.uid, served.response.toJson⟩ : Consumption).toMessage e.cid, served.log⟩, he, ?_, rfl⟩
      rw [receive?_of_some c outside he, answer, dispatchRaw, hok]
      simp only [dispatch, hk, hhandle, Except.map]
    · cases hx
  · cases hx

/-- The producer behind the exchange with it, if there was one. -/
def producerAfter (c : Coordinator) : Option Exchange → Producer
  | some x => x.after
  | none => c.producer

theorem dispatch_leaves (c : Coordinator) (outside : Outside) (r : Request) :
    (c.dispatch outside r).2.persister = c.persister ∧
      (c.dispatch outside r).2.producer = c.producerAfter
        (if r.kind? = some .testdata then some ⟨c.producer, outside.read, r.identifier⟩
        else none) := by
  cases hk : r.kind? with
  | none => simp [dispatch, hk, producerAfter]
  | some kind => cases kind <;> simp [dispatch, hk, producerAfter, Exchange.after]

/-- A message leaves the persister alone, and moves the producer as far as it leads to an
exchange with it. -/
theorem receive?_leaves (c : Coordinator) (outside : Outside) (m : Message) :
    (c.receive? outside m).2.persister = c.persister ∧
      (c.receive? outside m).2.producer = c.producerAfter (c.exchange? outside m) := by
  cases henv : m.envelope? with
  | none =>
    rw [receive?_of_none c outside henv, exchange?, henv]
    exact ⟨rfl, rfl⟩
  | some e =>
    have hanswer : (c.answer outside e).2.persister =
        (c.dispatchRaw outside e.request).2.persister ∧
        (c.answer outside e).2.producer = (c.dispatchRaw outside e.request).2.producer := by
      unfold answer
      rcases c.dispatchRaw outside e.request with ⟨_ | _, c'⟩ <;> exact ⟨rfl, rfl⟩
    rw [receive?_of_some c outside henv, exchange?, henv, hanswer.1, hanswer.2]
    cases hr : Request.ofJson e.request with
    | error mismatch => simp [dispatchRaw, hr, Except.toOption, producerAfter]
    | ok r =>
      have hdispatch := c.dispatch_leaves outside r
      simpa [dispatchRaw, hr, Except.toOption] using hdispatch

end Coordinator

/-! ## Savings -/

/-- The moment at which a snapshot is to be brought to the disk: the coordinator, the folder,
what becomes of the write, and whether it is the test that stops or the whole run. -/
structure Saving where
  before : Coordinator
  folder : Folder
  attempt : Attempt
  testStops : Bool

namespace Saving

/-- What the coordinator answers, what becomes of it, and the folder that is left. -/
def outcome (x : Saving) : Except Error Unit × Coordinator × Folder :=
  if x.testStops then x.before.testStop x.folder x.attempt else x.before.stop x.folder x.attempt

def result (x : Saving) : Except Error Unit := x.outcome.1

def after (x : Saving) : Coordinator := x.outcome.2.1

def left (x : Saving) : Folder := x.outcome.2.2

/-- The snapshot of this moment. -/
def snapshot (x : Saving) : Snapshot := x.before.producer.snapshot

/-- What the persister does with the snapshot of this moment. -/
def persisted (x : Saving) : Except Error Bool × Persister × Folder :=
  x.before.persister.persist x.folder x.attempt x.snapshot

/-- The snapshot file was written. -/
def Writes (x : Saving) : Prop := x.persisted.1 = .ok true

/-- Where the snapshot of this moment is to be written. -/
def due? (x : Saving) : Option Location := x.before.persister.due? x.snapshot

/-- The write of the snapshot of this moment to a place. -/
def write (x : Saving) (l : Location) : Except Fault Unit × Folder :=
  x.folder.replace x.attempt.fault (l.temporaryName x.attempt.process x.attempt.thread) l.name
    x.snapshot.toText.toUTF8

/-- The snapshot of this moment is written to a place, and what comes of that is the answer. -/
structure Tries (x : Saving) (l : Location) : Prop where
  left : x.left = (x.write l).2
  result : x.result = (x.write l).1.mapError (·.error l x.attempt)
  writes : x.Writes ↔ (x.write l).1 = .ok ()

variable {x : Saving}

@[simp] theorem result_eq (x : Saving) : x.result = x.persisted.1.map fun _ => () := by
  unfold result outcome
  cases x.testStops <;> rfl

@[simp] theorem left_eq (x : Saving) : x.left = x.persisted.2.2 := by
  unfold left outcome
  cases x.testStops <;> rfl

@[simp] theorem persister_after (x : Saving) : x.after.persister = x.persisted.2.1 := by
  unfold after outcome
  cases x.testStops <;> rfl

/-- Nothing changes but the persister, and the counters of iterations if the test stops. -/
theorem after_eq (x : Saving) :
    x.after =
      { x.before with
        persister := x.persisted.2.1
        producer := if x.testStops then x.before.producer.reset else x.before.producer } := by
  unfold after outcome
  cases x.testStops <;> rfl

theorem onward (x : Saving) : x.before.producer.Onward x.after.producer := by
  rw [after_eq]
  cases x.testStops
  · exact .refl _
  · exact x.before.producer.onward_reset

theorem filed (h : x.before.producer.Filed) : x.after.producer.Filed := by
  rw [after_eq]
  cases x.testStops <;> exact h

/-- A snapshot that is not due is not written. -/
theorem persisted_of_not_due (h : x.due? = none) :
    x.persisted = (.ok false, x.before.persister, x.folder) :=
  Persister.persist_of_not_due x.folder x.attempt h

/-- A snapshot that is due is written, or the write fails and nothing else has happened. -/
theorem persisted_of_due {l : Location} (h : x.due? = some l) :
    (∃ folder, x.write l = (.ok (), folder) ∧
      x.persisted = (.ok true, { x.before.persister with hasPersisted := true }, folder)) ∨
    ∃ e folder, x.write l = (.error e, folder) ∧
      x.persisted = (.error (e.error l x.attempt), x.before.persister, folder) := by
  have hpersist := Persister.persist_of_due x.folder x.attempt h
  cases hw : x.write l with
  | mk result folder =>
    cases result with
    | ok u =>
      refine .inl ⟨folder, rfl, hpersist.trans ?_⟩
      rw [show x.folder.replace _ _ _ _ = _ from hw]
    | error e =>
      refine .inr ⟨e, folder, rfl, hpersist.trans ?_⟩
      rw [show x.folder.replace _ _ _ _ = _ from hw]

theorem tries_of_due {l : Location} (h : x.due? = some l) : x.Tries l := by
  rcases persisted_of_due h with ⟨folder, hw, hp⟩ | ⟨e, folder, hw, hp⟩
  · constructor <;> simp [Writes, hw, hp, Except.map, Except.mapError]
  · constructor <;> simp [Writes, hw, hp, Except.map, Except.mapError]

/-- Only a write that fails is an error. -/
theorem due?_of_error {e : Error} (h : x.result = .error e) :
    (∃ l, x.due? = some l) ∧ x.after.persister = x.before.persister ∧ ¬ x.Writes := by
  cases hdue : x.due? with
  | none => simp [persisted_of_not_due hdue, Except.map] at h
  | some l =>
    rcases persisted_of_due hdue with ⟨folder, -, hp⟩ | ⟨f, folder, -, hp⟩
    · simp [hp, Except.map] at h
    · simp [Writes, hp]

/-- A file that is written holds the text of the snapshot, and one that is not is what it
was. -/
theorem read?_left (l : Location) (h : x.before.persister.location = some l) :
    (x.Writes → x.left.read? l.name = some x.snapshot.toText.toUTF8) ∧
      (¬ x.Writes → x.left.read? l.name = x.folder.read? l.name) := by
  cases hdue : x.due? with
  | none => simp [Writes, persisted_of_not_due hdue]
  | some l' =>
    obtain ⟨-, -, hl⟩ := Persister.due?_eq_some.1 hdue
    obtain rfl := Option.some.inj (h.symm.trans hl)
    have hother := (l.temporaryName_ne_name x.attempt.process x.attempt.thread).symm
    have htries := tries_of_due hdue
    rw [htries.left, htries.writes, write]
    rcases x.folder.replace_cases x.attempt.fault
        (l.temporaryName x.attempt.process x.attempt.thread) l.name x.snapshot.toText.toUTF8 with
      ⟨f, hf, hread, -⟩ | ⟨e, f, hf, hread⟩
    · rw [hf]
      exact ⟨fun _ => hread, fun h => absurd rfl h⟩
    · rw [hf]
      exact ⟨nofun, fun _ => hread l.name hother⟩

/-- Whether the snapshot file was written is known from then on. -/
theorem hasPersisted_after (x : Saving) :
    x.after.persister.hasPersisted = true ↔
      x.before.persister.hasPersisted = true ∨ x.Writes := by
  cases hdue : x.due? with
  | none => simp [Writes, persisted_of_not_due hdue]
  | some l =>
    obtain ⟨hnot, -, -⟩ := Persister.due?_eq_some.1 hdue
    rcases persisted_of_due hdue with ⟨folder, -, hp⟩ | ⟨e, folder, -, hp⟩ <;>
      simp [Writes, hp, hnot]

/-- Only a snapshot with something in it is written, to the place that the persister has, and
only if none was written before. -/
theorem due?_of_writes (h : x.Writes) : ∃ l, x.due? = some l := by
  cases hdue : x.due? with
  | none => simp [Writes, persisted_of_not_due hdue] at h
  | some l => exact ⟨l, rfl⟩

/-- If the answer is no error, a snapshot with something in it has been written by now. -/
theorem hasPersisted_of_ok {l : Location} (hl : x.before.persister.location = some l)
    (hfilled : x.snapshot.isEmpty = false) (hok : x.result = .ok ()) :
    x.after.persister.hasPersisted = true := by
  rw [hasPersisted_after]
  cases hbefore : x.before.persister.hasPersisted with
  | true => exact .inl rfl
  | false =>
    rcases persisted_of_due (Persister.due?_eq_some.2 ⟨hbefore, hfilled, hl⟩) with
      ⟨folder, -, hp⟩ | ⟨e, folder, -, hp⟩
    · exact .inr (by rw [Writes, hp])
    · simp [hp, Except.map] at hok

theorem location_after (x : Saving) :
    x.after.persister.location = x.before.persister.location := by
  cases hdue : x.due? with
  | none => simp [persisted_of_not_due hdue]
  | some l =>
    rcases persisted_of_due hdue with ⟨folder, -, hp⟩ | ⟨e, folder, -, hp⟩ <;> simp [hp]

/-- What holds of a saving by a coordinator whose snapshots have a certain place. -/
structure Lawful (location : Option Location) (x : Saving) : Prop where
  /-- A snapshot with something in it is written to its place unless one was written before. -/
  tries : ∀ l, location = some l → x.snapshot.isEmpty = false →
    x.before.persister.hasPersisted = false → x.Tries l
  /-- What is written is the snapshot of this moment, and that is the only way to learn that
  the snapshot was written. -/
  writes : x.Writes → x.result = .ok () ∧ x.before.persister.hasPersisted = false ∧
    x.after.persister.hasPersisted = true ∧
    ∃ l, location = some l ∧ x.left.read? l.name = some x.snapshot.toText.toUTF8
  /-- Without a write the snapshot file stays as it is. -/
  spares : ¬ x.Writes → x.after.persister = x.before.persister ∧
    ∀ l, location = some l → x.left.read? l.name = x.folder.read? l.name
  /-- Without a place, for an empty snapshot and after an earlier write nothing happens. -/
  idle : location = none ∨ x.snapshot.isEmpty = true ∨ x.before.persister.hasPersisted = true →
    ¬ x.Writes ∧ x.result = .ok () ∧ x.left = x.folder
  /-- A failed write is an error, and the snapshot counts as not written. -/
  fails : ∀ e, x.result = .error e → ¬ x.Writes ∧ x.after.persister.hasPersisted = false
  /-- When the test stops, every counter of iterations starts over. -/
  resets : ∀ identifier, x.after.producer.iteration? identifier =
    if x.testStops then (x.before.producer.iteration? identifier).map fun _ => 0
    else x.before.producer.iteration? identifier
  /-- Nothing else of the state changes. -/
  keeps : x.after.keystore = x.before.keystore ∧
    x.after.producer.scenarios = x.before.producer.scenarios ∧
    x.after.producer.tables = x.before.producer.tables ∧
    x.after.requestsHandled = x.before.requestsHandled

theorem lawful {location : Option Location} (h : x.before.persister.location = location) :
    x.Lawful location := by
  constructor
  · intro l hl hfilled hnot
    exact tries_of_due (Persister.due?_eq_some.2 ⟨hnot, hfilled, h.trans hl⟩)
  · intro hw
    obtain ⟨l, hdue⟩ := due?_of_writes hw
    obtain ⟨hnot, -, hl⟩ := Persister.due?_eq_some.1 hdue
    refine ⟨?_, hnot, x.hasPersisted_after.2 (.inr hw), l, h.symm.trans hl, ?_⟩
    · rw [result_eq, show x.persisted.1 = .ok true from hw]
      rfl
    · exact (read?_left l hl).1 hw
  · intro hw
    refine ⟨?_, fun l hl => (read?_left l (h.trans hl)).2 hw⟩
    cases hdue : x.due? with
    | none => simp [persisted_of_not_due hdue]
    | some l =>
      rcases persisted_of_due hdue with ⟨folder, -, hp⟩ | ⟨e, folder, -, hp⟩
      · simp [Writes, hp] at hw
      · simp [hp]
  · intro hidle
    have hdue : x.due? = none := by
      cases hdue : x.due? with
      | none => rfl
      | some l =>
        obtain ⟨hnot, hempty, hl⟩ := Persister.due?_eq_some.1 hdue
        simp [← h, hl, hempty, hnot] at hidle
    simp [Writes, persisted_of_not_due hdue, Except.map]
  · intro e he
    obtain ⟨⟨l, hdue⟩, hsame, hw⟩ := due?_of_error he
    exact ⟨hw, hsame ▸ (Persister.due?_eq_some.1 hdue).1⟩
  · intro identifier
    rw [after_eq]
    cases x.testStops with
    | true => exact Dict.get?_map _ _ _
    | false => rfl
  · rw [after_eq]
    cases x.testStops <;> exact ⟨rfl, rfl, rfl, rfl⟩

end Saving

/-! ## Tenures -/

/-- What can happen to a coordinator: a message comes, the test stops, or the run ends. -/
inductive Happening where
  | message (outside : Outside) (m : Message)
  | testStop (a : Attempt)
  | stop (a : Attempt)

/-- A message that came, and the coordinator that it met. -/
structure Delivery where
  before : Coordinator
  outside : Outside
  message : Message

namespace Delivery

/-- What became of the coordinator. -/
def after (x : Delivery) : Coordinator := (x.before.receive? x.outside x.message).2

/-- The exchange with the producer that the message led to. -/
def exchange? (x : Delivery) : Option Exchange := x.before.exchange? x.outside x.message

variable {x : Delivery}

theorem persister_after (x : Delivery) : x.after.persister = x.before.persister :=
  (x.before.receive?_leaves x.outside x.message).1

/-- An exchange moves the producer, and every other message leaves it alone. -/
theorem producer_after (x : Delivery) :
    x.after.producer = x.before.producerAfter x.exchange? :=
  (x.before.receive?_leaves x.outside x.message).2

theorem onward (h : x.before.producer.Filed) :
    x.after.producer.Filed ∧ x.before.producer.Onward x.after.producer := by
  rw [producer_after]
  cases hx : x.exchange? with
  | none => exact ⟨h, .refl _⟩
  | some y =>
    have hbefore : y.before = x.before.producer := Coordinator.before_of_exchange? hx
    rw [← hbefore] at h ⊢
    exact ⟨(y.handles h).filed h, (y.handles h).onward h⟩

end Delivery

/-- A coordinator with its folder, the messages that came, and the savings so far. -/
structure Tenure where
  coordinator : Coordinator
  folder : Folder
  deliveries : List Delivery := []
  savings : List Saving := []

namespace Tenure

/-- The tenure of a new coordinator. -/
def start (producer : Producer) (location : Option Location) (folder : Folder) : Tenure :=
  ⟨.make producer ⟨location, false⟩, folder, [], []⟩

/-- The snapshot is brought to the disk. -/
def save (t : Tenure) (testStops : Bool) (a : Attempt) : Tenure :=
  let x : Saving := ⟨t.coordinator, t.folder, a, testStops⟩
  { t with coordinator := x.after, folder := x.left, savings := t.savings ++ [x] }

def step (t : Tenure) : Happening → Tenure
  | .message outside m =>
    let x : Delivery := ⟨t.coordinator, outside, m⟩
    { t with coordinator := x.after, deliveries := t.deliveries ++ [x] }
  | .testStop a => t.save true a
  | .stop a => t.save false a

def run (t : Tenure) (happenings : List Happening) : Tenure := happenings.foldl step t

/-- What nothing that happens breaks holds after all of it. -/
theorem run_of_step {P : Tenure → Prop} (hstep : ∀ t h, P t → P (t.step h)) {t : Tenure}
    (ht : P t) (happenings : List Happening) : P (t.run happenings) := by
  induction happenings generalizing t with
  | nil => exact ht
  | cons h hs ih => exact ih (hstep t h ht)

/-- What is kept while things happen to a coordinator, from a producer and a folder on. -/
structure Kept (p : Producer) (location : Option Location) (folder : Folder) (t : Tenure) :
    Prop where
  filed : t.coordinator.producer.Filed
  onward : p.Onward t.coordinator.producer
  place : t.coordinator.persister.location = location
  /-- Every saving so far was one by this coordinator. -/
  lawful : ∀ x ∈ t.savings, x.Lawful location
  /-- Whether the snapshot was written is known. -/
  known : t.coordinator.persister.hasPersisted = true ↔ ∃ x ∈ t.savings, x.Writes
  /-- Of two savings one at most writes. -/
  once : t.savings.Pairwise fun x y => ¬ (x.Writes ∧ y.Writes)
  /-- The file holds the snapshot of the saving that wrote it. -/
  written : ∀ l, location = some l → ∀ x ∈ t.savings, x.Writes →
    t.folder.read? l.name = some x.snapshot.toText.toUTF8
  /-- Without such a saving the file is what it was. -/
  spared : ∀ l, location = some l → (∀ x ∈ t.savings, ¬ x.Writes) →
    t.folder.read? l.name = folder.read? l.name
  /-- A write that failed is due again. -/
  owed : ∀ x ∈ t.savings.getLast?, ∀ e, x.result = .error e →
    ∃ l, t.coordinator.persister.due? t.coordinator.producer.snapshot = some l
  /-- A write that failed is due at the next saving. -/
  again : t.savings.IsChain fun x y => ∀ e, x.result = .error e →
    ∃ l, location = some l ∧ y.due? = some l

variable {p : Producer} {location : Option Location} {folder : Folder} {t : Tenure}

theorem kept_start (hp : p.Filed) (location : Option Location) (folder : Folder) :
    Kept p location folder (start p location folder) := by
  constructor <;> simp [start, Coordinator.make, hp, Producer.Onward.refl]

/-- What is due stays due as long as only the counters of the producer move. -/
private theorem due?_onward {persister : Persister} {p p' : Producer} (h : p.Onward p') :
    persister.due? p'.snapshot = persister.due? p.snapshot := by
  unfold Persister.due?
  rw [h.isEmpty_snapshot]

namespace Kept

/-- A message changes nothing that savings are about. -/
theorem message (h : t.Kept p location folder) (outside : Outside) (m : Message) :
    (t.step (.message outside m)).Kept p location folder := by
  let x : Delivery := ⟨t.coordinator, outside, m⟩
  have honward := x.onward h.filed
  constructor
  · exact honward.1
  · exact h.onward.trans honward.2
  · exact (congrArg _ x.persister_after).trans h.place
  · exact h.lawful
  · show x.after.persister.hasPersisted = true ↔ _
    rw [x.persister_after]
    exact h.known
  · exact h.once
  · exact h.written
  · exact h.spared
  · intro y hy e he
    show ∃ l, x.after.persister.due? x.after.producer.snapshot = some l
    rw [x.persister_after, due?_onward honward.2]
    exact h.owed y hy e he
  · exact h.again

/-- Bringing the snapshot to the disk writes it if no saving before has written it. -/
theorem save (h : t.Kept p location folder) (testStops : Bool) (a : Attempt) :
    (t.save testStops a).Kept p location folder := by
  let x : Saving := ⟨t.coordinator, t.folder, a, testStops⟩
  have hlawful : x.Lawful location := Saving.lawful h.place
  have hsavings : (t.save testStops a).savings = t.savings ++ [x] := rfl
  -- the new saving writes only if none has written before
  have hfirst : x.Writes → ∀ y ∈ t.savings, ¬ y.Writes := by
    intro hx y hy hw
    have hnot := (hlawful.writes hx).2.1
    rw [h.known.2 ⟨y, hy, hw⟩] at hnot
    cases hnot
  constructor
  · exact Saving.filed (x := x) h.filed
  · exact h.onward.trans x.onward
  · exact x.location_after.trans h.place
  · intro y hy
    rcases List.mem_append.1 hy with hy | hy
    · exact h.lawful y hy
    · rw [List.mem_singleton.1 hy]
      exact hlawful
  · show x.after.persister.hasPersisted = true ↔ _
    rw [x.hasPersisted_after, h.known, hsavings]
    simp [or_and_right, exists_or]
  · rw [hsavings, List.pairwise_append]
    refine ⟨h.once, List.pairwise_singleton _ _, ?_⟩
    intro y hy z hz hboth
    rw [List.mem_singleton.1 hz] at hboth
    exact hfirst hboth.2 y hy hboth.1
  · intro l hl y hy hw
    have hread := Saving.read?_left (x := x) l (h.place.trans hl)
    rcases List.mem_append.1 hy with hy | hy
    · exact (hread.2 fun hx => hfirst hx y hy hw).trans (h.written l hl y hy hw)
    · rw [List.mem_singleton.1 hy] at hw ⊢
      exact hread.1 hw
  · intro l hl hnone
    have hread := Saving.read?_left (x := x) l (h.place.trans hl)
    exact (hread.2 (hnone x (by simp [hsavings]))).trans
      (h.spared l hl fun y hy => hnone y (by simp [hsavings, hy]))
  · intro y hy e he
    obtain rfl : x = y := by simpa [hsavings] using hy
    obtain ⟨hdue, hsame, -⟩ := Saving.due?_of_error he
    show ∃ l, x.after.persister.due? x.after.producer.snapshot = some l
    rw [hsame, due?_onward x.onward]
    exact hdue
  · rw [hsavings, List.isChain_append]
    refine ⟨h.again, List.isChain_singleton _, ?_⟩
    intro y hy z hz e he
    obtain rfl : x = z := by simpa using hz
    obtain ⟨l, hdue⟩ := h.owed y hy e he
    exact ⟨l, h.place.symm.trans (Persister.due?_eq_some.1 hdue).2.2, hdue⟩

theorem step (h : t.Kept p location folder) (happening : Happening) :
    (t.step happening).Kept p location folder := by
  cases happening with
  | message outside m => exact h.message outside m
  | testStop a => exact h.save true a
  | stop a => exact h.save false a

end Kept

/-- Everything is kept through a whole tenure. -/
theorem kept_run (hp : p.Filed) (location : Option Location) (folder : Folder)
    (happenings : List Happening) :
    Kept p location folder ((start p location folder).run happenings) :=
  run_of_step (fun _ happening h => h.step happening) (kept_start hp location folder) happenings

/-- What is known to be written stays so. -/
theorem hasPersisted_step (h : t.coordinator.persister.hasPersisted = true)
    (happening : Happening) :
    (t.step happening).coordinator.persister.hasPersisted = true := by
  cases happening with
  | message outside m =>
    exact (congrArg Persister.hasPersisted (Delivery.persister_after _)).trans h
  | testStop a => exact (Saving.hasPersisted_after _).2 (.inl h)
  | stop a => exact (Saving.hasPersisted_after _).2 (.inl h)

/-- Over a whole tenure, whatever is asked and whichever writes fail, the snapshot file is
written once at most, with the snapshot of that moment; the coordinator knows it from then on,
and a write that failed is tried again by the next saving. -/
theorem writes_once (scenarios : List Scenario) (tables : Dict Table)
    (location : Option Location) (folder : Folder) (happenings : List Happening) :
    let t := (start (.make scenarios tables) location folder).run happenings
    (t.savings.Pairwise fun x y => ¬ (x.Writes ∧ y.Writes)) ∧
    (t.coordinator.persister.hasPersisted = true ↔ ∃ x ∈ t.savings, x.Writes) ∧
    (∀ more, t.coordinator.persister.hasPersisted = true →
      (t.run more).coordinator.persister.hasPersisted = true) ∧
    (∀ l, location = some l →
      (∀ x ∈ t.savings, x.Writes → t.folder.read? l.name = some x.snapshot.toText.toUTF8) ∧
      (t.coordinator.persister.hasPersisted = false →
        t.folder.read? l.name = folder.read? l.name)) ∧
    (∀ x ∈ t.savings, x.Lawful location) ∧
    (t.savings.IsChain fun x y => ∀ e, x.result = .error e →
      ∃ l, location = some l ∧ y.Tries l) := by
  intro t
  have h : t.Kept _ location folder := kept_run (Producer.filed_make _ _) location folder happenings
  refine ⟨h.once, h.known, ?_, ?_, h.lawful, ?_⟩
  · intro more hpersisted
    exact run_of_step (P := fun t => t.coordinator.persister.hasPersisted = true)
      (fun _ happening h => hasPersisted_step h happening) hpersisted more
  · intro l hl
    refine ⟨h.written l hl, fun hnot => h.spared l hl fun x hx hw => ?_⟩
    rw [h.known.2 ⟨x, hx, hw⟩] at hnot
    cases hnot
  · refine h.again.imp fun x y hagain e he => ?_
    obtain ⟨l, hl, hdue⟩ := hagain e he
    exact ⟨l, hl, Saving.tries_of_due hdue⟩

end Tenure

end LoadTest
