import LoadTest.Proofs.Transport.Streams
import LoadTest.Transport.Hub
/-!
# Messages of a stream

The messages of a stream are those of the whole frames at its front, up to the first frame that
is too large or holds no message. The first message must announce a client id; then the others
count under this client id, and otherwise none does. What comes in later changes nothing about
the messages before it.
-/

namespace LoadTest

/-- The client id that a message announces. -/
def Message.announces? (m : Message) : Option String :=
  if m.topic = Message.readyTopic then m.nodeId else none

namespace Transport

/-! ## The messages of a stream -/

/-- A stream starts with the frames of some messages, and goes on with a rest. -/
inductive Holds : Bytes → List Message → Bytes → Prop where
  | nil {rest} : Holds rest [] rest
  | cons {stream payload behind rest m ms} (hfront : Frame.front stream = .payload payload behind)
      (hm : ofPayload payload = .ok m) (hbehind : Holds behind ms rest) :
      Holds stream (m :: ms) rest

/-- There is no whole frame at the front of a stream. -/
def Pending (rest : Bytes) : Prop := Frame.front rest = .incomplete

/-- The frame at the front of a stream is too large or holds no message. -/
inductive Broken (rest : Bytes) : Prop where
  | oversized {size} (hfront : Frame.front rest = .oversized size)
  | undecodable {payload behind e} (hfront : Frame.front rest = .payload payload behind)
      (he : ofPayload payload = .error e)

namespace Frame

variable {stream payload rest : Bytes}

/-- A frame stays at the front when more comes in. -/
theorem front_append_payload (h : front stream = .payload payload rest) (bytes : Bytes) :
    front (stream ++ bytes) = .payload payload (rest ++ bytes) := by
  obtain ⟨hsize, rfl⟩ := eq_of_front h
  rw [List.append_assoc, front_write (write_of_le hsize), if_neg (Nat.not_lt.2 hsize)]

theorem front_append_oversized {size : Nat} (h : front stream = .oversized size) (bytes : Bytes) :
    front (stream ++ bytes) = .oversized size := by
  unfold front at h ⊢
  split at h
  · cases h
  · next hheader =>
    rw [if_neg (by rw [List.length_append]; omega),
      List.take_append_of_le_length (Nat.not_lt.1 hheader)]
    dsimp only at h ⊢
    split at h
    · next hsize => rwa [if_pos hsize]
    · split at h <;> cases h

/-- A frame takes at least its header from the stream. -/
theorem length_of_front (h : front stream = .payload payload rest) :
    rest.length + headerSize ≤ stream.length := by
  obtain ⟨-, rfl⟩ := eq_of_front h
  simp only [List.length_append, length_bigEndian]
  omega

end Frame

theorem pending_nil : Pending [] := rfl

theorem Broken.not_pending {rest : Bytes} (h : Broken rest) : ¬ Pending rest := by
  intro hpending
  cases h with
  | oversized hfront => cases hfront.symm.trans hpending
  | undecodable hfront => cases hfront.symm.trans hpending

/-- What is broken is not mended by what comes in later. -/
theorem Broken.append {rest : Bytes} (h : Broken rest) (bytes : Bytes) :
    Broken (rest ++ bytes) := by
  cases h with
  | oversized hfront => exact .oversized (Frame.front_append_oversized hfront bytes)
  | undecodable hfront he => exact .undecodable (Frame.front_append_payload hfront bytes) he

namespace Holds

variable {stream behind rest rest' : Bytes} {ms ms' : List Message}

theorem append (h : Holds stream ms rest) (bytes : Bytes) :
    Holds (stream ++ bytes) ms (rest ++ bytes) := by
  induction h with
  | nil => exact .nil
  | cons hfront hm _ ih => exact .cons (Frame.front_append_payload hfront bytes) hm ih

theorem trans (h : Holds stream ms behind) (h' : Holds behind ms' rest) :
    Holds stream (ms ++ ms') rest := by
  induction h with
  | nil => exact h'
  | cons hfront hm _ ih => exact .cons hfront hm (ih h')

/-- There is one way to read a stream as far as it can be read. -/
theorem unique (h : Holds stream ms rest) (hends : Pending rest ∨ Broken rest)
    (h' : Holds stream ms' rest') (hends' : Pending rest' ∨ Broken rest') :
    ms = ms' ∧ rest = rest' := by
  have hstuck : ∀ {rest payload behind : Bytes} {m : Message}, Pending rest ∨ Broken rest →
      Frame.front rest = .payload payload behind → ofPayload payload = .ok m → False := by
    rintro rest payload behind m (hpending | ⟨hover⟩ | ⟨hbroken, he⟩) hfront hm
    · cases hpending.symm.trans hfront
    · cases hover.symm.trans hfront
    · cases hbroken.symm.trans hfront
      cases he.symm.trans hm
  induction h generalizing ms' with
  | nil =>
    cases h' with
    | nil => exact ⟨rfl, rfl⟩
    | cons hfront hm => exact (hstuck hends hfront hm).elim
  | cons hfront hm _ ih =>
    cases h' with
    | nil => exact (hstuck hends' hfront hm).elim
    | cons hfront' hm' h' =>
      cases hfront.symm.trans hfront'
      cases hm.symm.trans hm'
      obtain ⟨rfl, rfl⟩ := ih hends h'
      exact ⟨rfl, rfl⟩

end Holds

/-- A stream can be read until its next frame is not there yet or is broken. -/
theorem exists_holds (stream : Bytes) :
    ∃ ms rest, Holds stream ms rest ∧ (Pending rest ∨ Broken rest) := by
  induction hlength : stream.length using Nat.strong_induction_on generalizing stream with
  | h n ih =>
    cases hfront : Frame.front stream with
    | incomplete => exact ⟨[], stream, .nil, .inl hfront⟩
    | oversized size => exact ⟨[], stream, .nil, .inr (.oversized hfront)⟩
    | payload payload behind =>
      cases hm : ofPayload payload with
      | error e => exact ⟨[], stream, .nil, .inr (.undecodable hfront hm)⟩
      | ok m =>
        have hshort : behind.length < n := by
          have := Frame.length_of_front hfront
          simp only [Frame.headerSize] at this
          omega
        obtain ⟨ms, rest, hholds, hends⟩ := ih behind.length hshort behind rfl
        exact ⟨m :: ms, rest, .cons hfront hm hholds, hends⟩

/-! ## The client id of a stream -/

/-- The client id of a connection after some messages: it was known before, or the first message
announces it. -/
def clientAfter : Option String → List Message → Option String
  | some client, _ => some client
  | none, [] => none
  | none, m :: _ => m.announces?

/-- What reaches the inbox of some messages: those behind the one that announces a client id,
under this client id. -/
def delivered : Option String → List Message → List Message
  | some client, ms => ms.map (Hub.stamp client)
  | none, [] => []
  | none, m :: ms => m.announces?.elim [] fun client => ms.map (Hub.stamp client)

/-- No message ends the connection: there is none yet, or a client id is known. -/
def Welcome (known : Option String) (ms : List Message) : Prop :=
  ms = [] ∨ (clientAfter known ms).isSome

variable {known : Option String} {ms : List Message}

theorem clientAfter_nil (known : Option String) : clientAfter known [] = known := by
  cases known <;> rfl

theorem delivered_nil (known : Option String) : delivered known [] = [] := by
  cases known <;> rfl

theorem Welcome.clientAfter_append (h : Welcome known ms) (ms' : List Message) :
    clientAfter known (ms ++ ms') = clientAfter (clientAfter known ms) ms' := by
  cases known with
  | some => rfl
  | none =>
    cases ms with
    | nil => rfl
    | cons m ms =>
      obtain ⟨client, hclient⟩ := Option.isSome_iff_exists.1 (h.resolve_left nofun)
      rw [hclient]
      exact hclient

theorem Welcome.delivered_append (h : Welcome known ms) (ms' : List Message) :
    delivered known (ms ++ ms') = delivered known ms ++ delivered (clientAfter known ms) ms' := by
  cases known with
  | some => exact List.map_append
  | none =>
    cases ms with
    | nil => rfl
    | cons m ms =>
      obtain ⟨client, hclient⟩ := Option.isSome_iff_exists.1 (h.resolve_left nofun)
      have hannounces : m.announces? = some client := hclient
      simp only [List.cons_append, delivered, clientAfter, hannounces, Option.elim_some,
        List.map_append]

theorem Welcome.append_iff (h : Welcome known ms) (ms' : List Message) :
    Welcome known (ms ++ ms') ↔ Welcome (clientAfter known ms) ms' := by
  rw [Welcome, h.clientAfter_append, Welcome]
  cases ms with
  | nil => rw [List.nil_append]
  | cons m ms =>
    have hsome : (clientAfter (clientAfter known (m :: ms)) ms').isSome := by
      obtain ⟨client, hclient⟩ := Option.isSome_iff_exists.1 (h.resolve_left nofun)
      rw [hclient]
      rfl
    exact iff_of_true (.inr hsome) (.inr hsome)

/-- The first message decides. -/
theorem welcome_cons_iff {m : Message} :
    Welcome known (m :: ms) ↔ (clientAfter known [m]).isSome := by
  cases known <;> simp [Welcome, clientAfter]

/-- Once a message was not welcome, the later ones do not matter. -/
theorem not_welcome_append (h : ¬ Welcome known ms) (ms' : List Message) :
    ¬ Welcome known (ms ++ ms') := by
  cases ms with
  | nil => exact (h (.inl rfl)).elim
  | cons m ms =>
    rw [List.cons_append, welcome_cons_iff]
    rwa [welcome_cons_iff] at h

/-- Where a message was not welcome, no client id is known and nothing reaches the inbox. -/
theorem of_not_welcome (h : ¬ Welcome known ms) :
    known = none ∧ clientAfter known ms = none ∧ delivered known ms = [] := by
  cases known with
  | some => exact (h (.inr rfl)).elim
  | none =>
    cases ms with
    | nil => exact (h (.inl rfl)).elim
    | cons m ms =>
      have hnone : m.announces? = none := by
        cases hm : m.announces? with
        | none => rfl
        | some client => exact (h (.inr (congrArg Option.isSome hm))).elim
      exact ⟨rfl, hnone, by rw [delivered, hnone, Option.elim_none]⟩

end Transport

end LoadTest
