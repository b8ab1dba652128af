import LoadTest.Proofs.Transport.Frames
/-!
# Streams of frames

Frames delimit themselves: payloads that were written one after another are read one after
another, and what was read so far is exactly what writing the payloads gives. So no byte of
one frame is ever taken for a byte of another.
-/

namespace LoadTest.Transport.Frame

/-! ## One frame -/

/-- The number in some bytes is written as these bytes. -/
theorem bigEndian_ofBigEndian (bytes : Bytes) :
    bigEndian bytes.length (ofBigEndian bytes) = bytes := by
  induction bytes using List.reverseRecOn with
  | nil => rfl
  | append_singleton bytes b ih =>
    have hb : b.toNat < 256 := b.toNat_lt
    have hhigh : (ofBigEndian bytes * 256 + b.toNat) / 256 = ofBigEndian bytes := by omega
    have hlow : (ofBigEndian bytes * 256 + b.toNat) % 256 = b.toNat := by omega
    rw [List.length_append, List.length_singleton, ofBigEndian_append_singleton, bigEndian,
      hhigh, hlow, ih, UInt8.ofNat_toNat]

/-- A payload that is not too large fits a frame. -/
theorem write_of_le {payload : Bytes} (h : payload.length ≤ maxSize) :
    write payload = .ok (bigEndian headerSize payload.length ++ payload) :=
  write_of_lt payload (Nat.lt_of_le_of_lt h (by decide))

/-- The front of a stream is a payload only if the stream starts as the payload is written. -/
theorem eq_of_front {stream payload rest : Bytes} (h : front stream = .payload payload rest) :
    payload.length ≤ maxSize ∧
      stream = bigEndian headerSize payload.length ++ payload ++ rest := by
  unfold front at h
  split at h
  · cases h
  · next hheader =>
    dsimp only at h
    split at h
    · cases h
    · next hsize =>
      split at h
      · cases h
      · next hbehind =>
        cases h
        have hlength : ((stream.drop headerSize).take
            (ofBigEndian (stream.take headerSize))).length =
              ofBigEndian (stream.take headerSize) :=
          List.length_take_of_le (Nat.not_lt.1 hbehind)
        have hwidth : (stream.take headerSize).length = headerSize :=
          List.length_take_of_le (Nat.not_lt.1 hheader)
        have hwritten : bigEndian headerSize (ofBigEndian (stream.take headerSize)) =
            stream.take headerSize := by
          have hinverse := bigEndian_ofBigEndian (stream.take headerSize)
          rwa [hwidth] at hinverse
        rw [hlength, hwritten, List.append_assoc, List.take_append_drop, List.take_append_drop]
        exact ⟨Nat.not_lt.1 hsize, rfl⟩

/-- A payload is read exactly if it is not too large and the stream starts as it is written. -/
theorem read_eq_payload_iff {stream payload rest : Bytes} :
    read stream = .ok (some (payload, rest)) ↔
      payload.length ≤ maxSize ∧ ∃ bytes, write payload = .ok bytes ∧ stream = bytes ++ rest := by
  constructor
  · intro h
    unfold read at h
    split at h
    · next hfront =>
      cases h
      obtain ⟨hsize, hstream⟩ := eq_of_front hfront
      exact ⟨hsize, _, write_of_le hsize, hstream⟩
    · cases h
    · split at h <;> cases h
  · rintro ⟨hsize, bytes, hwrite, rfl⟩
    rw [read_write hwrite, if_neg (Nat.not_lt.2 hsize)]

/-! ## One frame after another -/

/-- Some payloads in frames, one behind the other. -/
def writeAll : List Bytes → Except Error Bytes
  | [] => .ok []
  | payload :: payloads => do
    let bytes ← write payload
    let rest ← writeAll payloads
    return bytes ++ rest

/-- The payloads of a number of reads, and the stream behind them, if each read finds one. -/
def readMany? : Nat → Bytes → Option (List Bytes × Bytes)
  | 0, stream => some ([], stream)
  | n + 1, stream =>
    match read stream with
    | .ok (some (payload, behind)) =>
      (readMany? n behind).map fun r => (payload :: r.1, r.2)
    | _ => none

theorem writeAll_cons {payload : Bytes} {payloads : List Bytes} {bytes : Bytes} :
    writeAll (payload :: payloads) = .ok bytes ↔
      ∃ frame rest, write payload = .ok frame ∧ writeAll payloads = .ok rest ∧
        bytes = frame ++ rest := by
  rw [writeAll]
  cases write payload with
  | error e => simp [bind, Except.bind]
  | ok frame =>
    cases writeAll payloads with
    | error e => simp [bind, Except.bind]
    | ok rest => simp [bind, Except.bind, pure, Except.pure, eq_comm]

theorem readMany?_succ {n : ℕ} {stream rest : Bytes} {payloads : List Bytes} :
    readMany? (n + 1) stream = some (payloads, rest) ↔
      ∃ payload behind others, read stream = .ok (some (payload, behind)) ∧
        readMany? n behind = some (others, rest) ∧ payloads = payload :: others := by
  rw [readMany?]
  split
  · next payload behind hread =>
    simp only [hread, Option.map_eq_some_iff, Prod.exists, Prod.mk.injEq, Except.ok.injEq,
      Option.some.injEq]
    constructor
    · rintro ⟨others, behind', hothers, rfl, rfl⟩
      exact ⟨payload, behind, others, ⟨rfl, rfl⟩, hothers, rfl⟩
    · rintro ⟨_, _, others, ⟨rfl, rfl⟩, hothers, rfl⟩
      exact ⟨others, rest, hothers, rfl, rfl⟩
  · next hnone =>
    simp only [reduceCtorEq, false_iff, not_exists, not_and]
    intro payload behind others hread
    exact absurd hread (hnone payload behind)

/-- Payloads that are not too large can be written one behind the other. -/
theorem exists_writeAll {payloads : List Bytes} (h : ∀ p ∈ payloads, p.length ≤ maxSize) :
    ∃ bytes, writeAll payloads = .ok bytes := by
  induction payloads with
  | nil => exact ⟨[], rfl⟩
  | cons payload payloads ih =>
    obtain ⟨rest, hrest⟩ := ih fun p hp => h p (List.mem_cons_of_mem _ hp)
    exact ⟨_, writeAll_cons.2 ⟨_, rest, write_of_le (h payload List.mem_cons_self), hrest, rfl⟩⟩

/-- A number of reads finds some payloads exactly if none of them is too large and the stream
starts with their frames. -/
theorem readMany?_eq_some_iff {n : ℕ} {stream rest : Bytes} {payloads : List Bytes} :
    readMany? n stream = some (payloads, rest) ↔
      payloads.length = n ∧ (∀ p ∈ payloads, p.length ≤ maxSize) ∧
        ∃ bytes, writeAll payloads = .ok bytes ∧ stream = bytes ++ rest := by
  induction n generalizing stream payloads with
  | zero =>
    rw [readMany?, List.length_eq_zero_iff]
    constructor
    · intro h
      cases h
      exact ⟨rfl, nofun, [], rfl, rfl⟩
    · rintro ⟨rfl, -, bytes, hbytes, rfl⟩
      cases hbytes
      rfl
  | succ n ih =>
    rw [readMany?_succ]
    constructor
    · rintro ⟨payload, behind, others, hread, hothers, rfl⟩
      obtain ⟨hsize, frame, hframe, rfl⟩ := read_eq_payload_iff.1 hread
      obtain ⟨rfl, hsizes, bytes, hbytes, rfl⟩ := ih.1 hothers
      refine ⟨rfl, List.forall_mem_cons.2 ⟨hsize, hsizes⟩, frame ++ bytes, ?_, ?_⟩
      · exact writeAll_cons.2 ⟨frame, bytes, hframe, hbytes, rfl⟩
      · rw [List.append_assoc]
    · rintro ⟨hlength, hsizes, bytes, hbytes, rfl⟩
      cases payloads with
      | nil => cases hlength
      | cons payload others =>
        obtain ⟨hsize, hsizes⟩ := List.forall_mem_cons.1 hsizes
        obtain ⟨frame, tail, hframe, htail, rfl⟩ := writeAll_cons.1 hbytes
        refine ⟨payload, tail ++ rest, others, ?_, ?_, rfl⟩
        · rw [List.append_assoc]
          exact read_eq_payload_iff.2 ⟨hsize, frame, hframe, rfl⟩
        · exact ih.2 ⟨Nat.succ.inj hlength, hsizes, tail, htail, rfl⟩

/-- Payloads of any sizes up to the largest one that is read, the empty one among them, can be
written one behind the other; reading finds them again in their order and then the end of the
stream. And from whatever stream some payloads are read, the bytes that these reads have
consumed are the frames of the payloads, so that the rest of the stream is left alone. -/
theorem self_delimiting :
    (∀ payloads : List Bytes, (∀ p ∈ payloads, p.length ≤ maxSize) →
      ∃ bytes, writeAll payloads = .ok bytes ∧
        readMany? payloads.length bytes = some (payloads, []) ∧ read [] = .ok none) ∧
    ∀ n stream payloads rest, readMany? n stream = some (payloads, rest) →
      payloads.length = n ∧ ∃ bytes, writeAll payloads = .ok bytes ∧ stream = bytes ++ rest := by
  constructor
  · intro payloads hsizes
    obtain ⟨bytes, hbytes⟩ := exists_writeAll hsizes
    refine ⟨bytes, hbytes, ?_, rfl⟩
    exact readMany?_eq_some_iff.2 ⟨rfl, hsizes, bytes, hbytes, (List.append_nil bytes).symm⟩
  · intro n stream payloads rest hread
    obtain ⟨hlength, -, hbytes⟩ := readMany?_eq_some_iff.1 hread
    exact ⟨hlength, hbytes⟩

/-- The empty payload and the largest one are delimited; so are three payloads in front of one
byte of a header. -/
theorem self_delimiting_at_limits :
    (∃ bytes, writeAll [[], List.replicate maxSize 0] = .ok bytes ∧
      readMany? 2 bytes = some ([[], List.replicate maxSize 0], []) ∧ read [] = .ok none) ∧
    readMany? 3 [0, 0, 0, 1, 7, 0, 0, 0, 0, 0, 0, 0, 2, 8, 9, 0] =
      some ([[7], [], [8, 9]], [0]) ∧
    ∃ bytes, writeAll [[7], [], [8, 9]] = .ok bytes ∧
      [0, 0, 0, 1, 7, 0, 0, 0, 0, 0, 0, 0, 2, 8, 9, 0] = bytes ++ [0] := by
  have hsizes : ∀ p ∈ [[], List.replicate maxSize (0 : UInt8)], p.length ≤ maxSize := by
    simp
  have hread : readMany? 3 [0, 0, 0, 1, 7, 0, 0, 0, 0, 0, 0, 0, 2, 8, 9, 0] =
      some ([[7], [], [8, 9]], [0]) := by
    decide +kernel
  exact ⟨self_delimiting.1 _ hsizes, hread, (self_delimiting.2 _ _ _ _ hread).2⟩

end LoadTest.Transport.Frame
