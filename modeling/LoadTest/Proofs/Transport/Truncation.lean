import LoadTest.Proofs.Transport.Streams
/-!
# Streams that are cut off

A stream may end in the middle of a frame. The frames before it are read all the same. A cut
behind the header of a frame is noticed, as the payload falls short of its length; a cut inside
the header is not, and looks like the end of a stream of whole frames.
-/

namespace LoadTest.Transport

namespace Frame

/-- A stream ends without an error exactly if it has less than a header left. -/
theorem read_eq_none_iff {stream : Bytes} :
    read stream = .ok none ↔ stream.length < headerSize := by
  by_cases hheader : stream.length < headerSize
  · simp [read, front, hheader]
  · rw [read]
    split <;> simp [hheader]

/-- A frame that is cut off behind its header holds no payload. -/
theorem front_take {payload bytes : Bytes} (h : write payload = .ok bytes)
    (hsize : payload.length ≤ maxSize) {k : ℕ} (hheader : headerSize ≤ k)
    (hcut : k < bytes.length) : front (bytes.take k) = .incomplete := by
  obtain ⟨hfits, rfl⟩ := eq_of_write h
  have hwidth := length_bigEndian headerSize payload.length
  have hnumber : ofBigEndian (bigEndian headerSize payload.length) = payload.length := by
    rw [ofBigEndian_bigEndian, Nat.mod_eq_of_lt hfits]
  have hshort : (payload.take (k - headerSize)).length < payload.length := by
    rw [List.length_append, hwidth] at hcut
    rw [List.length_take]
    omega
  rw [List.take_append, List.take_of_length_le (hwidth.trans_le hheader), hwidth, front,
    if_neg (by rw [List.length_append, hwidth]; omega), List.take_left' hwidth,
    List.drop_left' hwidth, hnumber]
  dsimp only
  rw [if_neg (Nat.not_lt.2 hsize), if_pos hshort]

/-- A frame that is cut off is read as an error if its header is whole, and as the end of the
stream otherwise. -/
theorem read_take {payload bytes : Bytes} (h : write payload = .ok bytes)
    (hsize : payload.length ≤ maxSize) {k : ℕ} (hcut : k < bytes.length) :
    read (bytes.take k) = if k < headerSize then .ok none else .error (.io "" none) := by
  have hlength : (bytes.take k).length = k := List.length_take_of_le hcut.le
  split
  · next hheader => exact read_eq_none_iff.2 (hlength.trans_lt hheader)
  · next hheader =>
    rw [read, front_take h hsize (Nat.not_lt.1 hheader) hcut]
    dsimp only
    rw [hlength, if_neg hheader]

/-! ## Messages -/

/-- A reader of messages meets the end of a stream, or an error that ends the stream, exactly
where a reader of frames does. -/
theorem readMessage_ends_iff {stream : Bytes} {e : Error} :
    (readMessage stream = .ok none ↔ read stream = .ok none) ∧
      (readMessage stream = .error e ↔ read stream = .error e) := by
  unfold readMessage
  cases read stream with
  | error e' => simp
  | ok next => cases next <;> simp

/-! ## Streams -/

/-- A stream that is cut off before the end of a frame gives the payloads of all frames before
this one. Then it ends with an error if the header of the frame is whole, and without one
otherwise. So any stream ends without an error exactly where less than a header is left, which
need not be behind a whole frame; and the messages of a stream end where its frames do, and in
the same way. -/
theorem cut_noticed_behind_header {payloads : List Bytes} {payload : Bytes}
    (hsizes : ∀ p ∈ payload :: payloads, p.length ≤ maxSize) :
    (∃ bytes frame, writeAll payloads = .ok bytes ∧ write payload = .ok frame ∧
      ∀ k < frame.length,
        readMany? payloads.length (bytes ++ frame.take k) = some (payloads, frame.take k) ∧
        read (frame.take k) = if k < headerSize then .ok none else .error (.io "" none)) ∧
    (∀ stream, read stream = .ok none ↔ stream.length < headerSize) ∧
    ∀ stream e, (readMessage stream = .ok none ↔ read stream = .ok none) ∧
      (readMessage stream = .error e ↔ read stream = .error e) := by
  refine ⟨?_, fun _ => read_eq_none_iff, fun _ _ => readMessage_ends_iff⟩
  obtain ⟨hsize, hsizes⟩ := List.forall_mem_cons.1 hsizes
  obtain ⟨bytes, hbytes⟩ := exists_writeAll hsizes
  refine ⟨bytes, _, hbytes, write_of_le hsize, fun k hcut => ⟨?_, ?_⟩⟩
  · exact readMany?_eq_some_iff.2 ⟨rfl, hsizes, bytes, hbytes, rfl⟩
  · exact read_take (write_of_le hsize) hsize hcut

/-- Two payloads are read in front of a third one of which a byte is missing. -/
theorem cut_noticed_in_third : (∀ p ∈ ([[8, 9], [7], []] : List Bytes), p.length ≤ maxSize) ∧
    ∃ bytes frame, writeAll [[7], []] = .ok bytes ∧ write [8, 9] = .ok frame ∧
      readMany? 2 (bytes ++ frame.take 5) = some ([[7], []], frame.take 5) ∧
      read (frame.take 5) = .error (.io "" none) := by
  have hsizes : ∀ p ∈ ([[8, 9], [7], []] : List Bytes), p.length ≤ maxSize := by decide
  refine ⟨hsizes, ?_⟩
  obtain ⟨bytes, frame, hbytes, hframe, hcut⟩ := (cut_noticed_behind_header hsizes).1
  refine ⟨bytes, frame, hbytes, hframe, ?_⟩
  cases hframe
  exact hcut 5 (by decide)

/-- Two bytes of a header behind a whole frame are more than nothing and less than a frame, but
the stream ends as if they were not there. -/
theorem cut_header_unnoticed : ∃ bytes frame, write [7] = .ok bytes ∧ write [8, 9] = .ok frame ∧
    0 < 2 ∧ 2 < frame.length ∧
      readMany? 1 (bytes ++ frame.take 2) = some ([[7]], frame.take 2) ∧
      ¬ ∃ e, read (frame.take 2) = .error e := by
  refine ⟨_, _, rfl, rfl, by decide, by decide, by decide +kernel, ?_⟩
  rintro ⟨e, he⟩
  cases he

end Frame

end LoadTest.Transport
