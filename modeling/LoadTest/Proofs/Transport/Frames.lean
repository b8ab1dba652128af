import LoadTest.Proofs.Json.Printed
import LoadTest.Proofs.Text.Symbols
import LoadTest.Transport.Frame
/-!
# Messages through frames

A message that is written to a stream stands there behind a header, and is read from it
again, unless it is too large or too deep for the reader: the writer accepts every payload
whose length fits the header, and values of any depth, but the reader bounds both.
-/

namespace LoadTest

open Json

/-! ## Payloads -/

/-- A message is read as it was written. -/
theorem Message.ofJson_toJson (m : Message) : Message.ofJson m.toJson = .ok m := by
  obtain ⟨topic, nodeId, data⟩ := m
  show Message.ofJson (.obj (Dict.ofList (Message.fields _)).entries) = _
  simp only [Message.ofJson, field?_ofList, Message.fields]
  cases nodeId <;>
    simp [Dict.lookup_cons, optional_asString_str, asString, asIs, required, Except.map, bind,
      Except.bind, pure, Except.pure]

namespace Transport

theorem reads_text (t : String) (levels : Nat) :
    Reads (Shape.text levels) (compactChars (.str t)) (within levels (.str t)) := by
  intro s _
  have htext (r : List Text.Symbol) :
      Shape.text levels (some '"' :: r) = mapRead .str (string r) := by
    rw [Shape.text, skipBlanks_of_ne (by decide) (by decide) (by decide) (by decide)]
    rfl
  show Shape.text levels ((stringChars t).map some ++ s) = _
  rw [map_stringChars, htext, string_stringChars, within]
  cases levels <;> rfl

theorem reads_optional_text (t : String) (levels : Nat) :
    Reads (Shape.optional Shape.text levels) (compactChars (.str t)) (within levels (.str t)) := by
  intro s hs
  rw [← reads_text t levels s hs]
  show Shape.optional Shape.text levels ((stringChars t).map some ++ s) =
    Shape.text levels ((stringChars t).map some ++ s)
  rw [map_stringChars, Shape.optional,
    skipBlanks_of_ne (by decide) (by decide) (by decide) (by decide)]
  rfl

/-- A field of a message is its topic, its client id or its data. -/
theorem mem_fields {m : Message} {e : String × Json} (h : e ∈ m.fields) :
    e = ("topic", .str m.topic) ∨ (∃ n, e = ("node_id", .str n)) ∨ e = ("data", m.data) := by
  obtain ⟨topic, nodeId, data⟩ := m
  cases nodeId <;> simp [Message.fields] at h ⊢ <;> tauto

/-- The text of a message is read as the record of its fields, unless its data are too deep. -/
theorem reads_messageShape {m : Message} (h : m.data.Exact) (levels : Nat) :
    Reads (messageShape (levels + 1)) (compactChars (.obj m.fields))
      (if m.data.isDeeperThan levels then .error .malformed else .ok m.toJson) := by
  have hdeep : (m.fields.any fun e => isDeeperThan levels e.2) = m.data.isDeeperThan levels := by
    obtain ⟨topic, nodeId, data⟩ := m
    cases levels <;> cases nodeId <;> simp [Message.fields, isDeeperThan]
  rw [← hdeep]
  refine Shape.reads_record ?keys ?known ?required
  case keys =>
    obtain ⟨topic, nodeId, data⟩ := m
    cases nodeId <;> simp [Message.fields]
  case known =>
    intro e he
    rcases mem_fields he with rfl | ⟨n, rfl⟩ | rfl
    · exact ⟨_, rfl, reads_text m.topic levels⟩
    · exact ⟨_, rfl, reads_optional_text n levels⟩
    · exact ⟨_, rfl, h.reads levels⟩
  case required =>
    simp [Message.fields]

/-- A payload is read as the message that was written to it, unless the data of the message
have more than 126 levels: the message itself is one level around them. -/
theorem ofPayload_toPayload {m : Message} (h : m.data.Exact) :
    ofPayload (toPayload m) =
      if m.data.isDeeperThan 126 then .error (.ofFault .malformed) else .ok m := by
  have htext : Text.decode (toPayload m) = (compactChars (.obj m.fields)).map some := by
    rw [toPayload, bytesOf, Text.decode_toUTF8, Text.symbols, Message.wire, compact,
      String.toList_ofList]
  have hparse : parseAs messageShape (Text.decode (toPayload m)) =
      if m.data.isDeeperThan 126 then .error .malformed else .ok m.toJson := by
    rw [htext]
    exact document_of_reads (reads_messageShape h 126)
  rw [ofPayload, decodeText, hparse]
  by_cases hdeep : m.data.isDeeperThan 126 = true
  · rw [if_pos hdeep, if_pos hdeep]
    rfl
  · rw [if_neg hdeep, if_neg hdeep]
    dsimp only
    rw [Message.ofJson_toJson]
    rfl

/-! ## Frames -/

namespace Frame

/-- A payload whose length fits a header is written. -/
theorem write_of_lt (payload : Bytes) (h : payload.length < Nat.pow 256 headerSize) :
    write payload = .ok (bigEndian headerSize payload.length ++ payload) := if_pos h

/-- Only such a payload is written. -/
theorem eq_of_write {payload bytes : Bytes} (h : write payload = .ok bytes) :
    payload.length < Nat.pow 256 headerSize ∧
      bytes = bigEndian headerSize payload.length ++ payload := by
  rw [write] at h
  split at h
  · next hfits => exact ⟨hfits, (Except.ok.inj h).symm⟩
  · cases h

/-- At the front of a stream that starts with a written payload is that payload, unless it is
too large. -/
theorem front_write {payload bytes : Bytes} (h : write payload = .ok bytes) (rest : Bytes) :
    front (bytes ++ rest) =
      if maxSize < payload.length then .oversized payload.length
      else .payload payload rest := by
  obtain ⟨hfits, rfl⟩ := eq_of_write h
  have hlength : ¬ (bigEndian headerSize payload.length ++ payload ++ rest).length <
      headerSize := by
    simp only [List.length_append, length_bigEndian]
    omega
  have hheader : (bigEndian headerSize payload.length ++ payload ++ rest).take headerSize =
      bigEndian headerSize payload.length := by
    rw [List.append_assoc, List.take_left' (length_bigEndian _ _)]
  have hbehind : (bigEndian headerSize payload.length ++ payload ++ rest).drop headerSize =
      payload ++ rest := by
    rw [List.append_assoc, List.drop_left' (length_bigEndian _ _)]
  have hsize : ofBigEndian (bigEndian headerSize payload.length) = payload.length := by
    rw [ofBigEndian_bigEndian, Nat.mod_eq_of_lt hfits]
  rw [front, if_neg hlength, hheader, hbehind, hsize]
  dsimp only
  rw [if_neg (show ¬ (payload ++ rest).length < payload.length by simp),
    List.take_left, List.drop_left]

/-- A written payload is read again, unless it is too large. -/
theorem read_write {payload bytes : Bytes} (h : write payload = .ok bytes) (rest : Bytes) :
    read (bytes ++ rest) =
      if maxSize < payload.length then .error (oversizedError payload.length)
      else .ok (some (payload, rest)) := by
  rw [read, front_write h]
  by_cases hlarge : maxSize < payload.length
  · rw [if_pos hlarge, if_pos hlarge]
  · rw [if_neg hlarge, if_neg hlarge]

end Frame

/-! ## Messages -/

/-- Whatever payload of a message is not too large is taken off the stream. -/
theorem readMessage_append {m : Message} {bytes : Bytes} (hwrite : writeMessage m = .ok bytes)
    (hsize : (toPayload m).length ≤ Frame.maxSize) (rest : Bytes) :
    readMessage (bytes ++ rest) = .ok (some (ofPayload (toPayload m), rest)) := by
  rw [readMessage, Frame.read_write hwrite, if_neg (Nat.not_lt.2 hsize)]

/-- A message that was written is read again, and what stands behind it is left alone, unless
its payload is larger than the reader takes, or its data have more than 126 levels. A payload
that is too large is refused at its header; one that is too deep is taken off the stream, but
holds no message. -/
theorem readMessage_writeMessage {m : Message} {bytes : Bytes} (hdata : m.data.Exact)
    (hwrite : writeMessage m = .ok bytes) (rest : Bytes) :
    readMessage (bytes ++ rest) =
      if Frame.maxSize < (toPayload m).length then
        .error (Frame.oversizedError (toPayload m).length)
      else if m.data.isDeeperThan 126 then .ok (some (.error (.ofFault .malformed), rest))
      else .ok (some (.ok m, rest)) := by
  by_cases hlarge : Frame.maxSize < (toPayload m).length
  · rw [readMessage, Frame.read_write hwrite, if_pos hlarge, if_pos hlarge]
  · rw [readMessage_append hwrite (Nat.not_lt.1 hlarge), ofPayload_toPayload hdata, if_neg hlarge]
    split <;> rfl

/-- A value with a number of levels. -/
def nested : Nat → Json
  | 0 => .null
  | n + 1 => .arr [nested n]

theorem exact_nested (n : Nat) : (nested n).Exact := by
  induction n with
  | zero => exact .null
  | succ n ih => exact .arr (by simpa using ih)

theorem isDeeperThan_nested (levels n : Nat) :
    (nested n).isDeeperThan levels = decide (levels < n) := by
  induction n generalizing levels with
  | zero => cases levels <;> rfl
  | succ n ih =>
    cases levels with
    | zero => simp [nested, isDeeperThan]
    | succ levels => simp [nested, isDeeperThan, ih]

/-- Data of 126 levels arrive, with a byte behind them that is left alone. -/
theorem readMessage_nested : ∃ bytes, writeMessage ⟨"t", none, nested 126⟩ = .ok bytes ∧
    readMessage (bytes ++ [0]) = .ok (some (.ok ⟨"t", none, nested 126⟩, [0])) := by
  have hsize : ¬ Frame.maxSize < (toPayload ⟨"t", none, nested 126⟩).length := by decide +kernel
  have hwrite := Frame.write_of_lt (toPayload ⟨"t", none, nested 126⟩)
    (Nat.lt_of_le_of_lt (Nat.not_lt.1 hsize) (by decide))
  have hread := readMessage_writeMessage (m := ⟨"t", none, nested 126⟩) (exact_nested 126)
    hwrite [0]
  rw [if_neg hsize, if_neg (by simp [isDeeperThan_nested])] at hread
  exact ⟨_, hwrite, hread⟩

/-- Data of 127 levels are written, but what was written is read as no message. -/
theorem readMessage_nested_ne : (nested 127).Exact ∧
    ∃ bytes, writeMessage ⟨"t", none, nested 127⟩ = .ok bytes ∧
      readMessage bytes ≠ .ok (some (.ok ⟨"t", none, nested 127⟩, [])) := by
  have hsize : (toPayload ⟨"t", none, nested 127⟩).length ≤ Frame.maxSize := by decide +kernel
  have hwrite := Frame.write_of_lt (toPayload ⟨"t", none, nested 127⟩)
    (Nat.lt_of_le_of_lt hsize (by decide))
  have hread := readMessage_append (m := ⟨"t", none, nested 127⟩) hwrite hsize []
  rw [List.append_nil, ofPayload_toPayload (m := ⟨"t", none, nested 127⟩) (exact_nested 127),
    if_pos (by simp [isDeeperThan_nested])] at hread
  refine ⟨exact_nested 127, _, hwrite, ?_⟩
  rw [hread]
  simp

end Transport

end LoadTest
