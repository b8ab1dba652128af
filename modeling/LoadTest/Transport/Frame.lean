import LoadTest.Error
import LoadTest.Message
import LoadTest.Json.Shape
/-!
# Frames

On a socket a message travels as a frame: four bytes that hold the length of the payload,
the highest first, and the payload, which is the compact text of the message. A stream that
ends inside a header ends like one without it; one that ends inside a payload is broken.
-/

namespace LoadTest.Transport

open Json

/-- The bytes of a stream. -/
abbrev Bytes := List UInt8

namespace Frame

/-- The largest payload that is read. -/
def maxSize : Nat := 16777216

/-- The number of bytes of a header. -/
def headerSize : Nat := 4

/-- A number in a number of bytes, the highest first. -/
def bigEndian : (width n : Nat) → Bytes
  | 0, _ => []
  | width + 1, n => bigEndian width (n / 256) ++ [UInt8.ofNat (n % 256)]

/-- The number in some bytes, the highest first. -/
def ofBigEndian (bytes : Bytes) : Nat := bytes.foldl (fun n b => n * 256 + b.toNat) 0

@[simp] theorem length_bigEndian (width n : Nat) : (bigEndian width n).length = width := by
  induction width generalizing n with
  | zero => rfl
  | succ width ih => simp [bigEndian, ih]

theorem ofBigEndian_append_singleton (bytes : Bytes) (b : UInt8) :
    ofBigEndian (bytes ++ [b]) = ofBigEndian bytes * 256 + b.toNat := by
  simp [ofBigEndian]

theorem ofBigEndian_bigEndian (width n : Nat) :
    ofBigEndian (bigEndian width n) = n % Nat.pow 256 width := by
  induction width generalizing n with
  | zero => simp [bigEndian, ofBigEndian, Nat.mod_one]
  | succ width ih =>
    show _ = n % (Nat.pow 256 width * 256)
    rw [bigEndian, ofBigEndian_append_singleton, ih, Nat.mul_comm (Nat.pow 256 width), Nat.mod_mul,
      UInt8.toNat_ofNat', Nat.mod_mod_of_dvd _ (by decide)]
    omega

/-- A payload behind its length, which must fit the header. -/
def write (payload : Bytes) : Except Error Bytes :=
  if payload.length < Nat.pow 256 headerSize then
    .ok (bigEndian headerSize payload.length ++ payload)
  else
    .error (.validation "frame" ("message size " ++ Text.decimal payload.length ++
      " does not fit a frame header"))

/-- What the front of a stream holds. -/
inductive Front where
  /-- The start of a frame, or nothing. -/
  | incomplete
  /-- A header with a length that is too large. -/
  | oversized (size : Nat)
  /-- A payload, and the stream behind it. -/
  | payload (payload rest : Bytes)
  deriving Repr

/-- Look at the front of a stream. A length that is too large shows before the payload is
there. -/
def front (stream : Bytes) : Front :=
  if stream.length < headerSize then .incomplete
  else
    let size := ofBigEndian (stream.take headerSize)
    let behind := stream.drop headerSize
    if maxSize < size then .oversized size
    else if behind.length < size then .incomplete
    else .payload (behind.take size) (behind.drop size)

/-- The error of a length that is too large. -/
def oversizedError (size : Nat) : Error :=
  .validation "frame" ("message size " ++ Text.decimal size ++ " exceeds maximum " ++
    Text.decimal maxSize)

/-- The next payload and the stream behind it, or nothing at the end of the stream. The
stream is all there is: it ends behind its last byte. -/
def read (stream : Bytes) : Except Error (Option (Bytes × Bytes)) :=
  match front stream with
  | .payload payload rest => .ok (some (payload, rest))
  | .oversized size => .error (oversizedError size)
  | .incomplete => if stream.length < headerSize then .ok none else .error (.io "" none)

end Frame

/-! ## Messages in frames -/

/-- The shape of a message. -/
def messageShape : Shape :=
  .record [⟨"topic", .text, true⟩, ⟨"node_id", .optional .text, false⟩, ⟨"data", .any, false⟩]

/-- The message in a payload. -/
def ofPayload (payload : Bytes) : Except Error Message :=
  (decodeText messageShape (fun v => (Message.ofJson v).toOption) (Text.decode payload)).mapError
    .ofFault

/-- The bytes of a text. -/
def bytesOf (s : String) : Bytes := s.toUTF8.toList

/-- The payload of a message. -/
def toPayload (m : Message) : Bytes := bytesOf m.wire

/-- A message in a frame. -/
def writeMessage (m : Message) : Except Error Bytes := Frame.write (toPayload m)

/-- The next message and the stream behind it, or nothing at the end of the stream. A frame
whose payload is no message does not break the stream. -/
def readMessage (stream : Bytes) : Except Error (Option (Except Error Message × Bytes)) :=
  match Frame.read stream with
  | .error e => .error e
  | .ok none => .ok none
  | .ok (some (payload, rest)) => .ok (some (ofPayload payload, rest))

end LoadTest.Transport
