/-!
# Symbols of a byte stream

A byte stream is read as a list of symbols: a character for each well-formed UTF-8
sequence, and `none` for each byte that belongs to no such sequence. A text is the list of
its characters, so readers of symbols read texts and raw bytes alike.
-/

namespace LoadTest.Text

/-- A character, or a byte that is part of none. -/
abbrev Symbol := Option Char

/-- The symbols of a text. -/
def symbols (s : String) : List Symbol := s.toList.map some

/-- The number of bytes that a symbol takes. -/
def symbolSize : Symbol → Nat
  | none => 1
  | some c => c.utf8Size

/-- The symbols of a byte array from a position on. -/
def decodeFrom (bytes : ByteArray) : (fuel position : Nat) → List Symbol
  | 0, _ => []
  | fuel + 1, i =>
    if i < bytes.size then
      match bytes.utf8DecodeChar? i with
      | some c => some c :: decodeFrom bytes fuel (i + c.utf8Size)
      | none => none :: decodeFrom bytes fuel (i + 1)
    else []

/-- The symbols of a list of bytes. -/
def decode (bytes : List UInt8) : List Symbol :=
  let array := ByteArray.mk bytes.toArray
  decodeFrom array array.size 0

end LoadTest.Text
