import LoadTest.Text.Numeral
/-!
# Durations

A duration is a number of seconds and nanoseconds below a second. Its text uses the largest
of four units in which it is at least one, with an exact fraction and no trailing zeros.
-/

namespace LoadTest

/-- A span of time. -/
structure Duration where
  seconds : Nat
  nanos : Nat
  deriving DecidableEq, Repr

namespace Duration

/-- A number of milliseconds. -/
def ofMillis (n : Nat) : Duration := ⟨n / 1000, n % 1000 * 1000000⟩

/-- A number of nanoseconds. -/
def ofNanos (n : Nat) : Duration := ⟨n / 1000000000, n % 1000000000⟩

/-- The length of a duration in nanoseconds. -/
def toNanos (d : Duration) : Nat := d.seconds * 1000000000 + d.nanos

@[simp] theorem toNanos_ofNanos (n : Nat) : (ofNanos n).toNanos = n := by
  simp only [ofNanos, toNanos]
  omega

/-- The digits of a fraction in units of `10 ^ -width`, without trailing zeros. -/
def fractionChars (width n : Nat) : List Char :=
  let digits := Text.naturalChars n
  let padded := List.replicate (width - digits.length) '0' ++ digits
  match (padded.reverse.dropWhile (· == '0')).reverse with
  | [] => []
  | ds => '.' :: ds

/-- A whole number and a fraction in units of `10 ^ -width`, with the name of a unit. -/
def inUnit (whole width fraction : Nat) (unit : String) : String :=
  String.ofList (Text.naturalChars whole ++ fractionChars width fraction) ++ unit

/-- The text of a duration. -/
def text (d : Duration) : String :=
  if 0 < d.seconds then inUnit d.seconds 9 d.nanos "s"
  else if 1000000 ≤ d.nanos then inUnit (d.nanos / 1000000) 6 (d.nanos % 1000000) "ms"
  else if 1000 ≤ d.nanos then inUnit (d.nanos / 1000) 3 (d.nanos % 1000) "µs"
  else inUnit d.nanos 0 0 "ns"

end Duration

end LoadTest
