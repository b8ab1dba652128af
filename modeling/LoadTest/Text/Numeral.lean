/-!
# Numerals

A numeral is an optional sign and at least one ASCII digit. Reading one gives a value only
if the number fits 64 bits with sign; leading zeros do not matter. A number is written
without leading zeros, and with a sign only if it is negative.
-/

namespace LoadTest

/-- Whether an integer fits 64 bits with sign. -/
def FitsInt64 (n : Int) : Prop := -0x8000000000000000 ≤ n ∧ n < 0x8000000000000000

instance (n : Int) : Decidable (FitsInt64 n) := inferInstanceAs (Decidable (_ ∧ _))

/-- An integer as 64 bits with sign, if it fits. -/
def int64? (n : Int) : Option Int64 := if FitsInt64 n then some (Int64.ofInt n) else none

/-- The sum of two 64-bit integers, unless it leaves their range. -/
def checkedAdd? (a b : Int64) : Option Int64 := int64? (a.toInt + b.toInt)

/-- The integers that fit are those of 64 bits. -/
theorem fitsInt64_iff {z : Int} : FitsInt64 z ↔ ∃ n : Int64, n.toInt = z := by
  constructor
  · intro h
    exact ⟨Int64.ofInt z, Int64.toInt_ofInt_of_le h.1 h.2⟩
  · rintro ⟨n, rfl⟩
    exact ⟨n.le_toInt, n.toInt_lt⟩

/-- An integer of 64 bits is read back, and none is read from any other integer. -/
theorem int64?_eq_some {z : Int} {n : Int64} : int64? z = some n ↔ n.toInt = z := by
  constructor
  · intro h
    unfold int64? at h
    split at h
    · next hfits =>
      cases h
      exact Int64.toInt_ofInt_of_le hfits.1 hfits.2
    · cases h
  · rintro rfl
    rw [int64?, if_pos (fitsInt64_iff.2 ⟨n, rfl⟩), Int64.ofInt_toInt]

theorem int64?_toInt (n : Int64) : int64? n.toInt = some n := int64?_eq_some.2 rfl

/-- There is a sum of 64-bit integers just if their range holds it. -/
theorem checkedAdd?_eq_some {a b n : Int64} :
    checkedAdd? a b = some n ↔ n.toInt = a.toInt + b.toInt :=
  int64?_eq_some

namespace Text

/-- The value of a run of digits, given what stands before it. -/
def digitsValue (acc : Nat) : List Char → Option Nat
  | [] => some acc
  | c :: cs => if c.isDigit then digitsValue (10 * acc + (c.toNat - '0'.toNat)) cs else none

/-- The value of a non-empty run of ASCII digits. -/
def natural? : List Char → Option Nat
  | [] => none
  | cs => digitsValue 0 cs

/-- The integer that a numeral with an optional sign denotes. -/
def integer? : List Char → Option Int
  | '-' :: cs => (natural? cs).map fun n => -(n : Int)
  | '+' :: cs => (natural? cs).map fun n => (n : Int)
  | cs => (natural? cs).map fun n => (n : Int)

/-- The decimal digits of a natural number. -/
def naturalChars (n : Nat) : List Char := Nat.toDigits 10 n

/-- The decimal digits of an integer, after a sign if it is negative. -/
def integerChars (n : Int) : List Char :=
  if n < 0 then '-' :: naturalChars n.natAbs else naturalChars n.natAbs

/-- The decimal text of an integer. -/
def decimal (n : Int) : String := String.ofList (integerChars n)

/-- The 64-bit integer that a numeral denotes. -/
def int64? (cs : List Char) : Option Int64 := (integer? cs).bind LoadTest.int64?

end Text

end LoadTest
