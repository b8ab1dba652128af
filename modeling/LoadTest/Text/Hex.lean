/-!
# Hex digits

The value of a digit in hexadecimal, in lower or upper case.
-/

namespace LoadTest.Text

/-- The value of a hex digit. -/
def hexValue? (c : Char) : Option Nat :=
  if '0' ≤ c ∧ c ≤ '9' then some (c.toNat - 48)
  else if 'a' ≤ c ∧ c ≤ 'f' then some (c.toNat - 87)
  else if 'A' ≤ c ∧ c ≤ 'F' then some (c.toNat - 55)
  else none

theorem hexValue?_digitChar {n : Nat} (h : n < 16) : hexValue? (Nat.digitChar n) = some n := by
  have all : ∀ m : Fin 16, hexValue? (Nat.digitChar m.val) = some m.val := by decide
  exact all ⟨n, h⟩

end LoadTest.Text
