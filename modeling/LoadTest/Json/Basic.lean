import LoadTest.Dict
import LoadTest.Json.Double
import LoadTest.Text.Numeral
/-!
# JSON values

The values of documents: integers of 64 bits with or without sign are kept exactly, every
other number is a double. An object is a list of members; documents that are read, and
objects made by `ofDict` or `object`, list their members in ascending key order.
-/

namespace LoadTest

/-- An integer that fits 64 bits, with or without sign. -/
structure Integer where
  val : Int
  lower : -0x8000000000000000 ≤ val
  upper : val < 0x10000000000000000
  deriving DecidableEq, Repr

namespace Integer

/-- An integer, if it is in range. -/
def ofInt? (n : Int) : Option Integer :=
  if h : -0x8000000000000000 ≤ n ∧ n < 0x10000000000000000 then some ⟨n, h.1, h.2⟩ else none

/-- A 64-bit integer with sign. -/
def ofInt64 (n : Int64) : Integer :=
  ⟨n.toInt, Int64.le_toInt n, Int.lt_trans (Int64.toInt_lt n) (by decide)⟩

/-- A 64-bit integer without sign. -/
def ofUInt64 (n : UInt64) : Integer :=
  ⟨n.toNat, by omega, by have := n.toNat_lt; omega⟩

/-- The integer as 64 bits with sign, if it fits. -/
def toInt64? (n : Integer) : Option Int64 := int64? n.val

/-- The integer as 64 bits without sign, if it is not negative. -/
def toUInt64? (n : Integer) : Option UInt64 :=
  if 0 ≤ n.val then some (UInt64.ofNat n.val.toNat) else none

end Integer

/-- A value of a JSON document. -/
inductive Json where
  | null
  | bool (b : Bool)
  | int (n : Integer)
  | double (x : Double)
  | str (s : String)
  | arr (items : List Json)
  | obj (members : List (String × Json))
  deriving Repr, Inhabited

namespace Json

/-- The object with the entries of a dictionary as members. -/
def ofDict (d : Dict Json) : Json := .obj d.entries

/-- The object with some members in ascending order; of two under one key the later counts. -/
def object (members : List (String × Json)) : Json := ofDict (Dict.ofList members)

/-- A 64-bit integer with sign as a value. -/
def ofInt64 (n : Int64) : Json := .int (.ofInt64 n)

/-- A 64-bit integer without sign as a value. -/
def ofUInt64 (n : UInt64) : Json := .int (.ofUInt64 n)

/-- A value that may be missing, with `null` for a missing one. -/
def ofOption {α : Type} (f : α → Json) : Option α → Json
  | none => .null
  | some a => f a

/-- Whether a value is `null`. -/
def isNull : Json → Bool
  | null => true
  | _ => false

/-- The text of a string value. -/
def string? : Json → Option String
  | str s => some s
  | _ => none

/-- The 64-bit integer of a number value, if it is an integer that fits. -/
def int64? : Json → Option Int64
  | int n => n.toInt64?
  | _ => none

/-- The member of an object under a key; other values have no members. -/
def member? (k : String) : Json → Option Json
  | obj members => Dict.lookup k members
  | _ => none

/-- Whether a value has more than a number of levels of arrays and objects. -/
def isDeeperThan : Nat → Json → Bool
  | 0, arr _ | 0, obj _ => true
  | n + 1, arr items => items.any (isDeeperThan n)
  | n + 1, obj members => members.any fun m => isDeeperThan n m.2
  | _, _ => false

end Json

end LoadTest
