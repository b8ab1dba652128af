import LoadTest.Json.Basic
import LoadTest.Text.Quoted
/-!
# Converting values

A conversion takes a value apart into a domain type, or says why it cannot. A record is
read from an object, whose unknown members do not matter, or from an array that lists its
fields in order and may leave out trailing fields with a default. In an object the first
wrong field in ascending key order is reported before any missing one.
-/

namespace LoadTest

/-- Why a value cannot be converted. -/
inductive Mismatch where
  /-- The value is of another kind than wanted. -/
  | wrongType (found : Json) (wanted : String)
  /-- The value is an integer outside the wanted range. -/
  | outOfRange (found : Integer) (wanted : String)
  /-- A record lacks a field that has no default. -/
  | missingField (name : String)
  /-- An array has another number of items than wanted. -/
  | wrongLength (length : Nat) (wanted : String)
  /-- A tag names none of the variants. -/
  | unknownVariant (name : String) (known : List String)
  deriving Repr

namespace Json

/-- How the kind of a value is named in a message, with the value itself if it is short. -/
def kindText : Json → String
  | null => "null"
  | bool b => "boolean `" ++ (if b then "true" else "false") ++ "`"
  | int n => "integer `" ++ Text.decimal n.val ++ "`"
  | double x => "floating point `" ++ x.text ++ "`"
  | str s => "string " ++ Text.quoted s
  | arr _ => "sequence"
  | obj _ => "map"

end Json

namespace Mismatch

/-- The names of the variants, each between accents. -/
def oneOf (names : List String) : String :=
  ", ".intercalate (names.map fun n => "`" ++ n ++ "`")

/-- The text of a mismatch. -/
def message : Mismatch → String
  | wrongType v wanted => "invalid type: " ++ v.kindText ++ ", expected " ++ wanted
  | outOfRange n wanted =>
    "invalid value: integer `" ++ Text.decimal n.val ++ "`, expected " ++ wanted
  | missingField name => "missing field `" ++ name ++ "`"
  | wrongLength n wanted => "invalid length " ++ Text.decimal n ++ ", expected " ++ wanted
  | unknownVariant name known =>
    "unknown variant `" ++ name ++ "`, expected one of " ++ oneOf known

end Mismatch

namespace Json

/-- A conversion of values. -/
abbrev Conversion (α : Type) := Json → Except Mismatch α

/-- Any value, as it is. -/
def asIs : Conversion Json := fun v => .ok v

/-- A string. -/
def asString : Conversion String
  | str s => .ok s
  | v => .error (.wrongType v "a string")

/-- A truth value. -/
def asBool : Conversion Bool
  | bool b => .ok b
  | v => .error (.wrongType v "a boolean")

/-- A 64-bit integer without sign. -/
def asUInt64 : Conversion UInt64
  | int n =>
    match n.toUInt64? with
    | some u => .ok u
    | none => .error (.outOfRange n "u64")
  | v => .error (.wrongType v "u64")

/-- A 64-bit integer with sign. -/
def asInt64 : Conversion Int64
  | int n =>
    match n.toInt64? with
    | some i => .ok i
    | none => .error (.outOfRange n "i64")
  | v => .error (.wrongType v "i64")

/-- A value that may be `null`. -/
def optional {α : Type} (convert : Conversion α) : Conversion (Option α)
  | null => .ok none
  | v => (convert v).map some

/-- An array, item by item. -/
def listOf {α : Type} (convert : Conversion α) : Conversion (List α)
  | arr items => items.mapM convert
  | v => .error (.wrongType v "a sequence")

/-- An object of any keys, value by value. -/
def dictOf {α : Type} (convert : Conversion α) : Conversion (Dict α)
  | obj members =>
    (members.mapM fun m => (convert m.2).map (m.1, ·)).map Dict.ofList
  | v => .error (.wrongType v "a map")

/-! ## Records -/

/-- The field of an object under a name, if it is there. -/
def field? {α : Type} (members : List (String × Json)) (name : String) (convert : Conversion α) :
    Except Mismatch (Option α) :=
  match Dict.lookup name members with
  | none => .ok none
  | some v => (convert v).map some

/-- A field that has no default. -/
def required {α : Type} (name : String) : Option α → Except Mismatch α
  | some a => .ok a
  | none => .error (.missingField name)

/-- The item of an array at a position, if it is there. -/
def item? {α : Type} (items : List Json) (i : Nat) (convert : Conversion α) :
    Except Mismatch (Option α) :=
  match items[i]? with
  | none => .ok none
  | some v => (convert v).map some

/-- How a record is named in a message about the length of an array. -/
def recordLength (record : String) (size : Nat) : String :=
  record ++ " with " ++ Text.decimal size ++ (if size = 1 then " element" else " elements")

/-- An item that has no default, as field number `i` of a record with `size` fields. -/
def requiredItem {α : Type} (record : String) (size i : Nat) : Option α → Except Mismatch α
  | some a => .ok a
  | none => .error (.wrongLength i (recordLength record size))

/-- An array of more items than a record has fields is refused. -/
def atMost (size : Nat) (items : List Json) : Except Mismatch Unit :=
  if items.length ≤ size then .ok ()
  else .error (.wrongLength items.length "fewer elements in array")

end Json

end LoadTest
