import LoadTest.Json.Reader
/-!
# Reading documents of a known shape

A shape says what a reader expects, so that the first fault of a text is found from left to
right: a value of another kind is a mismatch where it starts, a missing field where its
object ends, and so on. Members that a record does not know are skipped, however deep they
are. What is read is a plain value, which the conversion of the type then takes apart.
-/

namespace LoadTest.Json

open Text (Symbol)

/-- A shape reads a value with a number of levels left for arrays and objects. -/
abbrev Shape := (levels : Nat) → Reader Json

/-- Give the outcome of a read a new value. -/
def mapRead {α β : Type} (f : α → β) :
    Except TextFault (α × List Symbol) → Except TextFault (β × List Symbol)
  | .error e => .error e
  | .ok (a, r) => .ok (f a, r)

/-- A value of another kind than expected: a mismatch, unless the value itself is broken
before its kind is clear. -/
def unexpected {α : Type} (s : List Symbol) : Except TextFault α :=
  let after {β : Type} : Except TextFault β → Except TextFault α
    | .error e => .error e
    | .ok _ => .error .mismatched
  match skipBlanks s with
  | [] => .error .truncated
  | x :: r =>
    if x = some 'n' then after (keyword ['u', 'l', 'l'] r)
    else if x = some 't' then after (keyword ['r', 'u', 'e'] r)
    else if x = some 'f' then after (keyword ['a', 'l', 's', 'e'] r)
    else if x = some '-' then after (number true r)
    else if (digit? x).isSome then after (number false (x :: r))
    else if x = some '"' then after (string r)
    else if x = some '[' ∨ x = some '\x7b' then .error .mismatched
    else .error .malformed

namespace Shape

/-- Any value. -/
def any : Shape := fun levels => value levels

/-- A string. -/
def text : Shape := fun _ s =>
  match skipBlanks s with
  | some '"' :: r => mapRead .str (string r)
  | _ => unexpected s

/-- A truth value. -/
def boolean : Shape := fun _ s =>
  match skipBlanks s with
  | some 't' :: r => (keyword ['r', 'u', 'e'] r).map (.bool true, ·)
  | some 'f' :: r => (keyword ['a', 'l', 's', 'e'] r).map (.bool false, ·)
  | _ => unexpected s

/-- A number that passes a check. -/
def numberWith (accepts : Json → Bool) : Shape := fun _ s =>
  let checked : Except TextFault (Json × List Symbol) → Except TextFault (Json × List Symbol)
    | .error e => .error e
    | .ok (v, r) => if accepts v then .ok (v, r) else .error .mismatched
  match skipBlanks s with
  | [] => .error .truncated
  | x :: r =>
    if x = some '-' then checked (number true r)
    else if (digit? x).isSome then checked (number false (x :: r))
    else unexpected s

/-- A 64-bit integer without sign. -/
def uint64 : Shape := numberWith fun
  | .int n => n.toUInt64?.isSome
  | _ => false

/-- A value that may be `null`. -/
def optional (shape : Shape) : Shape := fun levels s =>
  match skipBlanks s with
  | some 'n' :: r => (keyword ['u', 'l', 'l'] r).map (.null, ·)
  | _ => shape levels s

/-- Go one level deeper behind an opening bracket or brace. -/
def deeper {α : Type} : (levels : Nat) → (Nat → Except TextFault α) → Except TextFault α
  | 0, _ => .error .malformed
  | levels + 1, read => read levels

/-- An array whose items have a shape. -/
def listOf (shape : Shape) : Shape := fun levels s =>
  match skipBlanks s with
  | some '[' :: r =>
    deeper levels fun levels => mapRead .arr (items (shape levels) (r.length + 1) true r)
  | _ => unexpected s

/-- An object of any keys whose values have a shape. -/
def dictOf (shape : Shape) : Shape := fun levels s =>
  match skipBlanks s with
  | some '\x7b' :: r =>
    deeper levels fun levels =>
      mapRead ofDict (members (enter (shape levels)) (r.length + 1) true ∅ r)
  | _ => unexpected s

/-! ## Records -/

/-- A field of a record. -/
structure Field where
  name : String
  shape : Shape
  isRequired : Bool

/-- The field with a name. -/
def field? (fields : List Field) (name : String) : Option Field :=
  fields.find? (·.name = name)

/-- Read the member of a record behind its key: a known one by its shape, and only once;
others are skipped. -/
def recordMember (fields : List Field) (levels : Nat) (d : Dict Json) (k : String) :
    Reader (Dict Json) := fun s =>
  match field? fields k with
  | some f =>
    if d.contains k then .error .mismatched else enter (f.shape levels) d k s
  | none =>
    match colon s with
    | .error e => .error e
    | .ok r => (skip r).map (d, ·)

/-- Read the items of a record that is written as an array. Trailing fields with a default
may be left out. -/
def recordItems (levels : Nat) : (fields : List Field) → (first : Bool) → Reader (List Json)
  | [], _, s =>
    match skipBlanks s with
    | [] => .error .truncated
    | x :: r => if x = some ']' then .ok ([], r) else .error .malformed
  | f :: fields, first, s =>
    match nextItem first s with
    | .error e => .error e
    | .ok (none, r) =>
      if f.isRequired || fields.any (·.isRequired) then .error .mismatched else .ok ([], r)
    | .ok (some t, _) =>
      match f.shape levels t with
      | .error e => .error e
      | .ok (v, r) => mapRead (v :: ·) (recordItems levels fields false r)

/-- A record, written as an object or as the list of its fields. -/
def record (fields : List Field) : Shape := fun levels s =>
  match skipBlanks s with
  | some '\x7b' :: r =>
    deeper levels fun levels =>
      match members (recordMember fields levels) (r.length + 1) true ∅ r with
      | .error e => .error e
      | .ok (d, r) =>
        if fields.all fun f => !f.isRequired || d.contains f.name then .ok (ofDict d, r)
        else .error .mismatched
  | some '[' :: r =>
    deeper levels fun levels => mapRead .arr (recordItems levels fields true r)
  | _ => unexpected s

/-! ## Tagged records -/

/-- A record whose first part is a tag that says which fields there are. The other parts are
read as they come and checked together when the record ends. -/
structure Tagged where
  tag : String
  /-- The fields that belong to a tag, if it is a known one. -/
  fieldsOf : String → Option (List String)
  /-- Whether the parts form a record. -/
  accepts : Json → Bool

/-- The members of a tagged record so far. -/
structure TaggedMembers where
  tag : Option String := none
  members : List (String × Json) := []

/-- Read the tag itself. -/
def tagText (t : Tagged) : Reader String := fun s =>
  match skipBlanks s with
  | some '"' :: r =>
    match string r with
    | .error e => .error e
    | .ok (name, r) => if (t.fieldsOf name).isSome then .ok (name, r) else .error .mismatched
  | _ => unexpected s

/-- Read the member of a tagged record behind its key. -/
def taggedMember (t : Tagged) (levels : Nat) (m : TaggedMembers) (k : String) :
    Reader TaggedMembers := fun s =>
  if k = t.tag then
    if m.tag.isSome then .error .mismatched
    else
      match colon s with
      | .error e => .error e
      | .ok r => mapRead (fun name => { m with tag := some name }) (tagText t r)
  else
    match colon s with
    | .error e => .error e
    | .ok r => mapRead (fun v => { m with members := m.members ++ [(k, v)] }) (value levels r)

/-- Whether some keys have an entry each at most once. -/
def eachOnce (keys : List String) (members : List (String × Json)) : Bool :=
  keys.all fun k => (members.filter (·.1 = k)).length ≤ 1

/-- Check a finished tagged record. -/
def finishTagged (t : Tagged) (m : TaggedMembers) : Except TextFault Json :=
  match m.tag with
  | none => .error .mismatched
  | some name =>
    let v := object ((t.tag, .str name) :: m.members)
    if eachOnce ((t.fieldsOf name).getD []) m.members && t.accepts v then .ok v
    else .error .mismatched

/-- Read the items behind the tag of a tagged record that is written as an array. -/
def taggedItems (t : Tagged) (levels : Nat) : Reader Json := fun s =>
  match nextItem true s with
  | .error e => .error e
  | .ok (none, _) => .error .mismatched
  | .ok (some r, _) =>
    match tagText t r with
    | .error e => .error e
    | .ok (name, r) =>
      match items (value levels) (r.length + 1) false r with
      | .error e => .error e
      | .ok (vs, r) =>
        if t.accepts (.arr (.str name :: vs)) then .ok (.arr (.str name :: vs), r)
        else .error .mismatched

/-- A tagged record, written as an object or as an array that starts with the tag. -/
def tagged (t : Tagged) : Shape := fun levels s =>
  match skipBlanks s with
  | some '\x7b' :: r =>
    deeper levels fun levels =>
      match members (taggedMember t levels) (r.length + 1) true {} r with
      | .error e => .error e
      | .ok (m, r) => (finishTagged t m).map (·, r)
  | some '[' :: r => deeper levels fun levels => taggedItems t levels r
  | _ => unexpected s

end Shape

/-- The value of a text of a known shape. -/
def parseAs (shape : Shape) (s : List Symbol) : Except TextFault Json :=
  document (shape maxLevels) s

/-- Read a text of a known shape and convert it. -/
def decodeText {α : Type} (shape : Shape) (convert : Json → Option α) (s : List Symbol) :
    Except TextFault α :=
  match parseAs shape s with
  | .error e => .error e
  | .ok v =>
    match convert v with
    | some a => .ok a
    | none => .error .mismatched

end LoadTest.Json
