import LoadTest.Response
/-!
# The keystore

A map from keys to arbitrary values, shared by all workers. Each action decides for itself
how to read what is stored: a counter is an integer or a string that denotes one, a list is
an array whose head is popped first. A refused action changes nothing.
-/

namespace LoadTest

/-- Why the keystore refuses a request. -/
inductive KeystoreError where
  /-- The request has no key. -/
  | missingKey
  /-- The request has an unknown action, or none. -/
  | unknownAction (action : String)
  /-- There is nothing to set. -/
  | nothingToSet (key : String)
  /-- The step of an increment is no 64-bit integer. -/
  | badStep (step : Json) (key : String)
  /-- The stored value does not denote a 64-bit integer. -/
  | notACounter (value : Json) (key : String)
  /-- The sum leaves the range of 64-bit integers. -/
  | overflow (key : String) (step : Int64)
  /-- The stored value is no list to append to. -/
  | cannotPush (key : String)
  /-- The stored value is no list to take from. -/
  | cannotPop (key : String)
  deriving Repr

namespace KeystoreError

/-- The text of a refusal. -/
def message : KeystoreError → String
  | missingKey => "key is not present in request"
  | unknownAction action => "received unknown keystore action \"" ++ action ++ "\""
  | nothingToSet key => "no value to set for key \"" ++ key ++ "\""
  | badStep step key =>
    "step " ++ step.compact ++ " for key \"" ++ key ++ "\" is not an integer"
  | notACounter value key =>
    "value " ++ value.compact ++ " for key \"" ++ key ++ "\" cannot be incremented"
  | overflow key step =>
    "incrementing key \"" ++ key ++ "\" by " ++ Text.decimal step.toInt ++ " overflows"
  | cannotPush key => "key \"" ++ key ++ "\" is not a list, cannot push to it"
  | cannotPop key => "key \"" ++ key ++ "\" is not a list, it has not been pushed to"

end KeystoreError

/-- The values under the keys. -/
structure Keystore where
  entries : Dict Json := ∅
  deriving Repr

namespace Keystore

/-- The store without keys. -/
def empty : Keystore := {}

instance : EmptyCollection Keystore := ⟨empty⟩

/-- The value under a key. -/
def get? (s : Keystore) (key : String) : Option Json := s.entries.get? key

/-- The number of keys. -/
def size (s : Keystore) : Nat := s.entries.size

/-- Whether there are no keys. -/
def isEmpty (s : Keystore) : Bool := s.entries.isEmpty

/-- Store a value under a key. -/
def insert (s : Keystore) (key : String) (value : Json) : Keystore :=
  ⟨s.entries.insert key value⟩

/-- Remove a key. -/
def erase (s : Keystore) (key : String) : Keystore := ⟨s.entries.erase key⟩

/-- The 64-bit integer that a stored value denotes: an integer, or a string of a numeral. -/
def counter? : Json → Option Int64
  | .int n => n.toInt64?
  | .str s => Text.int64? s.toList
  | _ => none

/-- The step of an increment: one, unless the data say otherwise. -/
def step? : Option Json → Option Int64
  | none | some .null => some 1
  | some v => v.int64?

/-- Store the data under a key. -/
def set (s : Keystore) (key : String) : Option Json → Except KeystoreError (Json × Keystore)
  | none => .error (.nothingToSet key)
  | some v => .ok (v, s.insert key v)

/-- Add a step to the counter under a key, which starts at zero. -/
def inc (s : Keystore) (key : String) (data : Option Json) :
    Except KeystoreError (Json × Keystore) := do
  let step ← match step? data with
    | some n => .ok n
    | none => .error (.badStep (data.getD .null) key)
  let current ← match s.get? key with
    | none => .ok 0
    | some v =>
      match counter? v with
      | some n => .ok n
      | none => .error (.notACounter v key)
  match checkedAdd? current step with
  | some n => .ok (.ofInt64 n, s.insert key (.ofInt64 n))
  | none => .error (.overflow key step)

/-- Append a value to the list under a key, which starts out empty. -/
def push (s : Keystore) (key : String) (value : Json) : Except KeystoreError (Json × Keystore) :=
  match s.get? key with
  | none => .ok (value, s.insert key (.arr [value]))
  | some (.arr items) => .ok (value, s.insert key (.arr (items ++ [value])))
  | some _ => .error (.cannotPush key)

/-- Take the head of the list under a key; there is none in an empty or missing list. -/
def pop (s : Keystore) (key : String) : Except KeystoreError (Json × Keystore) :=
  match s.get? key with
  | none | some (.arr []) => .ok (.null, s)
  | some (.arr (v :: items)) => .ok (v, s.insert key (.arr items))
  | some _ => .error (.cannotPop key)

/-- Perform an action on a key. -/
def perform (s : Keystore) (key : String) (data : Option Json) :
    KeystoreAction → Except KeystoreError (Json × Keystore)
  | .get => .ok ((s.get? key).getD .null, s)
  | .set => s.set key data
  | .inc => s.inc key data
  | .push => s.push key (data.getD .null)
  | .pop => s.pop key
  | .del => .ok (.null, s.erase key)

/-- Perform what a request asks for. A missing key is noticed before anything else. -/
def run (s : Keystore) (r : Request) : Except KeystoreError (Json × Keystore) :=
  match r.key with
  | none => .error .missingKey
  | some key =>
    match r.keystoreAction? with
    | none => .error (.unknownAction (r.action.getD ""))
    | some action => s.perform key r.data action

/-- Answer a request: the response echoes its action and key, and the store changes only if
the request succeeds. -/
def handle (s : Keystore) (r : Request) : KeystoreResponse × Keystore :=
  match s.run r with
  | .ok (data, s) => (⟨r.action, r.key, data, none⟩, s)
  | .error e => (⟨r.action, r.key, .null, some e.message⟩, s)

end Keystore

end LoadTest
