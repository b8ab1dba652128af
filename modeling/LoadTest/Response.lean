import LoadTest.Request
/-!
# Responses

What the coordinator answers. A response of the keystore echoes the action and the key and
always says whether there was an error. A response about test data says whether to go on,
and carries the variables with their flat aliases beside them.
-/

namespace LoadTest

open Json

/-- The answer to a request for the keystore. -/
structure KeystoreResponse where
  action : Option String := none
  key : Option String := none
  data : Json := .null
  error : Option String := none
  deriving Repr

namespace KeystoreResponse

/-- Read a response from an object or from the list of its fields. -/
def ofJson : Conversion KeystoreResponse
  | .obj members => do
    let action ← field? members "action" (optional asString)
    let data ← field? members "data" asIs
    let error ← field? members "error" (optional asString)
    let key ← field? members "key" (optional asString)
    return ⟨action.join, key.join, data.getD .null, error.join⟩
  | .arr items => do
    let action ← item? items 0 (optional asString)
    let key ← item? items 1 (optional asString)
    let data ← item? items 2 asIs
    let error ← item? items 3 (optional asString)
    atMost 4 items
    return ⟨action.join, key.join, data.getD .null, error.join⟩
  | v => .error (.wrongType v "struct KeystoreResponse")

/-- The fields of a response in their order; an absent key is left out. -/
def fields (r : KeystoreResponse) : List (String × Json) :=
  [("action", ofOption .str r.action)] ++ (r.key.toList.map fun k => ("key", .str k)) ++
    [("data", r.data), ("error", ofOption .str r.error)]

/-- A response as a value. -/
def toJson (r : KeystoreResponse) : Json := object r.fields

end KeystoreResponse

/-- Whether a scenario goes on with another iteration. -/
inductive TestdataAction where
  | consume
  | stop
  deriving DecidableEq, Repr

namespace TestdataAction

/-- The name of an action in messages. -/
def name : TestdataAction → String
  | consume => "consume"
  | stop => "stop"

/-- The action with a name. -/
def ofName? (s : String) : Option TestdataAction :=
  if s = "consume" then some consume else if s = "stop" then some stop else none

end TestdataAction

/-- The variables of one iteration, and the values that are also known by an alias. -/
structure Payload where
  «variables» : Dict Json := ∅
  aliases : Dict Json := ∅
  deriving Repr, Inhabited

namespace Payload

/-- Read a payload: every member but `variables` is an alias. -/
def ofJson : Conversion Payload
  | .obj members => do
    let values ← field? members "variables" (dictOf asIs)
    let aliases := members.filter fun m => m.1 ≠ "variables"
    return ⟨values.getD ∅, Dict.ofList aliases⟩
  | v => .error (.wrongType v "struct TestdataPayload")

/-- A payload as a value: the aliases stand beside the variables, and one of that name
takes their place. -/
def toJson (p : Payload) : Json :=
  object (("variables", ofDict p.variables) :: p.aliases.entries)

end Payload

/-- The answer to a request for test data. -/
structure TestdataResponse where
  action : String
  data : Option Payload := none
  deriving Repr

namespace TestdataResponse

/-- There is nothing to serve. -/
def stop : TestdataResponse := ⟨TestdataAction.stop.name, none⟩

/-- Go on with some variables. -/
def consume (payload : Payload) : TestdataResponse :=
  ⟨TestdataAction.consume.name, some payload⟩

/-- The action of a response, if it is a known one. -/
def action? (r : TestdataResponse) : Option TestdataAction := TestdataAction.ofName? r.action

/-- Read a response from an object or from the list of its fields. -/
def ofJson : Conversion TestdataResponse
  | .obj members => do
    let action ← field? members "action" asString
    let data ← field? members "data" (optional Payload.ofJson)
    let action ← required "action" action
    return ⟨action, data.join⟩
  | .arr items => do
    let action ← item? items 0 asString
    let action ← requiredItem "struct TestdataResponse" 2 0 action
    let data ← item? items 1 (optional Payload.ofJson)
    atMost 2 items
    return ⟨action, data.join⟩
  | v => .error (.wrongType v "struct TestdataResponse")

/-- A response as a value; absent data are left out. -/
def toJson (r : TestdataResponse) : Json :=
  object (("action", .str r.action) :: r.data.toList.map fun p => ("data", p.toJson))

end TestdataResponse

end LoadTest
