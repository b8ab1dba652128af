import LoadTest.Json.Convert
import LoadTest.Json.Printer
/-!
# Requests

What a worker asks of the coordinator. The kind and the action are kept as texts, so that a
request with an unknown one can still be read and answered; the data may be absent, which
differs from an explicit `null`.
-/

namespace LoadTest

/-- The part of the coordinator that a request is meant for. -/
inductive MessageKind where
  | testdata
  | keystore
  deriving DecidableEq, Repr

namespace MessageKind

/-- The name of a kind in messages. -/
def name : MessageKind → String
  | testdata => "testdata"
  | keystore => "keystore"

/-- The kind with a name. -/
def ofName? (s : String) : Option MessageKind :=
  if s = "testdata" then some testdata else if s = "keystore" then some keystore else none

end MessageKind

/-- What can be done with a key of the keystore. -/
inductive KeystoreAction where
  | get
  | set
  | inc
  | push
  | pop
  | del
  deriving DecidableEq, Repr

namespace KeystoreAction

/-- The name of an action in messages. -/
def name : KeystoreAction → String
  | get => "get"
  | set => "set"
  | inc => "inc"
  | push => "push"
  | pop => "pop"
  | del => "del"

/-- The action with a name. -/
def ofName? (s : String) : Option KeystoreAction :=
  if s = "get" then some get
  else if s = "set" then some set
  else if s = "inc" then some inc
  else if s = "push" then some push
  else if s = "pop" then some pop
  else if s = "del" then some del
  else none

end KeystoreAction

/-- A request of a worker. -/
structure Request where
  message : String
  identifier : String := ""
  action : Option String := none
  key : Option String := none
  data : Option Json := none
  deriving Repr

namespace Request

/-- Ask for the next iteration of a scenario. -/
def testdata (identifier : String) : Request := ⟨"testdata", identifier, none, none, none⟩

/-- Ask for an action on a key. -/
def keystore (identifier : String) (action : KeystoreAction) (key : String)
    (data : Option Json) : Request :=
  ⟨"keystore", identifier, some action.name, some key, data⟩

/-- The kind of a request, if it is a known one. -/
def kind? (r : Request) : Option MessageKind := MessageKind.ofName? r.message

/-- The action of a request on the keystore, if it is a known one. -/
def keystoreAction? (r : Request) : Option KeystoreAction :=
  r.action.bind KeystoreAction.ofName?

open Json

/-- Read a request from an object or from the list of its fields. -/
def ofJson : Conversion Request
  | .obj members => do
    let action ← field? members "action" (optional asString)
    let data ← field? members "data" asIs
    let identifier ← field? members "identifier" asString
    let key ← field? members "key" (optional asString)
    let message ← field? members "message" asString
    let message ← required "message" message
    return ⟨message, identifier.getD "", action.join, key.join, data⟩
  | .arr items => do
    let message ← item? items 0 asString
    let message ← requiredItem "struct Request" 5 0 message
    let identifier ← item? items 1 asString
    let action ← item? items 2 (optional asString)
    let key ← item? items 3 (optional asString)
    let data ← item? items 4 asIs
    atMost 5 items
    return ⟨message, identifier.getD "", action.join, key.join, data⟩
  | v => .error (.wrongType v "struct Request")

/-- The fields of a request in their order; absent ones are left out. -/
def fields (r : Request) : List (String × Json) :=
  [("message", .str r.message), ("identifier", .str r.identifier)] ++
    (r.action.toList.map fun a => ("action", .str a)) ++
    (r.key.toList.map fun k => ("key", .str k)) ++
    (r.data.toList.map fun d => ("data", d))

/-- A request as a value. -/
def toJson (r : Request) : Json := object r.fields

end Request

end LoadTest
