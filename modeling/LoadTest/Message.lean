import LoadTest.Request
/-!
# Messages

What travels between the coordinator and its workers: a topic, the client id of the sender
or the receiver, and data. A worker publishes requests under `produce_testdata` and is
answered under `consume_testdata`; the correlation id links the two.
-/

namespace LoadTest

open Json

/-- A message with the client id of the worker that it comes from or goes to. -/
structure Message where
  topic : String
  nodeId : Option String := none
  data : Json := .null
  deriving Repr

namespace Message

/-- The topic of requests. -/
def produceTopic : String := "produce_testdata"

/-- The topic of replies. -/
def consumeTopic : String := "consume_testdata"

/-- The topic under which a connecting worker announces its client id. -/
def readyTopic : String := "client_ready"

/-- Read a message from an object or from the list of its fields. -/
def ofJson : Conversion Message
  | .obj members => do
    let data ← field? members "data" asIs
    let nodeId ← field? members "node_id" (optional asString)
    let topic ← field? members "topic" asString
    let topic ← required "topic" topic
    return ⟨topic, nodeId.join, data.getD .null⟩
  | .arr items => do
    let topic ← item? items 0 asString
    let topic ← requiredItem "struct Message" 3 0 topic
    let nodeId ← item? items 1 (optional asString)
    let data ← item? items 2 asIs
    atMost 3 items
    return ⟨topic, nodeId.join, data.getD .null⟩
  | v => .error (.wrongType v "struct Message")

/-- The fields of a message in their order; an absent client id is left out. -/
def fields (m : Message) : List (String × Json) :=
  [("topic", .str m.topic)] ++ (m.nodeId.toList.map fun n => ("node_id", .str n)) ++
    [("data", m.data)]

/-- A message as a value. -/
def toJson (m : Message) : Json := object m.fields

/-- The compact text of a message, with the fields in their order. -/
def wire (m : Message) : String := Json.compact (.obj m.fields)

end Message

/-- The body of a request message. -/
structure Production where
  uid : UInt64
  cid : String
  request : Request
  deriving Repr

namespace Production

/-- Read the body of a request message. -/
def ofJson : Conversion Production
  | .obj members => do
    let cid ← field? members "cid" asString
    let request ← field? members "request" Request.ofJson
    let uid ← field? members "uid" asUInt64
    let uid ← required "uid" uid
    let cid ← required "cid" cid
    let request ← required "request" request
    return ⟨uid, cid, request⟩
  | .arr items => do
    let uid ← item? items 0 asUInt64
    let uid ← requiredItem "struct ProduceTestdata" 3 0 uid
    let cid ← item? items 1 asString
    let cid ← requiredItem "struct ProduceTestdata" 3 1 cid
    let request ← item? items 2 Request.ofJson
    let request ← requiredItem "struct ProduceTestdata" 3 2 request
    atMost 3 items
    return ⟨uid, cid, request⟩
  | v => .error (.wrongType v "struct ProduceTestdata")

/-- The body of a request message as a value. -/
def toJson (p : Production) : Json :=
  object [("uid", ofUInt64 p.uid), ("cid", .str p.cid), ("request", p.request.toJson)]

/-- The message that carries a request. -/
def toMessage (p : Production) : Message := ⟨Message.produceTopic, none, p.toJson⟩

end Production

/-- The body of a request message whose request has not been looked at yet. -/
structure Envelope where
  uid : UInt64
  cid : String
  request : Json := .null
  deriving Repr

namespace Envelope

/-- Read the body of a request message and leave the request alone. -/
def ofJson : Conversion Envelope
  | .obj members => do
    let cid ← field? members "cid" asString
    let request ← field? members "request" asIs
    let uid ← field? members "uid" asUInt64
    let uid ← required "uid" uid
    let cid ← required "cid" cid
    return ⟨uid, cid, request.getD .null⟩
  | .arr items => do
    let uid ← item? items 0 asUInt64
    let uid ← requiredItem "struct ProduceEnvelope" 3 0 uid
    let cid ← item? items 1 asString
    let cid ← requiredItem "struct ProduceEnvelope" 3 1 cid
    let request ← item? items 2 asIs
    atMost 3 items
    return ⟨uid, cid, request.getD .null⟩
  | v => .error (.wrongType v "struct ProduceEnvelope")

end Envelope

/-- The body of a reply message. -/
structure Consumption where
  uid : UInt64
  response : Json
  deriving Repr

namespace Consumption

/-- Read the body of a reply message. -/
def ofJson : Conversion Consumption
  | .obj members => do
    let response ← field? members "response" asIs
    let uid ← field? members "uid" asUInt64
    let uid ← required "uid" uid
    let response ← required "response" response
    return ⟨uid, response⟩
  | .arr items => do
    let uid ← item? items 0 asUInt64
    let uid ← requiredItem "struct ConsumeTestdata" 2 0 uid
    let response ← item? items 1 asIs
    let response ← requiredItem "struct ConsumeTestdata" 2 1 response
    atMost 2 items
    return ⟨uid, response⟩
  | v => .error (.wrongType v "struct ConsumeTestdata")

/-- The body of a reply message as a value. -/
def toJson (c : Consumption) : Json :=
  object [("uid", ofUInt64 c.uid), ("response", c.response)]

/-- The message that carries a reply to a client. -/
def toMessage (c : Consumption) (client : String) : Message :=
  ⟨Message.consumeTopic, some client, c.toJson⟩

end Consumption

end LoadTest
