import LoadTest.Event
import LoadTest.Keystore
import LoadTest.Message
import LoadTest.Persistence.Persister
import LoadTest.Testdata.Producer
/-!
# The coordinator

Takes the requests of all workers one at a time and answers each of them exactly once, to
the client id in its envelope, under its correlation id. A request that cannot be read, or
is of an unknown kind, is answered by an empty object. Only a message without a usable
envelope is an error and gets no answer.
-/

namespace LoadTest

open Testdata Persistence

/-- The state shared by all workers. The count of requests has no bound here, since no run gets to
the end of the 64 bits that it has in operation. -/
structure Coordinator where
  keystore : Keystore := ∅
  producer : Producer := {}
  persister : Persister := {}
  requestsHandled : Nat := 0

/-- What the outside world has to do with a request: what sources read, and the time that
handling it takes. -/
structure Outside where
  read : String → Moment
  took : Duration := ⟨0, 0⟩

/-- What came of a request before the reply is sent. -/
structure Dispatched where
  response : Json
  error : Option String := none
  log : List String := []

/-- What came of a message: the event that records the request, and the reply. -/
structure Handled where
  event : Event
  reply : Message
  log : List String := []

/-- A view of the state at one moment. -/
structure Status where
  keystoreKeys : Nat
  iterations : Dict UInt64
  requestsHandled : Nat
  hasPersisted : Bool
  deriving Repr

namespace Coordinator

/-- A coordinator with nothing in its keystore. -/
def make (producer : Producer) (persister : Persister) : Coordinator :=
  { producer := producer, persister := persister }

/-- The answer to a request that cannot be dispatched. -/
def emptyResponse : Json := .obj []

/-- Apply a request to the state. What happened before a crash stays. -/
def dispatch (c : Coordinator) (outside : Outside) (r : Request) :
    Except Crash Dispatched × Coordinator :=
  match r.kind? with
  | some .keystore =>
    let (response, keystore) := c.keystore.handle r
    (.ok ⟨response.toJson, response.error, []⟩, { c with keystore := keystore })
  | some .testdata =>
    let (result, producer) := c.producer.handle outside.read r.identifier
    (result.map fun s => ⟨s.response.toJson, none, s.log⟩, { c with producer := producer })
  | none =>
    let message := "received unknown message \"" ++ r.message ++ "\""
    (.ok ⟨emptyResponse, some message, ["ERROR " ++ message]⟩, c)

/-- Apply a request that has not been looked at yet. -/
def dispatchRaw (c : Coordinator) (outside : Outside) (raw : Json) :
    Except Crash Dispatched × Coordinator :=
  match Request.ofJson raw with
  | .ok r => c.dispatch outside r
  | .error m =>
    let message := "malformed request: " ++ m.message
    (.ok ⟨emptyResponse, some message, ["ERROR " ++ message]⟩, c)

/-- The kind of a request that has not been looked at yet. -/
def kindOf (raw : Json) : Option MessageKind := (Request.ofJson raw).toOption.bind Request.kind?

/-- The event of a request. It is named after what the request itself holds under the names
of the fields, whether or not the request could be read. -/
def eventOf (raw : Json) (took : Duration) (error : Option String) : Event where
  kind := kindOf raw
  role := .producer
  identifier := ((raw.member? "identifier").bind Json.string?).getD ""
  action := (raw.member? "action").bind Json.string?
  key := (raw.member? "key").bind Json.string?
  responseTime := took
  error := error

/-- Answer the request in an envelope. A request that ends in a crash is not counted. -/
def answer (c : Coordinator) (outside : Outside) (e : Envelope) :
    Except Crash Handled × Coordinator :=
  match c.dispatchRaw outside e.request with
  | (.error crash, c) => (.error crash, c)
  | (.ok d, c) =>
    (.ok {
      event := eventOf e.request outside.took d.error
      reply := (⟨e.uid, d.response⟩ : Consumption).toMessage e.cid
      log := d.log }, { c with requestsHandled := c.requestsHandled + 1 })

/-- The error of a message without a usable envelope. -/
def malformedEnvelope (m : Mismatch) : Error :=
  .json ("malformed " ++ Message.produceTopic ++ " message: " ++ m.message) none

/-- Handle a message that carries a request. -/
def handle (c : Coordinator) (outside : Outside) (m : Message) :
    Except Crash (Except Error Handled) × Coordinator :=
  match Envelope.ofJson m.data with
  | .error e => (.ok (.error (malformedEnvelope e)), c)
  | .ok e =>
    let (result, c) := c.answer outside e
    (result.map .ok, c)

/-- What comes of an inbound message, if anything does: messages of other topics and those
without a usable envelope are passed over. -/
def receive? (c : Coordinator) (outside : Outside) (m : Message) :
    Except Crash (Option Handled) × Coordinator :=
  if m.topic = Message.produceTopic then
    let (result, c) := c.handle outside m
    (result.map Except.toOption, c)
  else (.ok none, c)

/-! ## The end of a run -/

/-- Write the snapshot, unless this run has done so. -/
def persist (c : Coordinator) (folder : Folder) (a : Attempt) :
    Except Error Unit × Coordinator × Folder :=
  let (result, persister, folder) := c.persister.persist folder a c.producer.snapshot
  (result.map fun _ => (), { c with persister := persister }, folder)

/-- The test stops: write the snapshot, and start the counters of iterations over whether or
not that succeeds. -/
def testStop (c : Coordinator) (folder : Folder) (a : Attempt) :
    Except Error Unit × Coordinator × Folder :=
  let (result, c, folder) := c.persist folder a
  (result, { c with producer := c.producer.reset }, folder)

/-- The run ends. -/
def stop (c : Coordinator) (folder : Folder) (a : Attempt) :
    Except Error Unit × Coordinator × Folder := c.persist folder a

/-! ## Views -/

/-- The state at this moment. -/
def status (c : Coordinator) : Status :=
  ⟨c.keystore.size, c.producer.served, c.requestsHandled, c.persister.hasPersisted⟩

/-- The value under a key. -/
def value? (c : Coordinator) (key : String) : Option Json := c.keystore.get? key

end Coordinator

namespace Status

/-- A view of the state as a value. -/
def toJson (s : Status) : Json :=
  .object [("keystore_keys", .ofUInt64 (UInt64.ofNat s.keystoreKeys)),
    ("iterations", .ofDict (s.iterations.map .ofUInt64)),
    ("requests_handled", .ofUInt64 (UInt64.ofNat s.requestsHandled)),
    ("has_persisted", .bool s.hasPersisted)]

end Status

end LoadTest
