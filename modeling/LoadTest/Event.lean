import LoadTest.Duration
import LoadTest.Request
/-!
# Events

Every request for the keystore or for test data leaves one event on each side of the
protocol. A failed request carries the text of its error.
-/

namespace LoadTest

/-- The side that an event was recorded on. -/
inductive EventRole where
  | consumer
  | producer
  deriving DecidableEq, Repr

namespace EventRole

/-- The name of a side. -/
def name : EventRole → String
  | consumer => "consumer"
  | producer => "producer"

/-- The name of a side at the start of a log line. -/
def title : EventRole → String
  | consumer => "Consumer"
  | producer => "Producer"

end EventRole

/-- One request as one side saw it. The kind is missing if it is not a known one. -/
structure Event where
  kind : Option MessageKind
  role : EventRole
  identifier : String
  action : Option String
  key : Option String
  responseTime : Duration
  error : Option String
  deriving DecidableEq, Repr

namespace Event

/-- Whether the request failed. -/
def isFailure (e : Event) : Bool := e.error.isSome

/-- The name of the kind. -/
def kindName (e : Event) : String :=
  match e.kind with
  | some k => k.name
  | none => "unknown"

/-- The name under which an event is counted: the identifier, and the key if there is one. -/
def name (e : Event) : String :=
  match e.key with
  | some key => e.identifier ++ " " ++ key
  | none => e.identifier

/-- The failed ones among some events, in their order. -/
def failures (events : List Event) : List Event := events.filter isFailure

/-- An event as a value. -/
def toJson (e : Event) : Json :=
  .object [("kind", .ofOption (fun k => .str k.name) e.kind), ("role", .str e.role.name),
    ("identifier", .str e.identifier), ("action", .ofOption .str e.action),
    ("key", .ofOption .str e.key),
    ("response_time", .object
      [("secs", .ofUInt64 (UInt64.ofNat e.responseTime.seconds)),
        ("nanos", .ofUInt64 (UInt64.ofNat e.responseTime.nanos))]),
    ("error", .ofOption .str e.error)]

/-- The log line of an event: a warning for a failure. -/
def logLine (e : Event) : String :=
  let request := e.role.title ++ " " ++ e.kindName ++ " request " ++ e.name ++
    " (" ++ e.action.getD "-" ++ ")"
  match e.error with
  | some error => "WARN " ++ request ++ " failed after " ++ e.responseTime.text ++ ": " ++ error
  | none => "DEBUG " ++ request ++ " took " ++ e.responseTime.text

end Event

end LoadTest
