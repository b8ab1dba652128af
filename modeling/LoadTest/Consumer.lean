import LoadTest.Event
import LoadTest.Error
import LoadTest.Message
import LoadTest.Response
/-!
# Consumers

What a virtual user asks for, and how the replies are read. Every call sends one request and
reads one reply, except a pop, which asks again while the list is empty: its attempts follow
one another until one yields a value, one fails for good, or the time is up. Each attempt is
recorded as one event.
-/

namespace LoadTest

/-- How long a request waits for its reply, and how long a pop sleeps between attempts. -/
structure ConsumerOptions where
  requestTimeout : Duration := ⟨10, 0⟩
  pollInterval : Duration := ⟨1, 0⟩
  deriving DecidableEq, Repr

namespace ConsumerOptions

/-- The text of the options in a report. -/
def text (o : ConsumerOptions) : String :=
  "ConsumerOptions \x7b request_timeout: " ++ o.requestTimeout.text ++ ", poll_interval: " ++
    o.pollInterval.text ++ " \x7d"

end ConsumerOptions

/-- A virtual user of a scenario. The correlation id stays the same for all its calls. -/
structure Consumer where
  identifier : String
  uid : UInt64
  deriving DecidableEq, Repr

namespace Consumer

/-- The text of a consumer in a report. -/
def text (c : Consumer) : String :=
  "TestdataConsumer \x7b identifier: " ++ Text.quoted c.identifier ++ ", uid: " ++
    Text.decimal c.uid.toNat ++ " \x7d"

end Consumer

/-- What a virtual user can call. -/
inductive Method where
  /-- The variables of the next iteration. -/
  | testdata
  | get (key : String)
  | set (key : String) (value : Json)
  | inc (key : String) (step : Int64)
  | push (key : String) (value : Json)
  /-- Take the head of a list, and wait for one; without a limit, for ever. -/
  | pop (key : String) (wait : Option Duration)
  | del (key : String)
  deriving Repr

/-- What a reply says. -/
inductive Reading where
  /-- Go on with these variables, or stop. -/
  | testdata (payload : Option Payload)
  /-- The data of the keystore. -/
  | data (value : Json)
  deriving Repr

/-- What a call answers. -/
inductive Answer where
  /-- The variables of the next iteration, or the end of the scenario. -/
  | testdata (payload : Option Payload)
  /-- A value, if there is one. -/
  | value (value : Option Json)
  /-- A total. -/
  | total (n : Int64)
  | done
  deriving Repr

/-- What follows an attempt. -/
inductive Next where
  | finish (result : Except Error Answer)
  /-- Sleep, then make another attempt. -/
  | again

namespace Method

/-- The action and the key of a call to the keystore. -/
def target? : Method → Option (KeystoreAction × String)
  | testdata => none
  | get key => some (.get, key)
  | set key _ => some (.set, key)
  | inc key _ => some (.inc, key)
  | push key _ => some (.push, key)
  | pop key _ => some (.pop, key)
  | del key => some (.del, key)

/-- The data that a call sends along. -/
def data? : Method → Option Json
  | set _ value | push _ value => some value
  | inc _ step => some (.ofInt64 step)
  | _ => none

/-- The request of a call. -/
def request (m : Method) (identifier : String) : Request :=
  match m.target? with
  | none => .testdata identifier
  | some (action, key) => .keystore identifier action key m.data?

/-- The kind of request that a call makes. -/
def kind (m : Method) : MessageKind :=
  match m.target? with
  | none => .testdata
  | some _ => .keystore

/-! ## Replies -/

/-- Read a reply about test data. -/
def readTestdata (reply : Json) : Except Error Reading :=
  match TestdataResponse.ofJson reply with
  | .error m => .error (.malformedResponse ("testdata response: " ++ m.message))
  | .ok r =>
    match r.action? with
    | some .consume => .ok (.testdata (some (r.data.getD {})))
    | some .stop => .ok (.testdata none)
    | none => .error (.unknownTestdataAction r.action)

/-- Read a reply of the keystore to an action on a key. -/
def readKeystore (action : KeystoreAction) (key : String) (reply : Json) :
    Except Error Reading :=
  match KeystoreResponse.ofJson reply with
  | .error m => .error (.malformedResponse ("keystore response: " ++ m.message))
  | .ok r =>
    match r.error with
    | some text => .error (.keystore action.name key text)
    | none => .ok (.data r.data)

/-- Read the reply to a call. -/
def read (m : Method) (reply : Json) : Except Error Reading :=
  match m.target? with
  | none => readTestdata reply
  | some (action, key) => readKeystore action key reply

/-- What an attempt comes to, given what waiting for its reply came to. -/
def outcome (m : Method) (reply : Except Error Json) : Except Error Reading :=
  match reply with
  | .ok v => m.read v
  | .error e => .error e

/-- The event of an attempt. -/
def event (m : Method) (identifier : String) (took : Duration) (r : Except Error Reading) :
    Event where
  kind := some m.kind
  role := .consumer
  identifier := identifier
  action := m.target?.map (·.1.name)
  key := m.target?.map (·.2)
  responseTime := took
  error :=
    match r with
    | .ok _ => none
    | .error e => some e.message

/-! ## Attempts -/

/-- What follows an attempt of a pop that found nothing. -/
def emptyPop (key : String) (wait : Option Duration) (elapsed : Duration) : Next :=
  match wait with
  | none => .again
  | some wait =>
    if wait.toNanos ≤ elapsed.toNanos then .finish (.error (.popTimeout key wait)) else .again

/-- What follows an attempt of a pop. An error that may go away counts as nothing found,
except on the first attempt. -/
def nextPop (key : String) (wait : Option Duration) (isFirst : Bool) (elapsed : Duration) :
    Except Error Reading → Next
  | .error e =>
    if !isFirst && e.isRetryable then emptyPop key wait elapsed else .finish (.error e)
  | .ok (.data v) =>
    if v.isNull then emptyPop key wait elapsed else .finish (.ok (.value (some v)))
  | .ok (.testdata p) => .finish (.ok (.testdata p))

/-- The answer of a call that takes one reply. -/
def answer (m : Method) : Reading → Except Error Answer
  | .testdata payload => .ok (.testdata payload)
  | .data v =>
    match m with
    | get _ => .ok (.value (if v.isNull then none else some v))
    | inc key _ =>
      match v.int64? with
      | some n => .ok (.total n)
      | none => .error (.malformedResponse ("inc on \"" ++ key ++ "\" returned " ++ v.compact))
    | _ => .ok .done

/-- What follows an attempt, given whether it was the first and the time since the call
began. -/
def next (m : Method) (isFirst : Bool) (elapsed : Duration) (r : Except Error Reading) : Next :=
  match m with
  | pop key wait => nextPop key wait isFirst elapsed r
  | m => .finish (r.bind m.answer)

end Method

end LoadTest
