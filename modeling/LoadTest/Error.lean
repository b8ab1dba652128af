import LoadTest.Duration
import LoadTest.Json.Convert
import LoadTest.Json.Reader
/-!
# Errors

The causes for which a call fails, each with its text. A call that failed for one of three
causes may succeed when it is issued again.
-/

namespace LoadTest

/-- Why a call failed. -/
inductive Error where
  /-- No reply came in time. -/
  | noDataReceived (timeout : Duration)
  /-- A polling pop found nothing in time. -/
  | popTimeout (key : String) (wait : Duration)
  /-- The correlation id has a request that is still waiting. -/
  | duplicateCorrelation (uid : UInt64)
  /-- The keystore refused an action. -/
  | keystore (action key text : String)
  /-- A reply about test data has an unknown action. -/
  | unknownTestdataAction (action : String)
  /-- A reply could not be read. -/
  | malformedResponse (text : String)
  /-- A message could not be handed over. -/
  | transport (text : String)
  /-- The coordinator cannot be reached. -/
  | connectionLost (address : String)
  /-- No worker with this client id is connected. -/
  | unknownClient (client : String)
  /-- A variable has no value. -/
  | materialize (key text : String)
  /-- A definition or a frame breaks a rule. -/
  | validation (field text : String)
  /-- An operation on a file failed. -/
  | io (text : String) (path : Option String)
  /-- A value could not be converted, or a text could not be read. -/
  | json (text : String) (fault : Option TextFault)
  deriving Repr

namespace Error

/-- The text of an error. -/
def message : Error → String
  | noDataReceived timeout => "no data received within " ++ timeout.text
  | popTimeout key wait => "no value popped from \"" ++ key ++ "\" within " ++ wait.text
  | duplicateCorrelation uid =>
    "correlation id " ++ Text.decimal uid.toNat ++ " already has a pending request"
  | keystore action key text => "keystore " ++ action ++ " on \"" ++ key ++ "\" failed: " ++ text
  | unknownTestdataAction action => "unknown testdata action \"" ++ action ++ "\" received"
  | malformedResponse text => "malformed response: " ++ text
  | transport text => "transport error: " ++ text
  | connectionLost address => "connection to coordinator at " ++ address ++ " lost"
  | unknownClient client => "unknown client \"" ++ client ++ "\""
  | materialize key text => "failed to materialize \"" ++ key ++ "\": " ++ text
  | validation field text => "Validation error for " ++ field ++ ": " ++ text
  | io text none => "IO error at None: " ++ text
  | io text (some path) => "IO error at Some(" ++ Text.quotedPath path ++ "): " ++ text
  | json text _ => "JSON error: " ++ text

/-- Whether the failed call may succeed when it is issued again. -/
def isRetryable : Error → Bool
  | noDataReceived _ | transport _ | connectionLost _ => true
  | _ => false

/-- A conversion failed. -/
def ofMismatch (m : Mismatch) : Error := .json m.message none

/-- A text could not be read; the place of the fault is not told. -/
def ofFault (f : TextFault) : Error := .json "" (some f)

/-! ## Causes of transport errors -/

/-- The reply channel was closed before the call. -/
def replyChannelClosed : Error := .transport "reply channel closed"

/-- The reply channel was closed during the call. -/
def closedBeforeResponse : Error :=
  .transport "reply channel closed before a response arrived"

/-- The coordinator no longer takes messages. -/
def coordinatorClosed : Error := .transport "coordinator inbox closed"

/-- A message of the coordinator names no client. -/
def noDestination (topic : String) : Error :=
  .transport ("message \"" ++ topic ++ "\" has no destination")

/-- A worker no longer takes messages. -/
def workerClosed (client : String) : Error :=
  .transport ("worker " ++ client ++ " inbox closed")

/-- Too many messages wait to be written to a worker. -/
def queueFull (client : String) : Error :=
  .transport ("outbound queue for worker " ++ client ++ " is full")

/-- The connection that served a client has ended. -/
def connectionClosed (client : String) : Error :=
  .transport ("connection to worker " ++ client ++ " closed")

end Error

end LoadTest
