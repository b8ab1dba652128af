import LoadTest.Cluster.Script
import LoadTest.Consumer
import LoadTest.Coordinator
import LoadTest.Correlation
import LoadTest.Transport.Hub
/-!
# Clusters

A coordinator, workers that are connected to it, the virtual users of the workers and their
calls, all at one moment. Time is a number of nanoseconds since the start.
-/

namespace LoadTest.Cluster

open Transport

/-- One connection of a worker. -/
structure Worker where
  client : String
  options : ConsumerOptions := {}
  table : Correlation.Table := {}
  /-- Whether the worker still reads its replies. -/
  isReading : Bool := true
  /-- Whether the events of its users are kept. -/
  keepsEvents : Bool := true
  deriving Repr

namespace Worker

/-- The text of a worker in a report. -/
def text (w : Worker) : String :=
  "Worker \x7b client_id: " ++ Text.quoted w.client ++ ", options: " ++ w.options.text ++ " \x7d"

end Worker

/-- A virtual user and the number of its worker. -/
structure User where
  worker : Nat
  consumer : Consumer
  deriving Repr

/-- How far a call has come. -/
inductive Phase where
  /-- The next thing is to send a request. -/
  | ready
  /-- A request was sent, and waits for its reply up to a time. -/
  | waiting (ticket : Correlation.Ticket) (deadline : Nat)
  /-- Nothing was found, and the call sleeps up to a time. -/
  | sleeping (deadline : Nat)
  | finished (result : Except Error Answer)
  /-- The caller has lost interest. -/
  | cancelled

/-- A call of a user: when it began, when its last attempt began, and how far it has come. -/
structure Call where
  user : Nat
  method : Method
  began : Nat
  attempted : Nat
  isFirst : Bool := true
  phase : Phase := .ready

namespace Call

/-- The result of a call that is finished. -/
def result? (c : Call) : Option (Except Error Answer) :=
  match c.phase with
  | .finished r => some r
  | _ => none

end Call

/-- Who answers the requests. -/
inductive Service where
  | coordinator (c : Coordinator)
  | script (s : Script)
  | closed
  /-- A fault has ended the serving of requests. The state of the coordinator is still there. -/
  | crashed (c : Coordinator) (fault : Crash)

namespace Service

/-- The coordinator, if there is one. -/
def coordinator? : Service → Option Coordinator
  | coordinator c | crashed c _ => some c
  | _ => none

/-- Replace the coordinator, if there is one. -/
def setCoordinator (c : Coordinator) : Service → Service
  | coordinator _ => .coordinator c
  | crashed _ fault => .crashed c fault
  | s => s

end Service

/-- A cluster at one moment. -/
structure State where
  now : Nat := 0
  hub : Hub := {}
  service : Service
  workers : List Worker := []
  users : List User := []
  calls : List Call := []
  /-- The events of the users, the oldest first. -/
  consumed : List Event := []
  /-- The events of the coordinator, the oldest first. -/
  produced : List Event := []
  folder : Persistence.Folder := .missing

namespace State

/-- The user of a call, and the user's worker. -/
def owner? (s : State) (c : Call) : Option (User × Worker) := do
  let u ← s.users[c.user]?
  let w ← s.workers[u.worker]?
  return (u, w)

/-- Replace the table of a worker. -/
def setTable (s : State) (worker : Nat) (table : Correlation.Table) : State :=
  { s with workers := s.workers.modify worker fun w => { w with table := table } }

/-- Replace a call. -/
def setCall (s : State) (call : Nat) (c : Call) : State :=
  { s with calls := s.calls.set call c }

/-- The coordinator, if there is one. -/
def coordinator? (s : State) : Option Coordinator := s.service.coordinator?

/-- Replace the coordinator, if there is one, and the folder of its snapshots. -/
def setCoordinator (s : State) (c : Coordinator) (folder : Persistence.Folder) : State :=
  { s with service := s.service.setCoordinator c, folder := folder }

/-- The number of the worker with a client id. -/
def workerOf? (s : State) (client : String) : Option Nat :=
  s.workers.findIdx? (·.client = client)

end State

end LoadTest.Cluster
