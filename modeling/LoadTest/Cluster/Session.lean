import LoadTest.Cluster.Schedule
/-!
# Sessions

A cluster that is used step by step: between two steps everything happens that can happen
without waiting, and a step that waits lets time pass. A call may run in the background
until someone waits for it or gives it up, either of which can be done once.
-/

namespace LoadTest.Cluster

/-- A cluster under its schedule, and the calls in the background by number. -/
structure Session where
  schedule : Schedule
  background : List (Option Nat) := []

namespace Session

/-- The most actions between two steps. -/
def fuel : Nat := 1000000

/-- The cluster at this moment. -/
def state (s : Session) : State := s.schedule.state

/-- Change the cluster, which may bring new tasks, and let everything happen that can. -/
def change (outside : Outside) (s : Session) (state : State) (tasks : List Task) : Session :=
  { s with schedule := (s.schedule.change state tasks).settle outside fuel }

/-- Wait for a call. There is no result of a call that never ends. -/
def await (outside : Outside) (s : Session) (call : Nat) :
    Session × Option (Except Error Answer) :=
  let schedule := (s.schedule.passUntilOver outside call fuel).settle outside fuel
  ({ s with schedule := schedule }, (schedule.state.calls[call]?).bind Call.result?)

/-- Put a call in front of all others, or none. -/
def setForeground (s : Session) (call : Option Nat) : Session :=
  { s with schedule := { s.schedule with foreground := call } }

/-- Go through a call of a user. -/
def perform? (outside : Outside) (s : Session) (user : Nat) (m : Method) :
    Option (Session × Option (Except Error Answer)) := do
  let state ← s.state.begin? user m
  let call := s.state.calls.length
  let s := (s.setForeground (some call)).change outside state [.call call]
  let (s, result) := s.await outside call
  return (s.setForeground none, result)

/-- Begin a call of a user in the background, and tell its number there. -/
def start? (outside : Outside) (s : Session) (user : Nat) (m : Method) :
    Option (Session × Nat) := do
  let state ← s.state.begin? user m
  let call := s.state.calls.length
  let s := s.change outside state [.call call]
  return ({ s with background := s.background ++ [some call] }, s.background.length)

/-- Take a call out of the background. -/
def attach? (s : Session) (number : Nat) : Option (Session × Nat) := do
  let call ← (← s.background[number]?)
  return ({ s with background := s.background.set number none }, call)

/-- Give up a call. -/
def cancel (outside : Outside) (s : Session) (call : Nat) : Session :=
  s.change outside ((s.state.cancel? call).getD s.state) []

/-- Let some time pass. -/
def sleep (outside : Outside) (s : Session) (nanos : Nat) : Session :=
  { s with schedule := s.schedule.passUntil outside (s.state.now + nanos) fuel }

/-- A worker that still reads its replies. -/
def reader? (s : Session) (worker : Nat) : Option Worker :=
  (s.state.workers[worker]?).filter Worker.isReading

end Session

end LoadTest.Cluster
