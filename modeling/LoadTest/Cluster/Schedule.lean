import LoadTest.Cluster.Step
/-!
# Scheduling

Picks one run of a cluster among all that are possible. Tasks take turns: the service, the
replies of each worker, and each call. A task goes on as long as it can; one that is blocked
gets a turn behind those before it as soon as it can go on again. Time stands still while
any task can go on, then it moves to the next deadline. Of several tasks with one deadline
the one that blocked first comes first. One call may be gone through by whoever drives the
cluster: it goes on when all other tasks are blocked, but after a move of time it is the first.
-/

namespace LoadTest.Cluster

/-- What takes turns. -/
inductive Task where
  | service
  | replies (worker : Nat)
  | call (call : Nat)
  deriving DecidableEq, Repr

namespace State

/-- What a task does next, unless it is blocked. -/
def next? (s : State) : Task → Option Action
  | .service =>
    match s.service with
    | .coordinator _ => if s.hub.coordinator.messages.isEmpty then none else some (.serve 0)
    | .script script =>
      if script.job.isSome then if s.now < script.resumeAt then none else some .perform
      else if s.hub.coordinator.messages.isEmpty then none
      else some (.serve 0)
    | _ => none
  | .replies worker => do
    let w ← s.workers[worker]?
    if !w.isReading then none
    else if !(s.hub.inbox w.client).messages.isEmpty then return .receive worker 0
    else if s.hub.hasEnded w.client && !w.table.isClosed then return .endReplies worker
    else none
  | .call call => do
    let c ← s.calls[call]?
    match c.phase with
    | .ready => return .attempt call
    | .waiting ticket deadline =>
      let (_, w) ← s.owner? c
      if (w.table.outcome? ticket).isSome then return .complete call
      else if deadline ≤ s.now then return .expire call
      else none
    | .sleeping deadline => if deadline ≤ s.now then return .wake call else none
    | _ => none

/-- The time up to which a blocked task waits, if it waits for a time. -/
def deadline? (s : State) : Task → Option Nat
  | .service =>
    match s.service with
    | .script script => if script.job.isSome then some script.resumeAt else none
    | _ => none
  | .replies _ => none
  | .call call => do
    let c ← s.calls[call]?
    match c.phase with
    | .waiting _ deadline | .sleeping deadline => return deadline
    | _ => none

end State

/-- A cluster with the tasks that can go on, in the order of their turns, and the blocked
ones, in the order in which they blocked. -/
structure Schedule where
  state : State
  queue : List Task := []
  blocked : List Task := [.service]
  /-- The call that the driver goes through, if there is one. -/
  foreground : Option Nat := none

namespace Schedule

/-- Whether a task is blocked no longer. -/
def canGoOn (s : Schedule) (t : Task) : Bool := (s.state.next? t).isSome

/-- Whether a task is the call that the driver goes through. -/
def isForeground (s : Schedule) (t : Task) : Bool := s.foreground.any (t = .call ·)

/-- Queue the blocked tasks that can go on, except the foreground. -/
def rouse (s : Schedule) : Schedule :=
  let (roused, blocked) := s.blocked.partition fun t => !s.isForeground t && s.canGoOn t
  { s with queue := s.queue ++ roused, blocked := blocked }

/-- Let the foreground go on before all others, if it can go on. -/
def rouseForeground (s : Schedule) : Schedule :=
  let (roused, blocked) := s.blocked.partition fun t => s.isForeground t && s.canGoOn t
  { s with queue := roused ++ s.queue, blocked := blocked }

/-- Change the cluster from outside; a new task may come with the change. -/
def change (s : Schedule) (state : State) (tasks : List Task) : Schedule :=
  rouse { s with state := state, blocked := s.blocked ++ tasks }

/-- Let tasks go on, one action at a time, until all are blocked or the fuel is spent. -/
def settle (outside : Outside) : (fuel : Nat) → Schedule → Schedule
  | 0, s => s
  | fuel + 1, s =>
    let s := if s.queue.isEmpty then s.rouseForeground else s
    match s.queue with
    | [] => s
    | t :: rest =>
      match (s.state.next? t).bind (s.state.step? outside) with
      | some state => settle outside fuel (rouse { s with state := state })
      | none => settle outside fuel { s with queue := rest, blocked := s.blocked ++ [t] }

/-- The next deadline of a blocked task. -/
def nextDeadline? (s : Schedule) : Option Nat := (s.blocked.filterMap s.state.deadline?).min?

/-- Move the time. -/
def setNow (s : Schedule) (now : Nat) : Schedule :=
  (rouse { s with state := { s.state with now := now } }).rouseForeground

/-- Let time pass up to a moment, and everything happen that is due until then. -/
def passUntil (outside : Outside) (target : Nat) : (fuel : Nat) → Schedule → Schedule
  | 0, s => s
  | fuel + 1, s =>
    let s := s.settle outside (fuel + 1)
    match s.nextDeadline? with
    | some d =>
      if d ≤ target then passUntil outside target fuel (s.setNow d)
      else (s.setNow target).settle outside (fuel + 1)
    | none => (s.setNow target).settle outside (fuel + 1)

/-- Whether a call is over. -/
def isOver (s : Schedule) (call : Nat) : Bool :=
  match s.state.calls[call]? with
  | some c =>
    match c.phase with
    | .finished _ | .cancelled => true
    | _ => false
  | none => true

/-- Let time pass until a call is over. -/
def passUntilOver (outside : Outside) (call : Nat) : (fuel : Nat) → Schedule → Schedule
  | 0, s => s
  | fuel + 1, s =>
    let s := s.settle outside (fuel + 1)
    if s.isOver call then s
    else
      match s.nextDeadline? with
      | some d => passUntilOver outside call fuel (s.setNow d)
      | none => s

end Schedule

end LoadTest.Cluster
