import LoadTest.Cluster.State
/-!
# What can happen in a cluster

Everything that happens is an action, and an action that cannot happen now has no next
state. Messages may be taken out of an inbox in any order, and time may pass between any two
actions, so the runs of a cluster cover every order in which requests reach the coordinator
and replies reach the workers.
-/

namespace LoadTest.Cluster

open Transport

/-- What can happen in a cluster. -/
inductive Action where
  /-- Time passes. -/
  | pass (nanos : Nat)
  /-- The coordinator takes the message at a position of its inbox. -/
  | serve (position : Nat)
  /-- The script goes on with the request that it works off. -/
  | perform
  /-- A worker takes the message at a position of its inbox. -/
  | receive (worker position : Nat)
  /-- A worker notices that no more replies can come. -/
  | endReplies (worker : Nat)
  /-- A call registers and sends its request. -/
  | attempt (call : Nat)
  /-- A call takes the outcome of its request. -/
  | complete (call : Nat)
  /-- A call gives up waiting for a reply. -/
  | expire (call : Nat)
  /-- A call has slept long enough. -/
  | wake (call : Nat)
  /-- The caller loses interest in a call. -/
  | cancel (call : Nat)
  /-- A worker connects. -/
  | connect (client : String) (options : ConsumerOptions) (keepsEvents : Bool)
  /-- A worker gets another user. -/
  | join (worker : Nat) (identifier : String)
  /-- A user begins a call. -/
  | begin (user : Nat) (method : Method)
  /-- A worker sends some message. -/
  | inject (worker : Nat) (topic : String) (data : Json)
  /-- The coordinator forgets a worker. -/
  | disconnect (worker : Nat)
  /-- A worker stops reading its replies. -/
  | dropWorker (worker : Nat)
  /-- The coordinator stops. -/
  | closeService
  /-- The test stops. -/
  | testStop (a : Persistence.Attempt)
  /-- The run ends. -/
  | stop (a : Persistence.Attempt)

namespace State

/-! ## The service -/

/-- Hand a message to the worker that it names; the sender does not look at the result. -/
def sendToWorker (s : State) (m : Message) : State := { s with hub := (s.hub.coordinatorSend m).2 }

/-- The coordinator takes a message. A crash ends its serving, and what is in its inbox is
lost. -/
def serveMessage (s : State) (c : Coordinator) (outside : Outside) (m : Message) : State :=
  match c.receive? outside m with
  | (.error crash, c) =>
    { s with service := .crashed c crash, hub := s.hub.closeCoordinator }
  | (.ok none, c) => { s with service := .coordinator c }
  | (.ok (some h), c) =>
    sendToWorker { s with service := .coordinator c, produced := s.produced ++ [h.event] } h.reply

/-- Take the message at a position of the coordinator's inbox. -/
def serve? (s : State) (outside : Outside) (position : Nat) : Option State := do
  let m ← s.hub.coordinator.messages[position]?
  let rest := { s with hub := { s.hub with coordinator := s.hub.coordinator.remove position } }
  match s.service with
  | .coordinator c => some (rest.serveMessage c outside m)
  | .script script =>
    match script.job with
    | none => some { rest with service := .script (script.take m) }
    | some _ => none
  | _ => none

/-- Do the next action of a script. -/
def perform? (s : State) : Option State :=
  match s.service with
  | .script script =>
    match script.job with
    | none => none
    | some job =>
      if s.now < script.resumeAt then none
      else
        match job.actions with
        | [] => some { s with service := .script { script with job := none } }
        | a :: rest =>
          let script := { script with job := some { job with actions := rest } }
          let s := { s with service := .script script }
          match a with
          | .delay nanos =>
            some { s with service := .script { script with resumeAt := s.now + nanos } }
          | .disconnect => some { s with hub := s.hub.disconnect job.client }
          | a =>
            match Script.message? job a with
            | some m => some (s.sendToWorker m)
            | none => some s
  | _ => none

/-! ## Replies -/

/-- Take the message at a position of a worker's inbox. -/
def receive? (s : State) (worker position : Nat) : Option State := do
  let w ← s.workers[worker]?
  if w.isReading then
    let inbox := s.hub.inbox w.client
    let m ← inbox.messages[position]?
    let s := { s with hub := s.hub.setInbox w.client (inbox.remove position) }
    return s.setTable worker (w.table.handleMessage m).2
  else none

/-- Close the table of a worker whose replies have ended. -/
def endReplies? (s : State) (worker : Nat) : Option State := do
  let w ← s.workers[worker]?
  if w.isReading && s.hub.hasEnded w.client && !w.table.isClosed then
    return s.setTable worker w.table.close
  else none

/-! ## Calls -/

/-- An attempt of a call is over. -/
def endAttempt (s : State) (call : Nat) (c : Call) (u : User) (w : Worker)
    (reply : Except Error Json) : State :=
  let r := c.method.outcome reply
  let event := c.method.event u.consumer.identifier (.ofNanos (s.now - c.attempted)) r
  let s := if w.keepsEvents then { s with consumed := s.consumed ++ [event] } else s
  match c.method.next c.isFirst (.ofNanos (s.now - c.began)) r with
  | .finish result => s.setCall call { c with phase := .finished result }
  | .again =>
    s.setCall call { c with
      isFirst := false
      phase := .sleeping (s.now + w.options.pollInterval.toNanos) }

/-- The message of a call's request. -/
def requestMessage (c : Call) (u : User) (w : Worker) : Message :=
  (⟨u.consumer.uid, w.client, c.method.request u.consumer.identifier⟩ : Production).toMessage

/-- Register a call and send its request. A call that cannot do either has failed. -/
def attempt? (s : State) (call : Nat) : Option State := do
  let c ← s.calls[call]?
  match c.phase with
  | .ready =>
    let (u, w) ← s.owner? c
    let c := { c with attempted := s.now }
    match w.table.register u.consumer.uid with
    | (.error e, table) => return (s.setTable u.worker table).endAttempt call c u w (.error e)
    | (.ok ticket, table) =>
      match s.hub.workerSend w.client (requestMessage c u w) with
      | (.error e, _) =>
        return (s.setTable u.worker (table.remove ticket)).endAttempt call c u w (.error e)
      | (.ok (), hub) =>
        return ({ s with hub := hub }.setTable u.worker table).setCall call { c with
          phase := .waiting ticket (s.now + w.options.requestTimeout.toNanos) }
  | _ => none

/-- Take the outcome of a call's request, if there is one. -/
def complete? (s : State) (call : Nat) : Option State := do
  let c ← s.calls[call]?
  match c.phase with
  | .waiting ticket _ =>
    let (u, w) ← s.owner? c
    let reply ← w.table.outcome? ticket
    return (s.setTable u.worker (w.table.remove ticket)).endAttempt call c u w reply
  | _ => none

/-- Give up waiting for a reply, once the time is up and no reply has come. -/
def expire? (s : State) (call : Nat) : Option State := do
  let c ← s.calls[call]?
  match c.phase with
  | .waiting ticket deadline =>
    let (u, w) ← s.owner? c
    if deadline ≤ s.now && (w.table.outcome? ticket).isNone then
      return (s.setTable u.worker (w.table.remove ticket)).endAttempt call c u w
        (.error (.noDataReceived w.options.requestTimeout))
    else none
  | _ => none

/-- Go on with a call that has slept long enough. -/
def wake? (s : State) (call : Nat) : Option State := do
  let c ← s.calls[call]?
  match c.phase with
  | .sleeping deadline =>
    if deadline ≤ s.now then return s.setCall call { c with phase := .ready } else none
  | _ => none

/-- Abandon a call; its correlation id is free again. -/
def cancel? (s : State) (call : Nat) : Option State := do
  let c ← s.calls[call]?
  match c.phase with
  | .finished _ | .cancelled => none
  | .waiting ticket _ =>
    let (u, w) ← s.owner? c
    return (s.setTable u.worker (w.table.remove ticket)).setCall call { c with phase := .cancelled }
  | _ => return s.setCall call { c with phase := .cancelled }

/-! ## Workers and users -/

/-- A worker connects under a client id of its own. -/
def connect? (s : State) (client : String) (options : ConsumerOptions) (keepsEvents : Bool) :
    Option State :=
  if (s.workerOf? client).isSome then none
  else
    some { s with
      hub := s.hub.connect client
      workers := s.workers ++
        [{ client := client, options := options, keepsEvents := keepsEvents }] }

/-- A worker gets another user. -/
def join? (s : State) (worker : Nat) (identifier : String) : Option State := do
  let w ← s.workers[worker]?
  let (uid, table) := w.table.nextUid
  return { s.setTable worker table with users := s.users ++ [⟨worker, ⟨identifier, uid⟩⟩] }

/-- A user begins a call. -/
def begin? (s : State) (user : Nat) (method : Method) : Option State := do
  let _ ← s.users[user]?
  return { s with
    calls := s.calls ++ [{ user := user, method := method, began := s.now, attempted := s.now }] }

/-- A worker sends some message to the coordinator. -/
def inject? (s : State) (worker : Nat) (topic : String) (data : Json) :
    Option (Except Error Unit × State) := do
  let w ← s.workers[worker]?
  let (result, hub) := s.hub.workerSend w.client ⟨topic, none, data⟩
  return (result, { s with hub := hub })

/-- The coordinator forgets a worker. -/
def disconnect? (s : State) (worker : Nat) : Option State := do
  let w ← s.workers[worker]?
  return { s with hub := s.hub.disconnect w.client }

/-- A worker stops reading its replies; its users go on. -/
def dropWorker? (s : State) (worker : Nat) : Option State := do
  let w ← s.workers[worker]?
  return { s with
    hub := s.hub.closeInbox w.client
    workers := s.workers.set worker { w with isReading := false } }

/-- The coordinator stops, and what is in its inbox is lost. -/
def closeService (s : State) : State :=
  { s with service := .closed, hub := s.hub.closeCoordinator }

/-! ## The end of a run -/

/-- The test stops. -/
def testStop? (s : State) (a : Persistence.Attempt) : Option (Except Error Unit × State) := do
  let c ← s.coordinator?
  let (result, c, folder) := c.testStop s.folder a
  return (result, s.setCoordinator c folder)

/-- The run ends. -/
def stop? (s : State) (a : Persistence.Attempt) : Option (Except Error Unit × State) := do
  let c ← s.coordinator?
  let (result, c, folder) := c.stop s.folder a
  return (result, s.setCoordinator c folder)

/-! ## Runs -/

/-- The state after an action, if it can happen. -/
def step? (outside : Outside) (s : State) : Action → Option State
  | .pass nanos => some { s with now := s.now + nanos }
  | .serve position => s.serve? outside position
  | .perform => s.perform?
  | .receive worker position => s.receive? worker position
  | .endReplies worker => s.endReplies? worker
  | .attempt call => s.attempt? call
  | .complete call => s.complete? call
  | .expire call => s.expire? call
  | .wake call => s.wake? call
  | .cancel call => s.cancel? call
  | .connect client options keepsEvents => s.connect? client options keepsEvents
  | .join worker identifier => s.join? worker identifier
  | .begin user method => s.begin? user method
  | .inject worker topic data => (s.inject? worker topic data).map (·.2)
  | .disconnect worker => s.disconnect? worker
  | .dropWorker worker => s.dropWorker? worker
  | .closeService => some s.closeService
  | .testStop a => (s.testStop? a).map (·.2)
  | .stop a => (s.stop? a).map (·.2)

/-- The state after some actions, if all of them can happen. -/
def run? (outside : Outside) : State → List Action → Option State
  | s, [] => some s
  | s, a :: rest => (s.step? outside a).bind (run? outside · rest)

end State

end LoadTest.Cluster
