import LoadTest.Error
import LoadTest.Message
/-!
# The hub

Connects a coordinator with any number of workers inside one program. Every message of a
worker carries the worker's client id, whatever it said before; a message of the coordinator
goes to the worker whose client id it carries. Inboxes hold what arrived and was not read.

In operation an inbox has room for 4096 messages, and a sender waits while it is full. Here
inboxes have no bound, and a message that would wait for room counts as sent. That adds and hides
nothing, since what is in an inbox may be taken at any later time and no call has to give up at
its deadline: a wait for room is a message that is taken late.
-/

namespace LoadTest.Transport

/-- The messages that arrived and were not read, the oldest first, however many they are; nothing
once the reader has gone. -/
abbrev Inbox := Option (List Message)

namespace Inbox

/-- An inbox without messages. -/
def empty : Inbox := some []

/-- Deliver a message, unless the reader has gone. -/
def push? (inbox : Inbox) (m : Message) : Option Inbox :=
  inbox.map fun messages => some (messages ++ [m])

/-- The messages in an inbox. -/
def messages (inbox : Inbox) : List Message := inbox.getD []

/-- An inbox without its message at a position. -/
def remove (inbox : Inbox) (i : Nat) : Inbox := inbox.map (·.eraseIdx i)

end Inbox

/-- The inbox of the coordinator, the inboxes of all workers that ever connected, and the
client ids that messages can be sent to. -/
structure Hub where
  coordinator : Inbox := .empty
  workers : Dict Inbox := ∅
  connected : List String := []
  deriving Repr

namespace Hub

/-- The client id of the coordinator. -/
def coordinatorId : String := "coordinator"

/-- A worker with a fresh client id. -/
def connect (h : Hub) (client : String) : Hub :=
  { h with workers := h.workers.insert client .empty, connected := h.connected ++ [client] }

/-- Forget a worker; what arrived for it stays. -/
def disconnect (h : Hub) (client : String) : Hub :=
  { h with connected := h.connected.filter (· ≠ client) }

/-- The inbox of a worker; nothing is there for an unknown one. -/
def inbox (h : Hub) (client : String) : Inbox := (h.workers.get? client).join

/-- Replace the inbox of a worker. -/
def setInbox (h : Hub) (client : String) (inbox : Inbox) : Hub :=
  { h with workers := h.workers.insert client inbox }

/-- A worker stops reading. -/
def closeInbox (h : Hub) (client : String) : Hub := h.setInbox client none

/-- The coordinator stops reading. -/
def closeCoordinator (h : Hub) : Hub := { h with coordinator := none }

/-- The number of workers that can be sent to. -/
def workerCount (h : Hub) : Nat := h.connected.length

/-- A message as it leaves a worker: under the worker's client id. -/
def stamp (client : String) (m : Message) : Message := { m with nodeId := some client }

/-- A worker sends a message to the coordinator. -/
def workerSend (h : Hub) (client : String) (m : Message) : Except Error Unit × Hub :=
  match h.coordinator.push? (stamp client m) with
  | some inbox => (.ok (), { h with coordinator := inbox })
  | none => (.error .coordinatorClosed, h)

/-- The coordinator sends a message to the worker that it names. -/
def coordinatorSend (h : Hub) (m : Message) : Except Error Unit × Hub :=
  match m.nodeId with
  | none => (.error (.noDestination m.topic), h)
  | some client =>
    if h.connected.contains client then
      match (h.inbox client).push? m with
      | some inbox => (.ok (), h.setInbox client inbox)
      | none => (.error (.workerClosed client), h)
    else (.error (.unknownClient client), h)

/-- Whether no more messages can arrive for a worker and all were read. -/
def hasEnded (h : Hub) (client : String) : Bool :=
  !h.connected.contains client && (h.inbox client).messages.isEmpty

end Hub

end LoadTest.Transport
