import LoadTest.Transport.Frame
import LoadTest.Transport.Hub
/-!
# Connections over sockets

The coordinator listens, and workers connect. The first message of a connection must
announce the worker's client id; from then on messages for that id go to that connection,
and every message that comes in on it carries the id. What cannot be read ends the
connection, and the end of a connection makes its client id unknown. A message that goes out
waits in the queue of its connection until it is written; nothing waits for a full queue. The
inbox of the coordinator has no bound: a connection that waits for room in it is one whose bytes
come in later.
-/

namespace LoadTest.Transport

/-- The coordinator's end of one connection. -/
structure Connection where
  /-- What came in and is no whole frame yet. -/
  unread : Bytes := []
  /-- The client id that the worker announced. -/
  client : Option String := none
  isOpen : Bool := true
  /-- Whether messages can still go out. -/
  canSend : Bool := true
  /-- The messages that wait to be written, the oldest first. -/
  queue : List Message := []
  /-- The messages that were written, the oldest first. -/
  sent : List Message := []
  deriving Repr

namespace Connection

/-- The number of messages that can wait to be written. -/
def queueCapacity : Nat := 4096

/-- A connection that there is no room for ends at once. -/
def refused : Connection := { isOpen := false, canSend := false }

/-- Write some messages of the queue. -/
def write (c : Connection) (n : Nat) : Connection :=
  { c with queue := c.queue.drop n, sent := c.sent ++ c.queue.take n }

end Connection

/-- A listening coordinator: its connections in the order in which they were opened, the
connection that each client id leads to, and the messages that came in. -/
structure Listener where
  connections : List Connection := []
  clients : Dict Nat := ∅
  inbox : Inbox := .empty
  isListening : Bool := true
  deriving Repr

namespace Listener

/-- Change a connection. -/
def update (l : Listener) (i : Nat) (f : Connection → Connection) : Listener :=
  { l with connections := l.connections.modify i f }

/-- The number of connections that can be open. -/
def maxConnections : Nat := 1024

/-- A worker opens a connection. -/
def accept (l : Listener) : Listener :=
  if l.isListening then
    let isFull := maxConnections ≤ (l.connections.filter (·.isOpen)).length
    { l with connections := l.connections ++ [if isFull then .refused else {}] }
  else l

/-- The connection that a client id leads to sends no more than its queue. -/
def supersede (l : Listener) (client : String) : Listener :=
  match l.clients.get? client with
  | some i => l.update i fun c => { c with canSend := false }
  | none => l

/-- An open connection ends, and the client id that it announced becomes unknown. -/
def finish (l : Listener) (i : Nat) : Listener :=
  match l.connections[i]? with
  | none => l
  | some c =>
    if c.isOpen then
      let ended (l : Listener) : Listener :=
        l.update i fun c => { c with isOpen := false, canSend := false, unread := [], queue := [] }
      match c.client with
      | some client =>
        ended { l.supersede client with clients := l.clients.erase client }
      | none => ended l
    else l

/-- A connection announces its client id. Another connection under the same id sends no
more than its queue. -/
def register (l : Listener) (i : Nat) (client : String) : Listener :=
  { (l.supersede client).update i fun c => { c with client := some client, canSend := true } with
    clients := l.clients.insert client i }

/-- A message comes in on a connection. -/
def handle (l : Listener) (i : Nat) (m : Message) : Listener :=
  match l.connections[i]?.bind (·.client) with
  | some client =>
    match l.inbox.push? (Hub.stamp client m) with
    | some inbox => { l with inbox := inbox }
    | none => l.finish i
  | none =>
    if m.topic = Message.readyTopic then
      match m.nodeId with
      | some client => l.register i client
      | none => l.finish i
    else l.finish i

/-- Read the whole frames of a connection, up to a number of them. -/
def readFrames : (fuel : Nat) → (i : Nat) → Listener → Listener
  | 0, _, l => l
  | fuel + 1, i, l =>
    match l.connections[i]? with
    | none => l
    | some c =>
      if c.isOpen then
        match Frame.front c.unread with
        | .incomplete => l
        | .oversized _ => l.finish i
        | .payload payload rest =>
          match ofPayload payload with
          | .ok m =>
            readFrames fuel i ((l.update i fun c => { c with unread := rest }).handle i m)
          | .error _ => l.finish i
      else l

/-- Bytes come in on a connection. -/
def receive (l : Listener) (i : Nat) (bytes : Bytes) : Listener :=
  let l := l.update i fun c => if c.isOpen then { c with unread := c.unread ++ bytes } else c
  readFrames ((l.connections[i]?.map (·.unread.length)).getD 0) i l

/-- The worker closes its end of a connection. -/
def close (l : Listener) (i : Nat) : Listener := l.finish i

/-- The coordinator stops listening and ends all connections. -/
def shutDown (l : Listener) : Listener :=
  (List.range l.connections.length).foldl finish { l with isListening := false }

/-- Send a message to the worker that it names. -/
def send (l : Listener) (m : Message) : Except Error Unit × Listener :=
  match m.nodeId with
  | none => (.error (.noDestination m.topic), l)
  | some client =>
    match l.clients.get? client with
    | none => (.error (.unknownClient client), l)
    | some i =>
      match l.connections[i]? with
      | some c =>
        if c.canSend then
          if c.queue.length < Connection.queueCapacity then
            (.ok (), l.update i fun c => { c with queue := c.queue ++ [m] })
          else (.error (.queueFull client), l)
        else (.error (.connectionClosed client), l)
      | none => (.error (.connectionClosed client), l)

/-- Some messages in the queue of a connection are written. -/
def write (l : Listener) (i n : Nat) : Listener := l.update i (·.write n)

/-- The number of announced client ids. -/
def clientCount (l : Listener) : Nat := l.clients.size

end Listener

end LoadTest.Transport
