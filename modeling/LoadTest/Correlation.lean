import LoadTest.Error
import LoadTest.Message
/-!
# Waiting for replies

A worker registers the correlation id of a request before it sends the request. The entry
stays until the call that registered it is over, so no second call can use the id meanwhile.
A reply resolves the entry that waits under its id at that moment. Once the channel of
replies has closed, everything that still waits has failed and nothing can be registered.
-/

namespace LoadTest.Correlation

/-- What a registered call has come to. -/
inductive Slot where
  | waiting
  | answered (response : Json)
  /-- The channel closed first. -/
  | closed
  deriving Repr

/-- A registered call. The token tells calls under one correlation id apart. Tokens have no bound
here, since no run gets to the end of the 64 bits that they have in operation. -/
structure Ticket where
  uid : UInt64
  token : Nat
  deriving DecidableEq, Repr

/-- The entry of a registered call. -/
structure Entry where
  ticket : Ticket
  slot : Slot := .waiting
  deriving Repr

/-- Whether an entry waits for a reply. -/
def Entry.isWaiting (e : Entry) : Bool :=
  match e.slot with
  | .waiting => true
  | _ => false

/-- The registered calls of one connection, the correlation id that was given out last, and the
token of the next call, which has no bound either. -/
structure Table where
  entries : List Entry := []
  lastUid : UInt64 := 0
  nextToken : Nat := 0
  isClosed : Bool := false
  deriving Repr

namespace Table

/-- A correlation id for a new caller. -/
def nextUid (t : Table) : UInt64 × Table := (t.lastUid + 1, { t with lastUid := t.lastUid + 1 })

/-- The number of registered calls. -/
def pendingCount (t : Table) : Nat := t.entries.length

/-- The entry under a correlation id. -/
def find? (t : Table) (uid : UInt64) : Option Entry := t.entries.find? (·.ticket.uid = uid)

/-- Register a call, unless the channel has closed or the id is taken. -/
def register (t : Table) (uid : UInt64) : Except Error Ticket × Table :=
  let ticket : Ticket := ⟨uid, t.nextToken⟩
  let t := { t with nextToken := t.nextToken + 1 }
  if t.isClosed then (.error .replyChannelClosed, t)
  else if (t.find? uid).isSome then (.error (.duplicateCorrelation uid), t)
  else (.ok ticket, { t with entries := t.entries ++ [⟨ticket, .waiting⟩] })

/-- The call that a reply under a correlation id resolves. -/
def waiter? (t : Table) (uid : UInt64) : Option Ticket :=
  (t.entries.find? fun e => e.ticket.uid = uid ∧ e.isWaiting).map (·.ticket)

/-- Resolve the call that waits under a correlation id; the result says whether one does. -/
def resolve (t : Table) (uid : UInt64) (response : Json) : Bool × Table :=
  match t.waiter? uid with
  | none => (false, t)
  | some ticket =>
    (true, { t with entries := t.entries.map fun e =>
      if e.ticket = ticket then { e with slot := .answered response } else e })

/-- The reply in a message, if it is one. -/
def reply? (m : Message) : Option Consumption :=
  if m.topic = Message.consumeTopic then (Consumption.ofJson m.data).toOption else none

/-- Resolve the call that a message answers; other messages change nothing. -/
def handleMessage (t : Table) (m : Message) : Bool × Table :=
  match reply? m with
  | some c => t.resolve c.uid c.response
  | none => (false, t)

/-- The channel of replies has closed. -/
def close (t : Table) : Table :=
  { t with
    isClosed := true
    entries := t.entries.map fun e => if e.isWaiting then { e with slot := .closed } else e }

/-- A call is over. -/
def remove (t : Table) (ticket : Ticket) : Table :=
  { t with entries := t.entries.filter (·.ticket ≠ ticket) }

/-- What a registered call has come to, unless it still waits. -/
def outcome? (t : Table) (ticket : Ticket) : Option (Except Error Json) :=
  match t.entries.find? (·.ticket = ticket) with
  | some ⟨_, .answered response⟩ => some (.ok response)
  | some ⟨_, .closed⟩ => some (.error .closedBeforeResponse)
  | _ => none

/-- The outcome of a wait during which nothing else happens; the call is then over. -/
def wait (t : Table) (ticket : Ticket) (timeout : Duration) : Except Error Json × Table :=
  ((t.outcome? ticket).getD (.error (.noDataReceived timeout)), t.remove ticket)

end Table

end LoadTest.Correlation
