import LoadTest.Message
/-!
# Scripted replies

A stand-in for the coordinator that follows a script: the first request is worked off by the
first list of actions, the second by the second list, and requests beyond the script get
silence. One request is worked off at a time, and a delay holds up all that follow.
-/

namespace LoadTest.Cluster

/-- One action of a script. -/
inductive ScriptAction where
  /-- Reply to the sender, under its correlation id or another one. -/
  | respond (response : Json) (uid : Option UInt64)
  /-- Send some message to the sender. -/
  | send (topic : String) (data : Json)
  /-- Wait for some nanoseconds. -/
  | delay (nanos : Nat)
  /-- Forget the sender. -/
  | disconnect
  deriving Repr

/-- A request that is being worked off. -/
structure Job where
  client : String
  uid : UInt64
  actions : List ScriptAction
  deriving Repr

/-- A script under way: what is left of it, the messages that arrived, the request that is
being worked off, and the time up to which it waits. -/
structure Script where
  rest : List (List ScriptAction)
  seen : List Message := []
  job : Option Job := none
  resumeAt : Nat := 0
  deriving Repr

namespace Script

/-- Take up a message. One that is no request leaves the script as it is. -/
def take (s : Script) (m : Message) : Script :=
  let s := { s with seen := s.seen ++ [m] }
  if m.topic = Message.produceTopic then
    match Production.ofJson m.data with
    | .ok p => { s with job := some ⟨p.cid, p.uid, s.rest.headD []⟩, rest := s.rest.tail }
    | .error _ => s
  else s

/-- What an action sends to the sender of a request. -/
def message? (job : Job) : ScriptAction → Option Message
  | .respond response uid =>
    some ((⟨uid.getD job.uid, response⟩ : Consumption).toMessage job.client)
  | .send topic data => some ⟨topic, some job.client, data⟩
  | _ => none

end Script

end LoadTest.Cluster
