import LoadTest.Cluster.Step
import Mathlib
/-!
# Requests and their replies

A message does not say which call it belongs to. A trace is kept beside a cluster and
remembers it: which requests were sent by which calls, which of them wait for the
coordinator, which replies were made for them and are on their way, and which call each
reply has resolved. The trace reads the cluster and never changes it.
-/

namespace LoadTest.Cluster

open Transport

/-- A request that a call has sent, the ticket under which the call waits, and the number of
replies that had been heard before. -/
structure Attempt where
  call : Nat
  user : Nat
  worker : Nat
  client : String
  consumer : Consumer
  method : Method
  ticket : Correlation.Ticket
  since : Nat

namespace Attempt

/-- What the coordinator is asked. -/
def request (a : Attempt) : Request := a.method.request a.consumer.identifier

/-- The message that reaches the coordinator. -/
def message (a : Attempt) : Message :=
  Hub.stamp a.client (⟨a.consumer.uid, a.client, a.request⟩ : Production).toMessage

/-- No two requests have the same worker and the same ticket. -/
def id (a : Attempt) : Nat × Correlation.Ticket := (a.worker, a.ticket)

/-- Two requests come from one consumer: from one worker under one correlation id. -/
def SameConsumer (a b : Attempt) : Prop := a.worker = b.worker ∧ a.consumer.uid = b.consumer.uid

instance (a b : Attempt) : Decidable (a.SameConsumer b) := inferInstanceAs (Decidable (_ ∧ _))

theorem SameConsumer.refl (a : Attempt) : a.SameConsumer a := ⟨rfl, rfl⟩

theorem SameConsumer.symm {a b : Attempt} (h : a.SameConsumer b) : b.SameConsumer a :=
  ⟨h.1.symm, h.2.symm⟩

theorem SameConsumer.trans {a b c : Attempt} (h : a.SameConsumer b) (h' : b.SameConsumer c) :
    a.SameConsumer c :=
  ⟨h.1.trans h'.1, h.2.trans h'.2⟩

end Attempt

/-- A reply of the coordinator, the request that it was computed for, and what the outside
world had to do with it. -/
structure Reply where
  attempt : Attempt
  outside : Outside
  response : Json

namespace Reply

/-- The message that reaches the worker. -/
def message (r : Reply) : Message :=
  (⟨r.attempt.consumer.uid, r.response⟩ : Consumption).toMessage r.attempt.client

end Reply

/-- A reply that a worker has read, and the request whose call it resolved, if it resolved
one. -/
structure Heard where
  reply : Reply
  resolves : Option Attempt

/-- What has become of the requests of a cluster. -/
structure Trace where
  /-- All requests, in the order in which they were sent. -/
  sent : List Attempt := []
  /-- The requests in the inbox of the coordinator. -/
  requests : List Attempt := []
  /-- All replies, in the order in which the coordinator took their requests. -/
  served : List Reply := []
  /-- The replies in the inbox of each client. -/
  replies : String → List Reply := fun _ => []
  /-- The replies that workers have read, the oldest first. -/
  heard : List Heard := []
  /-- The requests whose calls gave up waiting. -/
  lost : List Attempt := []

namespace Trace

/-- The request of a worker under a ticket. -/
def find? (t : Trace) (worker : Nat) (ticket : Correlation.Ticket) : Option Attempt :=
  t.sent.find? fun a => a.id = (worker, ticket)

/-- Replace the replies in the inbox of a client. -/
def setReplies (t : Trace) (client : String) (replies : List Reply) : Trace :=
  { t with replies := Function.update t.replies client replies }

/-- The first reply to a consumer that its worker has read since a request of the consumer
was sent. -/
def firstReply? (t : Trace) (a : Attempt) : Option Heard :=
  (t.heard.drop a.since).find? fun x => x.reply.attempt.SameConsumer a

end Trace

namespace State

/-- The request that a call sends when it makes an attempt, if it can send one. -/
def sends? (s : State) (since call : Nat) : Option Attempt := do
  let c ← s.calls[call]?
  let (u, w) ← s.owner? c
  let ticket ← (w.table.register u.consumer.uid).1.toOption
  let _ ← s.hub.coordinator
  match c.phase with
  | .ready => some ⟨call, c.user, u.worker, w.client, u.consumer, c.method, ticket, since⟩
  | _ => none

/-- The worker and the ticket of a call that waits for a reply. -/
def waits? (s : State) (call : Nat) : Option (Nat × Correlation.Ticket) := do
  let c ← s.calls[call]?
  let (u, _) ← s.owner? c
  match c.phase with
  | .waiting ticket _ => some (u.worker, ticket)
  | _ => none

end State

namespace Trace

/-- The coordinator takes a request and answers it, unless it crashes. -/
def serve (t : Trace) (s : State) (outside : Outside) (position : Nat) : Trace :=
  match t.requests[position]?, s.service with
  | some a, .coordinator c =>
    match (c.dispatch outside a.request).1 with
    | .error _ => { t with requests := [] }
    | .ok d =>
      let r : Reply := ⟨a, outside, d.response⟩
      let t := { t with requests := t.requests.eraseIdx position, served := t.served ++ [r] }
      match (s.hub.coordinatorSend r.message).1 with
      | .error _ => t
      | .ok _ => t.setReplies a.client (t.replies a.client ++ [r])
  | _, _ => t

/-- A worker reads a reply, which resolves the call that waits under its correlation id. -/
def hear (t : Trace) (s : State) (worker position : Nat) : Trace :=
  match s.workers[worker]? with
  | none => t
  | some w =>
    match (t.replies w.client)[position]? with
    | none => t
    | some r =>
      let resolves := (Correlation.Table.reply? r.message).bind fun c =>
        (w.table.waiter? c.uid).bind (t.find? worker)
      { t.setReplies w.client ((t.replies w.client).eraseIdx position) with
        heard := t.heard ++ [⟨r, resolves⟩] }

/-- A call gives up waiting, if it waits. -/
def lose (t : Trace) (s : State) (call : Nat) : Trace :=
  { t with
    lost := t.lost ++ ((s.waits? call).bind fun (worker, ticket) => t.find? worker ticket).toList }

/-- No more replies come to a worker, and what still waits there is lost. -/
def loseAll (t : Trace) (s : State) (worker : Nat) : Trace :=
  match s.workers[worker]? with
  | none => t
  | some w =>
    { t with
      lost := t.lost ++ (w.table.entries.filter (·.isWaiting)).filterMap fun e =>
        t.find? worker e.ticket }

/-- The trace after an action in a state. -/
def record (t : Trace) (outside : Outside) (s : State) : Action → Trace
  | .attempt call =>
    match s.sends? t.heard.length call with
    | some a => { t with sent := t.sent ++ [a], requests := t.requests ++ [a] }
    | none => t
  | .serve position => t.serve s outside position
  | .receive worker position => t.hear s worker position
  | .expire call | .cancel call => t.lose s call
  | .endReplies worker => t.loseAll s worker
  | .dropWorker worker =>
    match s.workers[worker]? with
    | some w => t.setReplies w.client []
    | none => t
  | .closeService => { t with requests := [] }
  | _ => t

end Trace

/-! ## What a trace keeps -/

/-- A call sends requests of its own. -/
theorem State.call_of_sends {s : State} {n call : Nat} {b : Attempt}
    (h : s.sends? n call = some b) : b.call = call := by
  unfold sends? at h
  obtain ⟨c, -, h⟩ := Option.bind_eq_some_iff.1 h
  obtain ⟨⟨u, w⟩, -, h⟩ := Option.bind_eq_some_iff.1 h
  obtain ⟨ticket, -, h⟩ := Option.bind_eq_some_iff.1 h
  obtain ⟨messages, -, h⟩ := Option.bind_eq_some_iff.1 h
  split at h
  · cases h
    rfl
  · cases h

/-- What was sent, read or given up is never forgotten, and what is sent belongs to the call
that makes the attempt. -/
structure Trace.Extends (t t' : Trace) (a : Action) : Prop where
  sent : ∀ b ∈ t.sent, b ∈ t'.sent
  heard : ∀ x ∈ t.heard, x ∈ t'.heard
  lost : ∀ b ∈ t.lost, b ∈ t'.lost
  fresh : ∀ b ∈ t'.sent, b ∈ t.sent ∨ a = .attempt b.call

theorem Trace.record_extends (t : Trace) (outside : Outside) (s : State) (a : Action) :
    t.Extends (t.record outside s a) a := by
  -- Most actions leave these three lists as they are.
  have hsame : ∀ {t' : Trace}, t'.sent = t.sent → t'.heard = t.heard → t'.lost = t.lost →
      t.Extends t' a := by
    intro t' hs hh hl
    constructor
    · rw [hs]
      exact fun b hb => hb
    · rw [hh]
      exact fun x hx => hx
    · rw [hl]
      exact fun b hb => hb
    · rw [hs]
      exact fun b hb => .inl hb
  have hlose : ∀ lost, t.Extends { t with lost := t.lost ++ lost } a := fun lost =>
    ⟨fun b hb => hb, fun x hx => hx, fun b hb => List.mem_append_left _ hb, fun b hb => .inl hb⟩
  cases a with
  | serve position =>
    simp only [record, serve]
    split
    · split
      · exact hsame rfl rfl rfl
      · split
        · exact hsame rfl rfl rfl
        · exact hsame rfl rfl rfl
    · exact hsame rfl rfl rfl
  | receive worker position =>
    simp only [record, hear]
    split
    · exact hsame rfl rfl rfl
    · split
      · exact hsame rfl rfl rfl
      · exact ⟨fun b hb => hb, fun x hx => List.mem_append_left _ hx, fun b hb => hb,
          fun b hb => .inl hb⟩
  | attempt call =>
    simp only [record]
    split
    · next b hb =>
      refine ⟨fun b' hb' => List.mem_append_left _ hb', fun x hx => hx, fun b' hb' => hb', ?_⟩
      intro b' hb'
      rcases List.mem_append.1 hb' with hold | hnew
      · exact .inl hold
      · rw [List.mem_singleton.1 hnew, State.call_of_sends hb]
        exact .inr rfl
    · exact hsame rfl rfl rfl
  | expire call => exact hlose _
  | cancel call => exact hlose _
  | endReplies worker =>
    simp only [record, loseAll]
    split
    · exact hsame rfl rfl rfl
    · exact hlose _
  | dropWorker worker =>
    simp only [record]
    split
    · exact hsame rfl rfl rfl
    · exact hsame rfl rfl rfl
  | _ => exact hsame rfl rfl rfl

/-! ## Runs -/

/-- A cluster and what has become of its requests. -/
structure History where
  state : State
  trace : Trace := {}

namespace History

/-- A coordinator that no worker has connected to. -/
def start (c : Coordinator) : History := ⟨{ service := .coordinator c }, {}⟩

/-- The history after an action, if it can happen. -/
def step? (h : History) (outside : Outside) (a : Action) : Option History :=
  (h.state.step? outside a).map fun s => ⟨s, h.trace.record outside h.state a⟩

theorem step?_eq_some {h h' : History} {outside : Outside} {a : Action} :
    h.step? outside a = some h' ↔
      h.state.step? outside a = some h'.state ∧ h'.trace = h.trace.record outside h.state a := by
  rw [step?, Option.map_eq_some_iff]
  constructor
  · rintro ⟨s, hs, rfl⟩
    exact ⟨hs, rfl⟩
  · rintro ⟨hs, ht⟩
    exact ⟨h'.state, hs, by rw [← ht]⟩

/-- The history after some actions, if all of them are allowed and can happen. -/
def run? (allowed : State → Action → Prop) [∀ s a, Decidable (allowed s a)] (h : History) :
    List (Outside × Action) → Option History
  | [] => some h
  | (outside, a) :: rest =>
    if allowed h.state a then (h.step? outside a).bind (run? allowed · rest) else none

end History

/-- The histories that lead on from one by actions that are allowed where they happen. -/
inductive Run (allowed : State → Action → Prop) (first : History) : History → Prop where
  | nil : Run allowed first first
  | snoc {h h' : History} {outside : Outside} {a : Action} (run : Run allowed first h)
      (ok : allowed h.state a) (step : h.step? outside a = some h') : Run allowed first h'

namespace Run

variable {allowed : State → Action → Prop} {first h h' : History}

theorem mono {allowed' : State → Action → Prop} (hle : ∀ s a, allowed s a → allowed' s a)
    (run : Run allowed first h) : Run allowed' first h := by
  induction run with
  | nil => exact .nil
  | snoc _ ok step ih => exact .snoc ih (hle _ _ ok) step

/-- A run can be computed. -/
theorem of_run? [∀ s a, Decidable (allowed s a)] (run : Run allowed first h)
    {steps : List (Outside × Action)} (hrun : h.run? allowed steps = some h') :
    Run allowed first h' := by
  induction steps generalizing h with
  | nil =>
    cases hrun
    exact run
  | cons x rest ih =>
    unfold History.run? at hrun
    split at hrun
    · next ok =>
      obtain ⟨next, hnext, hrest⟩ := Option.bind_eq_some_iff.1 hrun
      exact ih (.snoc run ok hnext) hrest
    · cases hrun

end Run

/-- An outside world in which nothing moves. -/
def still : Outside := ⟨fun _ => ⟨⟨0, 0⟩, 0⟩, ⟨0, 0⟩⟩

/-- Workers send nothing but the requests of their calls. -/
def Honest (_ : State) : Action → Prop
  | .inject .. => False
  | _ => True

instance (s : State) : ∀ a, Decidable (Honest s a)
  | .inject .. => .isFalse id
  | .pass _ | .serve _ | .perform | .receive .. | .endReplies _ | .attempt _ | .complete _
  | .expire _ | .wake _ | .cancel _ | .connect .. | .join .. | .begin .. | .disconnect _
  | .dropWorker _ | .closeService | .testStop _ | .stop _ => .isTrue trivial

end LoadTest.Cluster
