import LoadTest.Correlation
import Mathlib
/-!
# What is done with a table

For each operation on a table of registered calls, the cases that it distinguishes and the
table that it leads to.
-/

namespace LoadTest.Correlation.Table

/-- The table after a call was registered. -/
def registered (t : Table) (uid : UInt64) : Table :=
  { t with
    nextToken := t.nextToken + 1
    entries := t.entries ++ [⟨⟨uid, t.nextToken⟩, .waiting⟩] }

/-- The table after a call was refused: a token has been used up. -/
def refused (t : Table) : Table := { t with nextToken := t.nextToken + 1 }

/-- What registering under a correlation id can come to. -/
theorem register_cases (t : Table) (uid : UInt64) :
    (t.isClosed = false ∧ (∀ e ∈ t.entries, e.ticket.uid ≠ uid) ∧
      t.register uid = (.ok ⟨uid, t.nextToken⟩, t.registered uid)) ∨
    (t.isClosed = true ∧ t.register uid = (.error .replyChannelClosed, t.refused)) ∨
    (t.isClosed = false ∧ (∃ e ∈ t.entries, e.ticket.uid = uid) ∧
      t.register uid = (.error (.duplicateCorrelation uid), t.refused)) := by
  have hreg : t.register uid =
      if t.isClosed then (.error .replyChannelClosed, t.refused)
      else if (t.find? uid).isSome then (.error (.duplicateCorrelation uid), t.refused)
      else (.ok ⟨uid, t.nextToken⟩, t.registered uid) := rfl
  by_cases hc : t.isClosed = true
  · right
    left
    exact ⟨hc, by rw [hreg, if_pos hc]⟩
  · have hopen : t.isClosed = false := by simpa using hc
    cases hf : t.find? uid with
    | none =>
      left
      refine ⟨hopen, ?_, by rw [hreg, if_neg hc, hf]; rfl⟩
      intro e he
      rw [find?, List.find?_eq_none] at hf
      simpa using hf e he
    | some e =>
      right
      right
      refine ⟨hopen, ⟨e, List.mem_of_find?_eq_some hf, ?_⟩, by rw [hreg, if_neg hc, hf]; rfl⟩
      simpa using List.find?_some hf

theorem register_of_closed {t : Table} (h : t.isClosed = true) (uid : UInt64) :
    t.register uid = (.error .replyChannelClosed, t.refused) :=
  if_pos h

theorem register_of_free {t : Table} {uid : UInt64} (hopen : t.isClosed = false)
    (hfree : ∀ e ∈ t.entries, e.ticket.uid ≠ uid) :
    t.register uid = (.ok ⟨uid, t.nextToken⟩, t.registered uid) := by
  rcases t.register_cases uid with ⟨-, -, hr⟩ | ⟨hclosed, -⟩ | ⟨-, ⟨e, he, heq⟩, -⟩
  · exact hr
  · rw [hopen] at hclosed
    cases hclosed
  · exact absurd heq (hfree e he)

/-- Removing a call that was only just registered leaves the calls from before. -/
theorem remove_registered {t : Table} {uid : UInt64} (h : ∀ e ∈ t.entries, e.ticket.uid ≠ uid) :
    (t.registered uid).remove ⟨uid, t.nextToken⟩ = t.refused := by
  have hkeep : (t.registered uid).entries.filter (·.ticket ≠ ⟨uid, t.nextToken⟩) = t.entries := by
    rw [registered, List.filter_append, List.filter_eq_self.2]
    · simp
    · intro e he
      have hne : e.ticket ≠ ⟨uid, t.nextToken⟩ := fun heq => h e he (by rw [heq])
      simpa using hne
  rw [remove, hkeep]
  rfl

/-- A table after a call was resolved. -/
def answered (t : Table) (ticket : Ticket) (response : Json) : Table :=
  { t with entries := t.entries.map fun e =>
      if e.ticket = ticket then { e with slot := .answered response } else e }

theorem isWaiting_iff {e : Entry} : e.isWaiting = true ↔ e.slot = .waiting := by
  unfold Entry.isWaiting
  cases e.slot <;> simp

/-- A reply resolves the call that waits under its correlation id, or none. -/
theorem resolve_cases (t : Table) (uid : UInt64) (response : Json) :
    (t.waiter? uid = none ∧ (∀ e ∈ t.entries, e.ticket.uid = uid → e.slot ≠ .waiting) ∧
      t.resolve uid response = (false, t)) ∨
    (∃ ticket, t.waiter? uid = some ticket ∧ ticket.uid = uid ∧
      ⟨ticket, .waiting⟩ ∈ t.entries ∧
      t.resolve uid response = (true, t.answered ticket response)) := by
  cases hw : t.waiter? uid with
  | none =>
    refine .inl ⟨rfl, ?_, by rw [resolve, hw]⟩
    intro e he hu hslot
    rw [waiter?, Option.map_eq_none_iff, List.find?_eq_none] at hw
    exact hw e he (by simp [hu, isWaiting_iff, hslot])
  | some ticket =>
    refine .inr ⟨ticket, rfl, ?_, ?_, by rw [resolve, hw]; rfl⟩
    all_goals
      rw [waiter?, Option.map_eq_some_iff] at hw
      obtain ⟨⟨ticket', slot⟩, he, rfl⟩ := hw
      have hprop := List.find?_some he
      simp only [decide_eq_true_eq, isWaiting_iff] at hprop
    · exact hprop.1
    · rw [← hprop.2]
      exact List.mem_of_find?_eq_some he

/-- An outcome is told by the entry of the ticket, which does not wait any more. -/
theorem outcome?_cases {t : Table} {ticket : Ticket} {reply : Except Error Json}
    (h : t.outcome? ticket = some reply) :
    (∃ v, reply = .ok v ∧ ⟨ticket, .answered v⟩ ∈ t.entries) ∨
      reply = .error .closedBeforeResponse ∧ ⟨ticket, .closed⟩ ∈ t.entries := by
  unfold outcome? at h
  cases hf : t.entries.find? (·.ticket = ticket) with
  | none => simp [hf] at h
  | some e =>
    have hmem := List.mem_of_find?_eq_some hf
    have hticket : e.ticket = ticket := by simpa using List.find?_some hf
    obtain ⟨ticket', slot⟩ := e
    cases hticket
    rw [hf] at h
    cases slot with
    | waiting => cases h
    | answered v =>
      cases h
      exact .inl ⟨v, rfl, hmem⟩
    | closed =>
      cases h
      exact .inr ⟨rfl, hmem⟩

/-- The only entry of a ticket tells its answer. -/
theorem outcome?_of_answered {t : Table} {ticket : Ticket} {v : Json}
    (h : ⟨ticket, .answered v⟩ ∈ t.entries)
    (hu : ∀ e ∈ t.entries, e.ticket = ticket → e = ⟨ticket, .answered v⟩) :
    t.outcome? ticket = some (.ok v) := by
  unfold outcome?
  cases hf : t.entries.find? (·.ticket = ticket) with
  | none =>
    rw [List.find?_eq_none] at hf
    exact absurd (by simp) (hf _ h)
  | some e =>
    rw [hu e (List.mem_of_find?_eq_some hf) (by simpa using List.find?_some hf)]

/-- A call that a message has answered was answered before, or waited under the correlation
id of the reply in the message. -/
theorem answered_of_handleMessage {t : Table} {m : Message} {ticket : Ticket} {v : Json}
    (h : ⟨ticket, .answered v⟩ ∈ (t.handleMessage m).2.entries) :
    ⟨ticket, .answered v⟩ ∈ t.entries ∨
      (reply? m = some ⟨ticket.uid, v⟩ ∧ t.waiter? ticket.uid = some ticket) := by
  rw [handleMessage] at h
  cases hm : reply? m with
  | none =>
    rw [hm] at h
    exact .inl h
  | some c =>
    rw [hm] at h
    rcases t.resolve_cases c.uid c.response with ⟨-, -, hr⟩ | ⟨k, hwaits, hk, -, hr⟩
    · simp only [hr] at h
      exact .inl h
    · simp only [hr] at h
      obtain ⟨a, ha, heq⟩ := List.mem_map.1 h
      split at heq
      · next hticket =>
        cases heq
        exact .inr ⟨by rw [hticket, hk], by rw [hticket, hk, hwaits]⟩
      · rw [heq] at ha
        exact .inl ha

/-- A message can resolve a call, and changes nothing else about a table. -/
theorem handleMessage_counters (t : Table) (m : Message) :
    (t.handleMessage m).2.nextToken = t.nextToken ∧ (t.handleMessage m).2.lastUid = t.lastUid := by
  rw [handleMessage]
  split
  · unfold resolve
    split
    · exact ⟨rfl, rfl⟩
    · exact ⟨rfl, rfl⟩
  · exact ⟨rfl, rfl⟩

end LoadTest.Correlation.Table
