import LoadTest.Proofs.Correlation.Table
/-!
# The lives of registered calls

What happens to a table is kept as a list of events, each with what it gave back. A call
lives from its registration until it is waited for or dropped, and the first event of its
life that resolves its correlation id or closes the table decides what its wait comes to.
-/

namespace LoadTest.Correlation

/-- What happens to a table and to the calls that it has registered. A wait touches the
table only when it ends, so it stands where it ends: at its reply, at the close, or when its
time is up. -/
inductive Event where
  | numbered (uid : UInt64)
  | registered (uid : UInt64) (result : Except Error Ticket)
  | resolved (uid : UInt64) (response : Json) (found : Bool)
  | message (m : Message) (found : Bool)
  | closed
  | waited (ticket : Ticket) (timeout : Duration) (result : Except Error Json)
  | dropped (ticket : Ticket)

namespace Event

/-- Whether an event ends the life of a call. -/
def Ends (ticket : Ticket) : Event → Prop
  | waited k _ _ | dropped k => k = ticket
  | _ => False

/-- What an event decides for a call that waits under a correlation id. -/
def decides? (uid : UInt64) : Event → Option (Except Error Json)
  | resolved u response _ => if u = uid then some (.ok response) else none
  | message m _ =>
    (Table.reply? m).bind fun c => if c.uid = uid then some (.ok c.response) else none
  | closed => some (.error .closedBeforeResponse)
  | numbered _ | registered _ _ | waited _ _ _ | dropped _ => none

/-- Whether an event has delivered a reply under a correlation id. -/
def delivers (uid : UInt64) : Event → Bool
  | resolved u _ found => found && u = uid
  | message m found => found && (Table.reply? m).any (·.uid = uid)
  | numbered _ | registered _ _ | closed | waited _ _ _ | dropped _ => false

/-- The calls that live after an event. -/
def after (live : List Ticket) : Event → List Ticket
  | registered _ (.ok ticket) => live ++ [ticket]
  | waited ticket _ _ | dropped ticket => live.filter (· ≠ ticket)
  | _ => live

end Event

/-- The calls that live after some events, the oldest first. -/
def live (events : List Event) : List Ticket := events.foldl Event.after []

/-- What the events of a life have decided so far. -/
def decision? (uid : UInt64) (life : List Event) : Option (Except Error Json) :=
  life.findSome? (·.decides? uid)

/-- What an event makes of a table while some calls live. Only calls that live can be waited
for or dropped. -/
inductive Table.Step (t : Table) (live : List Ticket) : Event → Table → Prop
  | nextUid : Step t live (.numbered t.nextUid.1) t.nextUid.2
  | register (uid : UInt64) : Step t live (.registered uid (t.register uid).1) (t.register uid).2
  | resolve (uid : UInt64) (response : Json) :
      Step t live (.resolved uid response (t.resolve uid response).1) (t.resolve uid response).2
  | message (m : Message) : Step t live (.message m (t.handleMessage m).1) (t.handleMessage m).2
  | close : Step t live .closed t.close
  | wait {ticket : Ticket} (timeout : Duration) (h : ticket ∈ live) :
      Step t live (.waited ticket timeout (t.wait ticket timeout).1) (t.wait ticket timeout).2
  | drop {ticket : Ticket} (h : ticket ∈ live) : Step t live (.dropped ticket) (t.remove ticket)

/-- The events that can happen to a new table, and the table that they lead to. -/
inductive Run : List Event → Table → Prop
  | start : Run [] {}
  | step {events : List Event} {t t' : Table} {e : Event} (run : Run events t)
      (h : t.Step (live events) e t') : Run (events ++ [e]) t'

/-- A call was registered, these events have happened since, and none of them has ended it. -/
structure Life (events : List Event) (ticket : Ticket) (life : List Event) : Prop where
  begins : ∃ before, events = before ++ .registered ticket.uid (.ok ticket) :: life
  lasts : ∀ e ∈ life, ¬ e.Ends ticket

/-- The slot of a call about which something was decided, or nothing yet. -/
def Slot.ofDecision : Option (Except Error Json) → Slot
  | none => .waiting
  | some (.ok v) => .answered v
  | some (.error _) => .closed

/-! ## Lives -/

theorem live_concat (events : List Event) (e : Event) :
    live (events ++ [e]) = e.after (live events) := by
  rw [live, List.foldl_append]
  rfl

theorem decision?_concat (uid : UInt64) (life : List Event) (e : Event) :
    decision? uid (life ++ [e]) = (decision? uid life).or (e.decides? uid) := by
  rw [decision?, List.findSome?_append, List.findSome?_singleton]
  rfl

/-- The only error that can be decided is the close of the channel. -/
theorem error_of_decision {uid : UInt64} {life : List Event} {error : Error}
    (h : decision? uid life = some (.error error)) : error = .closedBeforeResponse := by
  obtain ⟨e, -, he⟩ := List.exists_of_findSome?_eq_some h
  cases e with
  | resolved u response found =>
    rw [Event.decides?] at he
    split at he <;> cases he
  | message m found =>
    obtain ⟨c, -, hc⟩ := Option.bind_eq_some_iff.1 he
    split at hc <;> cases hc
  | closed =>
    cases he
    rfl
  | _ => cases he

namespace Life

variable {events : List Event} {ticket : Ticket} {life : List Event} {e : Event}

theorem concat (h : Life events ticket life) (he : ¬ e.Ends ticket) :
    Life (events ++ [e]) ticket (life ++ [e]) where
  begins := by
    obtain ⟨before, hb⟩ := h.begins
    exact ⟨before, by rw [hb, List.append_assoc, List.cons_append]⟩
  lasts x hx := by
    rcases List.mem_append.1 hx with hx | hx
    · exact h.lasts x hx
    · rw [List.mem_singleton.1 hx]
      exact he

/-- A life either has only just begun or has lasted through the last event. -/
theorem cases_concat (h : Life (events ++ [e]) ticket life) :
    (life = [] ∧ e = .registered ticket.uid (.ok ticket)) ∨
      ∃ earlier, life = earlier ++ [e] ∧ Life events ticket earlier ∧ ¬ e.Ends ticket := by
  obtain ⟨before, hb⟩ := h.begins
  rcases List.eq_nil_or_concat life with rfl | ⟨earlier, last, rfl⟩
  · left
    obtain ⟨-, he⟩ := List.append_inj' hb rfl
    exact ⟨rfl, by simpa using he⟩
  · right
    rw [List.concat_eq_append] at hb h ⊢
    have hb' : events ++ [e] =
        (before ++ .registered ticket.uid (.ok ticket) :: earlier) ++ [last] := by
      rw [hb, List.append_assoc, List.cons_append]
    obtain ⟨hevents, he⟩ := List.append_inj' hb' rfl
    obtain rfl : e = last := by simpa using he
    exact ⟨earlier, rfl, ⟨⟨before, hevents⟩, fun x hx => h.lasts x (List.mem_append_left _ hx)⟩,
      h.lasts e (List.mem_append_right _ List.mem_cons_self)⟩

end Life

/-! ## What an event does to an entry -/

namespace Table

variable {t t' : Table} {calls : List Ticket} {e : Event}

/-- The registered calls have different correlation ids. -/
def Distinct (t : Table) : Prop := (t.entries.map (·.ticket.uid)).Nodup

theorem Distinct.eq_of_uid (h : t.Distinct) {a b : Entry} (ha : a ∈ t.entries)
    (hb : b ∈ t.entries) (hu : a.ticket.uid = b.ticket.uid) : a = b :=
  List.inj_on_of_nodup_map h ha hb hu

/-- What has been decided about a call is the outcome that its entry tells. -/
theorem Distinct.outcome? (h : t.Distinct) {ticket : Ticket} {life : List Event}
    (he : ⟨ticket, .ofDecision (decision? ticket.uid life)⟩ ∈ t.entries) :
    t.outcome? ticket = decision? ticket.uid life := by
  have hfind : t.entries.find? (·.ticket = ticket) =
      some ⟨ticket, .ofDecision (decision? ticket.uid life)⟩ := by
    cases hf : t.entries.find? (·.ticket = ticket) with
    | none =>
      rw [List.find?_eq_none] at hf
      exact absurd (by simp) (hf _ he)
    | some a =>
      have hticket : a.ticket = ticket := by simpa using List.find?_some hf
      rw [h.eq_of_uid (List.mem_of_find?_eq_some hf) he (by rw [hticket])]
  rw [Table.outcome?, hfind]
  cases hd : decision? ticket.uid life with
  | none => rfl
  | some result =>
    cases result with
    | ok v => rfl
    | error error => rw [error_of_decision hd]; rfl

/-- Resolving a correlation id decides about the call that waits under it, and about no other
call. -/
theorem resolve_entry (h : t.Distinct) {ticket : Ticket} {d : Option (Except Error Json)}
    (he : ⟨ticket, .ofDecision d⟩ ∈ t.entries) (uid : UInt64) (response : Json) :
    ⟨ticket, .ofDecision (d.or (if uid = ticket.uid then some (.ok response) else none))⟩ ∈
        (t.resolve uid response).2.entries ∧
      (((t.resolve uid response).1 = true ∧ uid = ticket.uid) ↔ d = none ∧ uid = ticket.uid) := by
  rcases t.resolve_cases uid response with ⟨-, hnone, hr⟩ | ⟨k, -, hk, hmem, hr⟩
  · rw [hr]
    by_cases hu : uid = ticket.uid
    · have hd : d ≠ none := fun hd => hnone _ he hu.symm (by rw [hd]; rfl)
      obtain ⟨result, rfl⟩ := Option.ne_none_iff_exists'.1 hd
      exact ⟨he, by simp⟩
    · rw [if_neg hu, Option.or_none]
      exact ⟨he, by simp [hu]⟩
  · rw [hr]
    by_cases hu : uid = ticket.uid
    · obtain heq := h.eq_of_uid he hmem (hu.symm.trans hk.symm)
      have hticket : ticket = k := congrArg (·.ticket) heq
      have hslot : Slot.ofDecision d = .waiting := congrArg (·.slot) heq
      have hd : d = none := by
        rcases d with _ | _ | _
        · rfl
        · cases hslot
        · cases hslot
      rw [hd, if_pos hu]
      refine ⟨List.mem_map.2 ⟨⟨k, .waiting⟩, hmem, ?_⟩, by simp [hu]⟩
      rw [if_pos rfl, hticket]
      rfl
    · rw [if_neg hu, Option.or_none]
      have hne : ticket ≠ k := fun heq => hu (by rw [heq, hk])
      exact ⟨List.mem_map.2 ⟨_, he, if_neg hne⟩, by simp [hu]⟩

/-- The entry of a call that goes on living tells what was decided first. A reply is
delivered only if nothing had been decided before. -/
theorem Step.entry (hs : t.Step calls e t') (h : t.Distinct) {ticket : Ticket}
    {d : Option (Except Error Json)} (he : ⟨ticket, .ofDecision d⟩ ∈ t.entries)
    (hends : ¬ e.Ends ticket) :
    ⟨ticket, .ofDecision (d.or (e.decides? ticket.uid))⟩ ∈ t'.entries ∧
      (e.delivers ticket.uid = true ↔ d = none ∧ ∃ v, e.decides? ticket.uid = some (.ok v)) := by
  cases hs with
  | nextUid =>
    rw [Event.decides?, Option.or_none]
    exact ⟨he, by simp [Event.delivers]⟩
  | register uid =>
    rw [Event.decides?, Option.or_none]
    refine ⟨?_, by simp [Event.delivers]⟩
    rcases t.register_cases uid with ⟨-, -, hr⟩ | ⟨-, hr⟩ | ⟨-, -, hr⟩
    · rw [hr]
      exact List.mem_append_left _ he
    · rw [hr]
      exact he
    · rw [hr]
      exact he
  | resolve uid response =>
    obtain ⟨hmem, hiff⟩ := resolve_entry h he uid response
    refine ⟨hmem, ?_⟩
    rw [Event.delivers, Bool.and_eq_true, decide_eq_true_eq, hiff, Event.decides?]
    by_cases hu : uid = ticket.uid
    · simp [hu]
    · simp [hu]
  | message m =>
    cases hm : reply? m with
    | none =>
      have hr : t.handleMessage m = (false, t) := by rw [handleMessage, hm]
      rw [hr, Event.decides?, hm]
      exact ⟨by rw [Option.bind_none, Option.or_none]; exact he, by simp [Event.delivers]⟩
    | some c =>
      have hr : t.handleMessage m = t.resolve c.uid c.response := by rw [handleMessage, hm]
      obtain ⟨hmem, hiff⟩ := resolve_entry h he c.uid c.response
      rw [hr]
      refine ⟨by rw [Event.decides?, hm]; exact hmem, ?_⟩
      rw [Event.delivers, hm, Option.any_some, Bool.and_eq_true, decide_eq_true_eq, hiff,
        Event.decides?, hm, Option.bind_some]
      by_cases hu : c.uid = ticket.uid
      · simp [hu]
      · simp [hu]
  | close =>
    refine ⟨List.mem_map.2 ⟨_, he, ?_⟩, by simp [Event.delivers, Event.decides?]⟩
    rcases d with _ | _ | _
    · rfl
    · rfl
    · rfl
  | wait timeout hk =>
    rw [Event.decides?, Option.or_none]
    refine ⟨List.mem_filter.2 ⟨he, ?_⟩, by simp [Event.delivers]⟩
    simpa using fun heq : ticket = _ => hends heq.symm
  | drop hk =>
    rw [Event.decides?, Option.or_none]
    refine ⟨List.mem_filter.2 ⟨he, ?_⟩, by simp [Event.delivers]⟩
    simpa using fun heq : ticket = _ => hends heq.symm

/-- An event leaves the entries of the calls that live after it. -/
theorem Step.tickets (hs : t.Step calls e t') :
    t'.entries.map (·.ticket) = e.after (t.entries.map (·.ticket)) := by
  have hanswered : ∀ k v, (t.answered k v).entries.map (·.ticket) =
      t.entries.map (·.ticket) := by
    intro k v
    rw [answered, List.map_map]
    refine List.map_congr_left fun a _ => ?_
    rw [Function.comp_apply]
    split <;> rfl
  have hresolve : ∀ uid response, (t.resolve uid response).2.entries.map (·.ticket) =
      t.entries.map (·.ticket) := by
    intro uid response
    rcases t.resolve_cases uid response with ⟨-, -, hr⟩ | ⟨k, -, -, -, hr⟩
    · rw [hr]
    · rw [hr]
      exact hanswered k response
  have hremove : ∀ k, (t.remove k).entries.map (·.ticket) =
      (t.entries.map (·.ticket)).filter (· ≠ k) := by
    intro k
    rw [List.filter_map]
    rfl
  cases hs with
  | nextUid => rfl
  | register uid =>
    rcases t.register_cases uid with ⟨-, -, hr⟩ | ⟨-, hr⟩ | ⟨-, -, hr⟩
    · rw [hr, registered, List.map_append]
      rfl
    · rw [hr]
      rfl
    · rw [hr]
      rfl
  | resolve uid response => exact hresolve uid response
  | message m =>
    rw [handleMessage]
    cases reply? m with
    | none => rfl
    | some c => exact hresolve c.uid c.response
  | close =>
    rw [Table.close, List.map_map]
    refine List.map_congr_left fun a _ => ?_
    rw [Function.comp_apply]
    split <;> rfl
  | wait timeout hk => exact hremove _
  | drop hk => exact hremove _

theorem Step.distinct (hs : t.Step calls e t') (h : t.Distinct) : t'.Distinct := by
  have huids : ∀ t : Table, t.entries.map (·.ticket.uid) =
      (t.entries.map (·.ticket)).map (·.uid) := by
    intro t
    rw [List.map_map]
    rfl
  have hsame : t'.entries.map (·.ticket) = t.entries.map (·.ticket) → t'.Distinct := by
    intro hsame
    rw [Distinct, huids, hsame, ← huids]
    exact h
  have hfilter : ∀ k, (t.remove k).Distinct := fun k => h.sublist (List.filter_sublist.map _)
  cases hs with
  | register uid =>
    rcases t.register_cases uid with ⟨-, hfree, hr⟩ | ⟨-, hr⟩ | ⟨-, -, hr⟩
    · rw [hr, Distinct, registered, List.map_append]
      refine List.nodup_append'.2 ⟨h, List.nodup_singleton _, ?_⟩
      intro u hu hmem
      obtain ⟨a, ha, rfl⟩ := List.mem_map.1 hu
      exact hfree a ha (by simpa using hmem)
    · rw [hr]
      exact h
    · rw [hr]
      exact h
  | wait timeout hk => exact hfilter _
  | drop hk => exact hfilter _
  | nextUid => exact h
  | resolve uid response =>
    have hs : t.Step calls (.resolved uid response (t.resolve uid response).1) _ :=
      .resolve uid response
    exact hsame hs.tickets
  | message m =>
    have hs : t.Step calls (.message m (t.handleMessage m).1) _ := .message m
    exact hsame hs.tickets
  | close =>
    have hs : t.Step calls .closed _ := .close
    exact hsame hs.tickets

/-- Only the close of the channel closes a table. -/
theorem Step.isClosed (hs : t.Step calls e t') :
    t'.isClosed = true ↔ t.isClosed = true ∨ e = .closed := by
  have hresolve : ∀ uid response, (t.resolve uid response).2.isClosed = t.isClosed := by
    intro uid response
    rcases t.resolve_cases uid response with ⟨-, -, hr⟩ | ⟨k, -, -, -, hr⟩
    · rw [hr]
    · rw [hr]
      rfl
  cases hs with
  | register uid =>
    rcases t.register_cases uid with ⟨-, -, hr⟩ | ⟨-, hr⟩ | ⟨-, -, hr⟩
    · simp [hr, registered]
    · simp [hr, refused]
    · simp [hr, refused]
  | resolve uid response => simp [hresolve]
  | message m =>
    rw [handleMessage]
    cases reply? m with
    | none => simp
    | some c => simp [hresolve]
  | nextUid => simp [Table.nextUid]
  | close => simp [Table.close]
  | wait timeout hk => simp [Table.wait, remove]
  | drop hk => simp [remove]

/-- Where no call waits, none waits after an event that registers none. -/
theorem Step.quiet (hs : t.Step calls e t') (hclosed : t.isClosed = true)
    (h : ∀ a ∈ t.entries, a.slot ≠ .waiting) (uid : UInt64) :
    (∀ a ∈ t'.entries, a.slot ≠ .waiting) ∧ e.delivers uid = false ∧
      ∀ u result, e = .registered u result → result = .error .replyChannelClosed := by
  have hresolve : ∀ uid response, t.resolve uid response = (false, t) := by
    intro uid response
    rcases t.resolve_cases uid response with ⟨-, -, hr⟩ | ⟨k, -, -, hmem, -⟩
    · exact hr
    · exact absurd rfl (h _ hmem)
  have hremove : ∀ k, ∀ a ∈ (t.remove k).entries, a.slot ≠ .waiting :=
    fun k a ha => h a (List.mem_of_mem_filter ha)
  cases hs with
  | nextUid => exact ⟨h, rfl, by simp⟩
  | register v =>
    rcases t.register_cases v with ⟨hopen, -, -⟩ | ⟨-, hr⟩ | ⟨hopen, -, -⟩
    · rw [hclosed] at hopen
      cases hopen
    · rw [hr]
      refine ⟨h, rfl, ?_⟩
      rintro u result ⟨⟩
      rfl
    · rw [hclosed] at hopen
      cases hopen
  | resolve v response =>
    rw [hresolve]
    exact ⟨h, rfl, by simp⟩
  | message m =>
    rw [handleMessage]
    cases reply? m with
    | none => exact ⟨h, rfl, by simp⟩
    | some c =>
      simp only [hresolve]
      exact ⟨h, rfl, by simp⟩
  | close =>
    refine ⟨?_, rfl, by simp⟩
    intro a ha
    obtain ⟨b, hb, rfl⟩ := List.mem_map.1 ha
    split
    · simp
    · exact h b hb
  | wait timeout hk => exact ⟨hremove _, rfl, by simp⟩
  | drop hk => exact ⟨hremove _, rfl, by simp⟩

/-- A refused registration uses up a token and changes nothing else. -/
theorem refused_of_register {uid : UInt64} {error : Error}
    (h : (t.register uid).1 = .error error) :
    (t.register uid).2 = { t with nextToken := t.nextToken + 1 } := by
  rcases t.register_cases uid with ⟨-, -, hr⟩ | ⟨-, hr⟩ | ⟨-, -, hr⟩
  · rw [hr] at h
    cases h
  · rw [hr]
    rfl
  · rw [hr]
    rfl

/-- A reply that finds no waiting call changes nothing. -/
theorem eq_of_resolve {uid : UInt64} {response : Json} (h : (t.resolve uid response).1 = false) :
    (t.resolve uid response).2 = t := by
  rcases t.resolve_cases uid response with ⟨-, -, hr⟩ | ⟨k, -, -, -, hr⟩
  · rw [hr]
  · rw [hr] at h
    cases h

/-- A message of another topic, or without the body of a reply, holds no reply. -/
theorem reply?_eq_none {m : Message}
    (h : m.topic ≠ Message.consumeTopic ∨ ∀ c, Consumption.ofJson m.data ≠ .ok c) :
    reply? m = none := by
  rw [reply?]
  split
  · next htopic =>
    cases hdata : Consumption.ofJson m.data with
    | error e => rfl
    | ok c => exact absurd hdata (h.resolve_left (fun hne => hne htopic) c)
  · rfl

/-- Among different calls the end of one removes one entry. -/
theorem pendingCount_remove {ticket : Ticket} (hnodup : (t.entries.map (·.ticket)).Nodup)
    (hmem : ticket ∈ t.entries.map (·.ticket)) :
    (t.remove ticket).pendingCount + 1 = t.pendingCount := by
  have hremoved : (t.remove ticket).pendingCount =
      ((t.entries.map (·.ticket)).erase ticket).length := by
    rw [hnodup.erase_eq_filter, List.filter_map, List.length_map]
    refine congrArg List.length (List.filter_congr fun a _ => ?_)
    by_cases ha : a.ticket = ticket <;> simp [ha]
  have hcount : t.pendingCount = (t.entries.map (·.ticket)).length := by
    rw [pendingCount, List.length_map]
  rw [hremoved, hcount, List.length_erase_of_mem hmem]
  exact Nat.sub_add_cancel (List.length_pos_of_mem hmem)

end Table

/-! ## Runs -/

/-- The number of replies that a decision has delivered. -/
def delivered : Option (Except Error Json) → Nat
  | some (.ok _) => 1
  | _ => 0

/-- What every run keeps: the entries are those of the calls that live, no two of them have
the same correlation id, and the entry of each tells what was decided about it. -/
structure Kept (events : List Event) (t : Table) : Prop where
  tickets : t.entries.map (·.ticket) = live events
  distinct : t.Distinct
  isClosed : t.isClosed = true ↔ .closed ∈ events
  quiet : t.isClosed = true → ∀ a ∈ t.entries, a.slot ≠ .waiting
  entry : ∀ ticket life, Life events ticket life →
    ⟨ticket, .ofDecision (decision? ticket.uid life)⟩ ∈ t.entries ∧
      life.countP (·.delivers ticket.uid) = delivered (decision? ticket.uid life)

namespace Kept

variable {events : List Event} {t t' : Table} {e : Event}

theorem start : Kept [] {} where
  tickets := rfl
  distinct := List.nodup_nil
  isClosed := by simp
  quiet h := by cases h
  entry ticket life h := by
    obtain ⟨before, hb⟩ := h.begins
    simp at hb

theorem step (h : Kept events t) (hs : t.Step (live events) e t') :
    Kept (events ++ [e]) t' where
  tickets := by rw [hs.tickets, h.tickets, live_concat]
  distinct := hs.distinct h.distinct
  isClosed := by
    rw [hs.isClosed, h.isClosed, List.mem_append, List.mem_singleton]
    exact or_congr_right eq_comm
  quiet hclosed := by
    rcases hs.isClosed.1 hclosed with hbefore | rfl
    · exact (hs.quiet hbefore (h.quiet hbefore) 0).1
    · cases hs
      intro a ha
      obtain ⟨b, -, rfl⟩ := List.mem_map.1 ha
      split
      · simp
      · next hb => exact fun hslot => hb (Table.isWaiting_iff.2 hslot)
  entry ticket life hlife := by
    rcases hlife.cases_concat with ⟨rfl, rfl⟩ | ⟨earlier, rfl, hearlier, hends⟩
    · refine ⟨?_, rfl⟩
      generalize hr : Event.registered ticket.uid (.ok ticket) = e at hs
      cases hs with
      | register uid =>
        obtain ⟨-, hresult⟩ := Event.registered.inj hr
        rcases t.register_cases uid with ⟨-, -, hr⟩ | ⟨-, hr⟩ | ⟨-, -, hr⟩
        · rw [hr] at hresult ⊢
          cases hresult
          exact List.mem_append_right _ List.mem_cons_self
        · rw [hr] at hresult
          cases hresult
        · rw [hr] at hresult
          cases hresult
      | _ => cases hr
    · obtain ⟨hmem, hcount⟩ := h.entry ticket earlier hearlier
      obtain ⟨hmem', hdelivers⟩ := hs.entry h.distinct hmem hends
      rw [decision?_concat]
      refine ⟨hmem', ?_⟩
      rw [List.countP_append, hcount, List.countP_singleton]
      -- Once something has been decided, nothing more is delivered.
      cases hd : decision? ticket.uid earlier with
      | some result => simp [hd, hdelivers]
      | none =>
        rw [hd] at hdelivers
        rw [Option.none_or]
        rcases hv : e.decides? ticket.uid with _ | error | v <;>
          rw [hv] at hdelivers <;> simp [delivered, hdelivers]

end Kept

namespace Run

variable {events : List Event} {t : Table}

theorem kept (run : Run events t) : Kept events t := by
  induction run with
  | start => exact .start
  | step _ hs ih => exact ih.step hs

/-- Each event of a run has led from one table to another. -/
theorem exists_step (run : Run events t) {before after : List Event} {e : Event}
    (h : events = before ++ e :: after) :
    ∃ t₁ t₂, Run before t₁ ∧ t₁.Step (live before) e t₂ := by
  induction run generalizing after with
  | start => simp at h
  | step run hs ih =>
    rcases List.eq_nil_or_concat after with rfl | ⟨earlier, last, rfl⟩
    · obtain ⟨rfl, he⟩ := List.append_inj' h rfl
      obtain rfl : _ = e := by simpa using he
      exact ⟨_, _, run, hs⟩
    · rw [List.concat_eq_append, ← List.cons_append, ← List.append_assoc] at h
      exact ih (List.append_inj' h rfl).1

/-- The events up to any point are those of a run. -/
theorem exists_prefix (run : Run events t) {before after : List Event}
    (h : events = before ++ after) : ∃ t', Run before t' := by
  cases after with
  | nil =>
    rw [List.append_nil] at h
    exact ⟨t, h ▸ run⟩
  | cons e after =>
    obtain ⟨t', -, run', -⟩ := run.exists_step h
    exact ⟨t', run'⟩

/-- A call that lives was registered, and nothing has ended it since. -/
theorem exists_life (run : Run events t) {ticket : Ticket} (h : ticket ∈ live events) :
    ∃ life, Life events ticket life := by
  induction run with
  | start => cases h
  | step run hs ih =>
    rw [live_concat] at h
    cases hs with
    | register uid =>
      rcases Table.register_cases _ uid with ⟨-, -, hr⟩ | ⟨-, hr⟩ | ⟨-, -, hr⟩
      · rw [hr] at h ⊢
        rcases List.mem_append.1 h with h | h
        · obtain ⟨life, hlife⟩ := ih h
          exact ⟨_, hlife.concat id⟩
        · rw [List.mem_singleton.1 h]
          exact ⟨[], ⟨_, rfl⟩, by simp⟩
      · rw [hr] at h ⊢
        obtain ⟨life, hlife⟩ := ih h
        exact ⟨_, hlife.concat id⟩
      · rw [hr] at h ⊢
        obtain ⟨life, hlife⟩ := ih h
        exact ⟨_, hlife.concat id⟩
    | wait timeout hk =>
      obtain ⟨hmem, hne⟩ := List.mem_filter.1 h
      obtain ⟨life, hlife⟩ := ih hmem
      exact ⟨_, hlife.concat fun heq : _ = ticket => by simp [heq] at hne⟩
    | drop hk =>
      obtain ⟨hmem, hne⟩ := List.mem_filter.1 h
      obtain ⟨life, hlife⟩ := ih hmem
      exact ⟨_, hlife.concat fun heq : _ = ticket => by simp [heq] at hne⟩
    | _ =>
      obtain ⟨life, hlife⟩ := ih h
      exact ⟨_, hlife.concat id⟩

/-- A wait comes to what was decided first in the life of its call. -/
theorem wait_eq (run : Run events t) {before after : List Event} {ticket : Ticket}
    {timeout : Duration} {result : Except Error Json}
    (h : events = before ++ .waited ticket timeout result :: after) :
    (∃ life, Life before ticket life) ∧ ∀ life, Life before ticket life →
      result = (decision? ticket.uid life).getD (.error (.noDataReceived timeout)) := by
  obtain ⟨t₁, t₂, run₁, hs⟩ := run.exists_step h
  generalize he : Event.waited ticket timeout result = e at hs
  cases hs with
  | wait timeout' hlive =>
    cases he
    refine ⟨run₁.exists_life hlive, fun life hlife => ?_⟩
    rw [Table.wait, run₁.kept.distinct.outcome? (run₁.kept.entry ticket life hlife).1]
  | _ => cases he

/-- At most one reply is delivered in the life of a call. -/
theorem countP_delivers (run : Run events t) {before life after : List Event} {ticket : Ticket}
    (h : events = before ++ .registered ticket.uid (.ok ticket) :: (life ++ after))
    (hlasts : ∀ e ∈ life, ¬ e.Ends ticket) : life.countP (·.delivers ticket.uid) ≤ 1 := by
  have hsplit : events = (before ++ .registered ticket.uid (.ok ticket) :: life) ++ after := by
    rw [h, List.append_assoc, List.cons_append]
  obtain ⟨t', run'⟩ := run.exists_prefix hsplit
  rw [(run'.kept.entry ticket life ⟨⟨before, rfl⟩, hlasts⟩).2]
  unfold delivered
  split <;> omega

end Run

/-- The account that a table gives of its calls. -/
structure Accounted (events : List Event) (t : Table) : Prop where
  /-- The entries are those of the calls that live, and they have different correlation
  ids. -/
  tickets : t.entries.map (·.ticket) = live events
  count : t.pendingCount = (live events).length
  uids : ((live events).map (·.uid)).Nodup
  /-- The end of a call removes one entry, and no entry of another call. -/
  cleanup : ∀ ticket ∈ live events, (t.remove ticket).pendingCount + 1 = t.pendingCount ∧
    ∀ a ∈ t.entries, a.ticket ≠ ticket → a ∈ (t.remove ticket).entries
  /-- At most one reply is delivered to a call. -/
  once : ∀ before ticket life after,
    events = before ++ .registered ticket.uid (.ok ticket) :: (life ++ after) →
      (∀ e ∈ life, ¬ e.Ends ticket) → life.countP (·.delivers ticket.uid) ≤ 1
  /-- A wait comes to what was decided first in the life of its call, and to a timeout if
  nothing was. -/
  waits : ∀ before ticket timeout result after,
    events = before ++ .waited ticket timeout result :: after →
      (∃ life, Life before ticket life) ∧ ∀ life, Life before ticket life →
        result = (decision? ticket.uid life).getD (.error (.noDataReceived timeout))
  /-- Once the channel has closed, no reply is delivered and no call registered. -/
  silent : ∀ before e after, events = before ++ e :: after → .closed ∈ before →
    (∀ uid, e.delivers uid = false) ∧
      ∀ uid result, e = .registered uid result → result = .error .replyChannelClosed
  /-- A call about which nothing was decided before the close gets no value. -/
  sealed : ∀ before ticket timeout result after early late,
    events = before ++ .waited ticket timeout result :: after →
      Life before ticket (early ++ .closed :: late) → decision? ticket.uid early = none →
        result = .error .closedBeforeResponse
  /-- A refused registration uses up a token and changes nothing else. -/
  refused : ∀ uid error, (t.register uid).1 = .error error →
    (t.register uid).2 = { t with nextToken := t.nextToken + 1 }
  /-- A reply that finds no waiting call changes nothing. -/
  unmatched : ∀ uid response, (t.resolve uid response).1 = false →
    (t.resolve uid response).2 = t
  /-- A message of another topic, or without the body of a reply, changes nothing. -/
  ignored : ∀ m, (m.topic ≠ Message.consumeTopic ∨ ∀ c, Consumption.ofJson m.data ≠ .ok c) →
    t.handleMessage m = (false, t)

/-- Whatever happens to a table and in whatever order, it gives a true account of its calls. -/
theorem Run.accounted {events : List Event} {t : Table} (run : Run events t) :
    Accounted events t := by
  have hk := run.kept
  have hcount : t.pendingCount = (live events).length := by
    rw [Table.pendingCount, ← List.length_map (·.ticket), hk.tickets]
  have hnodup : (t.entries.map (·.ticket)).Nodup :=
    List.Nodup.of_map (·.uid) (by rw [List.map_map]; exact hk.distinct)
  refine ⟨hk.tickets, hcount, ?uids, ?cleanup, ?once, ?waits, ?silent, ?sealed, ?refused,
    ?unmatched, ?ignored⟩
  case uids =>
    rw [← hk.tickets, List.map_map]
    exact hk.distinct
  case cleanup =>
    intro ticket hlive
    rw [← hk.tickets] at hlive
    exact ⟨Table.pendingCount_remove hnodup hlive,
      fun a ha hne => List.mem_filter.2 ⟨ha, by simpa using hne⟩⟩
  case once =>
    intro before ticket life after h hlasts
    exact run.countP_delivers h hlasts
  case waits =>
    intro before ticket timeout result after h
    exact run.wait_eq h
  case silent =>
    intro before e after h hclosed
    obtain ⟨t₁, t₂, run₁, hs⟩ := run.exists_step h
    have hshut := run₁.kept.isClosed.2 hclosed
    have hquiet := hs.quiet hshut (run₁.kept.quiet hshut)
    exact ⟨fun uid => (hquiet uid).2.1, (hquiet 0).2.2⟩
  case sealed =>
    intro before ticket timeout result after early late h hlife hearly
    rw [(run.wait_eq h).2 _ hlife, decision?, List.findSome?_append, ← decision?, hearly]
    rfl
  case refused =>
    intro uid error h
    exact Table.refused_of_register h
  case unmatched =>
    intro uid response h
    exact Table.eq_of_resolve h
  case ignored =>
    intro m h
    rw [Table.handleMessage, Table.reply?_eq_none h]

/-- A second call under a taken correlation id is refused, the first reply is delivered, the
second is not, and the wait comes to the first. -/
theorem sharing_accounted :
    ∃ events t, Run events t ∧ events = [.registered 1 (.ok ⟨1, 0⟩),
      .registered 1 (.error (.duplicateCorrelation 1)), .resolved 1 (.bool true) true,
      .resolved 1 .null false, .closed, .waited ⟨1, 0⟩ ⟨10, 0⟩ (.ok (.bool true))] ∧
      Accounted events t := by
  have run : Run [.registered 1 (.ok ⟨1, 0⟩),
      .registered 1 (.error (.duplicateCorrelation 1)), .resolved 1 (.bool true) true,
      .resolved 1 .null false, .closed, .waited ⟨1, 0⟩ ⟨10, 0⟩ (.ok (.bool true))] _ :=
    (((((Run.start.step (.register 1)).step (.register 1)).step (.resolve 1 (.bool true))).step
      (.resolve 1 .null)).step .close).step (.wait ⟨10, 0⟩ List.mem_cons_self)
  exact ⟨_, _, run, rfl, run.accounted⟩

end LoadTest.Correlation
