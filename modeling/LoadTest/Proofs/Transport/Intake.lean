import LoadTest.Proofs.Transport.Messages
import LoadTest.Transport.Listener
/-!
# Reading a connection

When bytes come in on an open connection, all its whole frames are read: the messages up to the
first frame that is not understood or not welcome reach the inbox, and such a frame ends the
connection. Other connections do not notice.
-/

namespace LoadTest.Transport

/-- What reading looks at in a connection. -/
structure Intake where
  unread : Bytes
  client : Option String
  isOpen : Bool

/-- What reading looks at in a connection. -/
def Connection.intake (c : Connection) : Intake := ⟨c.unread, c.client, c.isOpen⟩

/-- A connection after its end. -/
def Intake.ended (k : Intake) : Intake :=
  if k.isOpen then { k with unread := [], isOpen := false } else k

namespace Listener

/-- What reading looks at in the connections. -/
def intake? (l : Listener) (i : Nat) : Option Intake := l.connections[i]?.map (·.intake)

variable {l : Listener} {i : Nat} {k : Intake}

theorem exists_connection (h : l.intake? i = some k) :
    ∃ c : Connection, l.connections[i]? = some c ∧ c.intake = k := by
  simpa [intake?] using h

theorem intake?_update (l : Listener) (i j : Nat) (f : Connection → Connection) :
    (l.update i f).intake? j =
      if i = j then l.connections[i]?.map fun c => (f c).intake else l.intake? j := by
  show ((l.connections.modify i f)[j]?).map _ = _
  rw [List.getElem?_modify]
  split
  · next h =>
    subst h
    cases l.connections[i]? <;> rfl
  · show _ = l.connections[j]?.map _
    cases l.connections[j]? <;> rfl

/-- An update that changes nothing that reading looks at. -/
theorem intake?_update_same (l : Listener) (i j : Nat) {f : Connection → Connection}
    (h : ∀ c, (f c).intake = c.intake) : (l.update i f).intake? j = l.intake? j := by
  rw [intake?_update]
  split
  · next hj =>
    subst hj
    simp only [h]
    rfl
  · rfl

/-- An update of what reading looks at. -/
theorem intake?_update_map (l : Listener) (i j : Nat) {f : Connection → Connection}
    {g : Intake → Intake} (h : ∀ c, (f c).intake = g c.intake) :
    (l.update i f).intake? j = if i = j then (l.intake? i).map g else l.intake? j := by
  rw [intake?_update]
  simp only [h, intake?, Option.map_map]
  rfl

theorem intake?_setUnread (l : Listener) (i j : Nat) (behind : Bytes) :
    (l.update i fun c => { c with unread := behind }).intake? j =
      if i = j then (l.intake? i).map ({ · with unread := behind }) else l.intake? j :=
  l.intake?_update_map i j fun _ => rfl

theorem intake?_supersede (l : Listener) (client : String) (j : Nat) :
    (l.supersede client).intake? j = l.intake? j := by
  unfold supersede
  split
  · exact l.intake?_update_same _ j fun _ => rfl
  · rfl

theorem intake?_register (l : Listener) (i j : Nat) (client : String) :
    (l.register i client).intake? j =
      if i = j then (l.intake? i).map ({ · with client := some client }) else l.intake? j := by
  rw [← l.intake?_supersede client i, ← l.intake?_supersede client j]
  exact (l.supersede client).intake?_update_map i j fun _ => rfl

theorem intake?_finish (l : Listener) (i j : Nat) :
    (l.finish i).intake? j = if i = j then (l.intake? i).map Intake.ended else l.intake? j := by
  unfold finish
  cases hc : l.connections[i]? with
  | none =>
    dsimp only
    split
    · next hj => simp only [← hj, intake?, hc, Option.map_none]
    · rfl
  | some c =>
    have hi : l.intake? i = some c.intake := by rw [intake?, hc, Option.map_some]
    cases hopen : c.isOpen with
    | false =>
      have hended : c.intake.ended = c.intake := by simp [Intake.ended, Connection.intake, hopen]
      simp only [hopen, Bool.false_eq_true, if_false, hi, Option.map_some, hended]
      split
      · next hj => rw [← hj, hi]
      · rfl
    | true =>
      have hended : c.intake.ended = { c.intake with unread := [], isOpen := false } := by
        simp [Intake.ended, Connection.intake, hopen]
      simp only [hopen, if_true, hi, Option.map_some, hended]
      cases c.client with
      | none =>
        have hupdate := l.intake?_update_map i j
          (f := fun c => { c with isOpen := false, canSend := false, unread := [], queue := [] })
          (g := fun k => { k with unread := [], isOpen := false }) fun _ => rfl
        rwa [hi] at hupdate
      | some client =>
        have hupdate := Listener.intake?_update_map
          { l.supersede client with clients := l.clients.erase client } i j
          (f := fun c => { c with isOpen := false, canSend := false, unread := [], queue := [] })
          (g := fun k => { k with unread := [], isOpen := false }) fun _ => rfl
        have hkept : ∀ j, Listener.intake?
            { l.supersede client with clients := l.clients.erase client } j = l.intake? j :=
          l.intake?_supersede client
        rwa [hkept, hkept, hi] at hupdate

/-- While the listener goes on and has room, a worker gets a new connection. -/
theorem connection_accept (hlistening : l.isListening = true)
    (hroom : (l.connections.filter (·.isOpen)).length < maxConnections) :
    l.accept.connections[l.connections.length]? = some ({} : Connection) := by
  rw [accept, if_pos hlistening]
  dsimp only
  rw [if_neg (Nat.not_le.2 hroom), List.getElem?_concat_length]

/-- A new connection comes behind the others. -/
theorem intake?_accept (hi : l.intake? i = some k) : l.accept.intake? i = some k := by
  obtain ⟨c, hc, rfl⟩ := exists_connection hi
  unfold accept
  split
  · rw [intake?, List.getElem?_append_left (List.getElem?_eq_some_iff.1 hc).1, hc, Option.map_some]
  · exact hi

theorem intake?_send (l : Listener) (m : Message) (i : Nat) :
    (l.send m).2.intake? i = l.intake? i := by
  unfold send
  split
  · rfl
  · split
    · rfl
    · split
      · split
        · split
          · exact l.intake?_update_same _ i fun _ => rfl
          · rfl
        · rfl
      · rfl

theorem inbox_send (l : Listener) (m : Message) : (l.send m).2.inbox = l.inbox := by
  unfold send
  repeat' split
  all_goals rfl

theorem inbox_accept (l : Listener) : l.accept.inbox = l.inbox := by
  unfold accept
  split <;> rfl

theorem inbox_supersede (l : Listener) (client : String) :
    (l.supersede client).inbox = l.inbox := by
  unfold supersede
  split <;> rfl

theorem inbox_finish (l : Listener) (i : Nat) : (l.finish i).inbox = l.inbox := by
  unfold finish
  split
  · rfl
  · split
    · split
      · exact l.inbox_supersede _
      · rfl
    · rfl

theorem inbox_register (l : Listener) (i : Nat) (client : String) :
    (l.register i client).inbox = l.inbox := l.inbox_supersede client

/-! ## Reading the frames of one connection -/

variable {m : Message} {messages : List Message}

/-- A message reaches the inbox under the client id that was announced. -/
theorem handle_of_client {client : String} (hi : l.intake? i = some k)
    (hclient : k.client = some client) (hinbox : l.inbox = some messages) :
    l.handle i m = { l with inbox := some (messages ++ [Hub.stamp client m]) } := by
  obtain ⟨c, hc, rfl⟩ := exists_connection hi
  have hclient : c.client = some client := hclient
  simp only [handle, hc, Option.bind_some, hclient, hinbox, Inbox.push?, Option.map_some]

/-- The first message announces a client id, or it ends the connection. -/
theorem handle_of_no_client (hi : l.intake? i = some k) (hclient : k.client = none) :
    l.handle i m = m.announces?.elim (l.finish i) (l.register i) := by
  obtain ⟨c, hc, rfl⟩ := exists_connection hi
  have hclient : c.client = none := hclient
  simp only [handle, hc, Option.bind_some, hclient, Message.announces?]
  split
  · cases m.nodeId <;> rfl
  · rfl

theorem readFrames_of_closed (hopen : ∀ k, l.intake? i = some k → k.isOpen = false)
    (fuel : Nat) : readFrames fuel i l = l := by
  cases fuel with
  | zero => rfl
  | succ fuel =>
    rw [readFrames]
    split
    · rfl
    · next c hc =>
      have hclosed : c.isOpen = false := hopen c.intake (by rw [intake?, hc, Option.map_some])
      rw [hclosed, if_neg Bool.false_ne_true]

theorem readFrames_of_open (hi : l.intake? i = some k) (hopen : k.isOpen = true) (fuel : Nat) :
    readFrames (fuel + 1) i l =
      match Frame.front k.unread with
      | .incomplete => l
      | .oversized _ => l.finish i
      | .payload payload rest =>
        match ofPayload payload with
        | .ok m => readFrames fuel i ((l.update i fun c => { c with unread := rest }).handle i m)
        | .error _ => l.finish i := by
  obtain ⟨c, hc, rfl⟩ := exists_connection hi
  have hopen : c.isOpen = true := hopen
  rw [readFrames, hc]
  simp only [hopen, if_true]
  rfl

/-- A message that is not welcome ends the connection, and one that is welcome either announces
the client id or reaches the inbox. -/
theorem handle_cases (hi : l.intake? i = some k) (hinbox : l.inbox = some messages) (m : Message) :
    (¬ Welcome k.client [m] ∧ l.handle i m = l.finish i) ∨
      (Welcome k.client [m] ∧
        (l.handle i m).intake? i = some { k with client := clientAfter k.client [m] } ∧
        (∀ j, i ≠ j → (l.handle i m).intake? j = l.intake? j) ∧
        (l.handle i m).inbox = some (messages ++ delivered k.client [m])) := by
  cases hclient : k.client with
  | some client =>
    refine .inr ⟨.inr rfl, ?_⟩
    rw [handle_of_client hi hclient hinbox]
    exact ⟨by rw [clientAfter, ← hclient]; exact hi, fun j _ => rfl, rfl⟩
  | none =>
    rw [handle_of_no_client hi hclient]
    cases hm : m.announces? with
    | none =>
      refine .inl ⟨?_, rfl⟩
      rintro (hnil | hsome)
      · cases hnil
      · have hsome : m.announces?.isSome := hsome
        rw [hm] at hsome
        cases hsome
    | some client =>
      refine .inr ⟨.inr (congrArg Option.isSome hm), ?_, fun j hj => ?_, ?_⟩
      · rw [Option.elim_some, intake?_register, if_pos rfl, hi, clientAfter, hm]
        rfl
      · rw [Option.elim_some, intake?_register, if_neg hj]
      · rw [Option.elim_some, inbox_register, hinbox, delivered, hm]
        exact congrArg some (List.append_nil _).symm

end Listener

/-- What becomes of a connection when the messages at the front of what it has not read are read,
and a rest is left. -/
structure Intake.Reads (k : Intake) (ms : List Message) (rest : Bytes) (k' : Intake) : Prop where
  holds : Holds k.unread ms rest
  ends : Pending rest ∨ Broken rest
  client : k'.client = clientAfter k.client ms
  isOpen : k'.isOpen = true ↔ Pending rest ∧ Welcome k.client ms
  unread : k'.isOpen = true → k'.unread = rest

/-- From one listener to another, a connection is read. -/
structure Listener.Reads (l : Listener) (i : Nat) (k : Intake) (ms : List Message) (rest : Bytes)
    (l' : Listener) (k' : Intake) : Prop extends k.Reads ms rest k' where
  self : l'.intake? i = some k'
  others : ∀ j, i ≠ j → l'.intake? j = l.intake? j
  inbox : l'.inbox = some (l.inbox.messages ++ delivered k.client ms)

namespace Listener

variable {l l' l'' : Listener} {i : Nat} {k k' : Intake} {ms : List Message} {rest : Bytes}
  {messages : List Message}

/-- Nothing whole has come in. -/
theorem reads_pending (hi : l.intake? i = some k) (hopen : k.isOpen = true)
    (hinbox : l.inbox = some messages) (hpending : Pending k.unread) :
    l.Reads i k [] k.unread l k where
  holds := .nil
  ends := .inl hpending
  client := (clientAfter_nil _).symm
  isOpen := iff_of_true hopen ⟨hpending, .inl rfl⟩
  unread _ := rfl
  self := hi
  others _ _ := rfl
  inbox := by rw [hinbox, delivered_nil, List.append_nil]; rfl

/-- What is not understood ends the connection. -/
theorem reads_broken (hi : l.intake? i = some k) (hopen : k.isOpen = true)
    (hinbox : l.inbox = some messages) (hbroken : Broken k.unread) :
    l.Reads i k [] k.unread (l.finish i) k.ended where
  holds := .nil
  ends := .inr hbroken
  client := by rw [clientAfter_nil, Intake.ended, if_pos hopen]
  isOpen := by
    rw [Intake.ended, if_pos hopen]
    exact iff_of_false Bool.false_ne_true fun h => hbroken.not_pending h.1
  unread h := by simp [Intake.ended, hopen] at h
  self := by rw [intake?_finish, if_pos rfl, hi, Option.map_some]
  others j hj := by rw [intake?_finish, if_neg hj]
  inbox := by rw [inbox_finish, hinbox, delivered_nil, List.append_nil]; rfl

/-- What is not welcome ends the connection; the frames behind it are not looked at. -/
theorem exists_reads_unwelcome {l₁ : Listener} {payload behind : Bytes} {m : Message}
    (hopen : k.isOpen = true) (hinbox : l.inbox = some messages)
    (hfront : Frame.front k.unread = .payload payload behind) (hm : ofPayload payload = .ok m)
    (hread : ∀ j, l₁.intake? j = if i = j then some { k with unread := behind } else l.intake? j)
    (hinbox₁ : l₁.inbox = some messages) (hwelcome : ¬ Welcome k.client [m]) :
    ∃ ms rest k', l.Reads i k ms rest (l₁.finish i) k' := by
  obtain ⟨ms, rest, hholds, hends⟩ := exists_holds behind
  have hwelcome : ¬ Welcome k.client (m :: ms) := not_welcome_append hwelcome ms
  obtain ⟨hnone, hclient, hdelivered⟩ := of_not_welcome hwelcome
  have hended : Intake.ended { k with unread := behind } = ⟨[], none, false⟩ := by
    simp only [Intake.ended, hopen, if_true, hnone]
  refine ⟨m :: ms, rest, ⟨[], none, false⟩, ?_⟩
  exact {
    holds := .cons hfront hm hholds
    ends := hends
    client := hclient.symm
    isOpen := iff_of_false Bool.false_ne_true fun h => hwelcome h.2
    unread := nofun
    self := by rw [intake?_finish, if_pos rfl, hread, if_pos rfl, Option.map_some, hended]
    others := fun j hj => by rw [intake?_finish, if_neg hj, hread, if_neg hj]
    inbox := by
      rw [inbox_finish, hinbox₁, hinbox, hdelivered, List.append_nil]
      rfl }

/-- After a welcome message the frames behind it are read. -/
theorem Reads.cons {l₁ : Listener} {payload behind : Bytes} {m : Message}
    (hfront : Frame.front k.unread = .payload payload behind) (hm : ofPayload payload = .ok m)
    (hwelcome : Welcome k.client [m]) (hinbox : l.inbox = some messages)
    (hothers : ∀ j, i ≠ j → l₁.intake? j = l.intake? j)
    (hinbox₁ : l₁.inbox = some (messages ++ delivered k.client [m]))
    (h : l₁.Reads i ⟨behind, clientAfter k.client [m], true⟩ ms rest l' k') :
    l.Reads i k (m :: ms) rest l' k' where
  holds := .cons hfront hm h.holds
  ends := h.ends
  client := by
    rw [h.client]
    exact (hwelcome.clientAfter_append ms).symm
  isOpen := by
    rw [h.isOpen]
    exact and_congr_right fun _ => (hwelcome.append_iff ms).symm
  unread := h.unread
  self := h.self
  others j hj := by rw [h.others j hj, hothers j hj]
  inbox := by
    have hdelivered := hwelcome.delivered_append ms
    rw [List.singleton_append] at hdelivered
    rw [h.inbox, hinbox₁, hinbox, hdelivered]
    exact congrArg some (List.append_assoc ..)

/-- All whole frames of a connection are read, up to the first that is not understood or not
welcome: each of them takes some of its bytes, so there is fuel enough. -/
theorem exists_reads_readFrames {fuel : Nat} (hi : l.intake? i = some k) (hopen : k.isOpen = true)
    (hinbox : l.inbox = some messages) (hfuel : k.unread.length ≤ fuel) :
    ∃ ms rest k', l.Reads i k ms rest (readFrames fuel i l) k' := by
  induction fuel generalizing l k messages with
  | zero =>
    have hunread : k.unread = [] := List.length_eq_zero_iff.1 (Nat.le_zero.1 hfuel)
    exact ⟨_, _, _, reads_pending hi hopen hinbox (hunread ▸ pending_nil)⟩
  | succ fuel ih =>
    rw [readFrames_of_open hi hopen]
    cases hfront : Frame.front k.unread with
    | incomplete => exact ⟨_, _, _, reads_pending hi hopen hinbox hfront⟩
    | oversized size => exact ⟨_, _, _, reads_broken hi hopen hinbox (.oversized hfront)⟩
    | payload payload behind =>
      cases hm : ofPayload payload with
      | error e =>
        simp only [hm]
        exact ⟨_, _, _, reads_broken hi hopen hinbox (.undecodable hfront hm)⟩
      | ok m =>
        simp only [hm]
        have hread := fun j => l.intake?_setUnread i j behind
        have hinbox₁ : (l.update i fun c => { c with unread := behind }).inbox = some messages :=
          hinbox
        rw [hi, Option.map_some] at hread
        generalize (l.update i fun c => { c with unread := behind }) = l₁ at hread hinbox₁ ⊢
        have hself : l₁.intake? i = some { k with unread := behind } := by rw [hread, if_pos rfl]
        rcases handle_cases hself hinbox₁ m with
          ⟨hwelcome, hhandle⟩ | ⟨hwelcome, hself', hothers, hinbox'⟩
        · obtain ⟨ms, rest, k', h⟩ :=
            exists_reads_unwelcome hopen hinbox hfront hm hread hinbox₁ hwelcome
          have hclosed : ∀ k, (l₁.finish i).intake? i = some k → k.isOpen = false := by
            intro k' hk'
            rw [intake?_finish, if_pos rfl, hself, Option.map_some] at hk'
            cases hk'
            simp only [Intake.ended, hopen, if_true]
          rw [hhandle, readFrames_of_closed hclosed]
          exact ⟨ms, rest, k', h⟩
        · have hshort : behind.length ≤ fuel := by
            have := Frame.length_of_front hfront
            simp only [Frame.headerSize] at this
            omega
          rw [hopen] at hself'
          obtain ⟨ms, rest, k', h⟩ := ih hself' rfl hinbox' hshort
          refine ⟨m :: ms, rest, k', h.cons hfront hm hwelcome hinbox (fun j hj => ?_) hinbox'⟩
          rw [hothers j hj, hread, if_neg hj]

theorem intake?_append (l : Listener) (i j : Nat) (bytes : Bytes) :
    (l.update i fun c =>
      if c.isOpen then { c with unread := c.unread ++ bytes } else c).intake? j =
      if i = j then
        (l.intake? i).map fun k =>
          if k.isOpen then { k with unread := k.unread ++ bytes } else k
      else l.intake? j := by
  refine l.intake?_update_map i j fun c => ?_
  cases hopen : c.isOpen <;> simp [Connection.intake, hopen]

/-- A connection that has ended takes nothing in. -/
theorem receive_of_closed (hclosed : ∀ k, l.intake? i = some k → k.isOpen = false)
    (bytes : Bytes) :
    (l.receive i bytes).inbox = l.inbox ∧
      ∀ j, (l.receive i bytes).intake? j = l.intake? j := by
  have happend := fun j => l.intake?_append i j bytes
  have hsame : ∀ j, (l.update i fun c =>
      if c.isOpen then { c with unread := c.unread ++ bytes } else c).intake? j =
        l.intake? j := by
    intro j
    rw [happend]
    split
    · next hj =>
      subst hj
      cases hi : l.intake? i with
      | none => rfl
      | some k => simp [hclosed k hi]
    · rfl
  rw [receive, readFrames_of_closed (by rw [hsame]; exact hclosed)]
  exact ⟨rfl, hsame⟩

/-- What comes in on an open connection is read together with what had not been read before. -/
theorem exists_reads_receive (hi : l.intake? i = some k) (hopen : k.isOpen = true)
    (hinbox : l.inbox = some messages) (bytes : Bytes) :
    ∃ ms rest k', l.Reads i { k with unread := k.unread ++ bytes } ms rest
      (l.receive i bytes) k' := by
  have happend := fun j => l.intake?_append i j bytes
  rw [hi, Option.map_some, if_pos hopen] at happend
  rw [receive]
  have hinbox₁ : (l.update i fun c =>
      if c.isOpen then { c with unread := c.unread ++ bytes } else c).inbox = l.inbox := rfl
  generalize (l.update i fun c =>
    if c.isOpen then { c with unread := c.unread ++ bytes } else c) = l₁ at happend hinbox₁ ⊢
  have hself : l₁.intake? i = some { k with unread := k.unread ++ bytes } := by
    rw [happend, if_pos rfl]
  obtain ⟨c, hc, hck⟩ := exists_connection hself
  have hlength : (l₁.connections[i]?.map (·.unread.length)).getD 0 =
      (k.unread ++ bytes).length := by
    rw [hc]
    exact congrArg (fun k : Intake => k.unread.length) hck
  rw [hlength]
  obtain ⟨ms, rest, k', h⟩ :=
    exists_reads_readFrames hself hopen (hinbox₁.trans hinbox) (Nat.le_refl _)
  refine ⟨ms, rest, k', { h with others := fun j hj => ?_, inbox := ?_ }⟩
  · rw [h.others j hj, happend, if_neg hj]
  · rw [h.inbox, hinbox₁]

end Listener

end LoadTest.Transport
