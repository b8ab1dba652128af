import LoadTest.Transport.Listener
import Mathlib
/-!
# Where client ids lead

What happens at a listening coordinator is kept as a list of actions, and beside it the
connections in the order in which they announced a client id. A client id leads to the
newest open connection that announced it, or it is unknown. It is unknown although such a
connection is open once another connection under the same client id has ended: the end of a
connection makes its client id unknown whatever connection the id leads to.
-/

namespace LoadTest.Transport

namespace Listener

/-- What happens at a listening coordinator. -/
inductive Action where
  /-- A worker opens a connection. -/
  | accept
  /-- Bytes come in on a connection. -/
  | receive (i : Nat) (bytes : Bytes)
  /-- A worker closes its end of a connection. -/
  | close (i : Nat)
  /-- The coordinator sends a message. -/
  | send (m : Message)
  /-- Messages in the queue of a connection are written. -/
  | write (i n : Nat)
  /-- The coordinator takes the oldest message out of its inbox. -/
  | take
  /-- The coordinator stops reading its inbox. -/
  | closeInbox
  /-- The coordinator stops listening and ends all connections. -/
  | shutDown

/-- The listener after an action. -/
def Action.run (l : Listener) : Action → Listener
  | accept => l.accept
  | receive i bytes => l.receive i bytes
  | close i => l.close i
  | send m => (l.send m).2
  | write i n => l.write i n
  | take => { l with inbox := l.inbox.remove 0 }
  | closeInbox => { l with inbox := none }
  | shutDown => l.shutDown

end Listener

/-- What sending looks at in a connection that has announced a client id. -/
structure Link where
  client : String
  isOpen : Bool
  canSend : Bool

/-- What sending looks at: the connections that have announced a client id, and the
connection that each client id leads to. -/
@[ext] structure View where
  links : Nat → Option Link
  routes : Dict Nat

/-- The link of a connection that has announced a client id. -/
def Connection.link? (c : Connection) : Option Link := c.client.map (⟨·, c.isOpen, c.canSend⟩)

/-- What sending looks at in a listener. -/
def Listener.view (l : Listener) : View :=
  ⟨fun i => l.connections[i]?.bind (·.link?), l.clients⟩

namespace View

/-- Whether a connection is open and has announced a client id. -/
def serves (v : View) (client : String) (i : Nat) : Bool :=
  (v.links i).any fun k => k.isOpen && k.client = client

/-- Whether a connection had announced a client id and has ended. -/
def served (v : View) (client : String) (i : Nat) : Bool :=
  (v.links i).any fun k => !k.isOpen && k.client = client

/-- The connection that a client id leads to sends no more than its queue. -/
def supersede (v : View) (client : String) : View :=
  { v with links := fun j =>
      if v.routes.get? client = some j then (v.links j).map ({ · with canSend := false })
      else v.links j }

/-- Put a link under a connection. -/
def setLink (v : View) (i : Nat) (k : Link) : View :=
  { v with links := fun j => if i = j then some k else v.links j }

/-- A connection announces a client id. -/
def announce (v : View) (i : Nat) (client : String) : View :=
  { (v.supersede client).setLink i ⟨client, true, true⟩ with
    routes := v.routes.insert client i }

/-- A connection that has announced a client id ends. -/
def finish (v : View) (i : Nat) (client : String) : View :=
  { (v.supersede client).setLink i ⟨client, false, false⟩ with
    routes := v.routes.erase client }

end View

/-- A listener, and the connections that have announced a client id, the latest first. -/
structure Watch where
  listener : Listener := {}
  announced : List Nat := []

namespace Watch

/-- The connections that have announced a client id when an action has led to a listener. -/
def announcedBy (w : Watch) (l : Listener) : Listener.Action → List Nat
  | .receive i _ =>
    if (w.listener.view.links i).isNone && (l.view.links i).isSome then i :: w.announced
    else w.announced
  | _ => w.announced

/-- The watch over one more action. -/
def step (w : Watch) (a : Listener.Action) : Watch :=
  ⟨a.run w.listener, w.announcedBy (a.run w.listener) a⟩

/-- The watch over some actions at a new listener. -/
def after (actions : List Listener.Action) : Watch := actions.foldl step {}

/-- The open connection that announced a client id last. -/
def latest? (w : Watch) (client : String) : Option Nat :=
  w.announced.find? (w.listener.view.serves client)

/-- A client id is known exactly when an open connection has announced it, and a message for
it goes to the queue of the latest such connection, unless the queue is full. -/
structure Reaches (w : Watch) (client : String) : Prop where
  known : (w.listener.clients.get? client).isSome ↔
    ∃ (i : Nat) (c : Connection), w.listener.connections[i]? = some c ∧ c.isOpen = true ∧
      c.client = some client
  send : ∀ m i, m.nodeId = some client → w.latest? client = some i →
    ∃ c : Connection, w.listener.connections[i]? = some c ∧
      w.listener.send m =
        if c.queue.length < Connection.queueCapacity then
          (.ok (), w.listener.update i fun c => { c with queue := c.queue ++ [m] })
        else (.error (.queueFull client), w.listener)

end Watch

/-- From one view to another, a connection under a client id has ended, and another one
under the same client id is open. -/
def Clash (client : String) (v v' : View) : Prop :=
  (∃ i, v.served client i = false ∧ v'.served client i = true) ∧
    ∃ j, v'.serves client j = true

/-! ## What an action does to the view -/

namespace Listener

variable {l : Listener} {i : Nat}

theorem view_update_links (l : Listener) (i j : Nat) (f : Connection → Connection) :
    (l.update i f).view.links j =
      if i = j then l.connections[i]?.bind fun c => (f c).link? else l.view.links j := by
  show ((l.connections.modify i f)[j]?.bind _) = _
  rw [List.getElem?_modify]
  split
  · next h =>
    subst h
    cases l.connections[i]? <;> rfl
  · show _ = l.connections[j]?.bind _
    cases l.connections[j]? <;> rfl

/-- An update that changes no link changes nothing that sending looks at. -/
theorem view_update (l : Listener) (i : Nat) {f : Connection → Connection}
    (h : ∀ c, (f c).link? = c.link?) : (l.update i f).view = l.view := by
  ext1
  · funext j
    rw [view_update_links]
    split
    · next hj =>
      subst hj
      cases hc : l.connections[i]? with
      | none => simp [view, hc]
      | some c => simp [view, hc, h]
    · rfl
  · rfl

theorem view_supersede (l : Listener) (client : String) :
    (l.supersede client).view = l.view.supersede client := by
  unfold supersede
  ext1
  · funext j
    show _ = if l.clients.get? client = some j then (l.view.links j).map _ else l.view.links j
    cases hr : l.clients.get? client with
    | none => rfl
    | some k =>
      show (l.update k _).view.links j = _
      rw [view_update_links]
      by_cases hj : k = j
      · subst hj
        rw [if_pos rfl, if_pos rfl]
        show _ = (l.connections[k]?.bind (·.link?)).map _
        cases l.connections[k]? with
        | none => rfl
        | some c => cases hc : c.client <;> simp [Connection.link?, hc]
      · rw [if_neg hj, if_neg (by simpa using hj)]
  · cases l.clients.get? client <;> rfl

/-- The connections that there are do not change when one of them is superseded. -/
theorem supersede_connection (l : Listener) (client : String) (i : Nat) :
    ∃ f : Connection → Connection, (∀ c, (f c).client = c.client ∧ (f c).isOpen = c.isOpen) ∧
      (l.supersede client).connections[i]? = l.connections[i]?.map f := by
  unfold supersede
  cases l.clients.get? client with
  | none => exact ⟨id, fun _ => ⟨rfl, rfl⟩, by simp⟩
  | some k =>
    refine ⟨fun c => if k = i then { c with canSend := false } else c, fun c => ?_, ?_⟩
    · split <;> exact ⟨rfl, rfl⟩
    · show (l.connections.modify k _)[i]? = _
      rw [List.getElem?_modify]
      split
      · rfl
      · simp

theorem view_register {c : Connection} (hc : l.connections[i]? = some c) (hopen : c.isOpen = true)
    (client : String) : (l.register i client).view = l.view.announce i client := by
  obtain ⟨f, hf, hi⟩ := l.supersede_connection client i
  ext1
  · funext j
    show ((l.supersede client).update i _).view.links j =
      if i = j then _ else (l.view.supersede client).links j
    rw [view_update_links, hi, hc, view_supersede]
    simp [Connection.link?, (hf c).2, hopen]
  · rfl

theorem view_finish {c : Connection} (hc : l.connections[i]? = some c) (hopen : c.isOpen = true)
    {client : String} (hclient : c.client = some client) :
    (l.finish i).view = l.view.finish i client := by
  obtain ⟨f, hf, hi⟩ := l.supersede_connection client i
  have hfinish : l.finish i = ({ l.supersede client with clients := l.clients.erase client }).update
      i fun c => { c with isOpen := false, canSend := false, unread := [], queue := [] } := by
    rw [finish, hc]
    simp only [hopen, if_true, hclient]
  rw [hfinish]
  ext1
  · funext j
    rw [view_update_links]
    show (if i = j then (l.supersede client).connections[i]?.bind _
      else (l.supersede client).view.links j) =
      if i = j then _ else (l.view.supersede client).links j
    rw [hi, hc, view_supersede]
    simp [Connection.link?, (hf c).1, hclient]
  · rfl

/-- An open connection that has announced a client id ends; nothing else can happen to the
view when a connection ends. -/
theorem finish_cases (l : Listener) (i : Nat) :
    ((∀ client canSend, l.view.links i ≠ some ⟨client, true, canSend⟩) ∧
      (l.finish i).view = l.view) ∨
    ∃ client canSend, l.view.links i = some ⟨client, true, canSend⟩ ∧
      (l.finish i).view = l.view.finish i client := by
  cases hc : l.connections[i]? with
  | none => exact .inl ⟨by simp [view, hc], by rw [finish, hc]⟩
  | some c =>
    cases hopen : c.isOpen with
    | false => exact .inl ⟨by simp [view, hc, Connection.link?, hopen], by simp [finish, hc, hopen]⟩
    | true =>
      cases hclient : c.client with
      | none =>
        have hlink : l.view.links i = none := by simp [view, hc, Connection.link?, hclient]
        refine .inl ⟨by simp [hlink], ?_⟩
        have hfinish : l.finish i = l.update i fun c =>
            { c with isOpen := false, canSend := false, unread := [], queue := [] } := by
          simp [finish, hc, hopen, hclient]
        rw [hfinish]
        ext1
        · funext j
          rw [view_update_links]
          split
          · next hj =>
            subst hj
            simp [hlink, hc, Connection.link?, hclient]
          · rfl
        · rfl
      | some client =>
        exact .inr ⟨client, c.canSend, by simp [view, hc, Connection.link?, hclient, hopen],
          view_finish hc hopen hclient⟩

end Listener

/-- What reading from a connection can do to a view. -/
inductive View.Read (v : View) (i : Nat) : View → Prop
  | quiet : Read v i v
  | ended {client : String} {canSend : Bool} (h : v.links i = some ⟨client, true, canSend⟩) :
      Read v i (v.finish i client)
  | announced (client : String) (h : v.links i = none) : Read v i (v.announce i client)
  | both (client : String) (h : v.links i = none) :
      Read v i ((v.announce i client).finish i client)

namespace View

variable {v v' v'' : View} {i : Nat} {client other : String}

theorem announce_self (v : View) (i : Nat) (client : String) :
    (v.announce i client).links i = some ⟨client, true, true⟩ := if_pos rfl

theorem finish_self (v : View) (i : Nat) (client : String) :
    (v.finish i client).links i = some ⟨client, false, false⟩ := if_pos rfl

theorem serves_iff {j : Nat} :
    v.serves client j = true ↔ ∃ canSend, v.links j = some ⟨client, true, canSend⟩ := by
  rw [serves]
  rcases v.links j with _ | ⟨k, _ | _, canSend⟩
  · simp
  · simp
  · simp

theorem isSome_supersede (v : View) (client : String) (j : Nat) :
    ((v.supersede client).links j).isSome = (v.links j).isSome := by
  show (if _ then _ else _ : Option Link).isSome = _
  split
  · rw [Option.isSome_map]
  · rfl

/-- A connection that is superseded stays open. -/
theorem any_supersede (v : View) (client : String) (j : Nat) (p : String → Bool → Bool) :
    ((v.supersede client).links j).any (fun k => p k.client k.isOpen) =
      (v.links j).any fun k => p k.client k.isOpen := by
  show Option.any _ (if _ then _ else _ : Option Link) = _
  split
  · rw [Option.any_map]
  · rfl

theorem serves_announce (v : View) (i : Nat) (client other : String) (j : Nat) :
    (v.announce i client).serves other j =
      if i = j then decide (client = other) else v.serves other j := by
  show Option.any _ (if i = j then _ else (v.supersede client).links j) = _
  split
  · rfl
  · exact v.any_supersede client j fun c isOpen => isOpen && c = other

theorem serves_finish (v : View) (i : Nat) (client other : String) (j : Nat) :
    (v.finish i client).serves other j = if i = j then false else v.serves other j := by
  show Option.any _ (if i = j then _ else (v.supersede client).links j) = _
  split
  · rfl
  · exact v.any_supersede client j fun c isOpen => isOpen && c = other

theorem served_announce (v : View) (i : Nat) (client other : String) (j : Nat) :
    (v.announce i client).served other j = if i = j then false else v.served other j := by
  show Option.any _ (if i = j then _ else (v.supersede client).links j) = _
  split
  · rfl
  · exact v.any_supersede client j fun c isOpen => !isOpen && c = other

theorem served_finish (v : View) (i : Nat) (client other : String) (j : Nat) :
    (v.finish i client).served other j =
      if i = j then decide (client = other) else v.served other j := by
  show Option.any _ (if i = j then _ else (v.supersede client).links j) = _
  split
  · rfl
  · exact v.any_supersede client j fun c isOpen => !isOpen && c = other

theorem routes_announce (v : View) (i : Nat) (client other : String) :
    (v.announce i client).routes.get? other =
      if client = other then some i else v.routes.get? other :=
  v.routes.get?_insert client other i

theorem routes_finish (v : View) (i : Nat) (client other : String) :
    (v.finish i client).routes.get? other =
      if client = other then none else v.routes.get? other :=
  v.routes.get?_erase client other

/-- The other client ids keep their open connections when a connection ends. -/
theorem serves_finish_of_ne {canSend : Bool} (hi : v.links i = some ⟨client, true, canSend⟩)
    (hc : client ≠ other) : (v.finish i client).serves other = v.serves other := by
  funext j
  rw [serves_finish]
  split
  · next hj => simp [serves, ← hj, hi, hc]
  · rfl

theorem find?_announce_self (v : View) (i : Nat) (client : String) (announced : List Nat) :
    (i :: announced).find? ((v.announce i client).serves client) = some i :=
  List.find?_cons_of_pos (by simp [serves_announce])

theorem find?_announce_of_ne (hi : v.links i = none) (hc : client ≠ other)
    (announced : List Nat) :
    (i :: announced).find? ((v.announce i client).serves other) =
      announced.find? (v.serves other) := by
  have hserves : (v.announce i client).serves other = v.serves other := by
    funext j
    rw [serves_announce]
    split
    · next hj => simp [serves, ← hj, hi, hc]
    · rfl
  rw [hserves, List.find?_cons_of_neg (by simp [serves, hi])]

/-- A connection announces at most one client id, and ends at most once. -/
theorem Read.trans (h : Read v i v') (h' : Read v' i v'') : Read v i v'' := by
  cases h with
  | quiet => exact h'
  | ended h =>
    cases h' with
    | quiet => exact .ended h
    | ended h' => simp [finish_self] at h'
    | announced _ h' => simp [finish_self] at h'
    | both _ h' => simp [finish_self] at h'
  | announced client h =>
    cases h' with
    | quiet => exact .announced client h
    | ended h' =>
      rw [announce_self] at h'
      cases h'
      exact .both client h
    | announced _ h' => simp [announce_self] at h'
    | both _ h' => simp [announce_self] at h'
  | both client h =>
    cases h' with
    | quiet => exact .both client h
    | ended h' => simp [finish_self] at h'
    | announced _ h' => simp [finish_self] at h'
    | both _ h' => simp [finish_self] at h'

end View

namespace Listener

variable {l : Listener} {i : Nat}

theorem read_finish (l : Listener) (i : Nat) : l.view.Read i (l.finish i).view := by
  rcases l.finish_cases i with ⟨-, h⟩ | ⟨client, canSend, hlink, h⟩
  · rw [h]
    exact .quiet
  · rw [h]
    exact .ended hlink

theorem read_handle {c : Connection} (hc : l.connections[i]? = some c) (hopen : c.isOpen = true)
    (m : Message) : l.view.Read i (l.handle i m).view := by
  unfold handle
  split
  · split
    · exact .quiet
    · exact l.read_finish i
  · next hclient =>
    split
    · split
      · next client hid =>
        rw [view_register hc hopen]
        refine .announced client ?_
        rw [hc, Option.bind_some] at hclient
        simp [view, hc, Connection.link?, hclient]
      · exact l.read_finish i
    · exact l.read_finish i

theorem read_readFrames (fuel i : Nat) (l : Listener) :
    l.view.Read i (readFrames fuel i l).view := by
  induction fuel generalizing l with
  | zero => exact .quiet
  | succ fuel ih =>
    rw [readFrames]
    split
    · exact .quiet
    · next c hc =>
      split
      · next hopen =>
        split
        · exact .quiet
        · exact l.read_finish i
        · next payload rest hfront =>
          split
          · next m hm =>
            have hread : (l.update i fun c => { c with unread := rest }).view = l.view :=
              l.view_update i fun _ => rfl
            have hc' : (l.update i fun c => { c with unread := rest }).connections[i]? =
                some { c with unread := rest } := by
              simp [update, hc]
            refine View.Read.trans ?_ (ih _)
            rw [← hread]
            exact read_handle hc' hopen m
          · exact l.read_finish i
      · exact .quiet

theorem read_receive (l : Listener) (i : Nat) (bytes : Bytes) :
    l.view.Read i (l.receive i bytes).view := by
  rw [receive]
  refine View.Read.trans ?_ (read_readFrames _ i _)
  rw [view_update]
  · exact .quiet
  · intro c
    split <;> rfl

/-- Sending and writing change nothing that sending looks at. -/
theorem view_send (l : Listener) (m : Message) : (l.send m).2.view = l.view := by
  unfold send
  split
  · rfl
  · split
    · rfl
    · split
      · split
        · split
          · exact l.view_update _ fun _ => rfl
          · rfl
        · rfl
      · rfl

theorem view_accept (l : Listener) : l.accept.view = l.view := by
  unfold accept
  split
  · ext1
    · funext j
      show ((l.connections ++ [_])[j]?.bind _) = l.connections[j]?.bind _
      rw [List.getElem?_append]
      split
      · rfl
      · next hj =>
        rw [List.getElem?_eq_none (Nat.not_lt.1 hj), List.getElem?_singleton]
        split
        · split <;> rfl
        · rfl
    · rfl
  · rfl

theorem shutDown_eq (l : Listener) :
    l.shutDown = (List.range l.connections.length).foldl finish { l with isListening := false } :=
  rfl

/-- A connection that is still open was open before another one ended. -/
theorem serves_finish {client : String} {j : Nat}
    (h : (l.finish i).view.serves client j = true) :
    j ≠ i ∧ l.view.serves client j = true := by
  rcases l.finish_cases i with ⟨hopen, hv⟩ | ⟨k, canSend, hlink, hv⟩
  · rw [hv] at h
    refine ⟨fun hj => ?_, h⟩
    obtain ⟨canSend, hlink⟩ := View.serves_iff.1 h
    exact hopen client canSend (hj ▸ hlink)
  · rw [hv, View.serves_finish] at h
    split at h
    · cases h
    · next hj => exact ⟨fun heq => hj heq.symm, h⟩

/-- Once some connections have ended one after the other, none of them is open. -/
theorem serves_foldl_finish {is : List Nat} {client : String} {j : Nat}
    (h : (is.foldl finish l).view.serves client j = true) :
    j ∉ is ∧ l.view.serves client j = true := by
  induction is generalizing l with
  | nil => exact ⟨List.not_mem_nil, h⟩
  | cons i is ih =>
    obtain ⟨hj, h⟩ := ih h
    obtain ⟨hi, h⟩ := serves_finish h
    exact ⟨by simp [hi, hj], h⟩

theorem serves_shutDown (l : Listener) (client : String) (j : Nat) :
    l.shutDown.view.serves client j = false := by
  by_contra h
  rw [Bool.not_eq_false, shutDown_eq] at h
  obtain ⟨hj, h⟩ := serves_foldl_finish h
  obtain ⟨canSend, hlink⟩ := View.serves_iff.1 h
  rw [List.mem_range, Nat.not_lt] at hj
  have hnone : l.connections[j]? = none := List.getElem?_eq_none hj
  have hlink' : l.connections[j]?.bind (·.link?) = some ⟨client, true, canSend⟩ := hlink
  rw [hnone] at hlink'
  cases hlink'

end Listener

/-! ## What holds of every view -/

/-- A client id leads nowhere but to the open connection that announced it last. -/
structure View.Sound (v : View) (announced : List Nat) : Prop where
  listed : ∀ i, i ∈ announced ↔ (v.links i).isSome
  route : ∀ client i, v.routes.get? client = some i →
    v.links i = some ⟨client, true, true⟩ ∧ announced.find? (v.serves client) = some i

/-- A client id leads to the open connection that announced it last. -/
def View.Routed (v : View) (announced : List Nat) (client : String) : Prop :=
  v.routes.get? client = announced.find? (v.serves client)

namespace View

variable {v v' : View} {announced : List Nat} {i : Nat} {client other : String}

namespace Sound

theorem start : View.Sound ⟨fun _ => none, ∅⟩ [] where
  listed i := by simp
  route client i h := by simp at h

theorem mem_of_serves (h : v.Sound announced) {j : Nat} (hj : v.serves client j = true) :
    j ∈ announced := by
  obtain ⟨canSend, hlink⟩ := serves_iff.1 hj
  rw [h.listed, hlink]
  rfl

/-- The link that another client id leads to is not superseded. -/
theorem links_supersede (h : v.Sound announced) {j : Nat} (hne : client ≠ other)
    (hj : v.routes.get? other = some j) : (v.supersede client).links j = v.links j := by
  refine if_neg fun hroute => hne ?_
  have hlink := (h.route client j hroute).1
  rw [(h.route other j hj).1] at hlink
  cases hlink
  rfl

theorem announce (h : v.Sound announced) (hi : v.links i = none) (client : String) :
    (v.announce i client).Sound (i :: announced) where
  listed j := by
    rw [List.mem_cons, h.listed]
    show _ ↔ (if i = j then some _ else (v.supersede client).links j).isSome
    split
    · next hj => simp [hj]
    · next hj => rw [isSome_supersede, or_iff_right (Ne.symm hj)]
  route other j hj := by
    rw [routes_announce] at hj
    by_cases hc : client = other
    · subst hc
      rw [if_pos rfl] at hj
      cases hj
      exact ⟨announce_self v i client, by rw [find?_announce_self]⟩
    · rw [if_neg hc] at hj
      have hij : i ≠ j := by
        rintro rfl
        rw [(h.route other i hj).1] at hi
        cases hi
      refine ⟨?_, by rw [find?_announce_of_ne hi hc]; exact (h.route other j hj).2⟩
      show (if i = j then _ else (v.supersede client).links j) = _
      rw [if_neg hij, h.links_supersede hc hj, (h.route other j hj).1]

theorem finish (h : v.Sound announced) {canSend : Bool}
    (hi : v.links i = some ⟨client, true, canSend⟩) : (v.finish i client).Sound announced where
  listed j := by
    rw [h.listed]
    show _ ↔ (if i = j then some _ else (v.supersede client).links j).isSome
    split
    · next hj => simp [← hj, hi]
    · rw [isSome_supersede]
  route other j hj := by
    rw [routes_finish] at hj
    by_cases hc : client = other
    · rw [if_pos hc] at hj
      cases hj
    · rw [if_neg hc] at hj
      have hlink := (h.route other j hj).1
      have hij : i ≠ j := by
        rintro rfl
        rw [hi] at hlink
        cases hlink
        exact hc rfl
      refine ⟨?_, by rw [serves_finish_of_ne hi hc]; exact (h.route other j hj).2⟩
      show (if i = j then _ else (v.supersede client).links j) = _
      rw [if_neg hij, h.links_supersede hc hj, hlink]

end Sound

/-- The connections that have announced a client id when reading from a connection has led to
another view. -/
def announcing (v v' : View) (i : Nat) (announced : List Nat) : List Nat :=
  if (v.links i).isNone && (v'.links i).isSome then i :: announced else announced

namespace Read

theorem sound (hread : v.Read i v') (h : v.Sound announced) :
    v'.Sound (v.announcing v' i announced) := by
  cases hread with
  | quiet =>
    rw [announcing, if_neg (by simp)]
    exact h
  | ended hi =>
    rw [announcing, if_neg (by simp [hi])]
    exact h.finish hi
  | announced client hi =>
    rw [announcing, if_pos (by simp [hi, announce_self])]
    exact h.announce hi client
  | both client hi =>
    rw [announcing, if_pos (by simp [hi, finish_self])]
    exact (h.announce hi client).finish (announce_self v i client)

end Read

/-- A client id that leads to the right connection goes on doing so until another connection
under the same client id ends. -/
theorem routed_finish (h : v.Sound announced) {canSend : Bool}
    (hi : v.links i = some ⟨client, true, canSend⟩) (hr : v.Routed announced other) :
    (v.finish i client).Routed announced other ↔ ¬ Clash other v (v.finish i client) := by
  have hclash : Clash other v (v.finish i client) ↔
      client = other ∧ ∃ j, (v.finish i client).serves other j = true := by
    refine and_congr_left fun _ => ⟨?_, ?_⟩
    · rintro ⟨j, hj, hj'⟩
      rw [served_finish, hj] at hj'
      split at hj'
      · simpa using hj'
      · cases hj'
    · rintro rfl
      exact ⟨i, by simp [served, hi], by simp [served_finish]⟩
  rw [hclash, Routed, routes_finish]
  by_cases hc : client = other
  · rw [if_pos hc, eq_comm, List.find?_eq_none]
    refine ⟨fun hnone => ?_, fun hnone j _ hj => hnone ⟨hc, j, hj⟩⟩
    rintro ⟨-, j, hj⟩
    exact hnone j ((h.finish hi).mem_of_serves hj) hj
  · rw [if_neg hc, serves_finish_of_ne hi hc]
    exact ⟨fun _ hclash => hc hclash.1, fun _ => hr⟩

theorem routed_announce (hi : v.links i = none) (hr : v.Routed announced other) :
    (v.announce i client).Routed (i :: announced) other := by
  rw [Routed, routes_announce]
  by_cases hc : client = other
  · subst hc
    rw [if_pos rfl, find?_announce_self]
  · rw [if_neg hc, find?_announce_of_ne hi hc]
    exact hr

theorem not_clash_of_served (h : ∀ j, v'.served client j = v.served client j) :
    ¬ Clash client v v' := by
  rintro ⟨⟨j, hj, hj'⟩, -⟩
  rw [h, hj] at hj'
  cases hj'

theorem not_clash_of_closed (h : ∀ j, v'.serves client j = false) : ¬ Clash client v v' := by
  rintro ⟨-, j, hj⟩
  rw [h] at hj
  cases hj

/-- A client id under which no connection is open is unknown. -/
theorem routed_of_closed (h : v.Sound announced) (hover : ∀ j, v.serves client j = false) :
    v.Routed announced client := by
  rw [Routed, List.find?_eq_none.2 fun j _ => by simp [hover j]]
  cases hroute : v.routes.get? client with
  | none => rfl
  | some j =>
    have hopen := serves_iff.2 ⟨true, (h.route client j hroute).1⟩
    rw [hover j] at hopen
    cases hopen

theorem served_announce_of_none (hi : v.links i = none) (client other : String) (j : Nat) :
    (v.announce i client).served other j = v.served other j := by
  rw [served_announce]
  split
  · next hj => simp [served, ← hj, hi]
  · rfl

theorem Read.routed (hread : v.Read i v') (h : v.Sound announced)
    (hr : v.Routed announced other) :
    v'.Routed (v.announcing v' i announced) other ↔ ¬ Clash other v v' := by
  cases hread with
  | quiet =>
    rw [announcing, if_neg (by simp)]
    exact iff_of_true hr (not_clash_of_served fun _ => rfl)
  | ended hi =>
    rw [announcing, if_neg (by simp [hi])]
    exact routed_finish h hi hr
  | announced client hi =>
    rw [announcing, if_pos (by simp [hi, announce_self])]
    exact iff_of_true (routed_announce hi hr)
      (not_clash_of_served (served_announce_of_none hi client other))
  | both client hi =>
    rw [announcing, if_pos (by simp [hi, finish_self]),
      routed_finish (h.announce hi client) (announce_self v i client) (routed_announce hi hr)]
    simp only [Clash, served_announce_of_none hi]

end View

/-! ## What holds of every listener -/

namespace Watch

variable {w : Watch} {client : String}

/-- A client id leads nowhere but to the open connection that announced it last. -/
def Sound (w : Watch) : Prop := w.listener.view.Sound w.announced

theorem sound_foldl_finish {l : Listener} {announced : List Nat} (h : l.view.Sound announced)
    (is : List Nat) : (is.foldl Listener.finish l).view.Sound announced := by
  induction is generalizing l with
  | nil => exact h
  | cons i is ih =>
    refine ih ?_
    rcases l.finish_cases i with ⟨-, hv⟩ | ⟨client, canSend, hlink, hv⟩
    · rw [hv]
      exact h
    · rw [hv]
      exact h.finish hlink

/-- What one action preserves. -/
theorem Sound.step (h : w.Sound) (client : String) (a : Listener.Action) :
    (w.step a).Sound ∧ (w.listener.view.Routed w.announced client →
      ((w.step a).listener.view.Routed (w.step a).announced client ↔
        ¬ Clash client w.listener.view (w.step a).listener.view)) := by
  have hsame : ∀ l : Listener, l.view = w.listener.view → l.view.Sound w.announced ∧
      (w.listener.view.Routed w.announced client → (l.view.Routed w.announced client ↔
        ¬ Clash client w.listener.view l.view)) := by
    intro l hl
    rw [hl]
    exact ⟨h, fun hr => iff_of_true hr (View.not_clash_of_served fun _ => rfl)⟩
  cases a with
  | accept => exact hsame _ w.listener.view_accept
  | receive i bytes =>
    have hread := w.listener.read_receive i bytes
    exact ⟨hread.sound h, hread.routed h⟩
  | close i =>
    rcases w.listener.finish_cases i with ⟨-, hv⟩ | ⟨k, canSend, hlink, hv⟩
    · exact hsame _ hv
    · show (w.listener.finish i).view.Sound w.announced ∧ (_ →
        ((w.listener.finish i).view.Routed w.announced client ↔
          ¬ Clash client w.listener.view (w.listener.finish i).view))
      rw [hv]
      exact ⟨View.Sound.finish h hlink, View.routed_finish h hlink⟩
  | send m => exact hsame _ (w.listener.view_send m)
  | write i n => exact hsame _ (w.listener.view_update i fun _ => rfl)
  | take => exact hsame _ rfl
  | closeInbox => exact hsame _ rfl
  | shutDown =>
    have hover := w.listener.serves_shutDown client
    have hquiet : Listener.view { w.listener with isListening := false } = w.listener.view := rfl
    have hsound : w.listener.shutDown.view.Sound w.announced :=
      sound_foldl_finish (hquiet ▸ h) _
    exact ⟨hsound, fun _ => iff_of_true (View.routed_of_closed hsound hover)
      (View.not_clash_of_closed hover)⟩

theorem after_concat (actions : List Listener.Action) (a : Listener.Action) :
    after (actions ++ [a]) = (after actions).step a := by
  rw [after, List.foldl_append]
  rfl

theorem sound_after (actions : List Listener.Action) : (after actions).Sound := by
  induction actions using List.reverseRecOn with
  | nil => exact .start
  | append_singleton actions a ih =>
    rw [after_concat]
    exact (ih.step "" a).1

/-- Where a client id leads decides whether messages reach it. -/
theorem reaches_iff_routed (h : w.Sound) :
    w.Reaches client ↔ w.listener.view.Routed w.announced client := by
  have hexists : (∃ (i : Nat) (c : Connection), w.listener.connections[i]? = some c ∧
      c.isOpen = true ∧ c.client = some client) ↔
        ∃ i, w.listener.view.serves client i = true := by
    refine exists_congr fun i => ?_
    show _ ↔ Option.any _ (w.listener.connections[i]?.bind _) = true
    cases w.listener.connections[i]? with
    | none => simp
    | some c => cases hc : c.client <;> simp [Connection.link?, hc]
  have hlatest : (∃ i, w.listener.view.serves client i = true) ↔
      (w.latest? client).isSome := by
    rw [latest?, List.find?_isSome]
    refine exists_congr fun i => ?_
    rw [iff_and_self]
    exact View.Sound.mem_of_serves h
  constructor
  · intro hreaches
    have hknown := hreaches.known
    rw [hexists, hlatest] at hknown
    show w.listener.clients.get? client = w.latest? client
    cases hroute : w.listener.clients.get? client with
    | none =>
      rw [hroute] at hknown
      cases hlast : w.latest? client with
      | none => rfl
      | some i =>
        rw [hlast] at hknown
        exact absurd (hknown.2 rfl) Bool.false_ne_true
    | some i => exact (h.route client i hroute).2.symm
  · intro hrouted
    have hrouted : w.listener.clients.get? client = w.latest? client := hrouted
    refine ⟨by rw [hexists, hlatest, hrouted], fun m i hm hi => ?_⟩
    have hroute : w.listener.clients.get? client = some i := by rw [hrouted, hi]
    have hlink : w.listener.connections[i]?.bind (·.link?) = some ⟨client, true, true⟩ :=
      (h.route client i hroute).1
    obtain ⟨c, hc, hlink⟩ := Option.bind_eq_some_iff.1 hlink
    obtain ⟨k, -, hk⟩ := Option.map_eq_some_iff.1 hlink
    have hcan : c.canSend = true := (Link.mk.inj hk).2.2
    refine ⟨c, hc, ?_⟩
    rw [Listener.send, hm]
    simp only [hroute, hc, hcan, if_true]

/-- A client id never leads to another connection than the open one that announced it last.
It is known and messages for it reach that connection, at every moment, exactly as long as no
connection ends while another one is open under the same client id. -/
theorem reaches_iff (actions : List Listener.Action) (client : String) :
    (∀ n i, (after (actions.take n)).listener.clients.get? client = some i →
      (after (actions.take n)).latest? client = some i) ∧
    ((∀ n, (after (actions.take n)).Reaches client) ↔
      ∀ n, ¬ Clash client (after (actions.take n)).listener.view
        (after (actions.take (n + 1))).listener.view) := by
  have hsound : ∀ n, (after (actions.take n)).Sound := fun n => sound_after _
  refine ⟨fun n i hi => ((hsound n).route client i hi).2, ?_⟩
  have hrouted : ∀ n, (after (actions.take n)).Reaches client ↔
      (after (actions.take n)).listener.view.Routed (after (actions.take n)).announced client :=
    fun n => reaches_iff_routed (hsound n)
  rw [forall_congr' hrouted]
  have hstep : ∀ n, (after (actions.take n)).listener.view.Routed
      (after (actions.take n)).announced client →
        ((after (actions.take (n + 1))).listener.view.Routed
          (after (actions.take (n + 1))).announced client ↔
            ¬ Clash client (after (actions.take n)).listener.view
              (after (actions.take (n + 1))).listener.view) := by
    intro n
    by_cases hn : n < actions.length
    · rw [List.take_succ_eq_append_getElem hn, after_concat]
      exact ((hsound n).step client _).2
    · rw [List.take_of_length_le (by omega), List.take_of_length_le (by omega)]
      exact fun hr => iff_of_true hr (View.not_clash_of_served fun _ => rfl)
  constructor
  · intro hrouted n
    exact (hstep n (hrouted n)).1 (hrouted (n + 1))
  · intro hclash n
    induction n with
    | zero => rfl
    | succ n ih => exact (hstep n ih).2 (hclash n)

/-- The bytes with which a worker announces a client id. -/
def hello (client : String) : Bytes :=
  match writeMessage { topic := Message.readyTopic, nodeId := some client } with
  | .ok bytes => bytes
  | .error _ => []

/-- A worker connects once more before the end of its first connection is noticed. -/
def reconnection : List Listener.Action :=
  [.accept, .receive 0 (hello "w"), .accept, .receive 1 (hello "w"), .close 0]

/-- The end of the first connection makes the client id of the second one unknown. -/
theorem reconnection_unreached :
    ¬ (after reconnection).Reaches "w" ∧ (after reconnection).latest? "w" = some 1 ∧
      (after reconnection).listener.clients.get? "w" = none := by
  have hlatest : (after reconnection).latest? "w" = some 1 := by decide +kernel
  have hroute : (after reconnection).listener.clients.get? "w" = none := by decide +kernel
  refine ⟨fun hreaches => ?_, hlatest, hroute⟩
  have hrouted : (after reconnection).listener.clients.get? "w" =
      (after reconnection).latest? "w" :=
    (reaches_iff_routed (sound_after _)).1 hreaches
  rw [hroute, hlatest] at hrouted
  cases hrouted

end Watch

end LoadTest.Transport
