import LoadTest.Proofs.Cluster.View
import LoadTest.Proofs.Serving
/-!
# Who is answered

Workers may send any messages. A post is kept beside a cluster and remembers which worker
sent each message to the coordinator, which replies were made for it, and which call each
reply has resolved. The transport puts the client id of the sender on every message, and the
coordinator answers to the client id in the envelope without looking at the other one: a
reply goes back to the sender exactly if the envelope names the sender.
-/

namespace LoadTest

open Transport

/-- The reply to a message goes to the client in its envelope, over whatever transport it
came. -/
theorem Coordinator.nodeId_of_receive? {c c' : Coordinator} {outside : Outside} {m : Message}
    {h : Handled} (hr : c.receive? outside m = (.ok (some h), c')) :
    ∃ e, m.envelope? = some e ∧ IsReplyTo e h.reply ∧ h.reply.nodeId = some e.cid := by
  rcases c.receive?_cases outside m with
    ⟨-, hr'⟩ | ⟨-, e, crash, c'', -, hr', -⟩ | ⟨-, e, h', c'', he, hr', hreply, -⟩
  · rw [hr] at hr'
    cases hr'
  · rw [hr] at hr'
    cases hr'
  · rw [hr] at hr'
    cases hr'
    refine ⟨e, he, hreply, ?_⟩
    obtain ⟨response, heq, -⟩ := hreply
    rw [heq]
    rfl

namespace Cluster

/-- A message to the coordinator, and the worker that sent it. -/
structure Letter where
  sender : Nat
  message : Message

/-- A reply, and the letter that it was made for. -/
structure Turn where
  letter : Letter
  reply : Message

/-- A reply that a worker has read, and the ticket of the call that it resolved, if it
resolved one. -/
structure Opening where
  worker : Nat
  turn : Turn
  resolves : Option Correlation.Ticket

/-- What has become of the messages of a cluster. -/
structure Post where
  /-- The letters in the inbox of the coordinator. -/
  inbox : List Letter := []
  /-- All replies, in the order in which the coordinator made them. -/
  served : List Turn := []
  /-- The replies in the inbox of each client. -/
  replies : String → List Turn := fun _ => []
  /-- The replies that workers have read, the oldest first. -/
  opened : List Opening := []

/-- The envelope of a letter names the worker that sent it. -/
def Letter.NamesSender (l : Letter) : Prop :=
  ∀ e, l.message.envelope? = some e → l.message.nodeId = some e.cid

/-- A reply goes back to the client that the letter came from. -/
def Turn.Returns (x : Turn) : Prop := x.reply.nodeId = x.letter.message.nodeId

namespace Post

/-- Replace the replies in the inbox of a client. -/
def setReplies (p : Post) (client : String) (replies : List Turn) : Post :=
  { p with replies := Function.update p.replies client replies }

/-- A worker sends some message, unless the coordinator has gone. -/
def send (p : Post) (s : State) (worker : Nat) (m : Message) : Post :=
  match s.workers[worker]?, s.hub.coordinator with
  | some w, some _ => { p with inbox := p.inbox ++ [⟨worker, Hub.stamp w.client m⟩] }
  | _, _ => p

/-- The coordinator takes a letter and answers it, if it carries a request. -/
def serve (p : Post) (s : State) (outside : Outside) (position : Nat) : Post :=
  match p.inbox[position]?, s.service with
  | some l, .coordinator c =>
    match (c.receive? outside l.message).1 with
    | .error _ => { p with inbox := [] }
    | .ok none => { p with inbox := p.inbox.eraseIdx position }
    | .ok (some h) =>
      let x : Turn := ⟨l, h.reply⟩
      let p := { p with inbox := p.inbox.eraseIdx position, served := p.served ++ [x] }
      match h.reply.nodeId, (s.hub.coordinatorSend h.reply).1 with
      | some client, .ok _ => p.setReplies client (p.replies client ++ [x])
      | _, _ => p
  | _, _ => p

/-- A worker reads a reply, which resolves the call that waits under its correlation id. -/
def read (p : Post) (s : State) (worker position : Nat) : Post :=
  match s.workers[worker]? with
  | none => p
  | some w =>
    match (p.replies w.client)[position]? with
    | none => p
    | some x =>
      { p.setReplies w.client ((p.replies w.client).eraseIdx position) with
        opened := p.opened ++ [⟨worker, x,
          (Correlation.Table.reply? x.reply).bind fun c => w.table.waiter? c.uid⟩] }

/-- The post after an action in a state. -/
def record (p : Post) (outside : Outside) (s : State) : Action → Post
  | .attempt call =>
    match s.sends? 0 call with
    | some a => { p with inbox := p.inbox ++ [⟨a.worker, a.message⟩] }
    | none => p
  | .inject worker topic data => p.send s worker ⟨topic, none, data⟩
  | .serve position => p.serve s outside position
  | .receive worker position => p.read s worker position
  | .connect client _ _ => p.setReplies client []
  | .dropWorker worker =>
    match s.workers[worker]? with
    | some w => p.setReplies w.client []
    | none => p
  | .closeService => { p with inbox := [] }
  | _ => p

end Post

/-- The clusters that a coordinator can come to, whatever its workers send, each with its
post. -/
inductive Posted (c : Coordinator) : State → Post → Prop
  | start : Posted c { service := .coordinator c } {}
  | step {s s' : State} {p : Post} {outside : Outside} {a : Action} (run : Posted c s p)
      (h : s.step? outside a = some s') : Posted c s' (p.record outside s a)

/-- A cluster and its post after some actions, if all of them can happen. -/
def Post.run? (p : Post) (s : State) : List (Outside × Action) → Option (State × Post)
  | [] => some (s, p)
  | (outside, a) :: rest =>
    (s.step? outside a).bind fun s' => run? (p.record outside s a) s' rest

theorem Posted.of_run? {c : Coordinator} {s s' : State} {p p' : Post} (run : Posted c s p)
    {steps : List (Outside × Action)} (h : p.run? s steps = some (s', p')) : Posted c s' p' := by
  induction steps generalizing s p with
  | nil =>
    cases h
    exact run
  | cons x rest ih =>
    obtain ⟨next, hnext, hrest⟩ := Option.bind_eq_some_iff.1 h
    exact ih (.step run hnext) hrest

/-- The client ids of the workers. -/
def State.clients (s : State) : List String := s.workers.map (·.client)

theorem State.clients_eq_some {s : State} {i : Nat} {client : String} :
    s.clients[i]? = some client ↔ ∃ w, s.workers[i]? = some w ∧ w.client = client := by
  rw [clients, List.getElem?_map, Option.map_eq_some_iff]

/-! ## Quiet steps -/

/-- From one state to another no message is sent or taken, and no call is answered. -/
structure Quiet (s s' : State) : Prop where
  service : (∀ script, s.service ≠ .script script) → ∀ script, s'.service ≠ .script script
  clients : s'.clients = s.clients
  requests : s'.view.requests = s.view.requests
  replies : s'.view.replies = s.view.replies
  answers : ∀ {i ticket v}, ⟨ticket, .answered v⟩ ∈ s'.view.entries i →
    ⟨ticket, .answered v⟩ ∈ s.view.entries i

namespace Quiet

variable {s s' s'' : State} {worker call : Nat} {w : Worker}

theorem trans (h : Quiet s s') (h' : Quiet s' s'') : Quiet s s'' where
  service hs := h'.service (h.service hs)
  clients := h'.clients.trans h.clients
  requests := h'.requests.trans h.requests
  replies := h'.replies.trans h.replies
  answers ha := h.answers (h'.answers ha)

/-- Nothing has happened to the workers and the hub. -/
theorem of_eq (hw : s'.workers = s.workers) (hh : s'.hub = s.hub)
    (hs : (∀ script, s.service ≠ .script script) → ∀ script, s'.service ≠ .script script) :
    Quiet s s' where
  service := hs
  clients := by rw [State.clients, hw]; rfl
  requests := by rw [State.view, hh]; rfl
  replies := by rw [State.view, hh]; rfl
  answers ha := by
    have hentries : s'.view.entries = s.view.entries := congrArg entriesOf hw
    rw [hentries] at ha
    exact ha

/-- A table without new answers takes the place of another. -/
theorem setTable (hw : s.workers[worker]? = some w) {t : Correlation.Table}
    (ht : ∀ {ticket v}, ⟨ticket, .answered v⟩ ∈ t.entries →
      ⟨ticket, .answered v⟩ ∈ w.table.entries) : Quiet s (s.setTable worker t) where
  service hs := hs
  clients := map_client_modify _ _ _
  requests := rfl
  replies := rfl
  answers {i ticket v} ha := by
    rw [view_setTable hw] at ha
    replace ha : _ ∈ Function.update s.view.entries worker t.entries i := ha
    by_cases hi : i = worker
    · subst hi
      rw [Function.update_self] at ha
      show _ ∈ entriesOf s.workers i
      rw [entriesOf_eq hw]
      exact ht ha
    · rw [Function.update_of_ne hi] at ha
      exact ha

/-- A worker with the same client id and the same table takes the place of another. -/
theorem setWorker (hw : s.workers[worker]? = some w) {w' : Worker} (hc : w'.client = w.client)
    (ht : w'.table = w.table) : Quiet s { s with workers := s.workers.set worker w' } where
  service hs := hs
  clients := by
    apply List.ext_getElem?
    intro i
    rw [State.clients, State.clients, List.getElem?_map, List.getElem?_map, List.getElem?_set]
    by_cases hi : worker = i
    · rw [if_pos hi, if_pos (List.getElem?_eq_some_iff.1 hw).1, ← hi, hw]
      exact congrArg some hc
    · rw [if_neg hi]
  requests := rfl
  replies := rfl
  answers {i ticket v} ha := by
    have hentries : entriesOf (s.workers.set worker w') = entriesOf s.workers :=
      entriesOf_set hw (by rw [ht])
    replace ha : _ ∈ entriesOf (s.workers.set worker w') i := ha
    rw [hentries] at ha
    exact ha

theorem setCall (s : State) (call : Nat) (c : Call) : Quiet s (s.setCall call c) :=
  .of_eq rfl rfl id

theorem endAttempt (s : State) (call : Nat) (c : Call) (u : User) (w : Worker)
    (reply : Except Error Json) : Quiet s (s.endAttempt call c u w reply) := by
  obtain ⟨events, he⟩ := s.endAttempt_eq call c u w reply
  rw [he]
  exact .of_eq rfl rfl id

/-- The call under a ticket is over. -/
theorem remove (hw : s.workers[worker]? = some w) (ticket : Correlation.Ticket) :
    Quiet s (s.setTable worker (w.table.remove ticket)) :=
  .setTable hw fun ha => (List.mem_filter.1 ha).1

end Quiet

/-! ## What holds of every post -/

/-- A letter carries the client id of the worker that sent it. -/
def Letter.IsStamped (s : State) (l : Letter) : Prop :=
  ∃ client, s.clients[l.sender]? = some client ∧ l.message.nodeId = some client

/-- The post tells where the messages of a cluster come from. -/
structure Post.Kept (p : Post) (s : State) : Prop where
  noScript : ∀ script, s.service ≠ .script script
  distinct : s.clients.Nodup
  inbox : s.view.requests = p.inbox.map (·.message)
  replies : ∀ client, s.view.replies client = (p.replies client).map (·.reply)
  stamped : ∀ l ∈ p.inbox, l.IsStamped s
  served : ∀ x ∈ p.served, x.letter.IsStamped s ∧
    ∃ e, x.letter.message.envelope? = some e ∧ IsReplyTo e x.reply ∧
      x.reply.nodeId = some e.cid
  delivered : ∀ client, ∀ x ∈ p.replies client, x ∈ p.served ∧ x.reply.nodeId = some client
  opened : ∀ o ∈ p.opened, o.turn ∈ p.served ∧
    ∃ client, s.clients[o.worker]? = some client ∧ o.turn.reply.nodeId = some client
  answers : ∀ {i ticket v}, ⟨ticket, .answered v⟩ ∈ s.view.entries i →
    ∃ o ∈ p.opened, o.worker = i ∧ o.resolves = some ticket ∧
      Correlation.Table.reply? o.turn.reply = some ⟨ticket.uid, v⟩

namespace Post.Kept

variable {p p' : Post} {s s' : State}

theorem start (c : Coordinator) : Kept {} { service := .coordinator c } where
  noScript script h := by cases h
  distinct := List.nodup_nil
  inbox := rfl
  replies client := rfl
  stamped := by simp
  served := by simp
  delivered := by simp
  opened := by simp
  answers ha := by cases ha

theorem quiet (h : Kept p s) (hq : Quiet s s') : Kept p s' where
  noScript := hq.service h.noScript
  distinct := hq.clients ▸ h.distinct
  inbox := hq.requests.trans h.inbox
  replies client := (congrFun hq.replies client).trans (h.replies client)
  stamped l hl := by
    rw [Letter.IsStamped, hq.clients]
    exact h.stamped l hl
  served x hx := by
    rw [Letter.IsStamped, hq.clients]
    exact h.served x hx
  delivered := h.delivered
  opened o ho := by
    rw [hq.clients]
    exact h.opened o ho
  answers ha := h.answers (hq.answers ha)

/-- A worker sends a message. -/
theorem send (h : Kept p s) {l : Letter} (hl : l.IsStamped s) {messages : List Message}
    (hm : s.hub.coordinator = some messages) :
    Kept { p with inbox := p.inbox ++ [l] }
      { s with hub := { s.hub with coordinator := some (messages ++ [l.message]) } } where
  noScript := h.noScript
  distinct := h.distinct
  inbox := by
    have hinbox : s.hub.coordinator.messages = p.inbox.map (·.message) := h.inbox
    rw [hm] at hinbox
    have hmessages : messages = p.inbox.map (·.message) := hinbox
    show messages ++ [l.message] = _
    rw [hmessages, List.map_append]
    rfl
  replies := h.replies
  stamped x hx := by
    rcases List.mem_append.1 hx with hx | hx
    · exact h.stamped x hx
    · rw [List.mem_singleton.1 hx]
      exact hl
  served := h.served
  delivered := h.delivered
  opened := h.opened
  answers := h.answers

/-- The coordinator stops reading. -/
theorem halt (h : Kept p s) {service : Service} (hs : ∀ script, service ≠ .script script) :
    Kept { p with inbox := [] }
      { s with service := service, hub := s.hub.closeCoordinator } where
  noScript := hs
  distinct := h.distinct
  inbox := rfl
  replies := h.replies
  stamped := by simp
  served := h.served
  delivered := h.delivered
  opened := h.opened
  answers := h.answers

/-- The coordinator takes a letter. -/
theorem take (h : Kept p s) (c : Coordinator) (position : Nat) :
    Kept { p with inbox := p.inbox.eraseIdx position }
      { s with
        service := .coordinator c
        hub := { s.hub with coordinator := s.hub.coordinator.remove position } } where
  noScript script hscript := by cases hscript
  distinct := h.distinct
  inbox := by
    have hinbox : s.hub.coordinator.messages = p.inbox.map (·.message) := h.inbox
    show (s.hub.coordinator.remove position).messages = _
    rw [Hub.messages_remove, hinbox, List.eraseIdx_map]
  replies := h.replies
  stamped l hl := h.stamped l (List.mem_of_mem_eraseIdx hl)
  served := h.served
  delivered := h.delivered
  opened := h.opened
  answers := h.answers

/-- The coordinator makes a reply to the request in a letter. -/
theorem answer (h : Kept p s) {x : Turn} (hl : x.letter.IsStamped s) {e : Envelope}
    (he : x.letter.message.envelope? = some e) (hr : IsReplyTo e x.reply)
    (hn : x.reply.nodeId = some e.cid) : Kept { p with served := p.served ++ [x] } s where
  noScript := h.noScript
  distinct := h.distinct
  inbox := h.inbox
  replies := h.replies
  stamped := h.stamped
  served y hy := by
    rcases List.mem_append.1 hy with hy | hy
    · exact h.served y hy
    · rw [List.mem_singleton.1 hy]
      exact ⟨hl, e, he, hr, hn⟩
  delivered client y hy :=
    ⟨List.mem_append_left _ (h.delivered client y hy).1, (h.delivered client y hy).2⟩
  opened o ho := ⟨List.mem_append_left _ (h.opened o ho).1, (h.opened o ho).2⟩
  answers := h.answers

/-- The inbox of a client and the replies in it change together. -/
theorem setReplies (h : Kept p s) {client : String} {inbox : Inbox} {replies : List Turn}
    (hi : inbox.messages = replies.map (·.reply))
    (hr : ∀ x ∈ replies, x ∈ p.served ∧ x.reply.nodeId = some client) :
    Kept (p.setReplies client replies) { s with hub := s.hub.setInbox client inbox } where
  noScript := h.noScript
  distinct := h.distinct
  inbox := h.inbox
  replies other := by
    apply (congrFun (Hub.messages_setInbox s.hub client inbox) other).trans
    show _ = (Function.update p.replies client replies other).map _
    by_cases ho : other = client
    · rw [ho, Function.update_self, Function.update_self, hi]
    · rw [Function.update_of_ne ho, Function.update_of_ne ho]
      exact h.replies other
  stamped := h.stamped
  served := h.served
  delivered other x hx := by
    replace hx : x ∈ Function.update p.replies client replies other := hx
    by_cases ho : other = client
    · rw [ho, Function.update_self] at hx
      rw [ho]
      exact hr x hx
    · rw [Function.update_of_ne ho] at hx
      exact h.delivered other x hx
  opened := h.opened
  answers := h.answers

/-- A worker connects under a client id that no other worker has. -/
theorem connect (h : Kept p s) {w : Worker} (hw : w.client ∉ s.clients)
    (ht : w.table.entries = []) :
    Kept (p.setReplies w.client [])
      { s with hub := s.hub.connect w.client, workers := s.workers ++ [w] } := by
  have hclear : Kept (p.setReplies w.client [])
      { s with hub := s.hub.setInbox w.client .empty } :=
    h.setReplies rfl (by simp)
  have hclients : State.clients { s with
      hub := s.hub.connect w.client, workers := s.workers ++ [w] } = s.clients ++ [w.client] :=
    List.map_append
  have hold : ∀ {i : Nat} {client : String}, s.clients[i]? = some client →
      (s.clients ++ [w.client])[i]? = some client := fun hi => by
    rw [List.getElem?_append_left (List.getElem?_eq_some_iff.1 hi).1]
    exact hi
  have hstamped : ∀ {l : Letter}, l.IsStamped s → l.IsStamped { s with
      hub := s.hub.connect w.client, workers := s.workers ++ [w] } := by
    rintro l ⟨client, hi, hn⟩
    rw [Letter.IsStamped, hclients]
    exact ⟨client, hold hi, hn⟩
  refine ⟨h.noScript, ?_, hclear.inbox, hclear.replies, fun l hl => hstamped (h.stamped l hl),
    fun x hx => ⟨hstamped (h.served x hx).1, (h.served x hx).2⟩, hclear.delivered,
    fun o ho => ?_, ?_⟩
  · rw [hclients, List.nodup_append']
    exact ⟨h.distinct, List.nodup_singleton _, by simpa using hw⟩
  · obtain ⟨hserved, client, hi, hn⟩ := h.opened o ho
    rw [hclients]
    exact ⟨hserved, client, hold hi, hn⟩
  · intro i ticket v ha
    replace ha : _ ∈ entriesOf (s.workers ++ [w]) i := ha
    rw [entriesOf_concat ht] at ha
    exact h.answers ha

/-- A call sends its request, or its attempt is over. -/
theorem attempt (h : Kept p s) {outside : Outside} {call : Nat}
    (hs : s.attempt? call = some s') : Kept (p.record outside s (.attempt call)) s' := by
  obtain ⟨c, u, w, -, -, -, hw, hsend | hfail⟩ := State.attempt?_cases hs
  · obtain ⟨messages, -, -, hm, hsends, rfl⟩ := hsend
    rw [record, hsends]
    have hl : (⟨u.worker, Hub.stamp w.client (State.requestMessage c u w)⟩ : Letter).IsStamped s :=
      ⟨w.client, State.clients_eq_some.2 ⟨w, hw, rfl⟩, rfl⟩
    have hregistered : ∀ {ticket v},
        ⟨ticket, .answered v⟩ ∈ (w.table.registered u.consumer.uid).entries →
          (⟨ticket, .answered v⟩ : Correlation.Entry) ∈ w.table.entries := by
      intro ticket v ha
      rcases List.mem_append.1 ha with ha | ha
      · exact ha
      · cases List.mem_singleton.1 ha
    refine (h.send hl hm).quiet (Quiet.trans (.setTable ?_ hregistered) (.setCall _ _ _))
    exact hw
  · obtain ⟨e, -, hsends, rfl⟩ := hfail
    rw [record, hsends]
    refine h.quiet (Quiet.trans (.setTable hw ?_) (.endAttempt _ _ _ _ _ _))
    exact id

/-- A worker sends some message, unless the coordinator has gone. -/
theorem inject (h : Kept p s) {outside : Outside} {worker : Nat} {topic : String} {data : Json}
    (hs : (s.inject? worker topic data).map (·.2) = some s') :
    Kept (p.record outside s (.inject worker topic data)) s' := by
  obtain ⟨⟨result, s₁⟩, hx, rfl⟩ := Option.map_eq_some_iff.1 hs
  obtain ⟨w, hw, hx⟩ := Option.bind_eq_some_iff.1 hx
  rw [record, Post.send, hw]
  cases hm : s.hub.coordinator with
  | none =>
    simp only [Hub.workerSend, hm, Inbox.push?, Option.map_none] at hx
    cases hx
    exact h
  | some messages =>
    simp only [Hub.workerSend, hm, Inbox.push?, Option.map_some] at hx
    cases hx
    have hl : (⟨worker, Hub.stamp w.client ⟨topic, none, data⟩⟩ : Letter).IsStamped s :=
      ⟨w.client, State.clients_eq_some.2 ⟨w, hw, rfl⟩, rfl⟩
    exact h.send hl hm

/-- The coordinator takes a letter. It crashes, passes it over, or makes a reply, which is
delivered or lost. -/
theorem serve (h : Kept p s) {outside : Outside} {position : Nat}
    (hs : s.serve? outside position = some s') :
    Kept (p.record outside s (.serve position)) s' := by
  obtain ⟨c, m, hservice, hm, rfl⟩ := State.serve?_cases h.noScript hs
  have hinbox : s.hub.coordinator.messages = p.inbox.map (·.message) := h.inbox
  rw [hinbox, List.getElem?_map, Option.map_eq_some_iff] at hm
  obtain ⟨l, hl, rfl⟩ := hm
  simp only [record, Post.serve, hl, hservice]
  rw [State.serveMessage]
  rcases hr : c.receive? outside l.message with ⟨crash | _ | d, c'⟩
  · exact h.halt (by simp)
  · exact h.take c' position
  · obtain ⟨e, he, hreply, hn⟩ := Coordinator.nodeId_of_receive? hr
    have hanswer := (h.take c' position).answer (x := ⟨l, d.reply⟩)
      (h.stamped l (List.mem_of_getElem? hl)) he hreply hn
    simp only [State.sendToWorker, Hub.coordinatorSend_setCoordinator, hn]
    rcases s.hub.coordinatorSend_cases hn with ⟨-, -, hsend⟩ | ⟨error, -, hsend⟩
    · rw [hsend]
      have hmessages : (s.hub.inbox e.cid).messages = (p.replies e.cid).map (·.reply) :=
        h.replies e.cid
      have hinbox : Inbox.messages (some ((s.hub.inbox e.cid).messages ++ [d.reply])) =
          (p.replies e.cid ++ [(⟨l, d.reply⟩ : Turn)]).map (·.reply) := by
        rw [hmessages, List.map_append]
        rfl
      refine (hanswer.setReplies hinbox fun x hx => ?_).quiet (.of_eq rfl rfl id)
      rcases List.mem_append.1 hx with hx | hx
      · exact ⟨List.mem_append_left _ (h.delivered _ x hx).1, (h.delivered _ x hx).2⟩
      · rw [List.mem_singleton.1 hx]
        exact ⟨List.mem_append_right _ List.mem_cons_self, hn⟩
    · rw [hsend]
      exact hanswer.quiet (.of_eq rfl rfl id)

/-- A worker reads a reply, which can answer a call of its own. -/
theorem receive (h : Kept p s) {outside : Outside} {worker position : Nat}
    (hs : s.receive? worker position = some s') :
    Kept (p.record outside s (.receive worker position)) s' := by
  obtain ⟨w, m, hw, -, hm, rfl⟩ := State.receive?_cases hs
  have hmessages : (s.hub.inbox w.client).messages = (p.replies w.client).map (·.reply) :=
    h.replies w.client
  rw [hmessages, List.getElem?_map, Option.map_eq_some_iff] at hm
  obtain ⟨x, hx, rfl⟩ := hm
  simp only [record, read, hw, hx]
  obtain ⟨hserved, hnode⟩ := h.delivered w.client x (List.mem_of_getElem? hx)
  have htaken : Kept (p.setReplies w.client ((p.replies w.client).eraseIdx position))
      (s.taken w.client position) := by
    refine h.setReplies ?_ fun y hy => h.delivered _ y (List.mem_of_mem_eraseIdx hy)
    rw [Hub.messages_remove, hmessages, List.eraseIdx_map]
  have hclients : ((s.taken w.client position).setTable worker
      (w.table.handleMessage x.reply).2).clients = s.clients := map_client_modify _ _ _
  refine ⟨htaken.noScript, hclients ▸ htaken.distinct, htaken.inbox, htaken.replies, ?_, ?_,
    htaken.delivered, ?_, ?_⟩
  · intro l hl
    rw [Letter.IsStamped, hclients]
    exact htaken.stamped l hl
  · intro y hy
    rw [Letter.IsStamped, hclients]
    exact htaken.served y hy
  · intro o ho
    rw [hclients]
    rcases List.mem_append.1 ho with ho | ho
    · exact htaken.opened o ho
    · rw [List.mem_singleton.1 ho]
      exact ⟨hserved, w.client, State.clients_eq_some.2 ⟨w, hw, rfl⟩, hnode⟩
  · intro i ticket v ha
    have hkeep : ∀ o', ⟨ticket, .answered v⟩ ∈ s.view.entries i → ∃ o ∈ p.opened ++ [o'],
        o.worker = i ∧ o.resolves = some ticket ∧
          Correlation.Table.reply? o.turn.reply = some ⟨ticket.uid, v⟩ := by
      intro o' ha
      obtain ⟨o, ho, hrest⟩ := h.answers ha
      exact ⟨o, List.mem_append_left _ ho, hrest⟩
    rw [view_setTable (s := s.taken w.client position) hw] at ha
    replace ha : _ ∈ Function.update s.view.entries worker _ i := ha
    by_cases hi : i = worker
    · subst hi
      rw [Function.update_self] at ha
      rcases Correlation.Table.answered_of_handleMessage ha with hold | ⟨hreply, hwaits⟩
      · have hentries : s.view.entries i = w.table.entries := entriesOf_eq hw
        exact hkeep _ (by rw [hentries]; exact hold)
      · exact ⟨_, List.mem_append_right _ List.mem_cons_self, rfl, by simp [hreply, hwaits], hreply⟩
    · rw [Function.update_of_ne hi] at ha
      exact hkeep _ ha

/-- Whatever a step does, the post still tells where the messages come from. -/
theorem step (h : Kept p s) {outside : Outside} {a : Action} (hs : s.step? outside a = some s') :
    Kept (p.record outside s a) s' := by
  cases a with
  | attempt call => exact h.attempt hs
  | inject worker topic data => exact h.inject hs
  | serve position => exact h.serve hs
  | receive worker position => exact h.receive hs
  | pass nanos =>
    cases hs
    exact h.quiet (.of_eq rfl rfl id)
  | perform =>
    cases hservice : s.service with
    | script script => exact absurd hservice (h.noScript script)
    | _ => simp [State.step?, State.perform?, hservice] at hs
  | endReplies worker =>
    obtain ⟨w, hw, -, rfl⟩ := State.endReplies?_cases hs
    refine h.quiet (.setTable hw fun ha => ?_)
    obtain ⟨b, hb, heq⟩ := List.mem_map.1 ha
    split at heq
    · cases heq
    · rw [← heq]
      exact hb
  | complete call =>
    obtain ⟨c, ticket, deadline, u, w, reply, -, -, -, hw, -, rfl⟩ := State.complete?_cases hs
    exact h.quiet (.trans (.remove hw ticket) (.endAttempt _ _ _ _ _ _))
  | expire call =>
    obtain ⟨c, ticket, deadline, u, w, -, -, -, hw, -, rfl⟩ := State.expire?_cases hs
    exact h.quiet (.trans (.remove hw ticket) (.endAttempt _ _ _ _ _ _))
  | wake call =>
    obtain ⟨c, deadline, -, -, rfl⟩ := State.wake?_cases hs
    exact h.quiet (.setCall _ _ _)
  | cancel call =>
    obtain ⟨c, -, ⟨-, rfl⟩ | ⟨ticket, deadline, u, w, -, -, hw, rfl⟩⟩ := State.cancel?_cases hs
    · exact h.quiet (.setCall _ _ _)
    · exact h.quiet (.trans (.remove hw ticket) (.setCall _ _ _))
  | connect client options keepsEvents =>
    obtain ⟨hfresh, rfl⟩ := State.connect?_cases hs
    refine h.connect (w := ⟨client, options, {}, true, keepsEvents⟩) (fun hmem => ?_) rfl
    obtain ⟨w, hw, hc⟩ := List.mem_map.1 hmem
    exact hfresh w hw hc
  | join worker identifier =>
    obtain ⟨w, hw, rfl⟩ := State.join?_cases hs
    refine h.quiet (.trans (.setTable hw ?_) (.of_eq rfl rfl id))
    exact id
  | begin user method =>
    cases State.begin?_cases hs
    exact h.quiet (.of_eq rfl rfl id)
  | disconnect worker =>
    obtain ⟨w, -, hs'⟩ := Option.bind_eq_some_iff.1 hs
    cases hs'
    exact h.quiet ⟨id, rfl, rfl, rfl, id⟩
  | dropWorker worker =>
    obtain ⟨w, hw, hs'⟩ := Option.bind_eq_some_iff.1 hs
    cases hs'
    rw [record, hw]
    have hclear : Kept (p.setReplies w.client []) { s with hub := s.hub.closeInbox w.client } :=
      h.setReplies rfl (by simp)
    refine hclear.quiet (.setWorker (w := w) ?_ rfl rfl)
    exact hw
  | closeService =>
    cases hs
    exact h.halt (by simp)
  | testStop attempt =>
    obtain ⟨c, folder, rfl⟩ := State.testStop?_cases hs
    exact h.quiet (.of_eq rfl rfl fun hn => Service.noScript_setCoordinator hn c)
  | stop attempt =>
    obtain ⟨c, folder, rfl⟩ := State.stop?_cases hs
    exact h.quiet (.of_eq rfl rfl fun hn => Service.noScript_setCoordinator hn c)

end Post.Kept

namespace Posted

variable {c : Coordinator} {s s' : State} {p p' : Post}

theorem kept (run : Posted c s p) : p.Kept s := by
  induction run with
  | start => exact .start c
  | step _ hs ih => exact ih.step hs

/-- A reply goes back to the sender exactly if the envelope names the sender. -/
theorem returns_iff (run : Posted c s p) {x : Turn} (hx : x ∈ p.served) :
    x.Returns ↔ x.letter.NamesSender := by
  obtain ⟨-, e, he, -, hn⟩ := run.kept.served x hx
  rw [Turn.Returns, Letter.NamesSender, hn, eq_comm]
  refine ⟨fun heq e' he' => ?_, fun h => h e he⟩
  rw [he] at he'
  cases he'
  exact heq

/-- What a worker reads is a reply to a letter that names it, and one to a letter of its own
exactly if that letter names its sender. -/
theorem names_of_opened (run : Posted c s p) {o : Opening} (ho : o ∈ p.opened) :
    o.turn ∈ p.served ∧
    (∃ w e, s.workers[o.worker]? = some w ∧ o.turn.letter.message.envelope? = some e ∧
      e.cid = w.client) ∧
    (o.turn.letter.sender = o.worker ↔ o.turn.letter.NamesSender) := by
  have hk := run.kept
  obtain ⟨hserved, client, hclient, hnode⟩ := hk.opened o ho
  obtain ⟨⟨sender, hsender, hstamp⟩, e, he, -, hn⟩ := hk.served o.turn hserved
  obtain ⟨w, hw, rfl⟩ := State.clients_eq_some.1 hclient
  rw [hn] at hnode
  refine ⟨hserved, ⟨w, e, hw, he, Option.some.inj hnode⟩, ?_⟩
  rw [← run.returns_iff hserved, Turn.Returns, hn, hnode, hstamp, Option.some_inj]
  -- Different workers have different client ids.
  constructor
  · intro heq
    rw [heq, hclient] at hsender
    exact Option.some.inj hsender
  · intro heq
    rw [← heq] at hsender
    exact (List.getElem?_inj (List.getElem?_eq_some_iff.1 hsender).1 hk.distinct).1
      (hsender.trans hclient.symm)

/-- What holds of the replies in a cluster, whatever its workers have sent. -/
structure Told (s : State) (p : Post) : Prop where
  /-- A letter that was answered carries the client id of the worker that sent it and a usable
  envelope, and its reply goes to the client in the envelope. -/
  addressed : ∀ x ∈ p.served, ∃ w e, s.workers[x.letter.sender]? = some w ∧
    x.letter.message.nodeId = some w.client ∧ x.letter.message.envelope? = some e ∧
    IsReplyTo e x.reply ∧ x.reply.nodeId = some e.cid
  /-- A reply goes back to the sender exactly if the envelope names the sender. -/
  returns : ∀ x ∈ p.served, x.Returns ↔ x.letter.NamesSender
  /-- A worker reads only replies to letters that name it, and one to a letter of its own
  exactly if that letter names its sender. -/
  opened : ∀ o ∈ p.opened, o.turn ∈ p.served ∧
    (∃ w e, s.workers[o.worker]? = some w ∧ o.turn.letter.message.envelope? = some e ∧
      e.cid = w.client) ∧
    (o.turn.letter.sender = o.worker ↔ o.turn.letter.NamesSender)
  /-- An answered call was answered by a reply that its worker has read. -/
  resolved : ∀ i w ticket v, s.workers[i]? = some w → ⟨ticket, .answered v⟩ ∈ w.table.entries →
    ∃ o ∈ p.opened, o.worker = i ∧ o.resolves = some ticket ∧
      Correlation.Table.reply? o.turn.reply = some ⟨ticket.uid, v⟩

/-- Over every transport, a reply goes back to the sender exactly if the envelope names the
sender. In a cluster, all replies go back to their senders exactly if all answered letters
name their senders; and then a worker can answer no call of another worker. -/
theorem told (run : Posted c s p) :
    (∀ (d d' : Coordinator) outside m e h, m.envelope? = some e →
      d.receive? outside m = (.ok (some h), d') →
        (h.reply.nodeId = m.nodeId ↔ m.nodeId = some e.cid)) ∧
    Told s p ∧
    ((∀ x ∈ p.served, x.Returns) ↔ ∀ x ∈ p.served, x.letter.NamesSender) ∧
    ((∀ x ∈ p.served, x.letter.NamesSender) →
      ∀ i w ticket v, s.workers[i]? = some w → ⟨ticket, .answered v⟩ ∈ w.table.entries →
        ∃ x ∈ p.served, x.letter.sender = i ∧
          Correlation.Table.reply? x.reply = some ⟨ticket.uid, v⟩) := by
  have hk := run.kept
  have hreturns : ∀ x ∈ p.served, x.Returns ↔ x.letter.NamesSender := fun _ => run.returns_iff
  have hresolved : ∀ i w ticket v, s.workers[i]? = some w →
      ⟨ticket, .answered v⟩ ∈ w.table.entries → ∃ o ∈ p.opened, o.worker = i ∧
        o.resolves = some ticket ∧
          Correlation.Table.reply? o.turn.reply = some ⟨ticket.uid, v⟩ := by
    intro i w ticket v hw ha
    rw [← entriesOf_eq hw] at ha
    exact hk.answers ha
  refine ⟨?routed, ⟨?addressed, hreturns, fun _ => run.names_of_opened, hresolved⟩,
    forall₂_congr hreturns, ?own⟩
  case routed =>
    intro d d' outside m e h he hr
    obtain ⟨e', he', -, hn⟩ := Coordinator.nodeId_of_receive? hr
    rw [he] at he'
    cases he'
    rw [hn, eq_comm]
  case addressed =>
    intro x hx
    obtain ⟨⟨client, hclient, hstamp⟩, e, he, hreply, hn⟩ := hk.served x hx
    obtain ⟨w, hw, rfl⟩ := State.clients_eq_some.1 hclient
    exact ⟨w, e, hw, hstamp, he, hreply, hn⟩
  case own =>
    intro hall i w ticket v hw ha
    obtain ⟨o, ho, hworker, -, hreply⟩ := hresolved i w ticket v hw ha
    obtain ⟨hserved, -, hsender⟩ := run.names_of_opened ho
    exact ⟨o.turn, hserved, (hsender.2 (hall o.turn hserved)).trans hworker, hreply⟩

/-- While a call of the worker "w" waits, another worker sends a request whose envelope names
"w", and "w" reads the reply. -/
def forgery : List (Outside × Action) :=
  [.connect "v" {} true, .connect "w" {} true, .join 1 "A", .begin 0 (.get "a"), .attempt 0,
    .inject 0 Message.produceTopic
      (⟨1, "w", (Method.get "b").request "A"⟩ : Production).toMessage.data,
    .serve 1, .receive 1 0].map (still, ·)

private theorem forgery_run : ∃ s p, Posted {} s p ∧
    p.served.map (fun x => (x.letter.message.nodeId, x.reply.nodeId)) = [(some "v", some "w")] ∧
    p.opened.map (fun o => (o.turn.letter.sender, o.worker, o.resolves)) =
      [(0, 1, some ⟨1, 0⟩)] := by
  have hfacts : (Post.run? {} { service := .coordinator {} } forgery).map (fun (_, p) =>
      (p.served.map fun x => (x.letter.message.nodeId, x.reply.nodeId),
        p.opened.map fun o => (o.turn.letter.sender, o.worker, o.resolves))) =
      some ([(some "v", some "w")], [(0, 1, some ⟨1, 0⟩)]) := by
    decide +kernel
  obtain ⟨⟨s, p⟩, hrun, hfacts⟩ := Option.map_eq_some_iff.1 hfacts
  obtain ⟨hserved, hopened⟩ := Prod.mk.inj hfacts
  exact ⟨s, p, Posted.start.of_run? hrun, hserved, hopened⟩

/-- What holds of all clusters holds of one in which a reply was read. -/
theorem forgery_told : ∃ s p, Posted {} s p ∧ p.opened ≠ [] ∧ Told s p := by
  obtain ⟨s, p, run, -, hopened⟩ := forgery_run
  refine ⟨s, p, run, ?_, run.told.2.1⟩
  intro hnil
  rw [hnil] at hopened
  cases hopened

/-- The reply to "v" goes to "w", and resolves the call of "w". -/
theorem forgery_resolves : ∃ s p, Posted {} s p ∧ (∃ x ∈ p.served, ¬ x.Returns) ∧
    ∃ o ∈ p.opened, o.resolves.isSome ∧ o.turn.letter.sender ≠ o.worker := by
  obtain ⟨s, p, run, hserved, hopened⟩ := forgery_run
  obtain ⟨x, hx, hxs⟩ := List.map_eq_singleton_iff.1 hserved
  obtain ⟨o, ho, hos⟩ := List.map_eq_singleton_iff.1 hopened
  obtain ⟨hfrom, hto⟩ := Prod.mk.inj hxs
  obtain ⟨hsender, hread⟩ := Prod.mk.inj hos
  obtain ⟨hworker, hresolves⟩ := Prod.mk.inj hread
  refine ⟨s, p, run, ⟨x, by simp [hx], ?_⟩, o, by simp [ho], by rw [hresolves]; rfl, ?_⟩
  · rw [Turn.Returns, hfrom, hto]
    decide
  · rw [hsender, hworker]
    decide

end Posted

end Cluster

end LoadTest
