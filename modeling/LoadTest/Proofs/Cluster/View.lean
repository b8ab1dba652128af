import LoadTest.Proofs.Cluster.Steps
/-!
# What a step leaves as it is

A view holds what of a cluster has to do with its traffic. Most actions leave it as it is;
each of the others changes one or two of its components.
-/

namespace LoadTest

/-! ## Inboxes -/

namespace Transport.Hub

theorem inbox_setInbox (h : Hub) (client : String) (inbox : Inbox) (other : String) :
    (h.setInbox client inbox).inbox other = if other = client then inbox else h.inbox other := by
  rw [Hub.inbox, setInbox, Dict.get?_insert]
  by_cases ho : other = client
  · rw [if_pos ho, if_pos ho.symm]
    rfl
  · rw [if_neg ho, if_neg fun he => ho he.symm]
    rfl

theorem messages_setInbox (h : Hub) (client : String) (inbox : Inbox) :
    (fun other => ((h.setInbox client inbox).inbox other).messages) =
      Function.update (fun other => (h.inbox other).messages) client inbox.messages := by
  funext other
  rw [inbox_setInbox]
  by_cases ho : other = client
  · rw [ho, if_pos rfl, Function.update_self]
  · rw [if_neg ho, Function.update_of_ne ho]

theorem messages_remove (inbox : Inbox) (i : Nat) :
    (inbox.remove i).messages = inbox.messages.eraseIdx i := by
  cases inbox <;> rfl

/-- Sending a message to a client appends it to the client's inbox or fails and changes
nothing. -/
theorem coordinatorSend_cases (h : Hub) {m : Message} {client : String}
    (hm : m.nodeId = some client) :
    (client ∈ h.connected ∧ (h.inbox client).isSome ∧
      h.coordinatorSend m = (.ok (), h.setInbox client (some ((h.inbox client).messages ++ [m])))) ∨
    (∃ e, (client ∉ h.connected ∨ h.inbox client = none) ∧
      h.coordinatorSend m = (.error e, h)) := by
  simp only [coordinatorSend, hm]
  by_cases hc : client ∈ h.connected
  · rw [if_pos (by simpa using hc)]
    cases hi : h.inbox client with
    | none => exact .inr ⟨_, .inr rfl, rfl⟩
    | some messages => exact .inl ⟨hc, rfl, rfl⟩
  · rw [if_neg (by simpa using hc)]
    exact .inr ⟨_, .inl hc, rfl⟩

/-- What is in the inbox of the coordinator makes no difference to the messages it sends. -/
theorem coordinatorSend_setCoordinator (h : Hub) (inbox : Inbox) (m : Message) :
    coordinatorSend { h with coordinator := inbox } m =
      ((h.coordinatorSend m).1, { (h.coordinatorSend m).2 with coordinator := inbox }) := by
  cases hm : m.nodeId with
  | none => simp only [coordinatorSend, hm]
  | some client =>
    have hinbox : Hub.inbox { h with coordinator := inbox } client = h.inbox client := rfl
    simp only [coordinatorSend, hm, hinbox]
    by_cases hc : client ∈ h.connected
    · rw [if_pos (by simpa using hc), if_pos (by simpa using hc)]
      cases (h.inbox client).push? m <;> rfl
    · rw [if_neg (by simpa using hc), if_neg (by simpa using hc)]

end Transport.Hub

namespace Cluster

open Transport

/-- What of a cluster has to do with its traffic: the messages that have arrived, the
registered calls of each worker, and the ticket of each call that waits. -/
structure View where
  requests : List Message
  replies : String → List Message
  entries : Nat → List Correlation.Entry
  waiting : Nat → Option Correlation.Ticket

/-- The registered calls of each worker. -/
def entriesOf (workers : List Worker) (worker : Nat) : List Correlation.Entry :=
  (workers[worker]?.map (·.table.entries)).getD []

/-- The ticket of each call that waits. -/
def waitingOf (calls : List Call) (call : Nat) : Option Correlation.Ticket :=
  calls[call]?.bind Call.ticket?

/-- What of a cluster has to do with its traffic. -/
def State.view (s : State) : View where
  requests := s.hub.coordinator.messages
  replies client := (s.hub.inbox client).messages
  entries := entriesOf s.workers
  waiting := waitingOf s.calls

section Lists

variable {workers : List Worker} {calls : List Call} {worker call : Nat} {w : Worker} {c : Call}

theorem entriesOf_eq (hw : workers[worker]? = some w) :
    entriesOf workers worker = w.table.entries := by
  rw [entriesOf, hw]
  rfl

theorem entriesOf_modify (hw : workers[worker]? = some w) (t : Correlation.Table) :
    entriesOf (workers.modify worker fun w => { w with table := t }) =
      Function.update (entriesOf workers) worker t.entries := by
  funext i
  rw [entriesOf, List.getElem?_modify]
  by_cases hi : i = worker
  · rw [hi, Function.update_self, hw]
    simp
  · have hne : ¬ worker = i := fun h => hi h.symm
    rw [Function.update_of_ne hi, entriesOf]
    cases workers[i]? with
    | none => rfl
    | some v => simp [hne]

/-- A change of tables keeps what does not depend on the tables. -/
theorem map_modify_table {α : Type} {f : Worker → α}
    (hf : ∀ (w : Worker) (t : Correlation.Table), f { w with table := t } = f w)
    (workers : List Worker) (worker : Nat) (t : Correlation.Table) :
    (workers.modify worker fun w => { w with table := t }).map f = workers.map f := by
  apply List.ext_getElem?
  intro i
  rw [List.getElem?_map, List.getElem?_map, List.getElem?_modify]
  cases workers[i]? with
  | none => rfl
  | some w => by_cases hi : worker = i <;> simp [hi, hf]

/-- A change of tables keeps the client ids. -/
theorem map_client_modify (workers : List Worker) (worker : Nat) (t : Correlation.Table) :
    (workers.modify worker fun w => { w with table := t }).map (·.client) =
      workers.map (·.client) :=
  map_modify_table (fun _ _ => rfl) workers worker t

theorem entriesOf_set (hw : workers[worker]? = some w) {w' : Worker}
    (h : w'.table.entries = w.table.entries) :
    entriesOf (workers.set worker w') = entriesOf workers := by
  funext i
  rw [entriesOf, List.getElem?_set]
  by_cases hi : worker = i
  · have hlt : worker < workers.length := (List.getElem?_eq_some_iff.1 hw).1
    rw [if_pos hi, ← hi, if_pos hlt, entriesOf_eq hw, ← h]
    rfl
  · rw [if_neg hi, entriesOf]

/-- A worker that has only just connected has no registered calls. -/
theorem entriesOf_concat (h : w.table.entries = []) :
    entriesOf (workers ++ [w]) = entriesOf workers := by
  funext i
  rw [entriesOf, entriesOf]
  rcases Nat.lt_trichotomy i workers.length with hi | hi | hi
  · rw [List.getElem?_append_left hi]
  · rw [hi, List.getElem?_concat_length, List.getElem?_eq_none (Nat.le_refl _)]
    exact h
  · rw [List.getElem?_eq_none (by rw [List.length_append]; exact hi),
      List.getElem?_eq_none (Nat.le_of_lt hi)]

/-- One call is replaced, and the others stay. -/
theorem getElem?_set_cases {k : Nat} {c' : Call} (h : (calls.set call c)[k]? = some c') :
    (k = call ∧ c' = c) ∨ (k ≠ call ∧ calls[k]? = some c') := by
  rw [List.getElem?_set] at h
  split at h
  · next hk =>
    split at h
    · cases h
      exact .inl ⟨hk.symm, rfl⟩
    · cases h
  · next hk => exact .inr ⟨fun heq => hk heq.symm, h⟩

theorem waitingOf_eq (hc : calls[call]? = some c) : waitingOf calls call = c.ticket? := by
  rw [waitingOf, hc]
  rfl

theorem waitingOf_set (hc : calls[call]? = some c) (c' : Call) :
    waitingOf (calls.set call c') = Function.update (waitingOf calls) call c'.ticket? := by
  funext k
  rw [waitingOf, List.getElem?_set]
  by_cases hk : call = k
  · have hlt : call < calls.length := (List.getElem?_eq_some_iff.1 hc).1
    rw [if_pos hk, ← hk, if_pos hlt, Function.update_self]
    rfl
  · rw [if_neg hk, Function.update_of_ne fun h => hk h.symm, waitingOf]

/-- A call that has only just begun does not wait. -/
theorem waitingOf_concat (h : c.ticket? = none) : waitingOf (calls ++ [c]) = waitingOf calls := by
  funext k
  rw [waitingOf, waitingOf]
  rcases Nat.lt_trichotomy k calls.length with hk | hk | hk
  · rw [List.getElem?_append_left hk]
  · rw [hk, List.getElem?_concat_length, List.getElem?_eq_none (Nat.le_refl _)]
    exact h
  · rw [List.getElem?_eq_none (by rw [List.length_append]; exact hk),
      List.getElem?_eq_none (Nat.le_of_lt hk)]

end Lists

section Views

variable {s : State} {worker call : Nat} {w : Worker} {c : Call}

theorem view_setTable (hw : s.workers[worker]? = some w) (t : Correlation.Table) :
    (s.setTable worker t).view =
      { s.view with entries := Function.update s.view.entries worker t.entries } := by
  show View.mk _ _ (entriesOf (s.workers.modify worker _)) _ = _
  rw [entriesOf_modify hw]
  rfl

/-- A table with the same registered calls makes no difference. -/
theorem view_setTable_same (hw : s.workers[worker]? = some w) {t : Correlation.Table}
    (ht : t.entries = w.table.entries) : (s.setTable worker t).view = s.view := by
  have hentries : t.entries = s.view.entries worker := ht.trans (entriesOf_eq hw).symm
  rw [view_setTable hw, hentries, Function.update_eq_self]

theorem view_setCall (hc : s.calls[call]? = some c) (c' : Call) :
    (s.setCall call c').view =
      { s.view with waiting := Function.update s.view.waiting call c'.ticket? } := by
  show View.mk _ _ _ (waitingOf (s.calls.set call c')) = _
  rw [waitingOf_set hc]
  rfl

/-- A call whose attempt is over does not wait. -/
theorem view_endAttempt (hc : s.calls[call]? = some c) (c' : Call) (u : User)
    (reply : Except Error Json) :
    (s.endAttempt call c' u w reply).view =
      { s.view with waiting := Function.update s.view.waiting call none } := by
  obtain ⟨events, he⟩ := s.endAttempt_eq call c' u w reply
  rw [he]
  show View.mk _ _ _ (waitingOf (s.calls.set call _)) = _
  rw [waitingOf_set hc, Call.after_ticket?]
  rfl

end Views

/-! ## Serving -/

namespace State

variable {s s' : State}

/-- Unless a script answers the requests, the coordinator takes what has arrived. -/
theorem serve?_cases (hs : ∀ script, s.service ≠ .script script) {outside : Outside}
    {position : Nat} (h : s.serve? outside position = some s') :
    ∃ c m, s.service = .coordinator c ∧ s.hub.coordinator.messages[position]? = some m ∧
      s' = serveMessage { s with hub := { s.hub with
        coordinator := s.hub.coordinator.remove position } } c outside m := by
  obtain ⟨m, hm, h⟩ := Option.bind_eq_some_iff.1 h
  simp only at h
  split at h
  · next c hc =>
    cases h
    exact ⟨c, m, hc, hm, rfl⟩
  · next script hscript => exact absurd hscript (hs script)
  · cases h

/-- Workers, users, calls and the time are as they were. -/
structure Stays (s s' : State) : Prop where
  workers : s'.workers = s.workers
  users : s'.users = s.users
  calls : s'.calls = s.calls
  now : s'.now = s.now

/-- Serving changes nothing about workers, users and calls. -/
theorem serveMessage_frame (s : State) (c : Coordinator) (outside : Outside) (m : Message) :
    s.Stays (s.serveMessage c outside m) := by
  unfold serveMessage
  split
  · exact ⟨rfl, rfl, rfl, rfl⟩
  · exact ⟨rfl, rfl, rfl, rfl⟩
  · exact ⟨rfl, rfl, rfl, rfl⟩

/-- Whoever takes a message from the inbox of the coordinator changes nothing about workers,
users and calls. -/
theorem serve?_frame {outside : Outside} {position : Nat}
    (h : s.serve? outside position = some s') : s.Stays s' := by
  obtain ⟨m, -, h⟩ := Option.bind_eq_some_iff.1 h
  simp only at h
  split at h
  · next c _ =>
    cases h
    have hstays := serveMessage_frame { s with hub := { s.hub with
      coordinator := s.hub.coordinator.remove position } } c outside m
    exact ⟨hstays.workers, hstays.users, hstays.calls, hstays.now⟩
  · split at h
    · cases h
      exact ⟨rfl, rfl, rfl, rfl⟩
    · cases h
  · cases h

/-- What a script does changes nothing about workers, users and calls. -/
theorem perform?_frame (h : s.perform? = some s') : s.Stays s' := by
  unfold perform? at h
  split at h
  · split at h
    · cases h
    · split at h
      · cases h
      · split at h
        · cases h
          exact ⟨rfl, rfl, rfl, rfl⟩
        · dsimp only at h
          split at h
          · cases h
            exact ⟨rfl, rfl, rfl, rfl⟩
          · cases h
            exact ⟨rfl, rfl, rfl, rfl⟩
          · split at h
            · cases h
              exact ⟨rfl, rfl, rfl, rfl⟩
            · cases h
              exact ⟨rfl, rfl, rfl, rfl⟩
  · cases h

/-- Sending some message changes nothing about workers, users and calls. -/
theorem inject?_frame {worker : Nat} {topic : String} {data : Json}
    (h : (s.inject? worker topic data).map (·.2) = some s') : s.Stays s' := by
  obtain ⟨x, hx, rfl⟩ := Option.map_eq_some_iff.1 h
  obtain ⟨w, -, hx⟩ := Option.bind_eq_some_iff.1 hx
  cases hx
  exact ⟨rfl, rfl, rfl, rfl⟩

/-- The coordinator answers a request of a call, unless it crashes. -/
theorem serveMessage_message (s : State) (c : Coordinator) (outside : Outside) (a : Attempt) :
    s.serveMessage c outside a.message =
      match c.dispatch outside a.request with
      | (.error crash, c') =>
        { s with service := .crashed c' crash, hub := s.hub.closeCoordinator }
      | (.ok d, c') =>
        sendToWorker { s with
          service := .coordinator { c' with requestsHandled := c'.requestsHandled + 1 }
          produced := s.produced ++
            [Coordinator.eventOf a.request.toJson outside.took d.error] }
          (⟨a, outside, d.response⟩ : Reply).message := by
  rw [serveMessage, receive?_message]
  rcases c.dispatch outside a.request with ⟨crash | d, c'⟩
  · rfl
  · rfl

end State

/-- Replacing the coordinator does not make a script answer the requests. -/
theorem Service.noScript_setCoordinator {s : Service} (hs : ∀ script, s ≠ .script script)
    (c : Coordinator) : ∀ script, s.setCoordinator c ≠ .script script := by
  intro script
  cases s with
  | script s' => exact absurd rfl (hs s')
  | _ => simp [Service.setCoordinator]

/-! ## Growth -/

/-- What a cluster has ever got it keeps: users, the user and the method of each call, and
the client id of each worker. Tokens are never given out twice. -/
structure Grows (s s' : State) : Prop where
  users : ∀ {k : Nat} {u : User}, s.users[k]? = some u → s'.users[k]? = some u
  calls : ∀ {k : Nat} {c : Call}, s.calls[k]? = some c →
    ∃ c', s'.calls[k]? = some c' ∧ c'.user = c.user ∧ c'.method = c.method
  workers : ∀ {i : Nat} {w : Worker}, s.workers[i]? = some w → ∃ w', s'.workers[i]? = some w' ∧
    w'.client = w.client ∧ w.table.nextToken ≤ w'.table.nextToken

/-- The client ids of the workers and the last correlation ids that they have given out. -/
def State.roster (s : State) : List (String × UInt64) :=
  s.workers.map fun w => (w.client, w.table.lastUid)

/-- What most steps do: the cluster grows, and neither workers nor users are added. -/
structure Keeps (s s' : State) : Prop extends Grows s s' where
  sameUsers : s'.users = s.users
  sameRoster : s'.roster = s.roster

section Growth

variable {s s' : State}

/-- Nothing has happened to workers, users and calls. -/
theorem Keeps.of_eq (hu : s'.users = s.users) (hw : s'.workers = s.workers)
    (hc : s'.calls = s.calls) : Keeps s s' where
  users h := by rw [hu]; exact h
  calls h := by rw [hc]; exact ⟨_, h, rfl, rfl⟩
  workers h := by rw [hw]; exact ⟨_, h, rfl, Nat.le_refl _⟩
  sameUsers := hu
  sameRoster := by rw [State.roster, hw]; rfl

/-- A call of the same user and method takes the place of another. -/
theorem Keeps.setCall {call : Nat} {c : Call} (c' : Call) (hc : s.calls[call]? = some c)
    (hu : c'.user = c.user) (hm : c'.method = c.method) : Keeps s (s.setCall call c') where
  users h := h
  calls {k v} h := by
    show ∃ c₂, (s.calls.set call c')[k]? = some c₂ ∧ _
    rw [List.getElem?_set]
    by_cases hk : call = k
    · have hlt : call < s.calls.length := (List.getElem?_eq_some_iff.1 hc).1
      rw [hk, h] at hc
      cases hc
      rw [if_pos hk, if_pos hlt]
      exact ⟨c', rfl, hu, hm⟩
    · rw [if_neg hk]
      exact ⟨v, h, rfl, rfl⟩
  workers h := ⟨_, h, rfl, Nat.le_refl _⟩
  sameUsers := rfl
  sameRoster := rfl

/-- A table that has given out no fewer tokens takes the place of another. -/
theorem Grows.setTable {worker : Nat} {w : Worker} (hw : s.workers[worker]? = some w)
    {t : Correlation.Table} (ht : w.table.nextToken ≤ t.nextToken) :
    Grows s (s.setTable worker t) where
  users h := h
  calls h := ⟨_, h, rfl, rfl⟩
  workers {i v} h := by
    show ∃ w', (s.workers.modify worker fun w => { w with table := t })[i]? = some w' ∧ _
    rw [List.getElem?_modify, h]
    by_cases hi : worker = i
    · rw [hi, h] at hw
      obtain rfl := Option.some.inj hw
      exact ⟨{ v with table := t }, by simp [hi], rfl, ht⟩
    · exact ⟨v, by simp [hi], rfl, Nat.le_refl _⟩

theorem Keeps.setTable {worker : Nat} {w : Worker} (hw : s.workers[worker]? = some w)
    {t : Correlation.Table} (ht : w.table.nextToken ≤ t.nextToken)
    (hu : t.lastUid = w.table.lastUid) : Keeps s (s.setTable worker t) where
  toGrows := Grows.setTable hw ht
  sameUsers := rfl
  sameRoster := by
    show (s.workers.modify worker fun w => { w with table := t }).map _ = _
    apply List.ext_getElem?
    intro i
    rw [State.roster, List.getElem?_map, List.getElem?_map, List.getElem?_modify]
    by_cases hi : worker = i
    · rw [← hi, hw]
      simp [hu]
    · cases s.workers[i]? with
      | none => rfl
      | some v => simp [hi]

theorem Grows.trans {s'' : State} (h : Grows s s') (h' : Grows s' s'') : Grows s s'' where
  users hu := h'.users (h.users hu)
  calls hc := by
    obtain ⟨c', hc', hu, hm⟩ := h.calls hc
    obtain ⟨c'', hc'', hu', hm'⟩ := h'.calls hc'
    exact ⟨c'', hc'', hu'.trans hu, hm'.trans hm⟩
  workers hw := by
    obtain ⟨w', hw', hcl, ht⟩ := h.workers hw
    obtain ⟨w'', hw'', hcl', ht'⟩ := h'.workers hw'
    exact ⟨w'', hw'', hcl'.trans hcl, Nat.le_trans ht ht'⟩

theorem Keeps.trans {s'' : State} (h : Keeps s s') (h' : Keeps s' s'') : Keeps s s'' where
  toGrows := h.toGrows.trans h'.toGrows
  sameUsers := h'.sameUsers.trans h.sameUsers
  sameRoster := h'.sameRoster.trans h.sameRoster

/-- A worker with the same client id and the same table takes the place of another. -/
theorem Keeps.setWorker {worker : Nat} {w : Worker} (w' : Worker)
    (hw : s.workers[worker]? = some w) (hc : w'.client = w.client) (ht : w'.table = w.table) :
    Keeps s { s with workers := s.workers.set worker w' } where
  users h := h
  calls h := ⟨_, h, rfl, rfl⟩
  workers {i v} h := by
    have hlt : worker < s.workers.length := (List.getElem?_eq_some_iff.1 hw).1
    show ∃ v', (s.workers.set worker w')[i]? = some v' ∧ _
    rw [List.getElem?_set]
    by_cases hi : worker = i
    · rw [hi, h] at hw
      obtain rfl := Option.some.inj hw
      rw [if_pos hi, if_pos hlt]
      exact ⟨w', rfl, hc, Nat.le_of_eq (by rw [ht])⟩
    · rw [if_neg hi]
      exact ⟨v, h, rfl, Nat.le_refl _⟩
  sameUsers := rfl
  sameRoster := by
    have hlt : worker < s.workers.length := (List.getElem?_eq_some_iff.1 hw).1
    apply List.ext_getElem?
    intro i
    rw [State.roster, State.roster, List.getElem?_map, List.getElem?_map, List.getElem?_set]
    by_cases hi : worker = i
    · rw [if_pos hi, if_pos hlt, ← hi, hw]
      simp [hc, ht]
    · rw [if_neg hi]

/-- The end of an attempt, after which the call's table is another one. -/
theorem Keeps.endAttempt {worker call : Nat} {w : Worker} {c : Call} (t : Correlation.Table)
    (c' : Call) (u : User) (reply : Except Error Json) (hw : s.workers[worker]? = some w)
    (hc : s.calls[call]? = some c) (ht : w.table.nextToken ≤ t.nextToken)
    (hl : t.lastUid = w.table.lastUid) (hu : c'.user = c.user) (hm : c'.method = c.method) :
    Keeps s ((s.setTable worker t).endAttempt call c' u w reply) := by
  obtain ⟨events, he⟩ := (s.setTable worker t).endAttempt_eq call c' u w reply
  rw [he]
  have hset : Keeps s ((s.setTable worker t).setCall call (c'.after s.now w reply)) :=
    (Keeps.setTable hw ht hl).trans
      (Keeps.setCall _ hc (by rw [Call.after_user, hu]) (by rw [Call.after_method, hm]))
  exact hset.trans (Keeps.of_eq rfl rfl rfl)

/-- The actions that add a worker or a user. -/
def Action.Adds : Action → Prop
  | .connect .. | .join .. => True
  | _ => False

/-- Every step lets the cluster grow, and only connecting and joining add workers or users. -/
theorem step?_grows {outside : Outside} {a : Action} (h : s.step? outside a = some s') :
    Keeps s s' ∨ Grows s s' ∧ a.Adds := by
  cases a with
  | pass nanos =>
    cases h
    exact .inl (.of_eq rfl rfl rfl)
  | serve position =>
    obtain ⟨hw, hu, hc, -⟩ := State.serve?_frame h
    exact .inl (.of_eq hu hw hc)
  | perform =>
    obtain ⟨hw, hu, hc, -⟩ := State.perform?_frame h
    exact .inl (.of_eq hu hw hc)
  | receive worker position =>
    obtain ⟨w, m, hw, -, -, rfl⟩ := State.receive?_cases h
    obtain ⟨ht, hl⟩ := w.table.handleMessage_counters m
    have htable : Keeps s (s.setTable worker (w.table.handleMessage m).2) :=
      Keeps.setTable hw (Nat.le_of_eq ht.symm) hl
    exact .inl (htable.trans (Keeps.of_eq rfl rfl rfl))
  | endReplies worker =>
    obtain ⟨w, hw, -, rfl⟩ := State.endReplies?_cases h
    exact .inl (.setTable hw (Nat.le_refl _) rfl)
  | attempt call =>
    obtain ⟨c, u, w, hc, -, -, hw, hsend | hfail⟩ := State.attempt?_cases h
    · obtain ⟨messages, -, -, -, -, rfl⟩ := hsend
      have htable : Keeps s (s.setTable u.worker (w.table.registered u.consumer.uid)) :=
        Keeps.setTable hw (Nat.le_succ _) rfl
      left
      refine (htable.trans (Keeps.setCall _ hc ?_ ?_)).trans (Keeps.of_eq rfl rfl rfl)
      · rfl
      · rfl
    · obtain ⟨e, -, -, rfl⟩ := hfail
      exact .inl (Keeps.endAttempt _ { c with attempted := s.now } u _ hw hc (Nat.le_succ _) rfl rfl
        rfl)
  | complete call =>
    obtain ⟨c, ticket, deadline, u, w, reply, hc, -, -, hw, -, rfl⟩ := State.complete?_cases h
    exact .inl (Keeps.endAttempt (w.table.remove ticket) c u _ hw hc (Nat.le_refl _) rfl rfl rfl)
  | expire call =>
    obtain ⟨c, ticket, deadline, u, w, hc, -, -, hw, -, rfl⟩ := State.expire?_cases h
    exact .inl (Keeps.endAttempt (w.table.remove ticket) c u _ hw hc (Nat.le_refl _) rfl rfl rfl)
  | wake call =>
    obtain ⟨c, deadline, hc, -, rfl⟩ := State.wake?_cases h
    exact .inl (Keeps.setCall _ hc rfl rfl)
  | cancel call =>
    obtain ⟨c, hc, ⟨-, rfl⟩ | ⟨ticket, deadline, u, w, -, -, hw, rfl⟩⟩ := State.cancel?_cases h
    · exact .inl (Keeps.setCall _ hc rfl rfl)
    · have htable : Keeps s (s.setTable u.worker (w.table.remove ticket)) :=
        Keeps.setTable hw (Nat.le_refl _) rfl
      exact .inl (htable.trans (Keeps.setCall _ hc rfl rfl))
  | connect client options keepsEvents =>
    obtain ⟨-, rfl⟩ := State.connect?_cases h
    refine .inr ⟨⟨id, fun hc => ⟨_, hc, rfl, rfl⟩, fun {i w} hw => ?_⟩, trivial⟩
    have hlt : i < s.workers.length := (List.getElem?_eq_some_iff.1 hw).1
    exact ⟨w, (List.getElem?_append_left hlt).trans hw, rfl, Nat.le_refl _⟩
  | join worker identifier =>
    obtain ⟨w, hw, rfl⟩ := State.join?_cases h
    have htable : Grows s (s.setTable worker { w.table with lastUid := w.table.lastUid + 1 }) :=
      Grows.setTable hw (Nat.le_refl _)
    refine .inr ⟨htable.trans ⟨fun {k u} hu => ?_, fun hc => ⟨_, hc, rfl, rfl⟩,
      fun hw => ⟨_, hw, rfl, Nat.le_refl _⟩⟩, trivial⟩
    have hlt : k < s.users.length := (List.getElem?_eq_some_iff.1 hu).1
    exact (List.getElem?_append_left hlt).trans hu
  | begin user method =>
    cases State.begin?_cases h
    refine .inl ⟨⟨id, fun {k c} hc => ?_, fun hw => ⟨_, hw, rfl, Nat.le_refl _⟩⟩, rfl, rfl⟩
    have hlt : k < s.calls.length := (List.getElem?_eq_some_iff.1 hc).1
    exact ⟨c, (List.getElem?_append_left hlt).trans hc, rfl, rfl⟩
  | inject worker topic data =>
    obtain ⟨hw, hu, hc, -⟩ := State.inject?_frame h
    exact .inl (.of_eq hu hw hc)
  | disconnect worker =>
    obtain ⟨w, -, h⟩ := Option.bind_eq_some_iff.1 h
    cases h
    exact .inl (.of_eq rfl rfl rfl)
  | dropWorker worker =>
    obtain ⟨w, hw, h⟩ := Option.bind_eq_some_iff.1 h
    cases h
    have hworker : Keeps s
        { s with workers := s.workers.set worker { w with isReading := false } } :=
      .setWorker _ hw rfl rfl
    exact .inl (hworker.trans (.of_eq rfl rfl rfl))
  | closeService =>
    cases h
    exact .inl (.of_eq rfl rfl rfl)
  | testStop attempt =>
    obtain ⟨c, folder, rfl⟩ := State.testStop?_cases h
    exact .inl (.of_eq rfl rfl rfl)
  | stop attempt =>
    obtain ⟨c, folder, rfl⟩ := State.stop?_cases h
    exact .inl (.of_eq rfl rfl rfl)

/-- Only connecting and joining add workers or users. -/
theorem step?_keeps {outside : Outside} {a : Action} (h : s.step? outside a = some s')
    (hadds : ¬ a.Adds) : Keeps s s' := by
  rcases step?_grows h with hk | ⟨-, ha⟩
  · exact hk
  · exact absurd ha hadds

/-- Workers are added, and go on with all but their tables and their reading. -/
theorem map_workers_of_step? {α : Type} {f : Worker → α}
    (hf : ∀ (w : Worker) (t : Correlation.Table) (b : Bool),
      f { w with table := t, isReading := b } = f w)
    {outside : Outside} {a : Action} (h : s.step? outside a = some s') :
    s.workers.map f <+: s'.workers.map f := by
  have htable : ∀ worker t, s.workers.map f <+: (s.setTable worker t).workers.map f := by
    intro worker t
    rw [State.setTable, map_modify_table fun w t => hf w t w.isReading]
  have hend : ∀ worker t call c u w reply,
      s.workers.map f <+: ((s.setTable worker t).endAttempt call c u w reply).workers.map f := by
    intro worker t call c u w reply
    obtain ⟨events, he⟩ := (s.setTable worker t).endAttempt_eq call c u w reply
    rw [he]
    exact htable worker t
  cases a with
  | pass nanos =>
    cases h
    exact List.prefix_refl _
  | serve position => rw [(State.serve?_frame h).workers]
  | perform => rw [(State.perform?_frame h).workers]
  | inject worker topic data => rw [(State.inject?_frame h).workers]
  | receive worker position =>
    obtain ⟨w, m, -, -, -, rfl⟩ := State.receive?_cases h
    exact htable worker _
  | endReplies worker =>
    obtain ⟨w, -, -, rfl⟩ := State.endReplies?_cases h
    exact htable worker _
  | attempt call =>
    obtain ⟨c, u, w, -, -, -, -, ⟨messages, -, -, -, -, rfl⟩ | ⟨e, -, -, rfl⟩⟩ :=
      State.attempt?_cases h
    · exact htable u.worker _
    · exact hend _ _ _ _ _ _ _
  | complete call =>
    obtain ⟨c, ticket, deadline, u, w, reply, -, -, -, -, -, rfl⟩ := State.complete?_cases h
    exact hend _ _ _ _ _ _ _
  | expire call =>
    obtain ⟨c, ticket, deadline, u, w, -, -, -, -, -, rfl⟩ := State.expire?_cases h
    exact hend _ _ _ _ _ _ _
  | wake call =>
    obtain ⟨c, deadline, -, -, rfl⟩ := State.wake?_cases h
    exact List.prefix_refl _
  | cancel call =>
    obtain ⟨c, -, ⟨-, rfl⟩ | ⟨ticket, deadline, u, w, -, -, -, rfl⟩⟩ := State.cancel?_cases h
    · exact List.prefix_refl _
    · exact htable u.worker _
  | connect client options keepsEvents =>
    obtain ⟨-, rfl⟩ := State.connect?_cases h
    exact (List.prefix_append _ _).map _
  | join worker identifier =>
    obtain ⟨w, -, rfl⟩ := State.join?_cases h
    exact htable worker _
  | begin user method =>
    cases State.begin?_cases h
    exact List.prefix_refl _
  | disconnect worker =>
    obtain ⟨w, -, h⟩ := Option.bind_eq_some_iff.1 h
    cases h
    exact List.prefix_refl _
  | dropWorker worker =>
    obtain ⟨w, hw, h⟩ := Option.bind_eq_some_iff.1 h
    cases h
    obtain ⟨hlt, rfl⟩ := List.getElem?_eq_some_iff.1 hw
    have hsame := hf s.workers[worker] s.workers[worker].table false
    rw [List.map_set, hsame]
    rw [← List.getElem_map f (h := by simpa using hlt), List.set_getElem_self]
  | closeService =>
    cases h
    exact List.prefix_refl _
  | testStop attempt =>
    obtain ⟨c, folder, rfl⟩ := State.testStop?_cases h
    exact List.prefix_refl _
  | stop attempt =>
    obtain ⟨c, folder, rfl⟩ := State.stop?_cases h
    exact List.prefix_refl _

/-- Every step lets the cluster grow. -/
theorem Grows.of_step? {outside : Outside} {a : Action} (h : s.step? outside a = some s') :
    Grows s s' := by
  rcases step?_grows h with hk | ⟨hg, -⟩
  · exact hk.toGrows
  · exact hg

end Growth

end Cluster

end LoadTest
