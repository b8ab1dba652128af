import LoadTest.Proofs.Transport.Intake
import LoadTest.Proofs.Transport.Routes
/-!
# One connection among others

A connection is judged by the bytes that its worker sends, however they arrive and whatever
happens on other connections meanwhile. The ledger keeps what ever reached the inbox, and on
which connection it came in.
-/

namespace LoadTest.Transport

namespace Listener.Action

/-- The inbox stays open, and the listener goes on. -/
def IsCalm : Action → Prop
  | closeInbox | shutDown => False
  | _ => True

/-- The bytes that come in on a connection. -/
def bytesOn (i : Nat) : Action → Bytes
  | receive j bytes => if i = j then bytes else []
  | _ => []

/-- Whether the worker of a connection closes its end. -/
def closes (i : Nat) : Action → Bool
  | close j => i = j
  | _ => false

/-- What the worker of a connection sends until it closes its end. -/
def spoken (i : Nat) : List Action → Bytes
  | [] => []
  | a :: actions => a.bytesOn i ++ if a.closes i then [] else spoken i actions

end Listener.Action

/-- A listener, the messages that ever reached its inbox with the connections on which they came
in, and those of them that were taken out again. -/
structure Ledger where
  listener : Listener := {}
  arrived : List (Nat × Message) := []
  taken : List Message := []

namespace Ledger

open Listener

/-- The messages that an action adds to the inbox. -/
def added (w : Ledger) (a : Action) : List (Nat × Message) :=
  match a with
  | .receive i _ =>
    ((a.run w.listener).inbox.messages.drop w.listener.inbox.messages.length).map (i, ·)
  | _ => []

/-- The messages that an action takes out of the inbox. -/
def removed (w : Ledger) : Action → List Message
  | .take => w.listener.inbox.messages.take 1
  | _ => []

/-- The ledger after one more action. -/
def step (w : Ledger) (a : Action) : Ledger :=
  ⟨a.run w.listener, w.arrived ++ w.added a, w.taken ++ w.removed a⟩

/-- The ledger after some more actions. -/
def run (w : Ledger) (actions : List Action) : Ledger := actions.foldl step w

/-- The messages that came in on a connection and reached the inbox. -/
def arrivedOn (w : Ledger) (i : Nat) : List Message :=
  (w.arrived.filter (·.1 = i)).map (·.2)

variable {w : Ledger} {a : Action} {i : Nat} {k : Intake}

/-- What ever reached the inbox was taken out of it or is still there, in the same order, and came
in on a connection. -/
structure Kept (w : Ledger) : Prop where
  inbox : ∃ messages, w.listener.inbox = some messages ∧
    w.arrived.map (·.2) = w.taken ++ messages
  known : ∀ x ∈ w.arrived, (w.listener.intake? x.1).isSome

/-- Nothing comes in on a connection that is not open; an open one is read. -/
theorem Kept.receive_cases (h : w.Kept) (i : Nat) (bytes : Bytes) :
    ((∀ k, w.listener.intake? i = some k → k.isOpen = false) ∧
      (w.listener.receive i bytes).inbox = w.listener.inbox ∧
      (∀ j, (w.listener.receive i bytes).intake? j = w.listener.intake? j) ∧
      w.added (.receive i bytes) = []) ∨
    ∃ k ms rest k', w.listener.intake? i = some k ∧ k.isOpen = true ∧
      w.listener.Reads i { k with unread := k.unread ++ bytes } ms rest
        (w.listener.receive i bytes) k' ∧
      w.added (.receive i bytes) = (delivered k.client ms).map (i, ·) := by
  obtain ⟨messages, hinbox, -⟩ := h.inbox
  by_cases hclosed : ∀ k, w.listener.intake? i = some k → k.isOpen = false
  · obtain ⟨hsame, hothers⟩ := receive_of_closed hclosed bytes
    refine .inl ⟨hclosed, hsame, hothers, ?_⟩
    simp only [added, Action.run, hsame, List.drop_length, List.map_nil]
  · push Not at hclosed
    obtain ⟨k, hi, hopen⟩ := hclosed
    have hopen : k.isOpen = true := Bool.of_not_eq_false hopen
    obtain ⟨ms, rest, k', hreads⟩ := exists_reads_receive hi hopen hinbox bytes
    refine .inr ⟨k, ms, rest, k', hi, hopen, hreads, ?_⟩
    simp only [added, Action.run, hreads.inbox]
    exact congrArg (List.map (i, ·)) List.drop_left

/-- What an action does to a connection on which it takes nothing in, and which it does not
close. -/
theorem Kept.intake?_run (h : w.Kept) (hcalm : a.IsCalm) (hi : w.listener.intake? i = some k)
    (hreceive : ∀ bytes, a ≠ .receive i bytes) (hclose : a ≠ .close i) :
    (a.run w.listener).intake? i = some k := by
  cases a with
  | accept => exact intake?_accept hi
  | receive j bytes =>
    have hj : j ≠ i := fun hj => hreceive bytes (hj ▸ rfl)
    rcases h.receive_cases j bytes with ⟨-, -, hothers, -⟩ | ⟨_, _, _, _, -, -, hreads, -⟩
    · exact (hothers i).trans hi
    · exact (hreads.others i hj).trans hi
  | close j =>
    have hj : j ≠ i := fun hj => hclose (hj ▸ rfl)
    exact (w.listener.intake?_finish j i).trans ((if_neg hj).trans hi)
  | send m => exact (w.listener.intake?_send m i).trans hi
  | write j n =>
    exact (w.listener.intake?_update_same j i (f := (·.write n)) fun _ => rfl).trans hi
  | take => exact hi
  | closeInbox => exact hcalm.elim
  | shutDown => exact hcalm.elim

/-- A connection that there is does not go away. -/
theorem Kept.isSome_intake?_run (h : w.Kept) (hcalm : a.IsCalm)
    (hi : (w.listener.intake? i).isSome) : ((a.run w.listener).intake? i).isSome := by
  obtain ⟨k, hk⟩ := Option.isSome_iff_exists.1 hi
  by_cases hreceive : ∃ bytes, a = .receive i bytes
  · obtain ⟨bytes, rfl⟩ := hreceive
    rcases h.receive_cases i bytes with ⟨-, -, hsame, -⟩ | ⟨_, _, _, k', -, -, hreads, -⟩
    · exact (congrArg Option.isSome (hsame i)).trans hi
    · exact congrArg Option.isSome hreads.self
  · by_cases hclose : a = .close i
    · subst hclose
      show ((w.listener.finish i).intake? i).isSome
      rw [intake?_finish, if_pos rfl, Option.isSome_map, hi]
    · rw [h.intake?_run hcalm hk (fun bytes ha => hreceive ⟨bytes, ha⟩) hclose]
      rfl

/-- What an action adds to the inbox comes behind what is there. -/
theorem Kept.inbox_run (h : w.Kept) (hcalm : a.IsCalm) {messages : List Message}
    (hinbox : w.listener.inbox = some messages) :
    ∃ left, (a.run w.listener).inbox = some left ∧
      messages ++ (w.added a).map (·.2) = w.removed a ++ left := by
  cases a with
  | accept => exact ⟨messages, w.listener.inbox_accept.trans hinbox, List.append_nil _⟩
  | receive i bytes =>
    rcases h.receive_cases i bytes with ⟨-, hsame, -, hadded⟩ | ⟨_, ms, _, _, -, -, hreads, hadded⟩
    · refine ⟨messages, hsame.trans hinbox, ?_⟩
      rw [hadded]
      exact List.append_nil _
    · refine ⟨_, hreads.inbox, ?_⟩
      rw [hadded, hinbox, List.map_map]
      exact congrArg (messages ++ ·) (List.map_id _)
  | close i => exact ⟨messages, (w.listener.inbox_finish i).trans hinbox, List.append_nil _⟩
  | send m => exact ⟨messages, (w.listener.inbox_send m).trans hinbox, List.append_nil _⟩
  | write i n => exact ⟨messages, hinbox, List.append_nil _⟩
  | take =>
    refine ⟨messages.drop 1, ?_, ?_⟩
    · show w.listener.inbox.remove 0 = _
      rw [hinbox]
      cases messages <;> rfl
    · simp only [added, removed, hinbox]
      exact (List.append_nil _).trans (List.take_append_drop 1 messages).symm
  | closeInbox => exact hcalm.elim
  | shutDown => exact hcalm.elim

/-- What an action adds to the inbox came in on a connection that there is. -/
theorem Kept.known_of_mem_added (h : w.Kept) {x : Nat × Message} (hx : x ∈ w.added a) :
    ((a.run w.listener).intake? x.1).isSome := by
  cases a with
  | receive i bytes =>
    rcases h.receive_cases i bytes with ⟨-, -, -, hadded⟩ | ⟨_, _, _, _, -, -, hreads, hadded⟩
    · rw [hadded] at hx
      cases hx
    · rw [hadded] at hx
      obtain ⟨m, -, rfl⟩ := List.mem_map.1 hx
      exact congrArg Option.isSome hreads.self
  | _ => cases hx

theorem Kept.start : Kept {} := ⟨⟨[], rfl, rfl⟩, nofun⟩

/-- What one action preserves. -/
theorem Kept.step (h : w.Kept) (hcalm : a.IsCalm) : (w.step a).Kept := by
  obtain ⟨messages, hinbox, harrived⟩ := h.inbox
  obtain ⟨left, hleft, hadded⟩ := h.inbox_run hcalm hinbox
  refine ⟨⟨left, hleft, ?_⟩, fun x hx => ?_⟩
  · show (w.arrived ++ w.added a).map (·.2) = (w.taken ++ w.removed a) ++ left
    rw [List.map_append, harrived, List.append_assoc, hadded, List.append_assoc]
  · rcases List.mem_append.1 hx with hx | hx
    · exact h.isSome_intake?_run hcalm (h.known x hx)
    · exact h.known_of_mem_added hx

theorem Kept.run (h : w.Kept) {actions : List Action} (hcalm : ∀ a ∈ actions, a.IsCalm) :
    (w.run actions).Kept := by
  induction actions generalizing w with
  | nil => exact h
  | cons a actions ih =>
    exact ih (h.step (hcalm a List.mem_cons_self)) fun b hb => hcalm b (List.mem_cons_of_mem a hb)

/-! ## One connection -/

/-- A connection stands where its stream has led it: these messages were at the front of the
stream and this rest is left of it, and the worker has hung up or not. -/
structure Follows (w : Ledger) (i : Nat) (stream : Bytes) (hungUp : Bool) (ms : List Message)
    (rest : Bytes) (k : Intake) : Prop where
  self : w.listener.intake? i = some k
  holds : Holds stream ms rest
  ends : Pending rest ∨ Broken rest
  client : k.client = clientAfter none ms
  isOpen : k.isOpen = true ↔ Pending rest ∧ Welcome none ms ∧ hungUp = false
  unread : k.isOpen = true → k.unread = rest
  arrived : w.arrivedOn i = delivered none ms

variable {stream rest : Bytes} {hungUp : Bool} {ms : List Message}

theorem arrivedOn_step (w : Ledger) (a : Action) (i : Nat) :
    (w.step a).arrivedOn i = w.arrivedOn i ++ ((w.added a).filter (·.1 = i)).map (·.2) := by
  simp only [arrivedOn, step, List.filter_append, List.map_append]

/-- What comes in on another connection is not among what came in on this one. -/
theorem Kept.arrivedOn_of_ne (h : w.Kept) (hreceive : ∀ bytes, a ≠ .receive i bytes) :
    (w.step a).arrivedOn i = w.arrivedOn i := by
  have hnone : (w.added a).filter (·.1 = i) = [] := by
    cases a with
    | receive j bytes =>
      have hj : j ≠ i := fun hj => hreceive bytes (hj ▸ rfl)
      rcases h.receive_cases j bytes with ⟨-, -, -, hadded⟩ | ⟨_, _, _, _, -, -, -, hadded⟩
      · rw [hadded]
        rfl
      · rw [hadded]
        simp [hj]
    | _ => rfl
  rw [arrivedOn_step, hnone]
  exact List.append_nil _

/-- What came in on this connection is. -/
theorem arrivedOn_of_added {bytes : Bytes} {messages : List Message}
    (hadded : w.added (.receive i bytes) = messages.map (i, ·)) :
    (w.step (.receive i bytes)).arrivedOn i = w.arrivedOn i ++ messages := by
  rw [arrivedOn_step, hadded]
  simp [List.filter_map, Function.comp_def]

/-- What a closed connection misses is judged like what an open one takes in. -/
theorem Follows.receive_closed (h : w.Follows i stream hungUp ms rest k)
    (hclosed : k.isOpen = false) (bytes : Bytes) {w' : Ledger}
    (hself : w'.listener.intake? i = w.listener.intake? i)
    (harrived : w'.arrivedOn i = w.arrivedOn i) :
    ∃ ms' rest' k', w'.Follows i (if hungUp then stream else stream ++ bytes) hungUp
      ms' rest' k' := by
  have hself : w'.listener.intake? i = some k := hself.trans h.self
  have harrived : w'.arrivedOn i = delivered none ms := harrived.trans h.arrived
  cases hungUp with
  | true => exact ⟨ms, rest, k, { h with self := hself, arrived := harrived }⟩
  | false =>
    by_cases hwelcome : Welcome none ms
    · -- the stream is broken, and what comes in later does not mend it
      have hbroken : Broken rest := h.ends.resolve_left fun hpending => by
        rw [h.isOpen.2 ⟨hpending, hwelcome, rfl⟩] at hclosed
        cases hclosed
      refine ⟨ms, rest ++ bytes, k, ?_⟩
      exact {
        self := hself
        holds := h.holds.append bytes
        ends := .inr (hbroken.append bytes)
        client := h.client
        isOpen := iff_of_false (by simp [hclosed]) fun h => (hbroken.append bytes).not_pending h.1
        unread := fun hopen => by simp [hclosed] at hopen
        arrived := harrived }
    · obtain ⟨ms', rest', hholds, hends⟩ := exists_holds (rest ++ bytes)
      obtain ⟨-, hclient, hdelivered⟩ := of_not_welcome hwelcome
      have hwelcome' := not_welcome_append hwelcome ms'
      obtain ⟨-, hclient', hdelivered'⟩ := of_not_welcome hwelcome'
      refine ⟨ms ++ ms', rest', k, ?_⟩
      exact {
        self := hself
        holds := (h.holds.append bytes).trans hholds
        ends := hends
        client := by rw [h.client, hclient, hclient']
        isOpen := iff_of_false (by simp [hclosed]) fun h => hwelcome' h.2.1
        unread := fun hopen => by simp [hclosed] at hopen
        arrived := by rw [harrived, hdelivered, hdelivered'] }

/-- What comes in on a connection is judged behind what had come in before. -/
theorem Follows.receive (h : w.Follows i stream hungUp ms rest k) (hw : w.Kept) (bytes : Bytes) :
    ∃ ms' rest' k', (w.step (.receive i bytes)).Follows i
      (if hungUp then stream else stream ++ bytes) hungUp ms' rest' k' := by
  rcases hw.receive_cases i bytes with
    ⟨hclosed, -, hsame, hadded⟩ | ⟨k₀, ms', rest', k', hself, hopen, hreads, hadded⟩
  · refine h.receive_closed (hclosed k h.self) bytes (hsame i) ?_
    have hadded : w.added (.receive i bytes) = List.map (i, ·) [] := hadded
    exact (arrivedOn_of_added hadded).trans (List.append_nil _)
  · cases h.self.symm.trans hself
    obtain ⟨-, hwelcome, rfl⟩ := h.isOpen.1 hopen
    have hholds : Holds (rest ++ bytes) ms' rest' := by
      rw [← h.unread hopen]
      exact hreads.holds
    refine ⟨ms ++ ms', rest', k', ?_⟩
    exact {
      self := hreads.self
      holds := (h.holds.append bytes).trans hholds
      ends := hreads.ends
      client := by rw [hwelcome.clientAfter_append, ← h.client, hreads.client]
      isOpen := by
        rw [hreads.isOpen, hwelcome.append_iff, ← h.client]
        simp
      unread := hreads.unread
      arrived := by
        rw [arrivedOn_of_added hadded, h.arrived, hwelcome.delivered_append, ← h.client] }

theorem Follows.close (h : w.Follows i stream hungUp ms rest k) :
    (w.step (.close i)).Follows i stream true ms rest k.ended where
  self := by
    show (w.listener.finish i).intake? i = _
    rw [intake?_finish, if_pos rfl, h.self, Option.map_some]
  holds := h.holds
  ends := h.ends
  client := by
    rw [← h.client, Intake.ended]
    split <;> rfl
  isOpen := by
    have hclosed : k.ended.isOpen = false := by
      unfold Intake.ended
      split
      · rfl
      · next hopen => exact Bool.of_not_eq_true hopen
    simp [hclosed]
  unread hopen := by
    unfold Intake.ended at hopen ⊢
    split at hopen
    · cases hopen
    · next hclosed => exact absurd hopen hclosed
  arrived := by
    rw [arrivedOn_step]
    exact (List.append_nil _).trans h.arrived

/-- What one action preserves. -/
theorem Follows.step (h : w.Follows i stream hungUp ms rest k) (hw : w.Kept) (hcalm : a.IsCalm) :
    ∃ ms' rest' k', (w.step a).Follows i (if hungUp then stream else stream ++ a.bytesOn i)
      (hungUp || a.closes i) ms' rest' k' := by
  by_cases hreceive : ∃ bytes, a = .receive i bytes
  · obtain ⟨bytes, rfl⟩ := hreceive
    simpa [Action.bytesOn, Action.closes] using h.receive hw bytes
  · have hreceive : ∀ bytes, a ≠ .receive i bytes := fun bytes ha => hreceive ⟨bytes, ha⟩
    have hbytes : a.bytesOn i = [] := by
      cases a with
      | receive j bytes => exact if_neg fun hj : i = j => hreceive bytes (by rw [hj])
      | _ => rfl
    rw [hbytes, List.append_nil, ite_self]
    by_cases hclose : a = .close i
    · subst hclose
      exact ⟨ms, rest, k.ended, by simpa [Action.closes] using h.close⟩
    · have hcloses : a.closes i = false := by
        cases a with
        | close j => exact decide_eq_false fun hj : i = j => hclose (by rw [hj])
        | _ => rfl
      rw [hcloses, Bool.or_false]
      refine ⟨ms, rest, k, { h with self := ?_, arrived := ?_ }⟩
      · exact hw.intake?_run hcalm h.self hreceive hclose
      · rw [hw.arrivedOn_of_ne hreceive, h.arrived]

theorem Follows.run (h : w.Follows i stream hungUp ms rest k) (hw : w.Kept)
    {actions : List Action} (hcalm : ∀ a ∈ actions, a.IsCalm) :
    ∃ ms' rest' k', (w.run actions).Follows i
      (if hungUp then stream else stream ++ Action.spoken i actions)
      (hungUp || actions.any (·.closes i)) ms' rest' k' := by
  induction actions generalizing w stream hungUp ms rest k with
  | nil => exact ⟨ms, rest, k, by simpa [Action.spoken, Ledger.run] using h⟩
  | cons a actions ih =>
    have ha := hcalm a List.mem_cons_self
    obtain ⟨ms₁, rest₁, k₁, h₁⟩ := h.step hw ha
    obtain ⟨ms', rest', k', h'⟩ :=
      ih h₁ (hw.step ha) fun b hb => hcalm b (List.mem_cons_of_mem a hb)
    refine ⟨ms', rest', k', ?_⟩
    have hstream : (if hungUp then stream else stream ++ Action.spoken i (a :: actions)) =
        if (hungUp || a.closes i) then if hungUp then stream else stream ++ a.bytesOn i
        else (if hungUp then stream else stream ++ a.bytesOn i) ++ Action.spoken i actions := by
      cases hungUp <;> cases ha : a.closes i <;> simp [Action.spoken, ha]
    rw [hstream, List.any_cons, ← Bool.or_assoc]
    exact h'

end Ledger

/-! ## Client ids of one connection -/

namespace View

variable {v v' : View} {i j : Nat} {client other : String}

/-- A connection is open and the only one that ever announced a client id. -/
def Alone (v : View) (client : String) (i : Nat) : Prop :=
  v.serves client i = true ∧
    ∀ j, j ≠ i → v.serves client j = false ∧ v.served client j = false

/-- A client id that only one connection announced leads to it as long as it is open. -/
def Leads (v : View) : Prop := ∀ client i, v.Alone client i → v.routes.get? client = some i

theorem Leads.announce (h : v.Leads) (hi : v.links i = none) (client : String) :
    (v.announce i client).Leads := by
  rintro other j ⟨hserves, hothers⟩
  rw [routes_announce]
  by_cases hc : client = other
  · subst hc
    rw [if_pos rfl]
    by_contra hij
    have hself := (hothers i fun h => hij (congrArg some h)).1
    simp [serves_announce] at hself
  · rw [if_neg hc]
    have hij : i ≠ j := by
      rintro rfl
      simp [serves_announce, hc] at hserves
    rw [serves_announce, if_neg hij] at hserves
    refine h other j ⟨hserves, fun m hm => ?_⟩
    have hothers := hothers m hm
    rw [serves_announce, served_announce_of_none hi] at hothers
    by_cases him : i = m
    · subst him
      exact ⟨by simp [serves, hi], hothers.2⟩
    · rwa [if_neg him] at hothers

theorem Leads.finish (h : v.Leads) {canSend : Bool}
    (hi : v.links i = some ⟨client, true, canSend⟩) : (v.finish i client).Leads := by
  rintro other j ⟨hserves, hothers⟩
  have hij : i ≠ j := by
    rintro rfl
    simp [View.serves_finish] at hserves
  rw [routes_finish]
  by_cases hc : client = other
  · have hself := (hothers i hij).2
    simp [served_finish, hc] at hself
  · rw [if_neg hc]
    rw [serves_finish_of_ne hi hc] at hserves
    refine h other j ⟨hserves, fun m hm => ?_⟩
    have hothers := hothers m hm
    rw [serves_finish_of_ne hi hc, served_finish] at hothers
    by_cases him : i = m
    · subst him
      exact ⟨hothers.1, by simp [served, hi]⟩
    · rwa [if_neg him] at hothers

theorem Read.leads (hread : v.Read i v') (h : v.Leads) : v'.Leads := by
  cases hread with
  | quiet => exact h
  | ended hi => exact h.finish hi
  | announced client hi => exact h.announce hi client
  | both client hi => exact (h.announce hi client).finish (announce_self v i client)

end View

namespace Listener

theorem leads_run {l : Listener} {a : Action} (h : l.view.Leads) (hcalm : a.IsCalm) :
    (a.run l).view.Leads := by
  cases a with
  | accept => exact l.view_accept.symm ▸ h
  | receive i bytes => exact (l.read_receive i bytes).leads h
  | close i => exact (l.read_finish i).leads h
  | send m => exact (l.view_send m).symm ▸ h
  | write i n => exact (l.view_update i (f := (·.write n)) fun _ => rfl).symm ▸ h
  | take => exact h
  | closeInbox => exact hcalm.elim
  | shutDown => exact hcalm.elim

end Listener

namespace Ledger

open Listener

variable {w : Ledger} {actions : List Action}

theorem listener_run (w : Ledger) (actions : List Action) :
    (w.run actions).listener = actions.foldl Action.run w.listener := by
  induction actions generalizing w with
  | nil => rfl
  | cons a actions ih => exact ih (w.step a)

theorem leads_run (h : w.listener.view.Leads) (hcalm : ∀ a ∈ actions, a.IsCalm) :
    (w.run actions).listener.view.Leads := by
  induction actions generalizing w with
  | nil => exact h
  | cons a actions ih =>
    have ha := hcalm a List.mem_cons_self
    exact ih (Listener.leads_run h ha) fun b hb => hcalm b (List.mem_cons_of_mem a hb)

/-- A client id leads nowhere but to an open connection that announced it. -/
theorem open_of_route {client : String} {i : Nat}
    (h : (run {} actions).listener.clients.get? client = some i) :
    ∃ k, (run {} actions).listener.intake? i = some k ∧ k.isOpen = true ∧
      k.client = some client := by
  have hwatch : ∀ (w : Watch) (actions : List Action),
      (actions.foldl Watch.step w).listener = actions.foldl Action.run w.listener := by
    intro w actions
    induction actions generalizing w with
    | nil => rfl
    | cons a actions ih => exact ih (w.step a)
  have hsound := Watch.sound_after actions
  rw [Watch.Sound, Watch.after, hwatch, ← listener_run {} actions] at hsound
  obtain ⟨hlink, -⟩ := hsound.route client i h
  obtain ⟨c, hc, hlink⟩ := Option.bind_eq_some_iff.1 hlink
  obtain ⟨_, hclient, hlink⟩ := Option.map_eq_some_iff.1 hlink
  obtain ⟨rfl, hopen, -⟩ := Link.mk.inj hlink
  exact ⟨c.intake, by rw [intake?, hc, Option.map_some], hopen, hclient⟩

theorem Follows.route {i : Nat} {stream rest : Bytes} {hungUp : Bool} {ms : List Message}
    {k : Intake} {client : String} (h : (Ledger.run {} actions).Follows i stream hungUp ms rest k)
    (hroute : (Ledger.run {} actions).listener.clients.get? client = some i) :
    clientAfter none ms = some client ∧ Pending rest ∧ hungUp = false := by
  obtain ⟨k', hself, hopen, hclient⟩ := open_of_route hroute
  cases h.self.symm.trans hself
  obtain ⟨hpending, -, hhungUp⟩ := h.isOpen.1 hopen
  exact ⟨h.client ▸ hclient, hpending, hhungUp⟩

theorem Follows.registered {i : Nat} {stream rest : Bytes} {hungUp : Bool} {ms : List Message}
    {k : Intake} {client : String} (h : w.Follows i stream hungUp ms rest k)
    (hleads : w.listener.view.Leads) (hclient : clientAfter none ms = some client)
    (hpending : Pending rest) (hhungUp : hungUp = false)
    (halone : ∀ (j : Nat) (c : Connection), w.listener.connections[j]? = some c →
      c.client = some client → j = i) :
    w.listener.clients.get? client = some i := by
  have hopen : k.isOpen = true := h.isOpen.2 ⟨hpending, .inr (by rw [hclient]; rfl), hhungUp⟩
  obtain ⟨c, hc, rfl⟩ := exists_connection h.self
  have hself : c.client = some client := h.client.trans hclient
  refine hleads client i ⟨?_, fun j hj => ?_⟩
  · have hopen : c.isOpen = true := hopen
    simp [View.serves, view, hc, Connection.link?, hself, hopen]
  · have hother : ∀ k : Link, w.listener.view.links j = some k → k.client ≠ client := by
      intro k hk hkc
      obtain ⟨c, hc, hlink⟩ := Option.bind_eq_some_iff.1 hk
      obtain ⟨_, hcc, rfl⟩ := Option.map_eq_some_iff.1 hlink
      exact hj (halone j c hc (hkc ▸ hcc))
    cases hlink : w.listener.view.links j with
    | none => simp [View.serves, View.served, hlink]
    | some k => simp [View.serves, View.served, hlink, hother k hlink]

/-- What a connection has come to when these messages were at the front of its stream, this rest
is left of it, and its worker has hung up or not. -/
structure Accounts (w : Ledger) (i : Nat) (ms : List Message) (rest : Bytes) (hungUp : Bool) :
    Prop where
  /-- Nothing but the messages behind the announcement reached the inbox, each once. -/
  arrived : w.arrivedOn i = delivered none ms
  isOpen : (∃ c : Connection, w.listener.connections[i]? = some c ∧ c.isOpen = true) ↔
    Pending rest ∧ Welcome none ms ∧ hungUp = false
  /-- No client id leads to the connection but the announced one, and that only until its end. -/
  route : ∀ client, w.listener.clients.get? client = some i →
    clientAfter none ms = some client ∧ Pending rest ∧ hungUp = false
  /-- Until then it does, unless the client id was announced elsewhere too. -/
  registered : ∀ client, clientAfter none ms = some client → Pending rest → hungUp = false →
    (∀ (j : Nat) (c : Connection), w.listener.connections[j]? = some c →
      c.client = some client → j = i) → w.listener.clients.get? client = some i

/-- Whatever bytes the worker of an accepted connection sends, however they are cut, and whatever
happens on other connections: the messages at the front of the stream decide. If the first one
announces a client id, the others reach the inbox in their order under this client id; if it does
not, nothing reaches the inbox and no client id leads here. What is not understood and the end of
the stream end the connection, and with it what leads here. -/
theorem intake_exact {before later : List Action} {i : Nat}
    (hcalm : ∀ a ∈ before ++ .accept :: later, a.IsCalm)
    (hi : (run {} before).listener.connections.length = i)
    (haccept : (run {} before).listener.accept.connections[i]? = some ({} : Connection)) :
    let w := run {} (before ++ .accept :: later)
    w.arrived.map (·.2) = w.taken ++ w.listener.inbox.messages ∧
      ∃ ms rest, Holds (Action.spoken i later) ms rest ∧ (Pending rest ∨ Broken rest) ∧
        w.Accounts i ms rest (later.any (·.closes i)) := by
  have hcalmBefore : ∀ a ∈ before, a.IsCalm := fun a ha => hcalm a (List.mem_append_left _ ha)
  have hcalmLater : ∀ a ∈ later, a.IsCalm := fun a ha =>
    hcalm a (List.mem_append_right _ (List.mem_cons_of_mem _ ha))
  have hkept : (run {} before).Kept := Kept.start.run hcalmBefore
  have hnew : (run {} before).arrivedOn i = [] := by
    rw [arrivedOn, List.filter_eq_nil_iff.2, List.map_nil]
    intro x hx hxi
    have hknown := hkept.known x hx
    rw [of_decide_eq_true hxi, intake?, ← hi, List.getElem?_eq_none (Nat.le_refl _)] at hknown
    cases hknown
  have hfollows : ((run {} before).step .accept).Follows i [] false [] [] ⟨[], none, true⟩ := by
    exact {
      self := by
        show (run {} before).listener.accept.intake? i = _
        rw [intake?, haccept]
        rfl
      holds := .nil
      ends := .inl pending_nil
      client := rfl
      isOpen := iff_of_true rfl ⟨pending_nil, .inl rfl, rfl⟩
      unread := fun _ => rfl
      arrived := (arrivedOn_step ..).trans (by rw [hnew]; rfl) }
  obtain ⟨ms, rest, k, h⟩ := hfollows.run (hkept.step (a := .accept) trivial) hcalmLater
  have hrun : run {} (before ++ .accept :: later) = ((run {} before).step .accept).run later := by
    simp only [run, List.foldl_append, List.foldl_cons]
  rw [← hrun] at h
  obtain ⟨messages, hinbox, harrived⟩ := (Kept.start.run hcalm).inbox
  refine ⟨by rw [harrived, hinbox]; rfl, ms, rest, h.holds, h.ends, ?_⟩
  exact {
    arrived := h.arrived
    isOpen := by
      refine Iff.trans ?_ h.isOpen
      obtain ⟨c, hc, rfl⟩ := exists_connection h.self
      constructor
      · rintro ⟨c', hc', hopen⟩
        cases hc.symm.trans hc'
        exact hopen
      · exact fun hopen => ⟨c, hc, hopen⟩
    route := fun client hroute => h.route hroute
    registered := fun client hclient hpending hhungUp halone =>
      h.registered (leads_run (by rintro _ _ ⟨hs, -⟩; cases hs) hcalm) hclient hpending hhungUp
        halone }

/-- A message in a frame, if it fits one. -/
def framed (m : Message) : Bytes :=
  match writeMessage m with
  | .ok bytes => bytes
  | .error _ => []

/-- The first connection is the boss's. -/
def bossFirst : List Action :=
  [.accept, .receive 0 (framed ⟨Message.readyTopic, some "boss", .null⟩)]

/-- A worker announces itself in two pieces, claims to be the boss, and sends a frame that holds
no message and one that would; the boss sends something meanwhile. -/
def impostor : List Action :=
  let stream := framed ⟨Message.readyTopic, some "ann", .null⟩ ++
    framed ⟨"raise", some "boss", .null⟩ ++ [0, 0, 0, 1, 120] ++ framed ⟨"late", none, .null⟩
  [.receive 1 (stream.take 7), .receive 0 (framed ⟨"work", none, .null⟩),
    .receive 1 (stream.drop 7), .take, .close 1]

/-- Its claim counts under its own client id, and nothing behind the broken frame counts. -/
theorem impostor_intake :
    let w := run {} (bossFirst ++ .accept :: impostor)
    (∀ a ∈ bossFirst ++ .accept :: impostor, a.IsCalm) ∧
      (run {} bossFirst).listener.accept.connections[1]? = some ({} : Connection) ∧
      w.arrived.map (fun x => (x.1, x.2.topic, x.2.nodeId)) =
        [(0, "work", some "boss"), (1, "raise", some "ann")] ∧
      ∃ ms rest, Holds (Action.spoken 1 impostor) ms rest ∧ (Pending rest ∨ Broken rest) ∧
        w.Accounts 1 ms rest true := by
  have hcalm : ∀ a ∈ bossFirst ++ .accept :: impostor, a.IsCalm := by
    simp [bossFirst, impostor, Action.IsCalm]
  have hone : (run {} bossFirst).listener.connections.length = 1 := by decide +kernel
  have haccept : (run {} bossFirst).listener.accept.connections[1]? = some ({} : Connection) := by
    rw [← hone]
    exact Listener.connection_accept (by decide +kernel) (by decide +kernel)
  obtain ⟨-, haccounts⟩ := intake_exact hcalm hone haccept
  refine ⟨hcalm, haccept, by decide +kernel, haccounts⟩

end Ledger

end LoadTest.Transport
