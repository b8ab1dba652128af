import LoadTest.Proofs.Cluster.Freshness
/-!
# Undisturbed runs

In an undisturbed run no call times out or is given up, no channel closes, and the calls of a
user follow one another. Messages still take any time and overtake each other. Every request
then goes its way to the coordinator and back, and nothing is lost.
-/

namespace LoadTest

/-- A call that may make several attempts. -/
def Method.IsPop (m : Method) : Prop := ∃ key wait, m = .pop key wait

theorem Method.isPop_of_again {m : Method} {isFirst : Bool} {elapsed : Duration}
    {r : Except Error Reading} (h : m.next isFirst elapsed r = .again) : m.IsPop := by
  cases m with
  | pop key wait => exact ⟨key, wait, rfl⟩
  | _ => cases h

namespace Cluster

open Transport

/-- A call that is over has a result. -/
def Call.IsOver (c : Call) : Prop := c.result?.isSome = true

instance (c : Call) : Decidable c.IsOver := inferInstanceAs (Decidable (_ = true))

/-- What may happen in an undisturbed run: a user begins a call only when the calls before it
are over. -/
def Undisturbed (s : State) : Action → Prop
  | .pass _ | .serve _ | .receive .. | .attempt _ | .complete _ | .wake _ | .connect ..
  | .join .. => True
  | .begin user _ => ∀ c ∈ s.calls, c.user = user → c.IsOver
  | _ => False

instance (s : State) : ∀ a, Decidable (Undisturbed s a)
  | .pass _ | .serve _ | .receive .. | .attempt _ | .complete _ | .wake _ | .connect ..
  | .join .. => .isTrue trivial
  | .begin user _ => inferInstanceAs (Decidable (∀ c ∈ s.calls, c.user = user → c.IsOver))
  | .perform | .endReplies _ | .expire _ | .cancel _ | .inject .. | .disconnect _
  | .dropWorker _ | .closeService | .testStop _ | .stop _ => .isFalse id

theorem Undisturbed.honest {s : State} {a : Action} (h : Undisturbed s a) : Honest s a := by
  cases a with
  | inject worker topic data => exact h
  | _ => trivial

/-! ## Channels -/

/-- Every channel is open. -/
structure Open (s : State) : Prop where
  coordinator : s.hub.coordinator ≠ none
  tables : ∀ w ∈ s.workers, w.table.isClosed = false ∧ ∀ e ∈ w.table.entries, e.slot ≠ .closed
  inboxes : ∀ w ∈ s.workers, w.client ∈ s.hub.connected ∧ s.hub.inbox w.client ≠ none

namespace Open

variable {s : State}

/-- A table is replaced by one that is still open. -/
theorem setTable (h : Open s) (worker : Nat) {t : Correlation.Table} (hc : t.isClosed = false)
    (he : ∀ e ∈ t.entries, e.slot ≠ .closed) : Open (s.setTable worker t) := by
  have hcases : ∀ w' ∈ (s.setTable worker t).workers,
      ∃ w ∈ s.workers, w'.client = w.client ∧ (w' = w ∨ w'.table = t) := by
    intro w' hw'
    obtain ⟨i, hi⟩ := List.mem_iff_getElem?.1 hw'
    have hi : (s.workers.modify worker _)[i]? = some w' := hi
    rw [List.getElem?_modify] at hi
    obtain ⟨w, hw, rfl⟩ := Option.map_eq_some_iff.1 hi
    refine ⟨w, List.mem_of_getElem? hw, ?_⟩
    split
    · exact ⟨rfl, .inr rfl⟩
    · exact ⟨rfl, .inl rfl⟩
  refine ⟨h.coordinator, ?_, ?_⟩
  · intro w' hw'
    obtain ⟨w, hw, -, rfl | ht⟩ := hcases w' hw'
    · exact h.tables w' hw
    · rw [ht]
      exact ⟨hc, he⟩
  · intro w' hw'
    obtain ⟨w, hw, hclient, -⟩ := hcases w' hw'
    rw [hclient]
    exact h.inboxes w hw

/-- The messages in the inboxes make no difference. -/
theorem setHub (h : Open s) (hub : Hub) (hc : hub.coordinator ≠ none)
    (hconnected : ∀ client ∈ s.hub.connected, client ∈ hub.connected)
    (hinbox : ∀ client, s.hub.inbox client ≠ none → hub.inbox client ≠ none) :
    Open { s with hub := hub } where
  coordinator := hc
  tables := h.tables
  inboxes w hw := ⟨hconnected _ (h.inboxes w hw).1, hinbox _ (h.inboxes w hw).2⟩

/-- Only the hub and the workers have channels. -/
theorem congr (h : Open s) {s' : State} (hhub : s'.hub = s.hub) (hw : s'.workers = s.workers) :
    Open s' := by
  obtain ⟨hc, ht, hi⟩ := h
  rw [← hhub] at hc hi
  rw [← hw] at ht hi
  exact ⟨hc, ht, hi⟩

/-- The channels of a worker that connects are open. -/
theorem connect (h : Open s) {client : String} {w : Worker} (hclient : w.client = client)
    (ht : w.table = {}) :
    Open { s with hub := s.hub.connect client, workers := s.workers ++ [w] } := by
  have hinbox : ∀ other, (s.hub.connect client).inbox other =
      if other = client then .empty else s.hub.inbox other :=
    Hub.inbox_setInbox s.hub client .empty
  refine ⟨h.coordinator, ?_, ?_⟩
  · intro w' hw'
    rcases List.mem_append.1 hw' with hold | hnew
    · exact h.tables w' hold
    · rw [List.mem_singleton.1 hnew, ht]
      refine ⟨rfl, ?_⟩
      intro e he
      cases he
  · intro w' hw'
    show w'.client ∈ s.hub.connected ++ [client] ∧ (s.hub.connect client).inbox w'.client ≠ none
    rw [hinbox]
    rcases List.mem_append.1 hw' with hold | hnew
    · obtain ⟨hconnected, hopen⟩ := h.inboxes w' hold
      refine ⟨List.mem_append_left _ hconnected, ?_⟩
      split
      · exact Option.some_ne_none _
      · exact hopen
    · rw [List.mem_singleton.1 hnew, hclient, if_pos rfl]
      exact ⟨List.mem_append_right _ (List.mem_singleton.2 rfl), Option.some_ne_none _⟩

end Open

/-! ## The calls of a user -/

/-- The calls of a user follow one another. -/
def Ordered (calls : List Call) : Prop :=
  ∀ (j k : Nat) (cj ck : Call), j < k → calls[j]? = some cj → calls[k]? = some ck →
    cj.user = ck.user → cj.IsOver

namespace Ordered

variable {calls : List Call} {call : Nat} {c c' : Call}

/-- A call that was not over goes on. -/
theorem set (h : Ordered calls) (hc : calls[call]? = some c) (hover : ¬ c.IsOver)
    (hu : c'.user = c.user) : Ordered (calls.set call c') := by
  intro j k cj ck hjk hj hk huser
  rcases getElem?_set_cases hj with ⟨rfl, rfl⟩ | ⟨-, hjold⟩
  · -- No call of the same user can come after one that was not over.
    rcases getElem?_set_cases hk with ⟨rfl, -⟩ | ⟨-, hkold⟩
    · exact absurd hjk (Nat.lt_irrefl k)
    · exact absurd (h j k c ck hjk hc hkold (hu.symm.trans huser)) hover
  · rcases getElem?_set_cases hk with ⟨rfl, rfl⟩ | ⟨-, hkold⟩
    · exact h j k cj c hjk hjold hc (huser.trans hu)
    · exact h j k cj ck hjk hjold hkold huser

/-- A call begins when those of its user are over. -/
theorem concat (h : Ordered calls) (hover : ∀ c ∈ calls, c.user = c'.user → c.IsOver) :
    Ordered (calls ++ [c']) := by
  intro j k cj ck hjk hj hk huser
  have hlt : j < calls.length := by
    have hkl := (List.getElem?_eq_some_iff.1 hk).1
    rw [List.length_append, List.length_singleton] at hkl
    omega
  rw [List.getElem?_append_left hlt] at hj
  rcases Nat.lt_or_ge k calls.length with hkl | hkl
  · rw [List.getElem?_append_left hkl] at hk
    exact h j k cj ck hjk hj hk huser
  · rw [List.getElem?_append_right hkl] at hk
    have hck := List.mem_singleton.1 (List.mem_of_getElem? hk)
    exact hover cj (List.mem_of_getElem? hj) (by rw [huser, hck])

/-- Of the calls of a user only one is not over. -/
theorem eq_of_not_over (h : Ordered calls) {j k : Nat} {cj ck : Call}
    (hj : calls[j]? = some cj) (hk : calls[k]? = some ck) (hu : cj.user = ck.user)
    (hcj : ¬ cj.IsOver) (hck : ¬ ck.IsOver) : j = k := by
  rcases Nat.lt_trichotomy j k with hlt | heq | hgt
  · exact absurd (h j k cj ck hlt hj hk hu) hcj
  · exact heq
  · exact absurd (h k j ck cj hgt hk hj hu.symm) hck

end Ordered

/-! ## The way of a request -/

/-- Every request is on its way to the coordinator or was answered, and every reply is on its
way to its worker or was read. What was read before a request was sent answers requests that
the coordinator took before it. -/
structure Trace.Travels (t : Trace) : Prop where
  lost : t.lost = []
  requests : ∀ a ∈ t.sent, a ∈ t.requests ∨ ∃ r ∈ t.served, r.attempt = a
  replies : ∀ r ∈ t.served, r ∈ t.replies r.attempt.client ∨ ∃ x ∈ t.heard, x.reply = r
  order : ∀ (i : Nat) (r : Reply), t.served[i]? = some r →
    ∀ x ∈ t.heard.take r.attempt.since, x.reply ∈ t.served.take i

namespace Trace.Travels

variable {t : Trace}

/-- A request is sent. -/
theorem send (h : t.Travels) (a : Attempt) :
    Travels { t with sent := t.sent ++ [a], requests := t.requests ++ [a] } where
  lost := h.lost
  requests := by
    intro b hb
    rcases List.mem_append.1 hb with hold | hnew
    · rcases h.requests b hold with hrequest | hserved
      · exact .inl (List.mem_append_left _ hrequest)
      · exact .inr hserved
    · exact .inl (List.mem_append_right _ hnew)
  replies := h.replies
  order := h.order

/-- The coordinator answers a request, and the reply is delivered. -/
theorem serve (h : t.Travels) (hsound : t.Sound) {r : Reply} {position : Nat}
    (hr : t.requests[position]? = some r.attempt) :
    Travels (setReplies { t with
      requests := t.requests.eraseIdx position
      served := t.served ++ [r] } r.attempt.client (t.replies r.attempt.client ++ [r])) where
  lost := h.lost
  requests := by
    intro a ha
    rcases h.requests a ha with hrequest | ⟨r', hserved, hattempt⟩
    · rcases List.mem_cons.1 ((perm_cons_eraseIdx hr).mem_iff.1 hrequest) with rfl | hrest
      · exact .inr ⟨r, List.mem_append_right _ (List.mem_singleton.2 rfl), rfl⟩
      · exact .inl hrest
    · exact .inr ⟨r', List.mem_append_left _ hserved, hattempt⟩
  replies := by
    intro r' hr'
    simp only [setReplies]
    rcases List.mem_append.1 hr' with hold | hnew
    · rcases h.replies r' hold with hreply | hheard
      · left
        by_cases hc : r'.attempt.client = r.attempt.client
        · rw [hc, Function.update_self]
          rw [hc] at hreply
          exact List.mem_append_left _ hreply
        · rw [Function.update_of_ne hc]
          exact hreply
      · exact .inr hheard
    · left
      rw [List.mem_singleton.1 hnew, Function.update_self]
      exact List.mem_append_right _ (List.mem_singleton.2 rfl)
  order := by
    intro i r' hr' x hx
    have hr' : (t.served ++ [r])[i]? = some r' := hr'
    show x.reply ∈ (t.served ++ [r]).take i
    rcases Nat.lt_or_ge i t.served.length with hi | hi
    · rw [List.getElem?_append_left hi] at hr'
      rw [List.take_append_of_le_length (Nat.le_of_lt hi)]
      exact h.order i r' hr' x hx
    · rw [List.take_append, List.take_of_length_le hi]
      exact List.mem_append_left _ (hsound.heard x (List.mem_of_mem_take hx))

/-- A worker reads a reply. -/
theorem hear (h : t.Travels) (hsound : t.Sound) {client : String} {position : Nat} {r : Reply}
    (hr : (t.replies client)[position]? = some r) (resolves : Option Attempt) :
    Travels { t.setReplies client ((t.replies client).eraseIdx position) with
      heard := t.heard ++ [⟨r, resolves⟩] } where
  lost := h.lost
  requests := h.requests
  replies := by
    intro r' hr'
    simp only [setReplies]
    rcases h.replies r' hr' with hreply | ⟨x, hx, hxr⟩
    · by_cases hc : r'.attempt.client = client
      · rw [hc, Function.update_self]
        rw [hc] at hreply
        rcases List.mem_cons.1 ((perm_cons_eraseIdx hr).mem_iff.1 hreply) with heq | hrest
        · right
          refine ⟨⟨r, resolves⟩, ?_, heq.symm⟩
          exact List.mem_append_right _ (List.mem_singleton.2 rfl)
        · exact .inl hrest
      · rw [Function.update_of_ne hc]
        exact .inl hreply
    · right
      refine ⟨x, ?_, hxr⟩
      exact List.mem_append_left _ hx
  order := by
    intro i r' hr' x hx
    have hsince := hsound.since _ (hsound.mem_sent (List.mem_of_getElem? hr'))
    have hx : x ∈ (t.heard ++ [(⟨r, resolves⟩ : Heard)]).take r'.attempt.since := hx
    rw [List.take_append_of_le_length hsince] at hx
    exact h.order i r' hr' x hx

end Trace.Travels

/-! ## What calls come to -/

/-- A ticket is the last one under which a call has sent a request. -/
def Trace.IsLast (t : Trace) (call : Nat) (ticket : Correlation.Ticket) : Prop :=
  ∀ a ∈ t.sent, a.call = call → a.ticket.token ≤ ticket.token

/-- What the trace knows of a call. Before a call has sent a request it has nothing to do with
the trace, and only a pop goes back to that state after a request. The result of a call is
that of the reply which has resolved its last request. -/
def Call.Told (c : Call) (t : Trace) (call : Nat) : Prop :=
  match c.phase with
  | .ready | .sleeping _ => c.method.IsPop ∨ ∀ a ∈ t.sent, a.call ≠ call
  | .waiting ticket _ => t.IsLast call ticket
  | .finished result => ∃ x ∈ t.heard, ∃ a, x.resolves = some a ∧ a.call = call ∧
    a.method = c.method ∧ t.IsLast call a.ticket ∧ ∃ isFirst elapsed,
      c.method.next isFirst elapsed (c.method.read x.reply.response) = .finish result
  | .cancelled => True

/-- Requests of other calls and more replies make no difference to a call. -/
theorem Call.Told.mono {c : Call} {t t' : Trace} {call : Nat} (h : c.Told t call)
    (hs : ∀ a ∈ t'.sent, a ∈ t.sent ∨ a.call ≠ call) (hh : ∀ x ∈ t.heard, x ∈ t'.heard) :
    c.Told t' call := by
  have hlast : ∀ ticket, t.IsLast call ticket → t'.IsLast call ticket := by
    intro ticket hl a ha hcall
    rcases hs a ha with hold | hne
    · exact hl a hold hcall
    · exact absurd hcall hne
  have hnone : (∀ a ∈ t.sent, a.call ≠ call) → ∀ a ∈ t'.sent, a.call ≠ call := by
    intro hn a ha
    rcases hs a ha with hold | hne
    · exact hn a hold
    · exact hne
  obtain ⟨user, method, began, attempted, isFirst, phase⟩ := c
  cases phase with
  | ready => exact h.imp_right hnone
  | sleeping deadline => exact h.imp_right hnone
  | waiting ticket deadline => exact hlast ticket h
  | finished result =>
    obtain ⟨x, hx, a, hres, hcall, hm, hl, hnext⟩ := h
    exact ⟨x, hh x hx, a, hres, hcall, hm, hlast _ hl, hnext⟩
  | cancelled => trivial

/-- An attempt that is over has brought a result, or the call is a pop. -/
theorem Call.told_after {c : Call} {t : Trace} {call now : Nat} {w : Worker}
    {reply : Except Error Json} (hresult : ∀ isFirst elapsed result,
      c.method.next isFirst elapsed (c.method.outcome reply) = .finish result →
        ({ c with phase := .finished result } : Call).Told t call) :
    (c.after now w reply).Told t call := by
  unfold Call.after
  split
  · next result hnext => exact hresult _ _ result hnext
  · next hnext => exact .inl (Method.isPop_of_again hnext)

/-- The trace tells of every call, and only pops send more than one request. -/
structure Told (calls : List Call) (t : Trace) : Prop where
  calls : ∀ (k : Nat) (c : Call), calls[k]? = some c → c.Told t k
  once : ∀ a ∈ t.sent, ∀ b ∈ t.sent, a.call = b.call → a = b ∨ a.method.IsPop

namespace Told

variable {calls : List Call} {t t' : Trace} {call : Nat} {c c' : Call}

/-- Replies are read. -/
theorem mono (h : Told calls t) (hs : t'.sent = t.sent) (hh : ∀ x ∈ t.heard, x ∈ t'.heard) :
    Told calls t' where
  calls k c hc := (h.calls k c hc).mono (fun a ha => .inl (by rw [← hs]; exact ha)) hh
  once := by
    rw [hs]
    exact h.once

/-- A call goes on. -/
theorem set (h : Told calls t) (hnew : c'.Told t call) : Told (calls.set call c') t where
  calls k ck hk := by
    rcases getElem?_set_cases hk with ⟨rfl, rfl⟩ | ⟨-, hold⟩
    · exact hnew
    · exact h.calls k ck hold
  once := h.once

/-- A call begins. -/
theorem concat (h : Told calls t) (hsent : ∀ a ∈ t.sent, a.call < calls.length)
    (hready : c'.phase = .ready) : Told (calls ++ [c']) t where
  calls k ck hk := by
    rcases Nat.lt_or_ge k calls.length with hkl | hkl
    · rw [List.getElem?_append_left hkl] at hk
      exact h.calls k ck hk
    · rw [List.getElem?_append_right hkl] at hk
      rw [List.mem_singleton.1 (List.mem_of_getElem? hk), Call.Told, hready]
      right
      intro a ha hcall
      have hlt := hsent a ha
      omega
  once := h.once

/-- A call that is ready sends a request. -/
theorem send (h : Told calls t) (hc : calls[call]? = some c) (hready : c.phase = .ready)
    {a : Attempt} (hcall : a.call = call) (hm : a.method = c.method)
    (hmethods : ∀ b ∈ t.sent, b.call = call → b.method = c.method)
    (htokens : ∀ b ∈ t.sent, b.call = call → b.ticket.token ≤ a.ticket.token)
    {deadline : Nat} (hwaiting : c'.phase = .waiting a.ticket deadline)
    (hs : t'.sent = t.sent ++ [a]) (hh : t'.heard = t.heard) :
    Told (calls.set call c') t' := by
  have hfirst : c.method.IsPop ∨ ∀ b ∈ t.sent, b.call ≠ call := by
    have htold := h.calls call c hc
    rw [Call.Told, hready] at htold
    exact htold
  have hsent : ∀ b ∈ t'.sent, b ∈ t.sent ∨ b = a := by
    intro b hb
    rw [hs] at hb
    rcases List.mem_append.1 hb with hold | hnew
    · exact .inl hold
    · exact .inr (List.mem_singleton.1 hnew)
  constructor
  · intro k ck hk
    rcases getElem?_set_cases hk with ⟨rfl, rfl⟩ | ⟨hne, hold⟩
    · rw [Call.Told, hwaiting]
      intro b hb hbk
      rcases hsent b hb with hb | rfl
      · exact htokens b hb hbk
      · exact Nat.le_refl _
    · refine (h.calls k ck hold).mono ?_ ?_
      · intro b hb
        rcases hsent b hb with hb | rfl
        · exact .inl hb
        · exact .inr fun heq => hne (heq.symm.trans hcall)
      · intro x hx
        rw [hh]
        exact hx
  · intro b hb b' hb' hbb
    rcases hsent b hb with hb | rfl
    · rcases hsent b' hb' with hb' | rfl
      · exact h.once b hb b' hb' hbb
      · rcases hfirst with hpop | hnone
        · right
          rw [hmethods b hb (hbb.trans hcall)]
          exact hpop
        · exact absurd (hbb.trans hcall) (hnone b hb)
    · rcases hsent b' hb' with hb' | rfl
      · rcases hfirst with hpop | hnone
        · right
          rw [hm]
          exact hpop
        · exact absurd (hbb.symm.trans hcall) (hnone b' hb')
      · exact .inl rfl

end Told

end Cluster

end LoadTest
