import LoadTest.Proofs.Cluster.View
/-!
# Sound traces

Every request in a trace was sent by a call, is taken at most once, and gets at most one
reply, which is delivered and read at most once. Each way in which a trace goes on keeps
that.
-/

namespace LoadTest.Cluster

open Transport

/-- A request was sent by a call of a user of a worker, under a token of that worker. -/
structure Genuine (s : State) (a : Attempt) : Prop where
  call : ∃ c, s.calls[a.call]? = some c ∧ c.user = a.user ∧ c.method = a.method
  user : s.users[a.user]? = some ⟨a.worker, a.consumer⟩
  worker : ∃ w, s.workers[a.worker]? = some w ∧ w.client = a.client ∧
    a.ticket.token < w.table.nextToken
  uid : a.ticket.uid = a.consumer.uid

theorem Genuine.mono {s s' : State} {a : Attempt} (h : Genuine s a) (hg : Grows s s') :
    Genuine s' a where
  call := by
    obtain ⟨c, hc, hu, hm⟩ := h.call
    obtain ⟨c', hc', hu', hm'⟩ := hg.calls hc
    exact ⟨c', hc', hu'.trans hu, hm'.trans hm⟩
  user := hg.users h.user
  worker := by
    obtain ⟨w, hw, hc, ht⟩ := h.worker
    obtain ⟨w', hw', hc', ht'⟩ := hg.workers hw
    exact ⟨w', hw', hc'.trans hc, Nat.lt_of_lt_of_le ht ht'⟩
  uid := h.uid

/-- The call of a request has the user and the method of the request. -/
theorem Genuine.of_call {s : State} {a : Attempt} (h : Genuine s a) {c : Call}
    (hc : s.calls[a.call]? = some c) : c.user = a.user ∧ c.method = a.method := by
  obtain ⟨c', hc', hu, hm⟩ := h.call
  rw [hc] at hc'
  obtain rfl := Option.some.inj hc'
  exact ⟨hu, hm⟩

/-- The worker of a request has its client id, and has given out its token. -/
theorem Genuine.of_worker {s : State} {a : Attempt} (h : Genuine s a) {w : Worker}
    (hw : s.workers[a.worker]? = some w) :
    w.client = a.client ∧ a.ticket.token < w.table.nextToken := by
  obtain ⟨w', hw', hc, ht⟩ := h.worker
  rw [hw] at hw'
  obtain rfl := Option.some.inj hw'
  exact ⟨hc, ht⟩

/-! ## The trace -/

theorem perm_cons_eraseIdx {α : Type} {l : List α} {i : Nat} {x : α} (h : l[i]? = some x) :
    l.Perm (x :: l.eraseIdx i) := by
  obtain ⟨hlt, rfl⟩ := List.getElem?_eq_some_iff.1 h
  exact (List.getElem_cons_eraseIdx_perm hlt).symm

/-- Each request is taken at most once, and each reply is delivered at most once and read at
most once. A call is resolved by the first reply that its worker reads for its consumer. -/
structure Trace.Sound (t : Trace) : Prop where
  ids : (t.sent.map Attempt.id).Nodup
  arrived : ∀ a ∈ t.requests ++ t.served.map (·.attempt), a ∈ t.sent
  once : (t.requests ++ t.served.map (·.attempt)).Nodup
  delivered : ∀ client, ∀ r ∈ t.replies client, r ∈ t.served ∧ r.attempt.client = client
  heard : ∀ x ∈ t.heard, x.reply ∈ t.served
  single : ∀ client, ((t.replies client ++ t.heard.map (·.reply)).map (·.attempt)).Nodup
  since : ∀ a ∈ t.sent, a.since ≤ t.heard.length
  resolves : ∀ x ∈ t.heard, ∀ a, x.resolves = some a → a ∈ t.sent ∧ t.firstReply? a = some x

/-- One more reply is the first one for a consumer only if there was none before. -/
theorem Trace.firstReply?_concat {t t' : Trace} {x : Heard} (ht : t'.heard = t.heard ++ [x])
    {a : Attempt} (ha : a.since ≤ t.heard.length) :
    t'.firstReply? a =
      (t.firstReply? a).or (if x.reply.attempt.SameConsumer a then some x else none) := by
  rw [firstReply?, ht, List.drop_append_of_le_length ha, List.find?_append]
  by_cases hx : x.reply.attempt.SameConsumer a
  · rw [if_pos hx, List.find?_cons_of_pos (by simpa using hx)]
    rfl
  · rw [if_neg hx, List.find?_cons_of_neg (by simpa using hx)]
    rfl

namespace Trace.Sound

variable {t : Trace}

theorem mem_sent (h : t.Sound) {r : Reply} (hr : r ∈ t.served) : r.attempt ∈ t.sent :=
  h.arrived _ (List.mem_append_right _ (List.mem_map_of_mem hr))

theorem eq_of_id (h : t.Sound) {a b : Attempt} (ha : a ∈ t.sent) (hb : b ∈ t.sent)
    (hid : a.id = b.id) : a = b :=
  List.inj_on_of_nodup_map h.ids ha hb hid

theorem eq_of_ticket (h : t.Sound) {a b : Attempt} (ha : a ∈ t.sent) (hb : b ∈ t.sent)
    (hw : a.worker = b.worker) (ht : a.ticket = b.ticket) : a = b :=
  h.eq_of_id ha hb (by rw [Attempt.id, Attempt.id, hw, ht])

/-- A request is found under its ticket. -/
theorem find?_eq (h : t.Sound) {a : Attempt} (ha : a ∈ t.sent) :
    t.find? a.worker a.ticket = some a := by
  unfold find?
  cases hf : t.sent.find? fun b => b.id = (a.worker, a.ticket) with
  | none =>
    rw [List.find?_eq_none] at hf
    exact absurd (by simp [Attempt.id]) (hf a ha)
  | some b =>
    have hid : b.id = (a.worker, a.ticket) := by simpa using List.find?_some hf
    rw [h.eq_of_id (List.mem_of_find?_eq_some hf) ha hid]

/-- No reply has been made for a request that still waits for the coordinator. -/
theorem unanswered (h : t.Sound) {a : Attempt} (ha : a ∈ t.requests) (client : String) :
    a ∉ (t.replies client ++ t.heard.map (·.reply)).map (·.attempt) := by
  intro hmem
  obtain ⟨r, hr, hra⟩ := List.mem_map.1 hmem
  have hserved : r ∈ t.served := by
    rcases List.mem_append.1 hr with hr | hr
    · exact (h.delivered client r hr).1
    · obtain ⟨x, hx, hxr⟩ := List.mem_map.1 hr
      rw [← hxr]
      exact h.heard x hx
  exact List.disjoint_of_nodup_append h.once ha (hra ▸ List.mem_map_of_mem hserved)

/-- A request is sent. -/
theorem send (h : t.Sound) {a : Attempt} (fresh : ∀ b ∈ t.sent, b.id ≠ a.id)
    (since : a.since = t.heard.length) :
    Sound { t with sent := t.sent ++ [a], requests := t.requests ++ [a] } where
  ids := by
    show ((t.sent ++ [a]).map Attempt.id).Nodup
    rw [List.map_append, List.nodup_append']
    refine ⟨h.ids, List.nodup_singleton _, ?_⟩
    intro i hi hi'
    obtain ⟨b, hb, hbi⟩ := List.mem_map.1 hi
    obtain rfl := List.mem_singleton.1 hi'
    exact fresh b hb hbi
  arrived := by
    intro b hb
    rcases List.mem_append.1 hb with hb | hb
    · rcases List.mem_append.1 hb with hb | hb
      · exact List.mem_append_left _ (h.arrived b (List.mem_append_left _ hb))
      · exact List.mem_append_right _ hb
    · exact List.mem_append_left _ (h.arrived b (List.mem_append_right _ hb))
  once := by
    show ((t.requests ++ [a]) ++ t.served.map (·.attempt)).Nodup
    have hperm : ((t.requests ++ [a]) ++ t.served.map (·.attempt)).Perm
        (a :: (t.requests ++ t.served.map (·.attempt))) := by
      rw [List.append_assoc]
      exact List.perm_middle
    rw [hperm.nodup_iff, List.nodup_cons]
    exact ⟨fun ha => fresh a (h.arrived a ha) rfl, h.once⟩
  delivered := h.delivered
  heard := h.heard
  single := h.single
  since := by
    intro b hb
    rcases List.mem_append.1 hb with hb | hb
    · exact h.since b hb
    · rw [List.mem_singleton.1 hb]
      exact Nat.le_of_eq since
  resolves x hx b hb :=
    ⟨List.mem_append_left _ (h.resolves x hx b hb).1, (h.resolves x hx b hb).2⟩

/-- The coordinator answers a request, and the reply is lost. -/
theorem serve (h : t.Sound) {r : Reply} {position : Nat}
    (hr : t.requests[position]? = some r.attempt) :
    Sound { t with requests := t.requests.eraseIdx position, served := t.served ++ [r] } := by
  have hperm : (t.requests.eraseIdx position ++ (t.served ++ [r]).map (·.attempt)).Perm
      (t.requests ++ t.served.map (·.attempt)) := by
    rw [List.map_append, ← List.append_assoc]
    apply List.perm_append_comm.trans
    exact ((perm_cons_eraseIdx hr).symm.append_right _)
  exact {
    ids := h.ids
    arrived := fun a ha => h.arrived a (hperm.mem_iff.1 ha)
    once := hperm.nodup_iff.2 h.once
    delivered := fun client r' hr' =>
      ⟨List.mem_append_left _ (h.delivered client r' hr').1, (h.delivered client r' hr').2⟩
    heard := fun x hx => List.mem_append_left _ (h.heard x hx)
    single := h.single
    since := h.since
    resolves := h.resolves }

/-- A reply that nobody has got before is delivered to its client. -/
theorem deliver (h : t.Sound) {r : Reply} (hr : r ∈ t.served)
    (hnew : ∀ client, r.attempt ∉ (t.replies client ++ t.heard.map (·.reply)).map (·.attempt)) :
    Sound (t.setReplies r.attempt.client (t.replies r.attempt.client ++ [r])) where
  ids := h.ids
  arrived := h.arrived
  once := h.once
  delivered := by
    intro client r' hr'
    simp only [setReplies] at hr'
    by_cases hc : client = r.attempt.client
    · rw [hc, Function.update_self] at hr'
      rcases List.mem_append.1 hr' with hr' | hr'
      · rw [hc]
        exact h.delivered _ r' hr'
      · rw [List.mem_singleton.1 hr']
        exact ⟨hr, hc.symm⟩
    · rw [Function.update_of_ne hc] at hr'
      exact h.delivered client r' hr'
  heard := h.heard
  single := by
    intro client
    simp only [setReplies]
    by_cases hc : client = r.attempt.client
    · rw [hc, Function.update_self]
      have hperm : ((t.replies r.attempt.client ++ [r]) ++ t.heard.map (·.reply)).Perm
          (r :: (t.replies r.attempt.client ++ t.heard.map (·.reply))) := by
        rw [List.append_assoc]
        exact List.perm_middle
      rw [(hperm.map _).nodup_iff, List.map_cons, List.nodup_cons]
      exact ⟨hnew _, h.single _⟩
    · rw [Function.update_of_ne hc]
      exact h.single client
  since := h.since
  resolves := h.resolves

/-- What is in an inbox is dropped. -/
theorem drop (h : t.Sound) (client : String) : Sound (t.setReplies client []) where
  ids := h.ids
  arrived := h.arrived
  once := h.once
  delivered := by
    intro other r hr
    simp only [setReplies] at hr
    by_cases hc : other = client
    · rw [hc, Function.update_self] at hr
      cases hr
    · rw [Function.update_of_ne hc] at hr
      exact h.delivered other r hr
  heard := h.heard
  single := by
    intro other
    simp only [setReplies]
    by_cases hc : other = client
    · rw [hc, Function.update_self]
      exact (List.nodup_append'.1 (by simpa using h.single client)).2.1
    · rw [Function.update_of_ne hc]
      exact h.single other
  since := h.since
  resolves := h.resolves

/-- What waits for the coordinator is dropped. -/
theorem halt (h : t.Sound) : Sound { t with requests := [] } where
  ids := h.ids
  arrived a ha := h.arrived a (List.mem_append_right _ ha)
  once := (List.nodup_append'.1 h.once).2.1
  delivered := h.delivered
  heard := h.heard
  single := h.single
  since := h.since
  resolves := h.resolves

/-- Which calls gave up waiting makes no difference. -/
theorem setLost (h : t.Sound) (lost : List Attempt) : Sound { t with lost := lost } :=
  ⟨h.ids, h.arrived, h.once, h.delivered, h.heard, h.single, h.since, h.resolves⟩

/-- A worker reads a reply. If it resolves a call, it is the first one for the consumer of
that call. -/
theorem hear (h : t.Sound) {client : String} {position : Nat} {r : Reply}
    (hr : (t.replies client)[position]? = some r) {resolves : Option Attempt}
    (hres : ∀ a, resolves = some a →
      a ∈ t.sent ∧ t.firstReply? a = none ∧ r.attempt.SameConsumer a) :
    Sound { t.setReplies client ((t.replies client).eraseIdx position) with
      heard := t.heard ++ [⟨r, resolves⟩] } where
  ids := h.ids
  arrived := h.arrived
  once := h.once
  delivered := by
    intro other r' hr'
    simp only [setReplies] at hr'
    by_cases hc : other = client
    · rw [hc, Function.update_self] at hr'
      rw [hc]
      exact h.delivered client r' (List.mem_of_mem_eraseIdx hr')
    · rw [Function.update_of_ne hc] at hr'
      exact h.delivered other r' hr'
  heard := by
    intro x hx
    rcases List.mem_append.1 hx with hx | hx
    · exact h.heard x hx
    · rw [List.mem_singleton.1 hx]
      exact (h.delivered client r (List.mem_of_getElem? hr)).1
  single := by
    intro other
    simp only [setReplies, List.map_append, List.map_cons, List.map_nil]
    by_cases hc : other = client
    · rw [hc, Function.update_self]
      have hperm : ((t.replies client).eraseIdx position ++ (t.heard.map (·.reply) ++ [r])).Perm
          (t.replies client ++ t.heard.map (·.reply)) := by
        rw [← List.append_assoc]
        apply List.perm_append_comm.trans
        exact ((perm_cons_eraseIdx hr).symm.append_right _)
      have hnodup := ((hperm.map (·.attempt)).nodup_iff).2 (h.single client)
      simpa using hnodup
    · rw [Function.update_of_ne hc, ← List.append_assoc, List.nodup_append']
      refine ⟨by simpa using h.single other, List.nodup_singleton _, ?_⟩
      intro a ha ha'
      obtain rfl := List.mem_singleton.1 ha'
      have hclient := (h.delivered client r (List.mem_of_getElem? hr)).2
      rcases List.mem_append.1 ha with ha | ha
      · obtain ⟨r', hr', hra⟩ := List.mem_map.1 ha
        apply hc
        rw [← (h.delivered other r' hr').2, hra, hclient]
      · have hdis := h.single client
        rw [List.map_append] at hdis
        exact List.disjoint_of_nodup_append hdis
          (List.mem_map_of_mem (List.mem_of_getElem? hr)) ha
  since a ha := Nat.le_trans (h.since a ha) (by simp)
  resolves := by
    intro x hx a ha
    have hfirst : ∀ b ∈ t.sent, firstReply? { t.setReplies client
        ((t.replies client).eraseIdx position) with heard := t.heard ++ [⟨r, resolves⟩] } b =
          (t.firstReply? b).or (if r.attempt.SameConsumer b then some ⟨r, resolves⟩ else none) :=
      fun b hb => firstReply?_concat (x := ⟨r, resolves⟩) rfl (h.since b hb)
    rcases List.mem_append.1 hx with hx | hx
    · obtain ⟨hsent, hold⟩ := h.resolves x hx a ha
      refine ⟨hsent, ?_⟩
      rw [hfirst a hsent, hold]
      rfl
    · rw [List.mem_singleton.1 hx] at ha ⊢
      obtain ⟨hsent, hnone, hsame⟩ := hres a ha
      refine ⟨hsent, ?_⟩
      rw [hfirst a hsent, hnone, if_pos hsame]
      rfl

end Trace.Sound

end LoadTest.Cluster
