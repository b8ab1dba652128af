import LoadTest.Proofs.Cluster.Sound
/-!
# Registered calls

Every registered call waits for the reply to a request that was sent, and the trace explains
what has become of it. Each change to the tables of the workers keeps that.
-/

namespace LoadTest.Cluster

open Transport

/-- What the trace knows of a registered call: no reply to its consumer was read while it
waits, an answer comes from the reply that has resolved it, and a request whose channel has
closed is lost. -/
def Trace.Explains (t : Trace) (a : Attempt) : Correlation.Slot → Prop
  | .waiting => t.firstReply? a = none
  | .answered v => ∃ x ∈ t.heard, x.resolves = some a ∧ x.reply.response = v
  | .closed => a ∈ t.lost

theorem Trace.Explains.congr {t t' : Trace} {a : Attempt} {slot : Correlation.Slot}
    (h : t.Explains a slot) (ht : t'.heard = t.heard) (hl : ∀ b ∈ t.lost, b ∈ t'.lost) :
    t'.Explains a slot := by
  cases slot with
  | waiting =>
    show t'.firstReply? a = none
    rw [firstReply?, ht]
    exact h
  | answered v =>
    show ∃ x ∈ t'.heard, _
    rw [ht]
    exact h
  | closed => exact hl a h

/-- A reply to another consumer makes no difference to a registered call. -/
theorem Trace.Explains.concat {t t' : Trace} {x : Heard} {a : Attempt} {slot : Correlation.Slot}
    (h : t.Explains a slot) (ht : t'.heard = t.heard ++ [x]) (hl : t'.lost = t.lost)
    (ha : a.since ≤ t.heard.length)
    (hx : slot = .waiting → ¬ x.reply.attempt.SameConsumer a) : t'.Explains a slot := by
  cases slot with
  | waiting =>
    show t'.firstReply? a = none
    have hnone : t.firstReply? a = none := h
    rw [firstReply?_concat ht ha, hnone, if_neg (hx rfl)]
    rfl
  | answered v =>
    obtain ⟨y, hy, hres, hv⟩ := h
    exact ⟨y, by rw [ht]; exact List.mem_append_left _ hy, hres, hv⟩
  | closed =>
    show a ∈ t'.lost
    rw [hl]
    exact h

/-- The registered calls are the calls that wait, each under the ticket of a request of its
own. A request whose consumer has lost none was answered by its own reply or waits for it. -/
structure Registered (v : View) (t : Trace) : Prop where
  uids : ∀ i, ((v.entries i).map (·.ticket.uid)).Nodup
  entry : ∀ i, ∀ e ∈ v.entries i, ∃ a ∈ t.sent, a.worker = i ∧ a.ticket = e.ticket ∧
    v.waiting a.call = some a.ticket ∧ t.Explains a e.slot
  waiting : ∀ k ticket, v.waiting k = some ticket → ∃ a ∈ t.sent, a.call = k ∧
    a.ticket = ticket ∧ ∃ e ∈ v.entries a.worker, e.ticket = ticket
  steady : ∀ a ∈ t.sent, (∃ b ∈ t.lost, b.SameConsumer a) ∨
    (∃ x ∈ t.heard, x.reply.attempt = a ∧ x.resolves = some a) ∨
    ⟨a.ticket, .waiting⟩ ∈ v.entries a.worker

namespace Registered

variable {v v' : View} {t t' : Trace}

/-- There is one registered call under a correlation id. -/
theorem eq_of_uid (h : Registered v t) {i : Nat} {e e' : Correlation.Entry}
    (he : e ∈ v.entries i) (he' : e' ∈ v.entries i) (hu : e.ticket.uid = e'.ticket.uid) :
    e = e' :=
  List.inj_on_of_nodup_map (h.uids i) he he' hu

theorem eq_of_ticket (h : Registered v t) {i : Nat} {e e' : Correlation.Entry}
    (he : e ∈ v.entries i) (he' : e' ∈ v.entries i) (ht : e.ticket = e'.ticket) : e = e' :=
  h.eq_of_uid he he' (by rw [ht])

/-- Where nothing was sent, read or lost, the registered calls stay explained. -/
theorem congr (h : Registered v t) (he : v'.entries = v.entries) (hw : v'.waiting = v.waiting)
    (hs : t'.sent = t.sent) (hh : t'.heard = t.heard) (hl : t'.lost = t.lost) :
    Registered v' t' := by
  refine ⟨?_, ?_, ?_, ?_⟩
  · rw [he]
    exact h.uids
  · intro i e hmem
    rw [he] at hmem
    obtain ⟨a, ha, hi, ht, hwait, hslot⟩ := h.entry i e hmem
    exact ⟨a, by rw [hs]; exact ha, hi, ht, by rw [hw]; exact hwait,
      hslot.congr hh fun b hb => by rw [hl]; exact hb⟩
  · rw [he, hw, hs]
    exact h.waiting
  · rw [he, hs, hh, hl]
    exact h.steady

/-- A call registers and sends its request. -/
theorem send (h : Registered v t) {a : Attempt} (idle : v.waiting a.call = none)
    (free : ∀ e ∈ v.entries a.worker, e.ticket.uid ≠ a.ticket.uid)
    (since : a.since = t.heard.length) (hs : t'.sent = t.sent ++ [a]) (hh : t'.heard = t.heard)
    (hl : t'.lost = t.lost)
    (he : v'.entries = Function.update v.entries a.worker
      (v.entries a.worker ++ [⟨a.ticket, .waiting⟩]))
    (hw : v'.waiting = Function.update v.waiting a.call (some a.ticket)) : Registered v' t' := by
  have hentries : ∀ i e, e ∈ v.entries i → e ∈ v'.entries i := by
    intro i e hmem
    rw [he]
    by_cases hi : i = a.worker
    · rw [hi, Function.update_self]
      rw [hi] at hmem
      exact List.mem_append_left _ hmem
    · rw [Function.update_of_ne hi]
      exact hmem
  have hnew : ⟨a.ticket, .waiting⟩ ∈ v'.entries a.worker := by
    rw [he, Function.update_self]
    exact List.mem_append_right _ (List.mem_singleton.2 rfl)
  refine ⟨?_, ?_, ?_, ?_⟩
  · intro i
    rw [he]
    by_cases hi : i = a.worker
    · rw [hi, Function.update_self, List.map_append, List.nodup_append']
      refine ⟨h.uids _, List.nodup_singleton _, ?_⟩
      intro uid huid huid'
      obtain ⟨e, hmem, hue⟩ := List.mem_map.1 huid
      exact free e hmem (hue.trans (List.mem_singleton.1 huid'))
    · rw [Function.update_of_ne hi]
      exact h.uids i
  · intro i e hmem
    have hcases : e ∈ v.entries i ∨ i = a.worker ∧ e = ⟨a.ticket, .waiting⟩ := by
      rw [he] at hmem
      by_cases hi : i = a.worker
      · rw [hi, Function.update_self] at hmem
        rcases List.mem_append.1 hmem with hmem | hmem
        · rw [hi]
          exact .inl hmem
        · exact .inr ⟨hi, List.mem_singleton.1 hmem⟩
      · rw [Function.update_of_ne hi] at hmem
        exact .inl hmem
    rcases hcases with hold | ⟨rfl, rfl⟩
    · obtain ⟨b, hb, hi, ht, hwait, hslot⟩ := h.entry i e hold
      refine ⟨b, by rw [hs]; exact List.mem_append_left _ hb, hi, ht, ?_,
        hslot.congr hh fun b hb => by rw [hl]; exact hb⟩
      have hne : b.call ≠ a.call := by
        intro heq
        rw [heq, idle] at hwait
        cases hwait
      rw [hw, Function.update_of_ne hne]
      exact hwait
    · refine ⟨a, by rw [hs]; exact List.mem_append_right _ (List.mem_singleton.2 rfl), rfl, rfl,
        by rw [hw, Function.update_self], ?_⟩
      show t'.firstReply? a = none
      rw [Trace.firstReply?, hh, since, List.drop_length]
      rfl
  · intro k ticket hk
    rw [hw] at hk
    by_cases hka : k = a.call
    · rw [hka, Function.update_self] at hk
      cases hk
      exact ⟨a, by rw [hs]; exact List.mem_append_right _ (List.mem_singleton.2 rfl), hka.symm,
        rfl, _, hnew, rfl⟩
    · rw [Function.update_of_ne hka] at hk
      obtain ⟨b, hb, hbk, ht, e, hmem, hte⟩ := h.waiting k ticket hk
      exact ⟨b, by rw [hs]; exact List.mem_append_left _ hb, hbk, ht, e, hentries _ _ hmem, hte⟩
  · intro b hb
    rw [hs] at hb
    rcases List.mem_append.1 hb with hb | hb
    · rw [hl, hh]
      rcases h.steady b hb with hlost | hheard | hwait
      · exact .inl hlost
      · exact .inr (.inl hheard)
      · exact .inr (.inr (hentries _ _ hwait))
    · rw [List.mem_singleton.1 hb]
      exact .inr (.inr hnew)

/-- A worker reads a reply that resolves no call. -/
theorem hear (h : Registered v t) (hsound : t.Sound) {r : Reply}
    (huids : ∀ a ∈ t.sent, a.ticket.uid = a.consumer.uid)
    (hnone : ∀ e ∈ v.entries r.attempt.worker, e.ticket.uid = r.attempt.consumer.uid →
      e.slot ≠ .waiting)
    (hs : t'.sent = t.sent) (hh : t'.heard = t.heard ++ [⟨r, none⟩]) (hl : t'.lost = t.lost)
    (he : v'.entries = v.entries) (hw : v'.waiting = v.waiting) : Registered v' t' := by
  refine ⟨by rw [he]; exact h.uids, ?_, by rw [he, hw, hs]; exact h.waiting, ?_⟩
  · intro i e hmem
    rw [he] at hmem
    obtain ⟨a, ha, hi, ht, hwait, hslot⟩ := h.entry i e hmem
    refine ⟨a, by rw [hs]; exact ha, hi, ht, by rw [hw]; exact hwait,
      hslot.concat hh hl (hsound.since a ha) ?_⟩
    intro hwaiting hsame
    rw [← hi, ← hsame.1] at hmem
    exact hnone e hmem (by rw [← ht, huids a ha, hsame.2]) hwaiting
  · intro a ha
    rw [hs] at ha
    rw [hl, hh, he]
    rcases h.steady a ha with hlost | ⟨x, hx, hxa⟩ | hwait
    · exact .inl hlost
    · exact .inr (.inl ⟨x, List.mem_append_left _ hx, hxa⟩)
    · exact .inr (.inr hwait)

/-- A worker reads a reply that resolves a call. -/
theorem resolve (h : Registered v t) (hsound : t.Sound) {r : Reply} {a : Attempt}
    (huids : ∀ a ∈ t.sent, a.ticket.uid = a.consumer.uid)
    (hserved : r.attempt ∈ t.sent) (hunread : ∀ x ∈ t.heard, x.reply.attempt ≠ r.attempt)
    (ha : a ∈ t.sent) (hwaiting : ⟨a.ticket, .waiting⟩ ∈ v.entries a.worker)
    (hsame : r.attempt.SameConsumer a)
    (hs : t'.sent = t.sent) (hh : t'.heard = t.heard ++ [⟨r, some a⟩]) (hl : t'.lost = t.lost)
    (he : v'.entries = Function.update v.entries a.worker ((v.entries a.worker).map fun e =>
      if e.ticket = a.ticket then { e with slot := .answered r.response } else e))
    (hw : v'.waiting = v.waiting) : Registered v' t' := by
  -- The only registered call under the correlation id of the reply is the one of `a`.
  have honly : ∀ i, ∀ e ∈ v.entries i, i = a.worker → e.ticket.uid = a.ticket.uid →
      e = ⟨a.ticket, .waiting⟩ := by
    rintro i e hmem rfl hu
    exact h.eq_of_uid hmem hwaiting hu
  refine ⟨?_, ?_, ?_, ?_⟩
  · intro i
    rw [he]
    by_cases hi : i = a.worker
    · rw [hi, Function.update_self, List.map_map]
      have hmap : ∀ e ∈ v.entries a.worker,
          ((fun e => e.ticket.uid) ∘ fun e : Correlation.Entry =>
            if e.ticket = a.ticket then { e with slot := .answered r.response } else e) e =
          e.ticket.uid := by
        intro e _
        show (if e.ticket = a.ticket then _ else e : Correlation.Entry).ticket.uid = _
        split <;> rfl
      rw [List.map_congr_left hmap]
      exact h.uids a.worker
    · rw [Function.update_of_ne hi]
      exact h.uids i
  · intro i e' hmem'
    have hcases : (∃ e ∈ v.entries i, e' = e ∧ ¬ (i = a.worker ∧ e.ticket = a.ticket)) ∨
        i = a.worker ∧ e' = ⟨a.ticket, .answered r.response⟩ := by
      rw [he] at hmem'
      by_cases hi : i = a.worker
      · rw [hi, Function.update_self] at hmem'
        obtain ⟨e, hmem, heq⟩ := List.mem_map.1 hmem'
        by_cases hticket : e.ticket = a.ticket
        · rw [if_pos hticket] at heq
          exact .inr ⟨hi, by rw [← heq, ← hticket]⟩
        · rw [if_neg hticket] at heq
          exact .inl ⟨e, by rw [hi]; exact hmem, heq.symm, fun hand => hticket hand.2⟩
      · rw [Function.update_of_ne hi] at hmem'
        exact .inl ⟨e', hmem', rfl, fun hand => hi hand.1⟩
    rcases hcases with ⟨e, hmem, rfl, hother⟩ | ⟨rfl, rfl⟩
    · obtain ⟨b, hb, hi, ht, hwait, hslot⟩ := h.entry i e' hmem
      refine ⟨b, by rw [hs]; exact hb, hi, ht, by rw [hw]; exact hwait,
        hslot.concat hh hl (hsound.since b hb) ?_⟩
      intro _ hsame'
      have hab := hsame.symm.trans hsame'
      apply hother
      refine ⟨hi.symm.trans hab.1.symm, ?_⟩
      rw [honly i e' hmem (hi.symm.trans hab.1.symm)
        (by rw [← ht, huids b hb, huids a ha]; exact hab.2.symm)]
    · obtain ⟨b, hb, hi, ht, hwait, -⟩ := h.entry a.worker _ hwaiting
      obtain rfl := hsound.eq_of_ticket hb ha hi ht
      refine ⟨b, by rw [hs]; exact hb, rfl, rfl, by rw [hw]; exact hwait, ?_⟩
      exact ⟨⟨r, some b⟩, by rw [hh]; exact List.mem_append_right _ (List.mem_singleton.2 rfl),
        rfl, rfl⟩
  · intro k ticket hk
    rw [hw] at hk
    obtain ⟨b, hb, hbk, ht, e, hmem, hte⟩ := h.waiting k ticket hk
    refine ⟨b, by rw [hs]; exact hb, hbk, ht, ?_⟩
    rw [he]
    by_cases hi : b.worker = a.worker
    · rw [hi] at hmem
      rw [hi, Function.update_self]
      refine ⟨_, List.mem_map_of_mem hmem, ?_⟩
      rw [← hte]
      split <;> rfl
    · rw [Function.update_of_ne hi]
      exact ⟨e, hmem, hte⟩
  · intro b hb
    rw [hs] at hb
    rw [hl, hh]
    rcases h.steady b hb with hlost | ⟨x, hx, hxb⟩ | hwait
    · exact .inl hlost
    · exact .inr (.inl ⟨x, List.mem_append_left _ hx, hxb⟩)
    · by_cases hba : b = a
      · -- A call that is resolved while its consumer has lost no request is answered by its
        -- own reply: no other reply to the consumer can be on its way.
        rw [hba]
        rcases h.steady r.attempt hserved with ⟨c, hc, hcr⟩ | ⟨x, hx, hxr, -⟩ | hown
        · exact .inl ⟨c, hc, hcr.trans hsame⟩
        · exact absurd hxr (hunread x hx)
        · have hticket : r.attempt.ticket = a.ticket := congrArg (·.ticket)
            (honly _ _ hown hsame.1 (by
              show r.attempt.ticket.uid = _
              rw [huids _ hserved, huids a ha]
              exact hsame.2))
          have hra := hsound.eq_of_ticket hserved ha hsame.1 hticket
          exact .inr (.inl ⟨_, List.mem_append_right _ (List.mem_singleton.2 rfl), hra, rfl⟩)
      · right
        right
        rw [he]
        by_cases hi : b.worker = a.worker
        · rw [hi] at hwait
          rw [hi, Function.update_self]
          refine List.mem_map.2 ⟨_, hwait, if_neg ?_⟩
          exact fun hticket => hba (hsound.eq_of_ticket hb ha hi hticket)
        · rw [Function.update_of_ne hi]
          exact hwait

/-- No more replies come to a worker, and what waits there is lost. -/
theorem close (h : Registered v t) {i : Nat}
    (hlost : ∀ a ∈ t.sent, a.worker = i → ⟨a.ticket, .waiting⟩ ∈ v.entries i → a ∈ t'.lost)
    (hs : t'.sent = t.sent) (hh : t'.heard = t.heard) (hl : ∀ b ∈ t.lost, b ∈ t'.lost)
    (he : v'.entries = Function.update v.entries i ((v.entries i).map fun e =>
      if e.isWaiting then { e with slot := .closed } else e))
    (hw : v'.waiting = v.waiting) : Registered v' t' := by
  have hticket : ∀ e : Correlation.Entry,
      (if e.isWaiting then { e with slot := .closed } else e : Correlation.Entry).ticket =
        e.ticket := by
    intro e
    split <;> rfl
  refine ⟨?_, ?_, ?_, ?_⟩
  · intro j
    rw [he]
    by_cases hj : j = i
    · rw [hj, Function.update_self, List.map_map]
      have hmap : ∀ e ∈ v.entries i, ((fun e => e.ticket.uid) ∘ fun e : Correlation.Entry =>
          if e.isWaiting then { e with slot := .closed } else e) e = e.ticket.uid :=
        fun e _ => congrArg (·.uid) (hticket e)
      rw [List.map_congr_left hmap]
      exact h.uids i
    · rw [Function.update_of_ne hj]
      exact h.uids j
  · intro j e' hmem'
    have hcases : ∃ e ∈ v.entries j, e'.ticket = e.ticket ∧
        (e' = e ∨ j = i ∧ e.slot = .waiting ∧ e'.slot = .closed) := by
      rw [he] at hmem'
      by_cases hj : j = i
      · rw [hj, Function.update_self] at hmem'
        obtain ⟨e, hmem, rfl⟩ := List.mem_map.1 hmem'
        refine ⟨e, by rw [hj]; exact hmem, hticket e, ?_⟩
        split
        · next hwaiting => exact .inr ⟨hj, Correlation.Table.isWaiting_iff.1 hwaiting, rfl⟩
        · exact .inl rfl
      · rw [Function.update_of_ne hj] at hmem'
        exact ⟨e', hmem', rfl, .inl rfl⟩
    obtain ⟨e, hmem, hte, hslot'⟩ := hcases
    obtain ⟨a, ha, hj, ht, hwait, hslot⟩ := h.entry j e hmem
    refine ⟨a, by rw [hs]; exact ha, hj, ht.trans hte.symm, by rw [hw]; exact hwait, ?_⟩
    rcases hslot' with rfl | ⟨rfl, hwaiting, hclosed⟩
    · exact hslot.congr hh hl
    · rw [hclosed]
      obtain ⟨ticket, slot⟩ := e
      cases hwaiting
      apply hlost a ha hj
      rw [ht]
      exact hmem
  · intro k ticket hk
    rw [hw] at hk
    obtain ⟨a, ha, hak, ht, e, hmem, hte⟩ := h.waiting k ticket hk
    refine ⟨a, by rw [hs]; exact ha, hak, ht, ?_⟩
    rw [he]
    by_cases hj : a.worker = i
    · rw [hj] at hmem
      rw [hj, Function.update_self]
      exact ⟨_, List.mem_map_of_mem hmem, (hticket e).trans hte⟩
    · rw [Function.update_of_ne hj]
      exact ⟨e, hmem, hte⟩
  · intro a ha
    rw [hs] at ha
    rw [hh]
    rcases h.steady a ha with ⟨b, hb, hba⟩ | hheard | hwait
    · exact .inl ⟨b, hl b hb, hba⟩
    · exact .inr (.inl hheard)
    · by_cases hj : a.worker = i
      · exact .inl ⟨a, hlost a ha hj (by rw [← hj]; exact hwait), .refl a⟩
      · right
        right
        rw [he, Function.update_of_ne hj]
        exact hwait

/-- A call no longer waits for the reply to its request. It is lost, unless the call was
resolved. -/
theorem finish (h : Registered v t) (hsound : t.Sound) {a : Attempt} (ha : a ∈ t.sent)
    (hcall : v.waiting a.call = some a.ticket)
    (hworker : ∀ b ∈ t.sent, b.call = a.call → b.worker = a.worker)
    (hlost : a ∈ t'.lost ∨ ⟨a.ticket, .waiting⟩ ∉ v.entries a.worker)
    (hs : t'.sent = t.sent) (hh : t'.heard = t.heard) (hl : ∀ b ∈ t.lost, b ∈ t'.lost)
    (he : v'.entries = Function.update v.entries a.worker
      ((v.entries a.worker).filter (·.ticket ≠ a.ticket)))
    (hw : v'.waiting = Function.update v.waiting a.call none) : Registered v' t' := by
  have hkeep : ∀ j e, e ∈ v'.entries j ↔
      e ∈ v.entries j ∧ ¬ (j = a.worker ∧ e.ticket = a.ticket) := by
    intro j e
    rw [he]
    by_cases hj : j = a.worker
    · rw [hj, Function.update_self, List.mem_filter]
      simp
    · rw [Function.update_of_ne hj]
      simp [hj]
  refine ⟨?_, ?_, ?_, ?_⟩
  · intro j
    rw [he]
    by_cases hj : j = a.worker
    · rw [hj, Function.update_self]
      exact (h.uids a.worker).sublist (List.filter_sublist.map _)
    · rw [Function.update_of_ne hj]
      exact h.uids j
  · intro j e hmem
    obtain ⟨hmem, hother⟩ := (hkeep j e).1 hmem
    obtain ⟨b, hb, hj, ht, hwait, hslot⟩ := h.entry j e hmem
    refine ⟨b, by rw [hs]; exact hb, hj, ht, ?_, hslot.congr hh hl⟩
    have hne : b.call ≠ a.call := by
      intro heq
      rw [heq, hcall] at hwait
      exact hother ⟨hj.symm.trans (hworker b hb heq), ht.symm.trans (Option.some.inj hwait).symm⟩
    rw [hw, Function.update_of_ne hne]
    exact hwait
  · intro k ticket hk
    rw [hw] at hk
    by_cases hka : k = a.call
    · rw [hka, Function.update_self] at hk
      cases hk
    · rw [Function.update_of_ne hka] at hk
      obtain ⟨b, hb, hbk, ht, e, hmem, hte⟩ := h.waiting k ticket hk
      refine ⟨b, by rw [hs]; exact hb, hbk, ht, e, (hkeep _ _).2 ⟨hmem, ?_⟩, hte⟩
      rintro ⟨hworker, heq⟩
      apply hka
      rw [← hbk, hsound.eq_of_ticket hb ha hworker (ht.trans (hte.symm.trans heq))]
  · intro b hb
    rw [hs] at hb
    rw [hh]
    rcases h.steady b hb with ⟨c, hc, hcb⟩ | hheard | hwait
    · exact .inl ⟨c, hl c hc, hcb⟩
    · exact .inr (.inl hheard)
    · by_cases hba : b = a
      · rw [hba] at hwait
        rcases hlost with hlost | hnot
        · exact .inl ⟨a, hlost, by rw [hba]; exact .refl a⟩
        · exact absurd hwait hnot
      · exact .inr (.inr ((hkeep _ _).2 ⟨hwait, fun hand =>
          hba (hsound.eq_of_ticket hb ha hand.1 hand.2)⟩))

end Registered

end LoadTest.Cluster
