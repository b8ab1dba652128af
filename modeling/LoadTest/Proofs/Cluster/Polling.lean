import LoadTest.Proofs.Cluster.Spent
import LoadTest.Proofs.Cluster.Takings
/-!
# What a polling pop takes

A pop sends requests until a reply brings a value. The value is all that was taken for the
call, except for requests that the call has given up: a value that was taken for one of them
goes with its late reply.
-/

namespace LoadTest

/-! ## Replies to a pop -/

namespace Method

variable {key : String} {wait : Option Duration} {isFirst : Bool} {elapsed : Duration}

/-- A reply to a pop is read as a value or refused. -/
theorem read_pop {reply : Json} {r : Reading} (h : (pop key wait).read reply = .ok r) :
    ∃ v, r = .data v := by
  have h : readKeystore .pop key reply = .ok r := h
  unfold readKeystore at h
  split at h
  · cases h
  · split at h
    · cases h
    · cases h
      exact ⟨_, rfl⟩

/-- A pop goes on only if the reply brought no value. -/
theorem null_of_again {v : Json}
    (h : (pop key wait).next isFirst elapsed (.ok (.data v)) = .again) : v = .null := by
  rw [next, nextPop] at h
  by_contra hne
  rw [if_neg fun hnull => hne (Json.isNull_iff.1 hnull)] at h
  cases h

/-- A pop answers the value that the reply brought. -/
theorem value_of_finish {reply : Json} {answer : Answer}
    (h : (pop key wait).next isFirst elapsed ((pop key wait).read reply) = .finish (.ok answer)) :
    ∃ v, answer = .value (some v) ∧ v ≠ .null ∧ (pop key wait).read reply = .ok (.data v) := by
  cases hread : (pop key wait).read reply with
  | error e =>
    rw [hread] at h
    rcases next_of_error (pop key wait) isFirst elapsed e with hagain | ⟨e', hfail⟩
    · rw [hagain] at h
      cases h
    · rw [hfail] at h
      cases h
  | ok r =>
    obtain ⟨v, rfl⟩ := read_pop hread
    rw [hread, next, nextPop] at h
    by_cases hnull : v.isNull = true
    · rw [if_pos hnull] at h
      rcases emptyPop_cases key wait elapsed with hagain | ⟨limit, -, hfail⟩
      · rw [hagain] at h
        cases h
      · rw [hfail] at h
        cases h
    · rw [if_neg hnull] at h
      cases h
      exact ⟨v, rfl, fun hv => hnull (Json.isNull_iff.2 hv), rfl⟩

end Method

namespace Cluster

/-! ## Nothing is lost but what was given up -/

/-- Every reply that has resolved a request of a call was the reply to that request. -/
def Trace.OwnReplies (t : Trace) (call : Nat) : Prop :=
  ∀ x ∈ t.heard, ∀ a, x.resolves = some a → a.call = call → x.reply.attempt = a

/-- A consumer that has given up no request gets its own replies. -/
theorem Traffic.ownReplies_of_lost {h : History} {k : Nat} (ht : Traffic h)
    (hlost : ∀ b ∈ h.trace.lost, ∀ a ∈ h.trace.sent, a.call = k → ¬ b.SameConsumer a) :
    h.trace.OwnReplies k := by
  intro x hx a hres hk
  have ha := (ht.sound.resolves x hx a hres).1
  exact ht.own_of_lost hx hres fun b hb => hlost b hb a ha hk

/-- What was taken for the requests of a call, null values aside. -/
def takenFor (log : List Taking) (call : Nat) : List Taking :=
  (worthy log).filter (·.attempt.call = call)

variable {c : Coordinator} {h : History} {log : List Taking} {k : Nat}

/-- What was taken for a call is what the replies to its requests say. -/
theorem Haul.mem_takenFor (haul : Haul Honest (History.start c) h log) {x : Taking} :
    x ∈ takenFor log k ↔ x.attempt.call = k ∧ ∃ r ∈ h.trace.served, r.taking? = some x := by
  rw [takenFor, List.mem_filter, haul.worthy_eq, List.mem_filterMap, decide_eq_true_eq, and_comm]

/-- No request has taken two values. -/
theorem Haul.nodup_takenFor (haul : Haul Honest (History.start c) h log) (k : Nat) :
    ((takenFor log k).map (·.attempt)).Nodup := by
  have honce : (h.trace.served.map (·.attempt)).Nodup :=
    (List.nodup_append'.1 haul.run.traffic.sound.once).2.1
  have hworthy : ((worthy log).map (·.attempt)).Nodup := by
    rw [haul.worthy_eq, List.Nodup, List.pairwise_map, List.pairwise_filterMap]
    rw [List.Nodup, List.pairwise_map] at honce
    refine honce.imp ?_
    intro r r' hne x hx x' hx' heq
    apply hne
    rw [(Reply.taking?_eq_some.1 hx).2.1, (Reply.taking?_eq_some.1 hx').2.1, heq]
  exact hworthy.sublist (List.filter_sublist.map _)

/-- There is one reply to a request. -/
theorem Trace.Sound.reply_unique {t : Trace} (hsound : t.Sound) {r r' : Reply}
    (hr : r ∈ t.served) (hr' : r' ∈ t.served) (heq : r.attempt = r'.attempt) : r = r' :=
  List.inj_on_of_nodup_map (List.nodup_append'.1 hsound.once).2.1 hr hr' heq

section Pop

variable {call : Call} {key : String} {wait : Option Duration} {a : Attempt}

/-- All requests of a pop are pops of its key. -/
theorem Traffic.method_of_call (ht : Traffic h) (hcall : h.state.calls[k]? = some call)
    (ha : a ∈ h.trace.sent) (hk : a.call = k) : a.method = call.method := by
  rw [← hk] at hcall
  exact ((ht.genuine a ha).of_call hcall).2.symm

/-- The request that has brought an answer has taken the value of the answer. -/
theorem Haul.taken_of_brings (haul : Haul Honest (History.start c) h log)
    (hcall : h.state.calls[k]? = some call) (hmethod : call.method = .pop key wait)
    (hown : h.trace.OwnReplies k) (hk : a.call = k) {answer : Answer}
    (hbrings : h.trace.Brings call.method a answer) :
    ∃ v, answer = .value (some v) ∧ v ≠ .null ∧ ⟨a, v⟩ ∈ takenFor log k := by
  have ht := haul.run.traffic
  obtain ⟨x, hx, hres, isFirst, elapsed, hnext⟩ := hbrings
  have ha := (ht.sound.resolves x hx a hres).1
  obtain rfl := hown x hx a hres hk
  have hmethod' := ht.method_of_call hcall ha hk
  rw [hmethod] at hnext
  obtain ⟨v, rfl, hv, hread⟩ := Method.value_of_finish hnext
  refine ⟨v, rfl, hv, haul.mem_takenFor.2 ⟨hk, x.reply, ht.sound.heard x hx, ?_⟩⟩
  refine Reply.taking?_eq_some.2 ⟨⟨key, wait, hmethod'.trans hmethod⟩, rfl, ?_, hv⟩
  rw [Reply.reading, hmethod', hmethod]
  exact hread

/-- A request that has taken a value but has brought nothing has been given up: the call does
not go on after a reply that brings a value. -/
theorem Haul.lost_of_fruitless (haul : Haul Honest (History.start c) h log)
    (hcall : h.state.calls[k]? = some call) (hmethod : call.method = .pop key wait)
    (hown : h.trace.OwnReplies k) {y : Taking} (hy : y ∈ takenFor log k)
    (hfruitless : h.trace.Fruitless call.method y.attempt) : y.attempt ∈ h.trace.lost := by
  have ht := haul.run.traffic
  obtain ⟨hk, r, hr, htaking⟩ := haul.mem_takenFor.1 hy
  obtain ⟨-, hattempt, hreading, hne⟩ := Reply.taking?_eq_some.1 htaking
  rcases hfruitless with hlost | ⟨x, hx, hres, isFirst, elapsed, hagain⟩
  · exact hlost
  · have ha := (ht.sound.resolves x hx _ hres).1
    have hreply := hown x hx _ hres hk
    obtain rfl := ht.sound.reply_unique hr (ht.sound.heard x hx) (hattempt.trans hreply.symm)
    rw [Reply.reading, hreply, ht.method_of_call hcall ha hk, hmethod] at hreading
    rw [hmethod, hreading] at hagain
    exact absurd (Method.null_of_again hagain) hne

/-- A pop that answers has taken the value of its answer off the list, and every other value
that was taken for it was taken for a request that it had given up. If it has given up none,
nothing else was taken. The replies to its requests must not have been mixed up. -/
theorem Haul.pop_delivers (haul : Haul Honest (History.start c) h log)
    (hcall : h.state.calls[k]? = some call) (hmethod : call.method = .pop key wait)
    {answer : Answer} (hresult : call.result? = some (.ok answer))
    (hown : h.trace.OwnReplies k) :
    ∃ v, answer = .value (some v) ∧ v ≠ .null ∧
      (∀ x ∈ takenFor log k, x.attempt.method = .pop key wait) ∧
      ((takenFor log k).map (·.attempt)).Nodup ∧
      (∃ x ∈ takenFor log k, x.value = v ∧
        ∀ y ∈ takenFor log k, y = x ∨ y.attempt ∈ h.trace.lost) ∧
      ((∀ a ∈ h.trace.lost, a.call ≠ k) → (takenFor log k).map (·.value) = [v]) := by
  have ht := haul.run.traffic
  have hsent : ∀ y ∈ takenFor log k, y.attempt ∈ h.trace.sent ∧ y.attempt.call = k := by
    intro y hy
    obtain ⟨hk, r, hr, htaking⟩ := haul.mem_takenFor.1 hy
    rw [← (Reply.taking?_eq_some.1 htaking).2.1] at hk ⊢
    exact ⟨ht.sound.mem_sent hr, hk⟩
  have hphase : call.phase = .finished (.ok answer) := by
    rw [Call.result?] at hresult
    split at hresult
    · next result hp =>
      rw [hp, Option.some.inj hresult]
    · cases hresult
  have hspent := haul.run.spent k call hcall
  rw [Call.Spent, hphase] at hspent
  obtain ⟨w, hwk, hbrings, hothers⟩ := hspent
  obtain ⟨v, rfl, hv, hmem⟩ := haul.taken_of_brings hcall hmethod hown hwk hbrings
  have hcases : ∀ y ∈ takenFor log k, y = ⟨w, v⟩ ∨ y.attempt ∈ h.trace.lost := by
    intro y hy
    by_cases hyw : y.attempt = w
    · exact .inl (List.inj_on_of_nodup_map (haul.nodup_takenFor k) hy hmem hyw)
    · right
      obtain ⟨hysent, hyk⟩ := hsent y hy
      exact haul.lost_of_fruitless hcall hmethod hown hy (hothers _ hysent hyk hyw)
  refine ⟨v, rfl, hv, ?_, haul.nodup_takenFor k, ⟨_, hmem, rfl, hcases⟩, ?_⟩
  · intro y hy
    obtain ⟨hysent, hyk⟩ := hsent y hy
    rw [← hmethod]
    exact ht.method_of_call hcall hysent hyk
  · intro hnone
    have honly : takenFor log k = [⟨w, v⟩] := by
      rw [← List.perm_singleton, List.perm_ext_iff_of_nodup (haul.nodup_takenFor k).of_map
        (List.nodup_singleton _)]
      intro y
      rw [List.mem_singleton]
      constructor
      · intro hy
        rcases hcases y hy with heq | hlost
        · exact heq
        · exact absurd (hsent y hy).2 (hnone _ hlost)
      · rintro rfl
        exact hmem
    rw [honly]
    rfl

end Pop

/-- Two jobs are pushed while a pop sleeps. Its next request times out before the coordinator
takes it, and the reply comes while the pop sleeps again. The request after that is answered in
time. -/
def overdue : List (Outside × Action) :=
  [.connect "w" {} true, .join 0 "A", .join 0 "B",
    .begin 0 (.pop "q" none), .attempt 0, .serve 0, .receive 0 0, .complete 0,
    .begin 1 (.push "q" (.str "job 1")), .attempt 1, .serve 0, .receive 0 0, .complete 1,
    .begin 1 (.push "q" (.str "job 2")), .attempt 2, .serve 0, .receive 0 0, .complete 2,
    .pass 1000000000, .wake 0, .attempt 0, .pass 10000000000, .expire 0, .serve 0, .receive 0 0,
    .pass 1000000000, .wake 0, .attempt 0, .serve 0, .receive 0 0, .complete 0].map (still, ·)

/-- The text of a value that is one. -/
private def text? : Json → Option String
  | .str s => some s
  | _ => none

private theorem text?_eq_some {v : Json} {s : String} (hv : text? v = some s) : v = .str s := by
  cases v with
  | str s' => exact congrArg _ (Option.some.inj hv)
  | _ => cases hv

/-- The key of a pop without a limit, and the text that it has answered. -/
private def popped? (c : Call) : Option (String × String) :=
  match c.method, c.result? with
  | .pop key none, some (.ok (.value (some v))) => (text? v).map (key, ·)
  | _, _ => none

private theorem popped?_eq_some {c : Call} {key s : String} (hc : popped? c = some (key, s)) :
    c.method = .pop key none ∧ c.result? = some (.ok (.value (some (.str s)))) := by
  unfold popped? at hc
  split at hc
  · next key' v hm hr =>
    obtain ⟨s', hs', heq⟩ := Option.map_eq_some_iff.1 hc
    cases heq
    rw [text?_eq_some hs'] at hr
    exact ⟨hm, hr⟩
  · cases hc

private theorem overdue_run : ∃ h log, (History.start {}).run? Honest overdue = some h ∧
    Haul Honest (History.start {}) h log ∧
    (h.trace.sent.length, h.trace.served.length, h.trace.heard.length) = (5, 5, 5) ∧
    (∃ call, h.state.calls[0]? = some call ∧ call.method = .pop "q" none ∧
      call.result? = some (.ok (.value (some (.str "job 2"))))) ∧
    h.trace.OwnReplies 0 ∧
    (takenFor log 0).map (·.value) = [.str "job 1", .str "job 2"] := by
  obtain ⟨h, hh⟩ : ∃ h, (History.start {}).run? Honest overdue = some h :=
    Option.isSome_iff_exists.1 (by decide +kernel)
  have hfacts : ((History.start {}).run? Honest overdue).map (fun h =>
      ((h.trace.sent.length, h.trace.served.length, h.trace.heard.length),
        h.state.calls[0]?.bind popped?,
        (h.trace.heard.map fun x => (x.reply.attempt.id, x.resolves.map Attempt.id)).all
          fun ids => ids.2.all (· = ids.1),
        (((h.trace.served.filterMap Reply.taking?).filter (·.attempt.call = 0)).map
          (·.value)).map text?)) =
        some ((5, 5, 5), some ("q", "job 2"), true, [some "job 1", some "job 2"]) := by
    decide +kernel
  rw [hh] at hfacts
  simp only [Option.map_some, Option.some.injEq, Prod.mk.injEq] at hfacts
  obtain ⟨hlengths, hpopped, hids, htexts⟩ := hfacts
  obtain ⟨log, haul⟩ := (Run.nil.of_run? hh : Run Honest (History.start {}) h).haul
  have ht := haul.run.traffic
  obtain ⟨call, hcall, hpopped⟩ := Option.bind_eq_some_iff.1 hpopped
  refine ⟨h, log, hh, haul, ?_, ⟨call, hcall, popped?_eq_some hpopped⟩, ?_, ?_⟩
  · simp only [Prod.mk.injEq]
    exact hlengths
  · intro x hx a hres _
    apply ht.sound.eq_of_id (ht.sound.mem_sent (ht.sound.heard x hx))
      (ht.sound.resolves x hx a hres).1
    simp only [List.all_map, List.all_eq_true] at hids
    have hid := hids x hx
    simp only [Function.comp_apply, hres, Option.map_some, Option.all_some,
      decide_eq_true_eq] at hid
    exact hid.symm
  · rw [takenFor, haul.worthy_eq]
    obtain ⟨v, rest, hvalues, hv, hrest⟩ := List.map_eq_cons_iff.1 htexts
    obtain ⟨v', rest', rfl, hv', hnil⟩ := List.map_eq_cons_iff.1 hrest
    rw [hvalues, text?_eq_some hv, text?_eq_some hv', List.map_eq_nil_iff.1 hnil]

/-- The pop answers the second job, which was taken for its last request. -/
theorem overdue_delivers : ∃ h log, (History.start {}).run? Honest overdue = some h ∧
    Haul Honest (History.start {}) h log ∧ h.trace.OwnReplies 0 ∧
    ∃ x ∈ takenFor log 0, x.value = .str "job 2" ∧
      ∀ y ∈ takenFor log 0, y = x ∨ y.attempt ∈ h.trace.lost := by
  obtain ⟨h, log, hh, haul, -, ⟨call, hcall, hmethod, hresult⟩, hown, -⟩ := overdue_run
  obtain ⟨v, hv, -, -, -, htaken, -⟩ := haul.pop_delivers hcall hmethod hresult hown
  cases hv
  exact ⟨h, log, hh, haul, hown, htaken⟩

/-- Every message of that run is delivered, and the first job is dropped. -/
theorem overdue_drops : ∃ h log, (History.start {}).run? Honest overdue = some h ∧
    Haul Honest (History.start {}) h log ∧
    (h.trace.sent.length, h.trace.served.length, h.trace.heard.length) = (5, 5, 5) ∧
    ∃ call v, h.state.calls[0]? = some call ∧ call.method = .pop "q" none ∧
      call.result? = some (.ok (.value (some v))) ∧ h.trace.OwnReplies 0 ∧
      (takenFor log 0).map (·.value) = [.str "job 1", v] ∧
      (takenFor log 0).map (·.value) ≠ [v] := by
  obtain ⟨h, log, hh, haul, hlengths, ⟨call, hcall, hmethod, hresult⟩, hown, hvalues⟩ :=
    overdue_run
  refine ⟨h, log, hh, haul, hlengths, call, _, hcall, hmethod, hresult, hown, hvalues, ?_⟩
  rw [hvalues]
  intro heq
  exact absurd (congrArg List.length heq) (by decide)

end Cluster

end LoadTest
