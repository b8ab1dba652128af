import LoadTest.Proofs.Cluster.Calm
/-!
# What is taken off lists

Serving a request of a pop takes the head off a list, if there is one. A haul is a run that
remembers what was taken, by looking at the list before and after. No request takes twice,
and what was taken for a request is what the reply to it says.
-/

namespace LoadTest.Cluster

open Transport

/-- A value that was taken off a list, and the request that it was taken for. -/
structure Taking where
  attempt : Attempt
  value : Json

/-- Serving the request at a position takes the head off the list that the request names. -/
def Takes (h h' : History) (position : Nat) (x : Taking) : Prop :=
  h.trace.requests[position]? = some x.attempt ∧
    ∃ key wait items c c', x.attempt.method = .pop key wait ∧
      h.state.coordinator? = some c ∧ c.keystore.get? key = some (.arr (x.value :: items)) ∧
      h'.state.coordinator? = some c' ∧ c'.keystore.get? key = some (.arr items)

/-- A run, and all that was taken off lists in it, the first taking first. -/
inductive Haul (allowed : State → Action → Prop) (first : History) :
    History → List Taking → Prop where
  | nil : Haul allowed first first []
  | idle {h h' : History} {log : List Taking} {outside : Outside} {a : Action}
    (haul : Haul allowed first h log) (ok : allowed h.state a)
    (step : h.step? outside a = some h')
    (idle : ∀ position x, a = .serve position → ¬ Takes h h' position x) :
    Haul allowed first h' log
  | take {h h' : History} {log : List Taking} {outside : Outside} {position : Nat} {x : Taking}
    (haul : Haul allowed first h log) (ok : allowed h.state (.serve position))
    (step : h.step? outside (.serve position) = some h') (takes : Takes h h' position x) :
    Haul allowed first h' (log ++ [x])

variable {allowed : State → Action → Prop} {first h h' : History} {log : List Taking}

theorem Haul.run (haul : Haul allowed first h log) : Run allowed first h := by
  induction haul with
  | nil => exact .nil
  | idle _ ok step _ ih => exact .snoc ih ok step
  | take _ ok step _ ih => exact .snoc ih ok step

/-- Every run is a haul. -/
theorem Run.haul (run : Run allowed first h) : ∃ log, Haul allowed first h log := by
  induction run with
  | nil => exact ⟨[], .nil⟩
  | @snoc h h' outside a _ ok step ih =>
    obtain ⟨log, haul⟩ := ih
    by_cases hidle : ∀ position x, a = .serve position → ¬ Takes h h' position x
    · exact ⟨log, .idle haul ok step hidle⟩
    · push Not at hidle
      obtain ⟨position, x, rfl, htakes⟩ := hidle
      exact ⟨log ++ [x], .take haul ok step htakes⟩

/-! ## One request -/

/-- What a pop comes to: nothing, the head of the list, or a refusal. -/
private theorem pop_cases (s : Keystore) (key : String) :
    ((∀ v items, s.get? key ≠ some (.arr (v :: items))) ∧
        (s.pop key = .ok (.null, s) ∨ ∃ e, s.pop key = .error e)) ∨
      ∃ v items, s.get? key = some (.arr (v :: items)) ∧
        s.pop key = .ok (v, s.insert key (.arr items)) := by
  unfold Keystore.pop
  cases hget : s.get? key with
  | none =>
    left
    refine ⟨?_, .inl rfl⟩
    intro v items h
    cases h
  | some value =>
    cases value with
    | arr items =>
      cases items with
      | nil =>
        left
        refine ⟨?_, .inl rfl⟩
        intro v items h
        cases h
      | cons v items => exact .inr ⟨v, items, rfl, rfl⟩
    | _ =>
      left
      refine ⟨?_, .inr ⟨_, rfl⟩⟩
      intro v items h
      cases h

/-- Serving a request of a pop takes what its list loses. -/
theorem takes_iff {c c' : Coordinator} (hc : h.state.coordinator? = some c)
    (hc' : h'.state.coordinator? = some c') {position : Nat} {a : Attempt}
    (ha : h.trace.requests[position]? = some a) {key : String} {wait : Option Duration}
    (hm : a.method = .pop key wait) {x : Taking} :
    Takes h h' position x ↔ x.attempt = a ∧ ∃ items,
      c.keystore.get? key = some (.arr (x.value :: items)) ∧
        c'.keystore.get? key = some (.arr items) := by
  constructor
  · rintro ⟨hx, key', wait', items, d, d', hm', hd, hget, hd', hget'⟩
    have hxa : x.attempt = a := Option.some.inj (hx.symm.trans ha)
    rw [hxa, hm] at hm'
    cases hm'
    obtain rfl := Option.some.inj (hc.symm.trans hd)
    obtain rfl := Option.some.inj (hc'.symm.trans hd')
    exact ⟨hxa, items, hget, hget'⟩
  · rintro ⟨rfl, items, hget, hget'⟩
    exact ⟨ha, key, wait, items, c, c', hm, hc, hget, hc', hget'⟩

/-- Serving a request of a pop takes a value if and only if there is one, and the reply says
which. -/
theorem Traffic.pop_cases (ht : Traffic h) {outside : Outside} {position : Nat}
    (hs : h.step? outside (.serve position) = some h') {a : Attempt}
    (ha : h.trace.requests[position]? = some a) {key : String} {wait : Option Duration}
    (hm : a.method = .pop key wait) :
    ∃ r, h'.trace.served = h.trace.served ++ [r] ∧ r.attempt = a ∧
      (((∀ x, ¬ Takes h h' position x) ∧ ∀ v, r.reading = .ok (.data v) → v = .null) ∨
        ∃ v, r.reading = .ok (.data v) ∧ ∀ x, Takes h h' position x ↔ x = ⟨a, v⟩) := by
  obtain ⟨c, a', hservice, ha', hcases⟩ := ht.answer_cases hs
  obtain rfl := Option.some.inj (ha.symm.trans ha')
  have htarget : a.method.target? = some (.pop, key) := by
    rw [hm]
    rfl
  obtain ⟨d, k, hd, hanswer⟩ :=
    Store.dispatch_of_target htarget c outside a.consumer.identifier
  have hd : c.dispatch outside a.request = (.ok d, { c with keystore := k }) := hd
  rcases hcases with ⟨crash, c', hcrash, -, -⟩ | ⟨d', c', hok, hs', -, hserved⟩
  · rw [hd] at hcrash
    cases hcrash
  rw [hd] at hok
  cases hok
  have hbefore : h.state.coordinator? = some c := congrArg Service.coordinator? hservice
  have hafter := congrArg Service.coordinator? hs'
  have htakes : ∀ x, Takes h h' position x ↔ x.attempt = a ∧ ∃ items,
      c.keystore.get? key = some (.arr (x.value :: items)) ∧ k.get? key = some (.arr items) :=
    fun x => takes_iff hbefore hafter ha hm
  have hperform : c.keystore.perform key a.method.data? .pop = c.keystore.pop key := rfl
  rw [hperform] at hanswer
  refine ⟨⟨a, outside, d.response⟩, hserved, rfl, ?_⟩
  rw [show (⟨a, outside, d.response⟩ : Reply).reading = a.method.read d.response from rfl]
  rcases Cluster.pop_cases c.keystore key with ⟨hempty, hpop⟩ | ⟨v, items, hget, hpop⟩
  · left
    constructor
    · intro x hx
      obtain ⟨-, items, hget, -⟩ := (htakes x).1 hx
      exact hempty x.value items hget
    · intro v hv
      rcases hanswer with ⟨v', hv', hread⟩ | ⟨e, -, -, hread⟩
      · rw [hread] at hv
        cases hv
        rcases hpop with hpop | ⟨e, hpop⟩
        · rw [hpop] at hv'
          cases hv'
          rfl
        · rw [hpop] at hv'
          cases hv'
      · rw [hread] at hv
        cases hv
  · right
    rcases hanswer with ⟨v', hv', hread⟩ | ⟨e, he, -, -⟩
    · rw [hpop] at hv'
      cases hv'
      refine ⟨v, hread, fun x => (htakes x).trans ⟨?_, ?_⟩⟩
      · rintro ⟨hxa, items', hget', -⟩
        rw [hget] at hget'
        cases hget'
        rw [← hxa]
      · rintro rfl
        exact ⟨rfl, items, hget, Dict.get?_insert_self _ _ _⟩
    · rw [hpop] at he
      cases he

/-! ## Whole runs -/

/-- What a reply says was taken for its request, if it was worth anything. -/
def Reply.taking? (r : Reply) : Option Taking :=
  match r.attempt.method, r.reading with
  | .pop .., .ok (.data v) => if v.isNull then none else some ⟨r.attempt, v⟩
  | _, _ => none

theorem Reply.taking?_eq_some {r : Reply} {x : Taking} :
    r.taking? = some x ↔ r.attempt.method.IsPop ∧ r.attempt = x.attempt ∧
      r.reading = .ok (.data x.value) ∧ x.value ≠ .null := by
  constructor
  · intro hx
    unfold taking? at hx
    split at hx
    · next key wait v hm hreading =>
      split at hx
      · cases hx
      · next hnull =>
        cases hx
        exact ⟨⟨key, wait, hm⟩, rfl, hreading, fun hv => hnull (Json.isNull_iff.2 hv)⟩
    · cases hx
  · rintro ⟨⟨key, wait, hm⟩, hattempt, hreading, hne⟩
    unfold taking?
    rw [hm, hreading, hattempt]
    exact if_neg fun hnull => hne (Json.isNull_iff.1 hnull)

/-- A reply to a pop that found nothing tells of no taking. -/
theorem Reply.taking?_eq_none {r : Reply}
    (hr : r.attempt.method.IsPop → ∀ v, r.reading = .ok (.data v) → v = .null) :
    r.taking? = none := by
  cases hx : r.taking? with
  | none => rfl
  | some x =>
    obtain ⟨hpop, -, hreading, hne⟩ := taking?_eq_some.1 hx
    exact absurd (hr hpop _ hreading) hne

/-- The takings that are worth anything. -/
def worthy (log : List Taking) : List Taking := log.filter fun x => !x.value.isNull

/-- What was taken off lists in a run, null values aside, is what the replies to its pops say,
in the same order. -/
theorem Haul.worthy_eq {c : Coordinator} (haul : Haul Honest (History.start c) h log) :
    worthy log = h.trace.served.filterMap Reply.taking? := by
  induction haul with
  | nil => rfl
  | @take h h' log outside position x haul ok hs htakes ih =>
    have ht := haul.run.traffic
    obtain ⟨ha, key, wait, -, -, -, hm, -⟩ := id htakes
    obtain ⟨r, hserved, hattempt, hcases⟩ := ht.pop_cases hs ha hm
    rcases hcases with ⟨hnone, -⟩ | ⟨v, hreading, hiff⟩
    · exact absurd htakes (hnone x)
    · have hx : x = ⟨r.attempt, v⟩ := by
        rw [(hiff x).1 htakes, hattempt]
      have htaking : r.taking?.toList = worthy [x] := by
        unfold Reply.taking?
        rw [hattempt, hm, hreading, hx]
        cases hnull : v.isNull <;> simp [worthy, hnull, hattempt]
      rw [hserved, List.filterMap_append, ← ih, worthy, List.filter_append]
      refine congrArg (worthy log ++ ·) ?_
      show worthy [x] = _
      rw [← htaking, List.filterMap_cons]
      cases r.taking? <;> rfl
  | @idle h h' log outside a haul ok hs hidle ih =>
    have ht := haul.run.traffic
    by_cases hserve : ∃ position, a = .serve position
    · obtain ⟨position, rfl⟩ := hserve
      obtain ⟨d, b, -, hb, ⟨crash, d', -, -, hserved⟩ | ⟨y, d', -, -, -, hserved⟩⟩ :=
        ht.answer_cases hs
      · rw [hserved]
        exact ih
      · have hnone : (⟨b, outside, y.response⟩ : Reply).taking? = none := by
          apply Reply.taking?_eq_none
          rintro ⟨key, wait, hm⟩ v hv
          obtain ⟨r, hserved', -, ⟨-, hnull⟩ | ⟨v', -, hiff⟩⟩ := ht.pop_cases hs hb hm
          · rw [hserved] at hserved'
            cases List.singleton_inj.1 (List.append_cancel_left hserved')
            exact hnull v hv
          · exact absurd ((hiff _).2 rfl) (hidle position _ rfl)
        rw [hserved, List.filterMap_append, List.filterMap_cons, hnone, ← ih]
        exact (List.append_nil _).symm
    · rw [(History.step?_eq_some.1 hs).2, Trace.record_served]
      · exact ih
      · intro position d heq
        exact absurd ⟨position, heq⟩ hserve

end LoadTest.Cluster
