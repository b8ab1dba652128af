import LoadTest.Proofs.Keystore.Actions
/-!
# Queues

As long as the requests on a key only push, pop and look, its list is a queue: nothing that is
pushed gets lost, doubled or overtaken, whatever is asked about other keys meanwhile. A popped
`null` is an element like any other; only an empty list, or a missing one, answers `null`
without giving anything away.
-/

namespace LoadTest

namespace Keystore

namespace Exchange

/-- What was pushed to a key. -/
def pushed (key : String) (x : Exchange) : List Json :=
  if x.Asks .push key then [x.request.data.getD .null] else []

/-- What was popped from a list that was not empty. -/
def popped (key : String) (x : Exchange) : List Json :=
  if x.Asks .pop key then
    match list? (x.before.get? key) with
    | some (_ :: _) => [x.response.data]
    | _ => []
  else []

/-- A request leaves these items of a queue: it is answered, what it pushes stands at the end,
what it pops stood at the front, and only an empty queue answers a pop with `null` and stays as
it is. -/
structure Queues (key : String) (x : Exchange) (items now : List Json) : Prop where
  list : list? (x.after.get? key) = some now
  conserves : items ++ x.pushed key = x.popped key ++ now
  succeeds : x.request.key = some key → x.response.error = none
  empty_iff : x.Asks .pop key →
    (x.response.data = .null ∧ x.after.get? key = x.before.get? key ↔ items = [])

end Exchange

variable {s : Keystore} {key : String} {items : List Json} {r : Request}

theorem stored_of_list?_nil {stored : Option Json} (h : list? stored = some []) :
    stored = none ∨ stored = some (.arr []) := by
  rcases stored with _ | v
  · exact .inl rfl
  · cases v with
    | arr items =>
      cases h
      exact .inr rfl
    | _ => cases h

theorem stored_of_list?_cons {stored : Option Json} {v : Json}
    (h : list? stored = some (v :: items)) : stored = some (.arr (v :: items)) := by
  rcases stored with _ | w
  · cases h
  · cases w with
    | arr items =>
      cases h
      rfl
    | _ => cases h

/-- A request on another key leaves the queue alone. -/
theorem queues_of_ne (hitems : list? (s.get? key) = some items) (hkey : r.key ≠ some key) :
    (s.exchange r).Queues key items items where
  list := by
    show list? ((s.handle r).2.get? key) = some items
    rw [handle_of_ne hkey, hitems]
  conserves := by
    have hpush : ¬ (s.exchange r).Asks .push key := fun h => hkey h.1
    have hpop : ¬ (s.exchange r).Asks .pop key := fun h => hkey h.1
    simp only [Exchange.pushed, Exchange.popped, hpush, hpop, if_false, List.append_nil,
      List.nil_append]
  succeeds := fun h => (hkey h).elim
  empty_iff := fun h => (hkey h.1).elim

/-- Looking at a queue leaves it alone. -/
theorem queues_of_get (hitems : list? (s.get? key) = some items) (hkey : r.key = some key)
    (haction : r.keystoreAction? = some .get) : (s.exchange r).Queues key items items where
  list := by
    show list? ((s.handle r).2.get? key) = some items
    rw [handle_of_effect hkey haction .get, get?_put, if_pos rfl, hitems]
  conserves := by simp [Exchange.pushed, Exchange.popped, Exchange.Asks, exchange, haction]
  succeeds := fun _ => by rw [exchange, handle_of_effect hkey haction .get]
  empty_iff := fun h => by cases haction.symm.trans h.2

theorem queues_of_push (hitems : list? (s.get? key) = some items) (hkey : r.key = some key)
    (haction : r.keystoreAction? = some .push) :
    (s.exchange r).Queues key items (items ++ [r.data.getD .null]) where
  list := by
    show list? ((s.handle r).2.get? key) = _
    rw [handle_of_effect hkey haction (.push hitems), get?_put, if_pos rfl, list?]
  conserves := by simp [Exchange.pushed, Exchange.popped, Exchange.Asks, exchange, hkey, haction]
  succeeds := fun _ => by rw [exchange, handle_of_effect hkey haction (.push hitems)]
  empty_iff := fun h => by cases haction.symm.trans h.2

theorem queues_of_pop_nil (hitems : list? (s.get? key) = some []) (hkey : r.key = some key)
    (haction : r.keystoreAction? = some .pop) : (s.exchange r).Queues key [] [] := by
  have heffect : Effect (s.get? key) r.data .pop .null (s.get? key) := by
    obtain h | h := stored_of_list?_nil hitems <;> rw [h]
    · exact .popAbsent
    · exact .popEmpty
  have hhandle := handle_of_effect hkey haction heffect
  rw [put_of_get? rfl] at hhandle
  constructor
  · show list? ((s.handle r).2.get? key) = _
    rw [hhandle, hitems]
  · simp [Exchange.pushed, Exchange.popped, Exchange.Asks, exchange, hkey, haction, hitems]
  · intro _
    rw [exchange, hhandle]
  · intro _
    rw [exchange, hhandle]
    simp

/-- The head of a queue is popped; it may well be `null`, but then the queue gets shorter. -/
theorem queues_of_pop_cons {v : Json} (hitems : list? (s.get? key) = some (v :: items))
    (hkey : r.key = some key) (haction : r.keystoreAction? = some .pop) :
    (s.exchange r).Queues key (v :: items) items := by
  have hstored := stored_of_list?_cons hitems
  have heffect : Effect (s.get? key) r.data .pop v (some (.arr items)) := hstored ▸ .pop
  have hhandle := handle_of_effect hkey haction heffect
  have hafter : (s.handle r).2.get? key = some (.arr items) := by
    rw [hhandle, get?_put, if_pos rfl]
  constructor
  · show list? ((s.handle r).2.get? key) = _
    rw [hafter, list?]
  · simp [Exchange.pushed, Exchange.popped, Exchange.Asks, exchange, hkey, haction, hitems, hhandle]
  · intro _
    rw [exchange, hhandle]
  · intro _
    constructor
    · rintro ⟨-, hkept⟩
      have hsame : (s.handle r).2.get? key = s.get? key := hkept
      rw [hafter, hstored] at hsame
      simp at hsame
    · nofun

/-- A request that pushes, pops or looks, if it is about the key at all, treats it as a queue. -/
theorem exists_queues (hitems : list? (s.get? key) = some items)
    (hr : r.key = some key → ∃ action ∈ [.push, .pop, .get], r.keystoreAction? = some action) :
    ∃ now, (s.exchange r).Queues key items now := by
  by_cases hkey : r.key = some key
  · obtain ⟨action, hmem, haction⟩ := hr hkey
    cases action with
    | push => exact ⟨_, queues_of_push hitems hkey haction⟩
    | get => exact ⟨_, queues_of_get hitems hkey haction⟩
    | pop =>
      cases items with
      | nil => exact ⟨_, queues_of_pop_nil hitems hkey haction⟩
      | cons v items => exact ⟨_, queues_of_pop_cons hitems hkey haction⟩
    | _ => simp at hmem
  · exact ⟨_, queues_of_ne hitems hkey⟩

/-- While a key that holds a list, or nothing, is only pushed to, popped and looked at, none of
this fails. At every moment what was there at first, followed by all that was pushed, is all
that was popped, followed by what is there now; and a pop answers `null` without taking
anything just if there is nothing. -/
theorem queue_lossless {rs : List Request} (hitems : list? (s.get? key) = some items)
    (hrs : ∀ r ∈ rs, r.key = some key →
      ∃ action ∈ [.push, .pop, .get], r.keystoreAction? = some action) :
    (∀ x ∈ s.exchanges rs, x.request.key = some key → x.response.error = none) ∧
      (∀ x ∈ s.exchanges rs, x.Asks .pop key →
        (x.response.data = .null ∧ x.after.get? key = x.before.get? key ↔
          list? (x.before.get? key) = some [])) ∧
      ∀ earlier, earlier <+: rs → ∃ now, list? ((s.after earlier).get? key) = some now ∧
        items ++ (s.exchanges earlier).flatMap (·.pushed key) =
          (s.exchanges earlier).flatMap (·.popped key) ++ now := by
  induction rs generalizing s items with
  | nil =>
    refine ⟨nofun, nofun, fun earlier hearlier => ?_⟩
    obtain rfl := List.prefix_nil.1 hearlier
    exact ⟨items, hitems, by simp [exchanges]⟩
  | cons r rs ih =>
    obtain ⟨next, hqueues⟩ := exists_queues hitems (hrs r List.mem_cons_self)
    obtain ⟨hsucceed, hempty, hconserve⟩ :=
      ih hqueues.list fun r' hr' => hrs r' (List.mem_cons_of_mem r hr')
    refine ⟨?_, ?_, fun earlier hearlier => ?_⟩
    · rintro x (_ | ⟨_, hx⟩)
      · exact hqueues.succeeds
      · exact hsucceed x hx
    · rintro x (_ | ⟨_, hx⟩) hpop
      · rw [hqueues.empty_iff hpop]
        simp [exchange, hitems]
      · exact hempty x hx hpop
    · cases earlier with
      | nil => exact ⟨items, hitems, by simp [exchanges]⟩
      | cons r' earlier =>
        obtain ⟨rfl, hrest⟩ := List.cons_prefix_cons.1 hearlier
        obtain ⟨now, hnow, heq⟩ := hconserve earlier hrest
        refine ⟨now, hnow, ?_⟩
        rw [exchanges, List.flatMap_cons, List.flatMap_cons, ← List.append_assoc,
          hqueues.conserves, List.append_assoc, heq, List.append_assoc]

/-- Two jobs for "jobs", the first of them `null`, and three workers that ask for one; in between
a counter refuses its step. -/
def jobRequests : List Request :=
  [.keystore "boss" .push "jobs" (some .null), .keystore "boss" .push "jobs" (some (.str "rake")),
    .keystore "boss" .inc "done" (some (.str "one")), .keystore "ann" .pop "jobs" none,
    .keystore "boss" .get "jobs" none, .keystore "bob" .pop "jobs" none,
    .keystore "cid" .pop "jobs" none]

/-- Both jobs are popped in their order, and nothing is left. -/
theorem jobs_lossless : list? ((∅ : Keystore).get? "jobs") = some [] ∧
    (∀ r ∈ jobRequests, r.key = some "jobs" →
      ∃ action ∈ [.push, .pop, .get], r.keystoreAction? = some action) ∧
    ((∅ : Keystore).exchanges jobRequests).map (·.response.data) =
      [.null, .str "rake", .null, .null, .arr [.str "rake"], .str "rake", .null] ∧
    ∃ now, list? (((∅ : Keystore).after jobRequests).get? "jobs") = some now ∧
      [.null, .str "rake"] =
        ((∅ : Keystore).exchanges jobRequests).flatMap (·.popped "jobs") ++ now := by
  have hitems : list? ((∅ : Keystore).get? "jobs") = some [] := rfl
  have hrs : ∀ r ∈ jobRequests, r.key = some "jobs" →
      ∃ action ∈ [.push, .pop, .get], r.keystoreAction? = some action := by decide
  obtain ⟨-, -, hconserve⟩ := queue_lossless hitems hrs
  obtain ⟨now, hnow, heq⟩ := hconserve jobRequests List.prefix_rfl
  exact ⟨hitems, hrs, rfl, now, hnow, heq⟩

end Keystore

end LoadTest
