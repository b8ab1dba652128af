import LoadTest.Proofs.Keystore.Actions
import Mathlib.Algebra.Ring.Int.Defs
/-!
# Counters

As long as the requests on a key only increment it and look, its counter is where it started
plus all steps that were granted, exactly, whatever is refused in between and whatever is asked
about other keys. A step that is no 64-bit integer is refused, and so is one that would take the
counter out of their range; a refused step adds nothing. Steps that are all positive are thus
answered by totals that go up, so that no two of them are the same.
-/

namespace LoadTest

namespace Keystore

/-- The data of an increment ask for a step: for one if they are absent or `null`, else for the
64-bit integer that they are. -/
inductive AsksStep : Option Json → Int64 → Prop where
  | absent : AsksStep none 1
  | null : AsksStep (some .null) 1
  | integer (n : Int64) : AsksStep (some (.ofInt64 n)) n

theorem step?_eq_some {data : Option Json} {n : Int64} :
    step? data = some n ↔ AsksStep data n := by
  constructor
  · intro h
    rcases data with _ | v
    · cases h
      exact .absent
    · cases v with
      | null =>
        cases h
        exact .null
      | int z =>
        obtain ⟨val, lower, upper⟩ := z
        obtain rfl : n.toInt = val := int64?_eq_some.1 h
        exact .integer n
      | _ => cases h
  · rintro (_ | _ | n)
    · rfl
    · rfl
    · exact int64?_toInt n

/-- What an increment has added up. -/
theorem Effect.of_inc {stored data after : Option Json} {answer : Json}
    (h : Effect stored data .inc answer after) :
    ∃ current step n, count? stored = some current ∧ AsksStep data step ∧
      n.toInt = current.toInt + step.toInt ∧ answer = .ofInt64 n ∧ after = some (.ofInt64 n) := by
  cases h with
  | inc hcurrent hstep hsum =>
    exact ⟨_, _, _, hcurrent, step?_eq_some.1 hstep, hsum, rfl, rfl⟩

namespace Exchange

/-- An increment of a key that was not refused. -/
def Grants (key : String) (x : Exchange) : Prop := x.Asks .inc key ∧ x.response.error = none

instance (key : String) (x : Exchange) : Decidable (x.Grants key) :=
  inferInstanceAs (Decidable (_ ∧ _))

/-- What a request adds to the counter under a key. -/
def gain (key : String) (x : Exchange) : Int :=
  if x.Grants key then ((step? x.request.data).map Int64.toInt).getD 0 else 0

/-- What a granted increment of a key is answered by. -/
def granted (key : String) (x : Exchange) : List Json :=
  if x.Grants key then [x.response.data] else []

/-- A request meets a counter at some total and moves it by its gain. An increment is granted
just if it asks for a step that keeps the total in range; it gains the step then, and is answered
by the new total. -/
structure Counts (key : String) (x : Exchange) (total : Int) : Prop where
  count : ∃ n, count? (x.after.get? key) = some n ∧ n.toInt = total + x.gain key
  grants_iff : x.Asks .inc key →
    (x.Grants key ↔ ∃ step, AsksStep x.request.data step ∧ FitsInt64 (total + step.toInt))
  gains : x.Grants key → ∃ step n, AsksStep x.request.data step ∧ x.gain key = step.toInt ∧
    x.response.data = .ofInt64 n ∧ n.toInt = total + step.toInt

theorem gain_of_not_grants {key : String} {x : Exchange} (h : ¬ x.Grants key) :
    x.gain key = 0 := if_neg h

theorem gain_of_grants {key : String} {x : Exchange} {step : Int64} (h : x.Grants key)
    (hstep : AsksStep x.request.data step) : x.gain key = step.toInt := by
  rw [gain, if_pos h, step?_eq_some.2 hstep]
  rfl

/-- A request that leaves the counter alone and is no increment of it. -/
theorem Counts.of_not_asks {key : String} {x : Exchange} {n : Int64}
    (hn : count? (x.after.get? key) = some n) (hx : ¬ x.Asks .inc key) :
    x.Counts key n.toInt where
  count := by
    refine ⟨n, hn, ?_⟩
    rw [gain_of_not_grants fun h => hx h.1, Int.add_zero]
  grants_iff := fun h => (hx h).elim
  gains := fun h => (hx h.1).elim

end Exchange

variable {s : Keystore} {key : String} {start : Int64} {r : Request}

/-- A request on another key leaves the counter alone. -/
theorem counts_of_ne (hstart : count? (s.get? key) = some start) (hkey : r.key ≠ some key) :
    (s.exchange r).Counts key start.toInt := by
  refine .of_not_asks ?_ fun h => hkey h.1
  show count? ((s.handle r).2.get? key) = some start
  rw [handle_of_ne hkey, hstart]

/-- Looking at a counter leaves it alone. -/
theorem counts_of_get (hstart : count? (s.get? key) = some start) (hkey : r.key = some key)
    (haction : r.keystoreAction? = some .get) : (s.exchange r).Counts key start.toInt := by
  refine .of_not_asks ?_ fun h => by cases haction.symm.trans h.2
  show count? ((s.handle r).2.get? key) = some start
  rw [handle_of_effect hkey haction .get, get?_put, if_pos rfl, hstart]

theorem counts_of_inc (hstart : count? (s.get? key) = some start) (hkey : r.key = some key)
    (haction : r.keystoreAction? = some .inc) : (s.exchange r).Counts key start.toInt := by
  obtain ⟨e, hhandle, -, hrefused⟩ |
    ⟨_, _, answer, after, hk, ha, heffect, hhandle⟩ := s.handle_cases r
  · -- a refused increment could have had no effect, so it asks for no step that fits
    have hnot : ¬ (s.exchange r).Grants key := by
      rintro ⟨-, herror⟩
      rw [exchange, hhandle] at herror
      cases herror
    refine ⟨⟨start, ?_, ?_⟩, fun _ => iff_of_false hnot ?_, fun h => (hnot h).elim⟩
    · show count? ((s.handle r).2.get? key) = some start
      rw [hhandle, hstart]
    · rw [Exchange.gain_of_not_grants hnot, Int.add_zero]
    · rintro ⟨step, hstep, hfits⟩
      obtain ⟨n, hn⟩ := fitsInt64_iff.1 hfits
      exact hrefused key .inc hkey haction _ _ (.inc hstart (step?_eq_some.2 hstep) hn)
  · cases hk.symm.trans hkey
    cases ha.symm.trans haction
    obtain ⟨current, step, n, hcurrent, hstep, hsum, rfl, rfl⟩ := heffect.of_inc
    obtain rfl := Option.some.inj (hstart.symm.trans hcurrent)
    have hgrants : (s.exchange r).Grants key :=
      ⟨⟨hkey, haction⟩, by rw [exchange, hhandle]⟩
    have hgain : (s.exchange r).gain key = step.toInt := Exchange.gain_of_grants hgrants hstep
    refine ⟨⟨n, ?_, hsum.trans (by rw [hgain])⟩, fun _ => iff_of_true hgrants ?_, fun _ => ?_⟩
    · show count? ((s.handle r).2.get? key) = some n
      rw [hhandle, get?_put, if_pos rfl]
      exact int64?_toInt n
    · exact ⟨step, hstep, fitsInt64_iff.2 ⟨n, hsum⟩⟩
    · exact ⟨step, n, hstep, hgain, by rw [exchange, hhandle], hsum⟩

/-- A request that increments or looks, if it is about the key at all, meets the counter at its
total. -/
theorem counts (hstart : count? (s.get? key) = some start)
    (hr : r.key = some key → ∃ action ∈ [.inc, .get], r.keystoreAction? = some action) :
    (s.exchange r).Counts key start.toInt := by
  by_cases hkey : r.key = some key
  · obtain ⟨action, hmem, haction⟩ := hr hkey
    cases action with
    | inc => exact counts_of_inc hstart hkey haction
    | get => exact counts_of_get hstart hkey haction
    | _ => simp at hmem
  · exact counts_of_ne hstart hkey

/-! ## Many requests -/

/-- The total of a counter after some requests: where it started, and all that it gained. -/
def total (s : Keystore) (key : String) (start : Int64) (rs : List Request) : Int :=
  start.toInt + ((s.exchanges rs).map (·.gain key)).sum

theorem total_nil : s.total key start [] = start.toInt := Int.add_zero _

theorem total_cons {now : Int64} {rs : List Request}
    (hnow : now.toInt = start.toInt + (s.exchange r).gain key) :
    s.total key start (r :: rs) = (s.exchange r).after.total key now rs := by
  rw [total, total, exchanges, List.map_cons, List.sum_cons, ← Int.add_assoc, ← hnow]

/-- At every moment the counter stands at its total, and every request meets it there. -/
theorem counts_of_run {rs : List Request} (hstart : count? (s.get? key) = some start)
    (hrs : ∀ r ∈ rs, r.key = some key →
      ∃ action ∈ [.inc, .get], r.keystoreAction? = some action) :
    (∀ earlier, earlier <+: rs → ∃ now, count? ((s.after earlier).get? key) = some now ∧
        now.toInt = s.total key start earlier) ∧
      ∀ earlier r, earlier ++ [r] <+: rs →
        ((s.after earlier).exchange r).Counts key (s.total key start earlier) := by
  induction rs generalizing s start with
  | nil =>
    refine ⟨fun earlier hearlier => ?_, fun earlier r hearlier => ?_⟩
    · obtain rfl := List.prefix_nil.1 hearlier
      exact ⟨start, hstart, total_nil.symm⟩
    · simp at hearlier
  | cons r rs ih =>
    have hcounts := counts hstart (hrs r List.mem_cons_self)
    obtain ⟨next, hnext, hsum⟩ := hcounts.count
    obtain ⟨htotals, hmeets⟩ := ih hnext fun r' hr' => hrs r' (List.mem_cons_of_mem r hr')
    constructor
    · intro earlier hearlier
      cases earlier with
      | nil => exact ⟨start, hstart, total_nil.symm⟩
      | cons r' earlier =>
        obtain ⟨rfl, hrest⟩ := List.cons_prefix_cons.1 hearlier
        rw [total_cons hsum]
        exact htotals earlier hrest
    · intro earlier r' hearlier
      cases earlier with
      | nil =>
        obtain ⟨rfl, -⟩ := List.cons_prefix_cons.1 hearlier
        rw [total_nil]
        exact hcounts
      | cons r'' earlier =>
        obtain ⟨rfl, hrest⟩ := List.cons_prefix_cons.1 hearlier
        rw [total_cons hsum]
        exact hmeets earlier r' hrest

/-- If every granted step is positive, the answers are totals that go up from the start. -/
theorem exists_totals {rs : List Request} (hstart : count? (s.get? key) = some start)
    (hrs : ∀ r ∈ rs, r.key = some key →
      ∃ action ∈ [.inc, .get], r.keystoreAction? = some action)
    (hpos : ∀ x ∈ s.exchanges rs, x.Grants key → 0 < x.gain key) :
    ∃ totals : List Int64, (s.exchanges rs).flatMap (·.granted key) = totals.map .ofInt64 ∧
      (start :: totals).Pairwise (· < ·) := by
  induction rs generalizing s start with
  | nil => exact ⟨[], rfl, List.pairwise_singleton _ _⟩
  | cons r rs ih =>
    have hcounts := counts hstart (hrs r List.mem_cons_self)
    obtain ⟨next, hnext, hsum⟩ := hcounts.count
    obtain ⟨totals, hgranted, hup⟩ := ih hnext
      (fun r' hr' => hrs r' (List.mem_cons_of_mem r hr'))
      fun x hx => hpos x (List.mem_cons_of_mem _ hx)
    rw [exchanges, List.flatMap_cons, hgranted]
    by_cases hgrants : (s.exchange r).Grants key
    · obtain ⟨step, n, -, hgain, hdata, hn⟩ := hcounts.gains hgrants
      obtain rfl : n = next := Int64.toInt_inj.1 (by rw [hn, hsum, hgain])
      have hlt : start < n := by
        have hstep := hpos _ List.mem_cons_self hgrants
        rw [Int64.lt_iff_toInt_lt]
        omega
      refine ⟨n :: totals, by rw [Exchange.granted, if_pos hgrants, hdata]; rfl, ?_⟩
      refine List.pairwise_cons.2 ⟨?_, hup⟩
      rintro m (_ | ⟨_, hm⟩)
      · exact hlt
      · exact Int64.lt_trans hlt ((List.pairwise_cons.1 hup).1 m hm)
    · rw [Exchange.gain_of_not_grants hgrants, Int.add_zero] at hsum
      obtain rfl := Int64.toInt_inj.1 hsum
      exact ⟨totals, by rw [Exchange.granted, if_neg hgrants]; rfl, hup⟩

/-- While a key that stands for a counter is only incremented and looked at, its counter is at
every moment where it started plus the steps that were granted. An increment is granted just if
it asks for a step that keeps this total in range, and is answered by the new total. If all
granted steps are positive, the answers go up, and no two of them are the same. -/
theorem counter_conserved {rs : List Request} (hstart : count? (s.get? key) = some start)
    (hrs : ∀ r ∈ rs, r.key = some key →
      ∃ action ∈ [.inc, .get], r.keystoreAction? = some action) :
    (∀ earlier, earlier <+: rs → ∃ now, count? ((s.after earlier).get? key) = some now ∧
        now.toInt = s.total key start earlier) ∧
      (∀ earlier r, earlier ++ [r] <+: rs →
        ((s.after earlier).exchange r).Counts key (s.total key start earlier)) ∧
      ((∀ x ∈ s.exchanges rs, x.Grants key → 0 < x.gain key) →
        ((s.exchanges rs).flatMap (·.granted key)).Nodup ∧
          ∃ totals : List Int64, (s.exchanges rs).flatMap (·.granted key) =
            totals.map .ofInt64 ∧ totals.Pairwise (· < ·)) := by
  obtain ⟨hstands, hmeets⟩ := counts_of_run hstart hrs
  refine ⟨hstands, hmeets, fun hpos => ?_⟩
  obtain ⟨totals, hgranted, hup⟩ := exists_totals hstart hrs hpos
  have hup := (List.pairwise_cons.1 hup).2
  refine ⟨?_, totals, hgranted, hup⟩
  rw [hgranted]
  refine List.pairwise_map.2 (hup.imp ?_)
  intro a b hlt hsame
  refine Int64.ne_of_lt hlt ?_
  have hread : some a = some b := by
    rw [← int64?_toInt a, ← int64?_toInt b]
    exact congrArg Json.int64? hsame
  exact Option.some.inj hread

/-- Two numbers before the last one there is, as a text. -/
def nearlyFull : Keystore := (∅ : Keystore).insert "tickets" (.str "9223372036854775805")

/-- Four increments, of which the second goes too far and the third has no step. -/
def ticketRequests : List Request :=
  [.keystore "ann" .inc "tickets" none, .keystore "bob" .inc "tickets" (some (.ofInt64 2)),
    .keystore "cid" .inc "tickets" (some (.str "1")), .keystore "ann" .get "tickets" none,
    .keystore "bob" .push "jobs" none, .keystore "cid" .inc "tickets" (some .null)]

/-- The text becomes a number, and the two increments that fit are answered by different
totals. -/
theorem tickets_conserved :
    count? (nearlyFull.get? "tickets") = some 9223372036854775805 ∧
      (∀ r ∈ ticketRequests, r.key = some "tickets" →
        ∃ action ∈ [.inc, .get], r.keystoreAction? = some action) ∧
      (nearlyFull.exchanges ticketRequests).map (·.response.data) =
        [.ofInt64 9223372036854775806, .null, .null, .ofInt64 9223372036854775806, .null,
          .ofInt64 9223372036854775807] ∧
      (∃ now, count? ((nearlyFull.after ticketRequests).get? "tickets") = some now ∧
        now.toInt = nearlyFull.total "tickets" 9223372036854775805 ticketRequests) ∧
      ((nearlyFull.exchanges ticketRequests).flatMap (·.granted "tickets")).Nodup := by
  have hstart : count? (nearlyFull.get? "tickets") = some 9223372036854775805 := by decide
  have hrs : ∀ r ∈ ticketRequests, r.key = some "tickets" →
      ∃ action ∈ [.inc, .get], r.keystoreAction? = some action := by decide
  have hpos : ∀ x ∈ nearlyFull.exchanges ticketRequests, x.Grants "tickets" →
      0 < x.gain "tickets" := by decide
  obtain ⟨hstands, -, hdistinct⟩ := counter_conserved hstart hrs
  exact ⟨hstart, hrs, rfl, hstands _ List.prefix_rfl, (hdistinct hpos).1⟩

end Keystore

end LoadTest
