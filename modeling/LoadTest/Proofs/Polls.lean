import LoadTest.Proofs.Sequential
/-!
# Polling

What a pop comes to is said of its attempts alone: when each began and ended, and what was
read. An attempt ends the pop if it brings a value, fails for good, or finds nothing when the
time is up; after any other attempt the pop sleeps and tries again.
-/

namespace LoadTest

/-- An attempt that is over: when it began, when it ended, and what was read. -/
structure Try where
  began : Nat
  ended : Nat
  reading : Except Error Reading

/-- A pop of a key that began at some time: how long it waits for a value, and how long it
sleeps between its attempts. -/
structure Poll where
  key : String
  wait : Option Duration
  interval : Nat
  began : Nat

/-- A call ends with a result, if an attempt has brought one. -/
def Next.of : Option (Except Error Answer) → Next
  | some result => .finish result
  | none => .again

namespace Poll

/-- Nothing was found: the reply was null, or the attempt has failed for a cause that may go
away. A first attempt that fails has not found out. -/
inductive FindsNothing (isFirst : Bool) : Except Error Reading → Prop where
  | null : FindsNothing isFirst (.ok (.data .null))
  | passing {e : Error} (hfirst : isFirst = false) (he : e.isRetryable = true) :
    FindsNothing isFirst (.error e)

/-- The time of a pop is up. -/
def IsUp (p : Poll) (limit : Duration) (now : Nat) : Prop := p.began + limit.toNanos ≤ now

/-- What an attempt brings: the result of the pop, or nothing yet. -/
inductive Brings (p : Poll) (isFirst : Bool) (t : Try) : Option (Except Error Answer) → Prop where
  | value {v : Json} (hr : t.reading = .ok (.data v)) (hv : v ≠ .null) :
    Brings p isFirst t (some (.ok (.value (some v))))
  | failure {e : Error} (hr : t.reading = .error e)
    (he : e.isRetryable = false ∨ isFirst = true) : Brings p isFirst t (some (.error e))
  | timeout {limit : Duration} (hr : FindsNothing isFirst t.reading)
    (hw : p.wait = some limit) (hup : p.IsUp limit t.ended) :
    Brings p isFirst t (some (.error (.popTimeout p.key limit)))
  | again (hr : FindsNothing isFirst t.reading)
    (hup : ∀ limit, p.wait = some limit → ¬ p.IsUp limit t.ended) : Brings p isFirst t none

/-- The time at which the next attempt is due: when the pop begins, or an interval after the
last attempt has ended. -/
def due (p : Poll) (tries : List Try) : Nat :=
  match tries.getLast? with
  | none => p.began
  | some t => t.ended + p.interval

/-- What a pop comes to by some attempts: its result, or nothing yet. No attempt follows one
that brings the result, and none begins before it is due. -/
inductive Yields (p : Poll) : List Try → Option (Except Error Answer) → Prop where
  | begins : Yields p [] none
  | attempt {tries : List Try} {t : Try} {r : Option (Except Error Answer)}
    (h : Yields p tries none) (hdue : p.due tries ≤ t.began) (hended : t.began ≤ t.ended)
    (hb : p.Brings tries.isEmpty t r) : Yields p (tries ++ [t]) r

/-- Every attempt begins when it is due, and takes no longer than a timeout. -/
inductive Prompt (p : Poll) (timeout : Nat) : List Try → Prop where
  | nil : Prompt p timeout []
  | concat {tries : List Try} {t : Try} (h : Prompt p timeout tries)
    (hdue : t.began = p.due tries) (hended : t.ended ≤ t.began + timeout) :
    Prompt p timeout (tries ++ [t])

variable {p : Poll} {isFirst : Bool} {t : Try} {tries : List Try}
  {r r' : Option (Except Error Answer)}

/-! ## One attempt -/

/-- An attempt that fails counts as nothing found, or else for good. -/
theorem findsNothing_error {e : Error} : FindsNothing isFirst (.error e) ↔
    ¬ (e.isRetryable = false ∨ isFirst = true) := by
  constructor
  · rintro (_ | ⟨hfirst, he⟩)
    simp [hfirst, he]
  · intro h
    simp only [not_or, Bool.not_eq_false, Bool.not_eq_true] at h
    exact .passing h.2 h.1

/-- An attempt brings one thing. -/
theorem Brings.unique (h : p.Brings isFirst t r) (h' : p.Brings isFirst t r') : r = r' := by
  have hvalue : ∀ {v}, v ≠ .null → t.reading = .ok (.data v) →
      ¬ FindsNothing isFirst t.reading := by
    intro v hv hr hnothing
    rw [hr] at hnothing
    cases hnothing
    exact hv rfl
  have hfailure : ∀ {e}, t.reading = .error e → (e.isRetryable = false ∨ isFirst = true) →
      ¬ FindsNothing isFirst t.reading := by
    intro e hr he hnothing
    rw [hr] at hnothing
    exact findsNothing_error.1 hnothing he
  cases h with
  | value hr hv =>
    cases h' with
    | value hr' _ =>
      cases hr.symm.trans hr'
      rfl
    | failure hr' _ => cases hr.symm.trans hr'
    | timeout hnothing _ _ | again hnothing _ => exact absurd hnothing (hvalue hv hr)
  | failure hr he =>
    cases h' with
    | value hr' _ => cases hr.symm.trans hr'
    | failure hr' _ =>
      cases hr.symm.trans hr'
      rfl
    | timeout hnothing _ _ | again hnothing _ => exact absurd hnothing (hfailure hr he)
  | timeout hnothing hw hup =>
    cases h' with
    | value hr hv => exact absurd hnothing (hvalue hv hr)
    | failure hr he => exact absurd hnothing (hfailure hr he)
    | timeout _ hw' _ =>
      cases hw.symm.trans hw'
      rfl
    | again _ hup' => exact absurd hup (hup' _ hw)
  | again hnothing hup =>
    cases h' with
    | value hr hv => exact absurd hnothing (hvalue hv hr)
    | failure hr he => exact absurd hnothing (hfailure hr he)
    | timeout _ hw hup' => exact absurd hup' (hup _ hw)
    | again _ _ => rfl

/-- The time is up when the time since the pop began is no less than the limit. -/
theorem le_elapsed_iff {limit : Duration} {now : Nat} (h : p.began ≤ now) :
    limit.toNanos ≤ (Duration.ofNanos (now - p.began)).toNanos ↔ p.IsUp limit now := by
  rw [Duration.toNanos_ofNanos, IsUp]
  omega

/-- What follows an attempt that finds nothing is what it brings. -/
theorem brings_emptyPop (hbegan : p.began ≤ t.ended) (hr : FindsNothing isFirst t.reading) :
    ∃ r, p.Brings isFirst t r ∧
      Method.emptyPop p.key p.wait (.ofNanos (t.ended - p.began)) = .of r := by
  unfold Method.emptyPop
  cases hw : p.wait with
  | none => exact ⟨none, .again hr (by simp [hw]), rfl⟩
  | some limit =>
    by_cases hup : p.IsUp limit t.ended
    · exact ⟨_, .timeout hr hw hup, if_pos ((le_elapsed_iff hbegan).2 hup)⟩
    · refine ⟨none, .again hr fun limit' hw' => ?_, if_neg (mt (le_elapsed_iff hbegan).1 hup)⟩
      cases hw.symm.trans hw'
      exact hup

/-- What follows an attempt of a pop is what it brings. -/
theorem brings_nextPop (hbegan : p.began ≤ t.ended)
    (hr : ∀ payload, t.reading ≠ .ok (.testdata payload)) :
    ∃ r, p.Brings isFirst t r ∧ Method.nextPop p.key p.wait isFirst
      (.ofNanos (t.ended - p.began)) t.reading = .of r := by
  cases hread : t.reading with
  | error e =>
    have hfails : (!isFirst && e.isRetryable) = true ↔
        ¬ (e.isRetryable = false ∨ isFirst = true) := by
      simp [and_comm]
    rw [Method.nextPop]
    by_cases he : e.isRetryable = false ∨ isFirst = true
    · exact ⟨_, .failure hread he, if_neg (mt hfails.1 (not_not.2 he))⟩
    · rw [if_pos (hfails.2 he)]
      exact brings_emptyPop hbegan (hread ▸ findsNothing_error.2 he)
  | ok reading =>
    cases reading with
    | testdata payload => exact absurd hread (hr payload)
    | data v =>
      rw [Method.nextPop]
      by_cases hv : v = .null
      · rw [if_pos (Json.isNull_iff.2 hv)]
        exact brings_emptyPop hbegan (hread ▸ hv ▸ .null)
      · exact ⟨_, .value hread hv, if_neg (mt Json.isNull_iff.1 hv)⟩

/-! ## All attempts -/

@[simp] theorem due_concat (p : Poll) (tries : List Try) (t : Try) :
    p.due (tries ++ [t]) = t.ended + p.interval := by
  rw [due, List.getLast?_concat]

/-- The last attempt of a pop follows attempts that brought nothing yet. -/
theorem yields_concat : p.Yields (tries ++ [t]) r ↔
    p.Yields tries none ∧ p.due tries ≤ t.began ∧ t.began ≤ t.ended ∧
      p.Brings tries.isEmpty t r := by
  constructor
  · intro h
    generalize hl : tries ++ [t] = l at h
    cases h with
    | begins => simp at hl
    | attempt h hdue hended hb =>
      obtain ⟨rfl, hlast⟩ := List.append_inj' hl rfl
      cases hlast
      exact ⟨h, hdue, hended, hb⟩
  · rintro ⟨h, hdue, hended, hb⟩
    exact .attempt h hdue hended hb

namespace Yields

theorem began_le_due (h : p.Yields tries r) : p.began ≤ p.due tries := by
  induction h with
  | begins => exact Nat.le_refl _
  | attempt _ hdue hended _ ih =>
    rw [due_concat]
    omega

/-- A pop comes to one thing. -/
theorem unique (h : p.Yields tries r) (h' : p.Yields tries r') : r = r' := by
  cases h with
  | begins =>
    generalize hnil : ([] : List Try) = l at h'
    cases h' with
    | begins => rfl
    | attempt => simp at hnil
  | attempt _ _ _ hb => exact hb.unique (yields_concat.1 h').2.2.2

/-- A pop that goes on has ended its last attempt before the time was up. -/
theorem due_le (h : p.Yields tries none) {limit : Duration} (hw : p.wait = some limit) :
    p.due tries ≤ p.began + limit.toNanos + p.interval := by
  generalize hr : (none : Option (Except Error Answer)) = r at h
  cases h with
  | begins =>
    show p.began ≤ _
    omega
  | attempt _ _ _ hb =>
    subst hr
    cases hb with
    | again _ hup =>
      have := hup limit hw
      rw [due_concat]
      unfold IsUp at this
      omega

/-- A pop whose wait is no span of time makes one attempt. -/
theorem once (h : p.Yields tries r) {limit : Duration} (hw : p.wait = some limit)
    (hzero : limit.toNanos = 0) :
    (tries = [] ∧ r = none) ∨ ∃ t result, tries = [t] ∧ r = some result := by
  -- the time is up when an attempt ends, so none brings nothing yet
  have hresult : ∀ {before t r}, p.Yields (before ++ [t]) r → r ≠ none := by
    rintro before t r h rfl
    obtain ⟨hbefore, hdue, hended, hb⟩ := yields_concat.1 h
    have := hbefore.began_le_due
    cases hb with
    | again _ hup =>
      refine hup limit hw ?_
      unfold IsUp
      omega
  rcases tries.eq_nil_or_concat' with rfl | ⟨before, t, rfl⟩
  · cases h.unique .begins
    exact .inl ⟨rfl, rfl⟩
  · rcases before.eq_nil_or_concat' with rfl | ⟨before, t', rfl⟩
    · obtain ⟨result, rfl⟩ := Option.ne_none_iff_exists'.1 (hresult h)
      exact .inr ⟨t, result, rfl, rfl⟩
    · exact absurd rfl (hresult (yields_concat.1 h).1)

/-- A pop is timed out by an attempt that ends when the time is up, unless an attempt has
failed with that very error. -/
theorem timeout_of_popTimeout (h : p.Yields tries r)
    (hr : ∀ t ∈ tries, ∀ key limit, t.reading ≠ .error (.popTimeout key limit)) {key : String}
    {limit : Duration} (hresult : r = some (.error (.popTimeout key limit))) :
    key = p.key ∧ p.wait = some limit ∧ ∃ before t, tries = before ++ [t] ∧
      p.IsUp limit t.ended := by
  cases h with
  | begins => cases hresult
  | @attempt before t _ _ _ _ hb =>
    cases hb with
    | value => cases hresult
    | again => cases hresult
    | failure hread _ =>
      cases hresult
      exact absurd hread (hr t (by simp) key limit)
    | timeout _ hw hup =>
      cases hresult
      exact ⟨rfl, hw, before, t, rfl, hup⟩

/-- The attempts of a prompt pop with a limit end by the limit, an interval and a timeout. -/
theorem ended_le (h : p.Yields tries r) {timeout : Nat} (hp : p.Prompt timeout tries)
    {limit : Duration} (hw : p.wait = some limit) :
    ∀ t ∈ tries, t.ended ≤ p.began + limit.toNanos + p.interval + timeout := by
  induction hp generalizing r with
  | nil => exact nofun
  | concat _ hdue hended ih =>
    obtain ⟨hbefore, -⟩ := yields_concat.1 h
    have := hbefore.due_le hw
    rintro t ht
    rcases List.mem_append.1 ht with ht | ht
    · exact ih hbefore t ht
    · obtain rfl := List.mem_singleton.1 ht
      omega

end Yields

end Poll

end LoadTest
