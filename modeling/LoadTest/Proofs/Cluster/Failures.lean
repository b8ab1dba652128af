import LoadTest.Proofs.Cluster.Courses
/-!
# The failures that a call reports

A call leaves the event of an attempt as soon as the attempt has ended. So it reports the
errors of its attempts. What it finds afterwards is in no event: that an inc has brought no
integer, and that a pop has found nothing in time.
-/

namespace LoadTest

/-! ## Errors and their texts -/

namespace Text

/-- A text begins with another one. -/
def Begins (s head : String) : Prop := ∃ rest, s = head ++ rest

theorem begins_append (head rest : String) : Begins (head ++ rest) head := ⟨rest, rfl⟩

theorem Begins.append {s head : String} (h : Begins s head) (t : String) :
    Begins (s ++ t) head := by
  obtain ⟨rest, rfl⟩ := h
  exact ⟨rest ++ t, String.append_assoc ..⟩

theorem Begins.behind {s head : String} (h : Begins s head) (t : String) :
    Begins (t ++ s) (t ++ head) := by
  obtain ⟨rest, rfl⟩ := h
  exact ⟨rest, (String.append_assoc ..).symm⟩

/-- Neither text is the beginning of the other. -/
def Apart (a b : String) : Prop := ¬ a.toList <+: b.toList ∧ ¬ b.toList <+: a.toList

instance (a b : String) : Decidable (Apart a b) := inferInstanceAs (Decidable (_ ∧ _))

/-- Texts that begin differently are different. -/
theorem Apart.ne {a b s t : String} (h : Apart a b) (hs : Begins s a) (ht : Begins t b) :
    s ≠ t := by
  rintro rfl
  obtain ⟨rest, rfl⟩ := hs
  obtain ⟨rest', heq⟩ := ht
  have heq := congrArg String.toList heq
  rw [String.toList_append, String.toList_append] at heq
  have hb : b.toList <+: a.toList ++ rest.toList := heq ▸ List.prefix_append _ _
  rcases List.prefix_or_prefix_of_prefix (List.prefix_append _ _) hb with hab | hba
  · exact h.1 hab
  · exact h.2 hba

end Text

namespace Error

/-- A request fails with such an error: it cannot be registered or sent, or no reply comes. -/
def IsOfRequest (e : Error) : Prop := e.isRetryable = true ∨ ∃ uid, e = .duplicateCorrelation uid

/-- How the errors of an attempt to use the keystore begin. -/
def attemptHeads : List String :=
  ["no data received within ", "transport error: ", "connection to coordinator at ",
    "correlation id ", "malformed response: " ++ "keystore response: ", "keystore "]

/-- How the errors begin that are found after the attempts. -/
def lateHeads : List String := ["malformed response: " ++ "inc on \"", "no value popped from \""]

theorem apart_heads : ∀ a ∈ attemptHeads, ∀ b ∈ lateHeads, Text.Apart a b := by
  decide

theorem IsOfRequest.begins {e : Error} (h : e.IsOfRequest) :
    ∃ head ∈ attemptHeads, Text.Begins e.message head := by
  rcases h with hretry | ⟨uid, rfl⟩
  · cases e with
    | noDataReceived timeout =>
      exact ⟨_, by decide, Text.begins_append "no data received within " _⟩
    | transport text =>
      exact ⟨_, by decide, Text.begins_append "transport error: " _⟩
    | connectionLost address =>
      exact ⟨_, by decide, (Text.begins_append "connection to coordinator at " _).append _⟩
    | _ => cases hretry
  · exact ⟨_, by decide, (Text.begins_append "correlation id " _).append _⟩

end Error

/-! ## What follows an attempt -/

namespace Method

/-- The errors that a call finds after its attempts: an inc has brought no integer, or a pop
has found nothing in time. -/
inductive LateError : Method → Error → Prop where
  | inc {key : String} {step : Int64} {v : Json} (hv : v.int64? = none) :
    LateError (.inc key step)
      (.malformedResponse ("inc on \"" ++ key ++ "\" returned " ++ v.compact))
  | pop {key : String} {limit : Duration} :
    LateError (.pop key (some limit)) (.popTimeout key limit)

variable {m : Method} {isFirst : Bool} {elapsed : Duration} {r : Except Error Reading} {e : Error}

theorem LateError.begins (h : m.LateError e) :
    ∃ head ∈ Error.lateHeads, Text.Begins e.message head := by
  cases h with
  | inc =>
    exact ⟨_, by decide,
      (((Text.begins_append "inc on \"" _).append _).append _).behind "malformed response: "⟩
  | pop =>
    exact ⟨_, by decide, ((Text.begins_append "no value popped from \"" _).append _).append _⟩

/-- Only a call to the keystore finds an error late. -/
theorem LateError.target? (h : m.LateError e) : ∃ action key, m.target? = some (action, key) := by
  cases h with
  | inc | pop => exact ⟨_, _, rfl⟩

/-- The errors of an attempt to use the keystore do not read like those found afterwards. -/
theorem LateError.message_ne {e' : Error} {reply : Except Error Json} (h : m.LateError e)
    (hreply : ∀ e, reply = .error e → e.IsOfRequest) (he : m.outcome reply = .error e') :
    e'.message ≠ e.message := by
  suffices hbegins : ∃ head ∈ Error.attemptHeads, Text.Begins e'.message head by
    obtain ⟨a, ha, hs⟩ := hbegins
    obtain ⟨b, hb, ht⟩ := h.begins
    exact (Error.apart_heads a ha b hb).ne hs ht
  obtain ⟨action, key, htarget⟩ := h.target?
  cases reply with
  | error e =>
    cases he
    exact (hreply _ rfl).begins
  | ok v =>
    have hread : readKeystore action key v = .error e' := by
      rw [← he, outcome, read, htarget]
    unfold readKeystore at hread
    split at hread
    · cases hread
      exact ⟨_, by decide,
        (Text.begins_append "keystore response: " _).behind "malformed response: "⟩
    · split at hread
      · cases hread
        exact ⟨_, by decide, ((((Text.begins_append "keystore " _).append _).append _).append
          _).append _⟩
      · cases hread

/-- A call that fails has the error of its last attempt, or has found one afterwards. -/
theorem error_of_finish (h : m.next isFirst elapsed r = .finish (.error e)) :
    r = .error e ∨ m.LateError e := by
  -- a pop that stops after it found nothing has run out of time
  have hempty : ∀ {key wait}, emptyPop key wait elapsed = .finish (.error e) →
      (pop key wait).LateError e := by
    intro key wait h
    rcases emptyPop_cases key wait elapsed with hagain | ⟨limit, rfl, hfinish⟩
    · rw [hagain] at h
      cases h
    · rw [hfinish] at h
      cases h
      exact .pop
  by_cases hpop : ∃ key wait, m = .pop key wait
  · obtain ⟨key, wait, rfl⟩ := hpop
    rw [next] at h
    unfold nextPop at h
    split at h
    · split at h
      · exact .inr (hempty h)
      · cases h
        exact .inl rfl
    · split at h
      · exact .inr (hempty h)
      · cases h
    · cases h
  · have hnext : m.next isFirst elapsed r = .finish (r.bind m.answer) := by
      cases m with
      | pop key wait => exact absurd ⟨key, wait, rfl⟩ hpop
      | _ => rfl
    rw [hnext] at h
    cases r with
    | error e' =>
      cases h
      exact .inl rfl
    | ok reading =>
      have hanswer : m.answer reading = .error e := Next.finish.inj h
      unfold answer at hanswer
      split at hanswer
      · cases hanswer
      · split at hanswer
        · cases hanswer
        · split at hanswer
          · cases hanswer
          · next hv =>
            cases hanswer
            exact .inr (.inc hv)
        · cases hanswer

/-- A call that answers has read its last reply without an error. -/
theorem reading_of_finish {answer : Answer} (h : m.next isFirst elapsed r = .finish (.ok answer)) :
    ∃ reading, r = .ok reading := by
  cases r with
  | ok reading => exact ⟨reading, rfl⟩
  | error e' =>
    rcases m.next_error_cases isFirst elapsed e' with hfinish | ⟨-, key, wait, -, hnext⟩
    · rw [hfinish] at h
      cases h
    · rw [hnext] at h
      rcases emptyPop_cases key wait elapsed with hagain | ⟨limit, -, hfinish⟩
      · rw [hagain] at h
        cases h
      · rw [hfinish] at h
        cases h

end Method

/-! ## Events -/

/-- An event names a call and its user. -/
structure Event.IsOf (x : Event) (m : Method) (identifier : String) : Prop where
  role : x.role = .consumer
  kind : x.kind = some m.kind
  identifier : x.identifier = identifier
  action : x.action = m.target?.map (·.1.name)
  key : x.key = m.target?.map (·.2)

theorem Method.event_isOf (m : Method) (identifier : String) (took : Duration)
    (r : Except Error Reading) : (m.event identifier took r).IsOf m identifier :=
  ⟨rfl, rfl, rfl, rfl, rfl⟩

namespace Cluster

open Transport

variable {s s' : State} {call : Nat} {c c' : Call} {u : User} {w : Worker} {outside : Outside}
  {a : Action}

namespace State

theorem prefix_consumed_endAttempt (s : State) (call : Nat) (c : Call) (u : User) (w : Worker)
    (reply : Except Error Json) : s.consumed <+: (s.endAttempt call c u w reply).consumed := by
  cases hw : w.keepsEvents with
  | true =>
    rw [consumed_endAttempt _ _ _ _ _ hw]
    exact List.prefix_append _ _
  | false =>
    rw [endAttempt]
    simp only [hw, Bool.false_eq_true, if_false]
    split <;> exact List.prefix_refl _

/-- Whoever serves changes nothing about the events of the users. -/
theorem consumed_serve? {position : Nat} (h : s.serve? outside position = some s') :
    s'.consumed = s.consumed := by
  obtain ⟨m, -, h⟩ := Option.bind_eq_some_iff.1 h
  simp only at h
  split at h
  · cases h
    unfold serveMessage
    split <;> rfl
  · split at h <;> cases h
    rfl
  · cases h

theorem consumed_perform? (h : s.perform? = some s') : s'.consumed = s.consumed := by
  unfold perform? at h
  repeat' split at h
  all_goals cases h
  all_goals rfl

/-- Events are left behind those that are there. -/
theorem consumed_of_step? (h : s.step? outside a = some s') : s.consumed <+: s'.consumed := by
  cases a with
  | attempt call =>
    obtain ⟨c, u, w, -, -, -, -, ⟨messages, -, -, -, -, rfl⟩ | ⟨e, -, -, rfl⟩⟩ :=
      attempt?_cases h
    · exact List.prefix_refl _
    · exact prefix_consumed_endAttempt (s.setTable u.worker w.table.refused) ..
  | complete call =>
    obtain ⟨c, ticket, deadline, u, w, reply, -, -, -, -, -, rfl⟩ := complete?_cases h
    exact prefix_consumed_endAttempt (s.setTable u.worker (w.table.remove ticket)) ..
  | expire call =>
    obtain ⟨c, ticket, deadline, u, w, -, -, -, -, -, rfl⟩ := expire?_cases h
    exact prefix_consumed_endAttempt (s.setTable u.worker (w.table.remove ticket)) ..
  | serve position => rw [consumed_serve? h]
  | perform => rw [consumed_perform? h]
  | receive worker position =>
    obtain ⟨w, m, -, -, -, rfl⟩ := receive?_cases h
    exact List.prefix_refl _
  | endReplies worker =>
    obtain ⟨w, -, -, rfl⟩ := endReplies?_cases h
    exact List.prefix_refl _
  | wake call =>
    obtain ⟨c, deadline, -, -, rfl⟩ := wake?_cases h
    exact List.prefix_refl _
  | cancel call =>
    obtain ⟨c, -, ⟨-, rfl⟩ | ⟨ticket, deadline, u, w, -, -, -, rfl⟩⟩ := cancel?_cases h
    · exact List.prefix_refl _
    · exact List.prefix_refl _
  | connect client options keepsEvents =>
    obtain ⟨-, rfl⟩ := connect?_cases h
    exact List.prefix_refl _
  | join worker identifier =>
    obtain ⟨w, -, rfl⟩ := join?_cases h
    exact List.prefix_refl _
  | begin user method =>
    cases begin?_cases h
    exact List.prefix_refl _
  | inject worker topic data =>
    obtain ⟨x, hx, rfl⟩ := Option.map_eq_some_iff.1 h
    obtain ⟨w, -, hx⟩ := Option.bind_eq_some_iff.1 hx
    cases hx
    exact List.prefix_refl _
  | disconnect worker =>
    obtain ⟨w, -, h⟩ := Option.bind_eq_some_iff.1 h
    cases h
    exact List.prefix_refl _
  | dropWorker worker =>
    obtain ⟨w, -, h⟩ := Option.bind_eq_some_iff.1 h
    cases h
    exact List.prefix_refl _
  | pass nanos =>
    cases h
    exact List.prefix_refl _
  | closeService =>
    cases h
    exact List.prefix_refl _
  | testStop attempt =>
    obtain ⟨c, folder, rfl⟩ := testStop?_cases h
    exact List.prefix_refl _
  | stop attempt =>
    obtain ⟨c, folder, rfl⟩ := stop?_cases h
    exact List.prefix_refl _

/-- A call has moved on. Either an attempt of it has ended and left one event, or none has, and
then it has no result. -/
inductive Leaves (s : State) (c : Call) (u : User) (w : Worker) (s' : State) : Call → Prop where
  | nothing {c' : Call} (hconsumed : s'.consumed = s.consumed) (huser : c'.user = c.user)
    (hmethod : c'.method = c.method) (hresult : c'.result? = none) : Leaves s c u w s' c'
  | event {began : Nat} {took : Duration} {reply : Except Error Json}
    (hreply : ∀ e, reply = .error e → e.IsOfRequest)
    (hconsumed : s'.consumed = s.consumed ++
      [c.method.event u.consumer.identifier took (c.method.outcome reply)]) :
    Leaves s c u w s' (({ c with attempted := began } : Call).after s.now w reply)

/-- What an action of its own does to a call whose worker keeps events. -/
theorem leaves_of_step? (h : s.step? outside a = some s') (ha : a.call? = some call)
    (hc : s.calls[call]? = some c) (ho : s.owner? c = some (u, w))
    (hkeeps : w.keepsEvents = true) : ∃ c', s'.calls[call]? = some c' ∧ s.Leaves c u w s' c' := by
  obtain ⟨hu, hw⟩ := owner?_eq_some.1 ho
  have hlt := (List.getElem?_eq_some_iff.1 hc).1
  cases a with
  | attempt k =>
    cases ha
    obtain ⟨c₁, u₁, w₁, hc₁, -, hu₁, hw₁, hcases⟩ := attempt?_cases h
    obtain rfl := Option.some.inj (hc.symm.trans hc₁)
    obtain rfl := Option.some.inj (hu.symm.trans hu₁)
    obtain rfl := Option.some.inj (hw.symm.trans hw₁)
    obtain ⟨messages, -, -, -, -, rfl⟩ | ⟨e, he, -, rfl⟩ := hcases
    · exact ⟨_, List.getElem?_set_self hlt, .nothing rfl rfl rfl rfl⟩
    · refine ⟨_, getElem?_endAttempt hc _ _ _ _,
        .event ?_ (consumed_endAttempt (s.setTable u.worker w.table.refused) _ _ _ _ hkeeps)⟩
      rintro e' ⟨⟩
      obtain ⟨-, rfl⟩ | ⟨-, rfl⟩ | ⟨-, rfl⟩ := he
      · exact .inl rfl
      · exact .inr ⟨_, rfl⟩
      · exact .inl rfl
  | complete k =>
    cases ha
    obtain ⟨c₁, ticket, deadline, u₁, w₁, reply, hc₁, -, hu₁, hw₁, hr, rfl⟩ := complete?_cases h
    obtain rfl := Option.some.inj (hc.symm.trans hc₁)
    obtain rfl := Option.some.inj (hu.symm.trans hu₁)
    obtain rfl := Option.some.inj (hw.symm.trans hw₁)
    refine ⟨_, getElem?_endAttempt hc _ _ _ _, .event ?_
      (consumed_endAttempt (s.setTable u.worker (w.table.remove ticket)) _ _ _ _ hkeeps)⟩
    rintro e' rfl
    rcases Correlation.Table.outcome?_cases hr with ⟨v, hv, -⟩ | ⟨hclosed, -⟩
    · cases hv
    · cases hclosed
      exact .inl rfl
  | expire k =>
    cases ha
    obtain ⟨c₁, ticket, deadline, u₁, w₁, hc₁, -, hu₁, hw₁, -, rfl⟩ := expire?_cases h
    obtain rfl := Option.some.inj (hc.symm.trans hc₁)
    obtain rfl := Option.some.inj (hu.symm.trans hu₁)
    obtain rfl := Option.some.inj (hw.symm.trans hw₁)
    refine ⟨_, getElem?_endAttempt hc _ _ _ _, .event ?_
      (consumed_endAttempt (s.setTable u.worker (w.table.remove ticket)) _ _ _ _ hkeeps)⟩
    rintro e' ⟨⟩
    exact .inl rfl
  | wake k =>
    cases ha
    obtain ⟨c₁, deadline, hc₁, -, rfl⟩ := wake?_cases h
    obtain rfl := Option.some.inj (hc.symm.trans hc₁)
    exact ⟨_, List.getElem?_set_self hlt, .nothing rfl rfl rfl rfl⟩
  | cancel k =>
    cases ha
    obtain ⟨c₁, hc₁, ⟨-, rfl⟩ | ⟨ticket, deadline, u₁, w₁, -, -, -, rfl⟩⟩ := cancel?_cases h
    · obtain rfl := Option.some.inj (hc.symm.trans hc₁)
      exact ⟨_, List.getElem?_set_self hlt, .nothing rfl rfl rfl rfl⟩
    · obtain rfl := Option.some.inj (hc.symm.trans hc₁)
      exact ⟨_, List.getElem?_set_self hlt, .nothing rfl rfl rfl rfl⟩
  | _ => cases ha

end State

/-! ## What a call tells -/

/-- A run of a cluster, and the events that the actions of a call have left in it, the first one
first. -/
inductive Telling (call : Nat) (first : State) : State → List Event → Prop where
  | nil : Telling call first first []
  | other {s s' : State} {events : List Event} {outside : Outside} {a : Action}
    (telling : Telling call first s events) (step : s.step? outside a = some s')
    (ha : a.call? ≠ some call) : Telling call first s' events
  | own {s s' : State} {events more : List Event} {outside : Outside} {a : Action}
    (telling : Telling call first s events) (step : s.step? outside a = some s')
    (ha : a.call? = some call) (hmore : s'.consumed = s.consumed ++ more) :
    Telling call first s' (events ++ more)

/-- A call has told of its attempts. Each event names the call, the last one has its result, and
none has an error that the call finds late. -/
structure Call.Reported (c : Call) (identifier : String) (events : List Event) : Prop where
  named : ∀ x ∈ events, x.IsOf c.method identifier
  unaware : ∀ x ∈ events, ∀ e, c.method.LateError e → x.error ≠ some e.message
  answered : ∀ answer, c.result? = some (.ok answer) →
    ∃ x, events.getLast? = some x ∧ x.error = none
  failed : ∀ e, c.result? = some (.error e) →
    c.method.LateError e ∨ ∃ x, events.getLast? = some x ∧ x.error = some e.message

namespace Call.Reported

variable {identifier : String} {events : List Event}

theorem of_unfinished (hnamed : ∀ x ∈ events, x.IsOf c.method identifier)
    (hunaware : ∀ x ∈ events, ∀ e, c.method.LateError e → x.error ≠ some e.message)
    (h : c.result? = none) : c.Reported identifier events where
  named := hnamed
  unaware := hunaware
  answered answer hresult := by
    rw [h] at hresult
    cases hresult
  failed e hresult := by
    rw [h] at hresult
    cases hresult

/-- An attempt has ended and left its event. -/
theorem after (h : c.Reported identifier events) {reply : Except Error Json}
    (hreply : ∀ e, reply = .error e → e.IsOfRequest) (began now : Nat) (took : Duration)
    (w : Worker) : (({ c with attempted := began } : Call).after now w reply).Reported identifier
      (events ++ [c.method.event identifier took (c.method.outcome reply)]) := by
  have hnamed : ∀ x ∈ events ++ [c.method.event identifier took (c.method.outcome reply)],
      x.IsOf c.method identifier :=
    List.forall_mem_append.2 ⟨h.named, List.forall_mem_singleton.2 (c.method.event_isOf ..)⟩
  have hunaware : ∀ x ∈ events ++ [c.method.event identifier took (c.method.outcome reply)],
      ∀ e, c.method.LateError e → x.error ≠ some e.message := by
    refine List.forall_mem_append.2 ⟨h.unaware, List.forall_mem_singleton.2 ?_⟩
    intro e hlate heq
    cases hr : c.method.outcome reply with
    | ok reading =>
      rw [hr] at heq
      cases heq
    | error e' =>
      rw [hr] at heq
      exact hlate.message_ne hreply hr (Option.some.inj heq)
  cases hnext : ({ c with attempted := began } : Call).method.next c.isFirst
    (.ofNanos (now - c.began)) (c.method.outcome reply) with
  | again =>
    rw [Call.after_of_again hnext]
    exact of_unfinished hnamed hunaware rfl
  | finish result =>
    rw [Call.after_of_finish hnext]
    refine ⟨hnamed, hunaware, ?_, ?_⟩
    · rintro answer ⟨⟩
      obtain ⟨reading, hr⟩ := Method.reading_of_finish hnext
      exact ⟨_, List.getLast?_concat, by rw [hr]; rfl⟩
    · rintro e ⟨⟩
      rcases Method.error_of_finish hnext with hr | hlate
      · exact .inr ⟨_, List.getLast?_concat, by rw [hr]; rfl⟩
      · exact .inl hlate

end Call.Reported

/-- A call moves only if it is there. -/
theorem State.exists_call_of_step? (h : s.step? outside a = some s') (ha : a.call? = some call) :
    ∃ c, s.calls[call]? = some c := by
  cases a with
  | attempt k =>
    cases ha
    obtain ⟨c, -, -, hc, -⟩ := attempt?_cases h
    exact ⟨c, hc⟩
  | complete k =>
    cases ha
    obtain ⟨c, -, -, -, -, -, hc, -⟩ := complete?_cases h
    exact ⟨c, hc⟩
  | expire k =>
    cases ha
    obtain ⟨c, -, -, -, -, hc, -⟩ := expire?_cases h
    exact ⟨c, hc⟩
  | wake k =>
    cases ha
    obtain ⟨c, -, hc, -⟩ := wake?_cases h
    exact ⟨c, hc⟩
  | cancel k =>
    cases ha
    obtain ⟨c, hc, -⟩ := cancel?_cases h
    exact ⟨c, hc⟩
  | _ => cases ha

/-- A call has an owner, and if the owner's worker keeps events, they report the call. -/
def Call.Tells (s : State) (c : Call) (events : List Event) : Prop :=
  ∃ u w, s.owner? c = some (u, w) ∧
    (w.keepsEvents = true → c.Reported u.consumer.identifier events)

namespace Call.Tells

variable {events more : List Event}

/-- A call that has just begun. -/
theorem begin (hn : Numbered s) (h : s.step? outside a = some s') (hc : s.calls[call]? = none)
    (hc' : s'.calls[call]? = some c') : Tells s' c' [] := by
  obtain ⟨-, user, method, ⟨u, hu⟩, rfl⟩ := State.begun_of_step? h hc hc'
  have hlt := hn.homes u (List.mem_of_getElem? hu)
  obtain ⟨w, ho, -⟩ := State.owner?_of_step? (c := ⟨user, method, s.now, s.now, true, .ready⟩)
    h (State.owner?_eq_some.2 ⟨hu, List.getElem?_eq_getElem hlt⟩) rfl
  exact ⟨u, w, ho, fun _ => .of_unfinished nofun nofun rfl⟩

/-- Other things happen. -/
theorem other (ht : c.Tells s events) (h : s.step? outside a = some s') :
    c.Tells s' events := by
  obtain ⟨u, w, ho, hreported⟩ := ht
  obtain ⟨w', ho', -, hkeeps⟩ := State.owner?_of_step? h ho rfl
  exact ⟨u, w', ho', fun hw => hreported (hkeeps ▸ hw)⟩

/-- The call moves on, and what it leaves is told too. -/
theorem own (ht : c.Tells s events) (h : s.step? outside a = some s') (ha : a.call? = some call)
    (hc : s.calls[call]? = some c) (hmore : s'.consumed = s.consumed ++ more) :
    ∃ c', s'.calls[call]? = some c' ∧ c'.Tells s' (events ++ more) := by
  obtain ⟨u, w, ho, hreported⟩ := ht
  obtain ⟨-, c', hc', hmoves⟩ := State.moves_of_step? h ha hc ho
  obtain ⟨w', ho', -, hkeeps⟩ := State.owner?_of_step? h ho hmoves.same.1
  refine ⟨c', hc', u, w', ho', fun hw' => ?_⟩
  have hw : w.keepsEvents = true := hkeeps ▸ hw'
  obtain ⟨c'', hc'', hleaves⟩ := State.leaves_of_step? h ha hc ho hw
  cases hc'.symm.trans hc''
  cases hleaves with
  | nothing hconsumed huser hmethod hresult =>
    rw [hconsumed, List.self_eq_append_right] at hmore
    rw [hmore, List.append_nil]
    exact .of_unfinished (hmethod ▸ (hreported hw).named) (hmethod ▸ (hreported hw).unaware) hresult
  | event hreply hconsumed =>
    rw [hconsumed, List.append_cancel_left_eq] at hmore
    rw [← hmore]
    exact (hreported hw).after hreply ..

end Call.Tells

/-- What holds of all that a call has left: nothing before the call is there, and then events that
report it. All of them are among the events of the users. -/
structure Telling.Sound (call : Nat) (s : State) (events : List Event) : Prop where
  numbered : Numbered s
  kept : events.Sublist s.consumed
  fresh : s.calls[call]? = none → events = []
  tells : ∀ c, s.calls[call]? = some c → c.Tells s events

namespace Telling

variable {service : Service} {events : List Event}

theorem sound (telling : Telling call { service := service } s events) :
    Sound call s events := by
  induction telling with
  | nil => exact ⟨.start service, List.nil_sublist _, fun _ => rfl, nofun⟩
  | @other s s' events outside a _ step ha ih =>
    have hkept := ih.kept.trans (State.consumed_of_step? step).sublist
    have hn := ih.numbered.of_step? step
    cases hc : s.calls[call]? with
    | none =>
      refine ⟨hn, hkept, fun _ => ih.fresh hc, fun c' hc' => ?_⟩
      rw [ih.fresh hc]
      exact .begin ih.numbered step hc hc'
    | some c =>
      have hc' := State.call_of_step? step ha hc
      refine ⟨hn, hkept, fun hnone => ?_, fun c' hc'' => ?_⟩
      · rw [hc'] at hnone
        cases hnone
      · cases hc'.symm.trans hc''
        exact (ih.tells c hc).other step
  | @own s s' events more outside a _ step ha hmore ih =>
    obtain ⟨c, hc⟩ := State.exists_call_of_step? step ha
    obtain ⟨c', hc', htells⟩ := (ih.tells c hc).own step ha hc hmore
    refine ⟨ih.numbered.of_step? step, ?_, fun hnone => ?_, fun c'' hc'' => ?_⟩
    · rw [hmore]
      exact ih.kept.append (List.Sublist.refl more)
    · rw [hc'] at hnone
      cases hnone
    · cases hc'.symm.trans hc''
      exact htells

/-- Whatever happens in a cluster, the events that a call has left name the call and its user, and
none gets lost. The last one of a call that has answered is no failure. A call that has failed has
left an event with the text of its error, unless it has found that error only after its attempts:
then there is none. -/
theorem failures_reported (telling : Telling call { service := service } s events)
    (hc : s.calls[call]? = some c) (ho : s.owner? c = some (u, w))
    (hkeeps : w.keepsEvents = true) :
    events.Sublist s.consumed ∧
    (∀ x ∈ events, x.IsOf c.method u.consumer.identifier) ∧
    (∀ answer, c.result? = some (.ok answer) →
      ∃ x, events.getLast? = some x ∧ x.isFailure = false) ∧
    ∀ e, c.result? = some (.error e) →
      ((∃ x ∈ events, x.error = some e.message) ↔ ¬ c.method.LateError e) := by
  have hsound := telling.sound
  obtain ⟨u', w', ho', hreported⟩ := hsound.tells c hc
  cases ho.symm.trans ho'
  have hreported := hreported hkeeps
  refine ⟨hsound.kept, hreported.named, ?_, ?_⟩
  · intro answer hresult
    obtain ⟨x, hx, hnone⟩ := hreported.answered answer hresult
    exact ⟨x, hx, by rw [Event.isFailure, hnone]; rfl⟩
  · intro e hresult
    constructor
    · rintro ⟨x, hx, herror⟩ hlate
      exact hreported.unaware x hx e hlate herror
    · intro hnot
      obtain ⟨x, hx, herror⟩ := (hreported.failed e hresult).resolve_left hnot
      exact ⟨x, List.mem_of_getLast? hx, herror⟩

/-- Every run tells something of each call. -/
theorem exists_of_run? {first s s' : State} {events : List Event} {actions : List Action}
    (telling : Telling call first s events) (h : s.run? outside actions = some s') :
    ∃ events', Telling call first s' events' := by
  induction actions generalizing s events with
  | nil =>
    cases h
    exact ⟨events, telling⟩
  | cons a rest ih =>
    obtain ⟨next, hnext, hrest⟩ := Option.bind_eq_some_iff.1 h
    by_cases ha : a.call? = some call
    · obtain ⟨more, hmore⟩ := State.consumed_of_step? hnext
      exact ih (telling.own hnext ha hmore.symm) hrest
    · exact ih (telling.other hnext ha) hrest

end Telling

/-- The text of the error for which the keystore has refused a call. -/
private def refusal? (c : Call) : Option String :=
  match c.result? with
  | some (.error (.keystore _ _ text)) => some text
  | _ => none

private theorem exists_refusal {text : String} (h : refusal? c = some text) :
    ∃ action key, c.result? = some (.error (.keystore action key text)) := by
  unfold refusal? at h
  split at h
  · next action key text' hresult =>
    cases h
    exact ⟨action, key, hresult⟩
  · cases h

/-- A pop polls a list that is not there, and before it asks again its key gets a value that is
no list. -/
def spoiled : List Action :=
  [.connect "w" {} true, .join 0 "A", .join 0 "B", .begin 0 (.pop "q" none), .attempt 0, .serve 0,
    .receive 0 0, .complete 0, .begin 1 (.set "q" (.bool true)), .attempt 1, .serve 0,
    .receive 0 0, .complete 1, .pass 1000000000, .wake 0, .attempt 0, .serve 0, .receive 0 0,
    .complete 0]

/-- The failure of the pop is among the events that it has left. -/
theorem spoiled_reported : ∃ s events c e,
    State.run? still { service := .coordinator {} } spoiled = some s ∧
    Telling 0 { service := .coordinator {} } s events ∧ s.calls[0]? = some c ∧
    c.result? = some (.error e) ∧ ∃ x ∈ events, x.error = some e.message := by
  obtain ⟨s, hs⟩ : ∃ s, State.run? still { service := .coordinator {} } spoiled = some s :=
    Option.isSome_iff_exists.1 (by decide +kernel)
  have hfacts : (State.run? still { service := .coordinator {} } spoiled).bind (fun s =>
      s.calls[0]?.bind fun c => (s.owner? c).map fun owner =>
        ((refusal? c).isSome, owner.2.keepsEvents)) = some (true, true) := by
    decide +kernel
  rw [hs, Option.bind_some] at hfacts
  obtain ⟨c, hc, hfacts⟩ := Option.bind_eq_some_iff.1 hfacts
  obtain ⟨⟨u, w⟩, ho, hfacts⟩ := Option.map_eq_some_iff.1 hfacts
  obtain ⟨hrefused, hkeeps⟩ := Prod.mk.inj hfacts
  obtain ⟨text, htext⟩ := Option.isSome_iff_exists.1 hrefused
  obtain ⟨action, key, hresult⟩ := exists_refusal htext
  have begins : Telling 0 { service := .coordinator {} } _ [] := .nil
  obtain ⟨events, telling⟩ := begins.exists_of_run? hs
  obtain ⟨-, -, -, hfailed⟩ := telling.failures_reported hc ho hkeeps
  refine ⟨s, events, c, _, hs, telling, hc, hresult, (hfailed _ hresult).2 ?_⟩
  generalize c.method = m
  exact nofun

/-- A script that answers an inc with a text. -/
def misleading : Script where
  rest := [[.respond (.object [("action", .str "inc"), ("data", .str "abc"), ("error", .null),
    ("key", .str "n")]) none]]

/-- An inc reads the text. -/
def misled : List Action :=
  [.connect "w" {} true, .join 0 "A", .begin 0 (.inc "n" 1), .attempt 0, .serve 0, .perform,
    .receive 0 0, .complete 0]

/-- The inc fails, and the only event is no failure. -/
theorem misled_unreported : ∃ s c e, State.run? still { service := .script misleading } misled =
      some s ∧ s.calls[0]? = some c ∧ c.result? = some (.error e) ∧
    e.message = "malformed response: inc on \"n\" returned \"abc\"" ∧
    s.consumed.map (·.isFailure) = [false] :=
  ⟨_, _, _, rfl, rfl, rfl, by decide +kernel, by decide +kernel⟩

end Cluster

end LoadTest
