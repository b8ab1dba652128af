import LoadTest.Proofs.Agreement
import LoadTest.Proofs.Keystore.Actions
import LoadTest.Proofs.Persistence.Tenure
import LoadTest.Proofs.Testdata.Restart
/-!
# Independence of keys and scenarios

A key of the keystore sees nothing of the test data and of other keys, and a scenario with
deterministic sources nothing but its own requests and the ends of tests. Two tenures in which
the same is asked about a key or a scenario answer the same, whatever else happens between, and
leave the same behind. So requests about different things can be taken in either order.
-/

namespace LoadTest

open Testdata Persistence

/-! ## What a request is about -/

/-- What a request can be about: a key of the keystore, or a scenario. -/
inductive Subject where
  | key (key : String)
  | scenario (identifier : String)
  deriving DecidableEq

/-- What a request is about. A request of an unknown kind, or without a key, is about nothing. -/
def Request.subject? (r : Request) : Option Subject :=
  match r.kind? with
  | some .keystore => r.key.map .key
  | some .testdata => some (.scenario r.identifier)
  | none => none

/-- The request that a message carries, if it carries one that can be read. -/
def Message.request? (m : Message) : Option Request :=
  m.envelope?.bind fun e => (Request.ofJson e.request).toOption

namespace Coordinator

/-- The response that the reply to a message carries, if there is a reply. -/
def response? (c : Coordinator) (outside : Outside) (m : Message) : Option Json :=
  match (c.receive? outside m).1 with
  | .ok (some h) => (Consumption.ofJson h.reply.data).toOption.map (·.response)
  | _ => none

/-- Two coordinators have the same value under a key, or the same scenario with its table and
its counter. -/
def Agree (σ : Subject) (c c' : Coordinator) : Prop :=
  match σ with
  | .key key => c.keystore.get? key = c'.keystore.get? key
  | .scenario identifier => c.producer.Agree identifier c'.producer

/-- The sources of a coordinator depend on nothing but themselves. -/
structure Deterministic (c : Coordinator) : Prop where
  filed : c.producer.Filed
  sources : c.producer.AllSources Source.IsDeterministic

/-- Two messages can be taken in either order: each gets the same response, and the same is
left. -/
structure Commutes (c : Coordinator) (outside : Outside) (m : Message) (outside' : Outside)
    (m' : Message) : Prop where
  first : c.response? outside m = (c.receive? outside' m').2.response? outside m
  second : (c.receive? outside m).2.response? outside' m' = c.response? outside' m'
  left : ((c.receive? outside m).2.receive? outside' m').2 =
    ((c.receive? outside' m').2.receive? outside m).2

variable {σ : Subject} {c c' c'' : Coordinator} {r : Request} {m : Message}
  {outside outside' : Outside}

/-- A coordinator is its four fields. -/
theorem eq_of_fields (hk : c.keystore = c'.keystore) (hp : c.producer = c'.producer)
    (hs : c.persister = c'.persister) (hn : c.requestsHandled = c'.requestsHandled) : c = c' := by
  cases c
  cases c'
  simp_all

namespace Agree

theorem refl (σ : Subject) (c : Coordinator) : c.Agree σ c := by
  cases σ with
  | key => rfl
  | scenario identifier => exact Producer.Agree.refl identifier _

theorem symm (h : c.Agree σ c') : c'.Agree σ c := by
  cases σ with
  | key => exact Eq.symm h
  | scenario => exact Producer.Agree.symm h

theorem trans (h : c.Agree σ c') (h' : c'.Agree σ c'') : c.Agree σ c'' := by
  cases σ with
  | key => exact Eq.trans h h'
  | scenario => exact Producer.Agree.trans h h'

/-- Nothing but the keystore and the producer matters. -/
theorem of_eq (hk : c.keystore = c'.keystore) (hp : c.producer = c'.producer) :
    c.Agree σ c' := by
  cases σ with
  | key key => exact congrArg (Keystore.get? · key) hk
  | scenario identifier =>
    show c.producer.Agree identifier c'.producer
    rw [hp]
    exact .refl identifier _

/-- Coordinators that agree in everything have the same keystore and the same producer. -/
theorem eq_of_forall (h : ∀ σ, c.Agree σ c') :
    c.keystore = c'.keystore ∧ c.producer = c'.producer := by
  refine ⟨?_, Producer.Agree.eq_of_forall fun identifier => h (.scenario identifier)⟩
  exact congrArg Keystore.mk (Dict.ext_get? fun key => h (.key key))

end Agree

/-! ## Taking one message -/

/-- What a request is answered depends on nothing but what it is about. -/
theorem dispatch_agree (h : c.Agree σ c') (hc : c.Deterministic) (hc' : c'.Deterministic)
    (hr : r.subject? = some σ) (outside outside' : Outside) :
    (c.dispatch outside r).1.toOption.map (·.response) =
        (c'.dispatch outside' r).1.toOption.map (·.response) ∧
      (c.dispatch outside r).2.Agree σ (c'.dispatch outside' r).2 := by
  unfold Request.subject? at hr
  cases hk : r.kind? with
  | none =>
    rw [hk] at hr
    cases hr
  | some kind =>
    rw [hk] at hr
    cases kind with
    | keystore =>
      obtain ⟨key, hkey, rfl⟩ := Option.map_eq_some_iff.1 hr
      obtain ⟨hreply, hvalue⟩ := Keystore.handle_congr hkey h
      simp only [dispatch, hk]
      exact ⟨by rw [hreply], hvalue⟩
    | testdata =>
      cases hr
      have hhandles := Producer.handles hc.filed outside.read r.identifier
      have hhandles' := Producer.handles hc'.filed outside'.read r.identifier
      obtain ⟨hreply, hagree⟩ := hhandles.agree hhandles' hc.filed h hc.sources
      have hresponse : ∀ reply : Except Crash Served,
          (reply.map fun s => (⟨s.response.toJson, none, s.log⟩ : Dispatched)).toOption.map
              (·.response) =
            (reply.map (·.response)).toOption.map TestdataResponse.toJson := by
        rintro (_ | _) <;> rfl
      simp only [dispatch, hk, hresponse, hreply]
      exact ⟨trivial, hagree⟩

/-- A request leaves alone what it is not about. -/
theorem dispatch_agree_of_ne (hc : c.Deterministic) (hr : r.subject? ≠ some σ)
    (outside : Outside) : (c.dispatch outside r).2.Agree σ c := by
  unfold Request.subject? at hr
  cases hk : r.kind? with
  | none =>
    simp only [dispatch, hk]
    exact .refl σ c
  | some kind =>
    rw [hk] at hr
    cases kind with
    | keystore =>
      simp only [dispatch, hk]
      cases σ with
      | key key => exact Keystore.handle_of_ne fun hkey => hr (by rw [hkey]; rfl)
      | scenario identifier => exact Producer.Agree.refl identifier _
    | testdata =>
      simp only [dispatch, hk]
      cases σ with
      | key => rfl
      | scenario identifier =>
        have hhandles := Producer.handles hc.filed outside.read r.identifier
        exact hhandles.agree_of_ne hc.filed fun hname => hr (by rw [hname])

/-- A message with a request that can be read is answered by what becomes of the request. -/
theorem receive?_of_request? (hm : m.request? = some r) (c : Coordinator) (outside : Outside) :
    c.response? outside m = (c.dispatch outside r).1.toOption.map (·.response) ∧
      (c.receive? outside m).2.keystore = (c.dispatch outside r).2.keystore ∧
      (c.receive? outside m).2.producer = (c.dispatch outside r).2.producer := by
  obtain ⟨e, he, hok⟩ := Message.exists_envelope_of_request hm
  have hraw : c.dispatchRaw outside e.request = c.dispatch outside r := by
    rw [dispatchRaw, hok]
  rw [response?, receive?_of_some c outside he, answer, hraw]
  rcases c.dispatch outside r with ⟨_ | d, c'⟩
  · exact ⟨rfl, rfl, rfl⟩
  · refine ⟨?_, rfl, rfl⟩
    simp only [Except.map, Consumption.toMessage, Consumption.ofJson_toJson]
    rfl

/-- A message without a request that can be read changes neither keys nor scenarios. -/
theorem receive?_of_no_request (hm : m.request? = none) (c : Coordinator) (outside : Outside) :
    (c.receive? outside m).2.keystore = c.keystore ∧
      (c.receive? outside m).2.producer = c.producer := by
  cases he : m.envelope? with
  | none =>
    rw [receive?_of_none c outside he]
    exact ⟨rfl, rfl⟩
  | some e =>
    rw [Message.request?, he] at hm
    rw [receive?_of_some c outside he, answer, dispatchRaw]
    cases hr : Request.ofJson e.request with
    | ok r => simp [hr, Except.toOption] at hm
    | error mismatch => exact ⟨rfl, rfl⟩

/-- A message about something else leaves a subject alone. -/
theorem receive?_agree_of_ne (hc : c.Deterministic)
    (hm : m.request?.bind Request.subject? ≠ some σ) (outside : Outside) :
    (c.receive? outside m).2.Agree σ c := by
  cases hr : m.request? with
  | none =>
    obtain ⟨hk, hp⟩ := receive?_of_no_request hr c outside
    exact .of_eq hk hp
  | some r =>
    obtain ⟨-, hk, hp⟩ := receive?_of_request? hr c outside
    rw [hr] at hm
    exact (Agree.of_eq hk hp).trans (dispatch_agree_of_ne hc hm outside)

/-- Messages with the same request get the same response where their subject agrees. -/
theorem receive?_agree {m' : Message} (h : c.Agree σ c') (hc : c.Deterministic)
    (hc' : c'.Deterministic) (hm : m.request? = some r) (hm' : m'.request? = some r)
    (hr : r.subject? = some σ) (outside outside' : Outside) :
    c.response? outside m = c'.response? outside' m' ∧
      (c.receive? outside m).2.Agree σ (c'.receive? outside' m').2 := by
  obtain ⟨hreply, hk, hp⟩ := receive?_of_request? hm c outside
  obtain ⟨hreply', hk', hp'⟩ := receive?_of_request? hm' c' outside'
  obtain ⟨hsame, hagree⟩ := dispatch_agree h hc hc' hr outside outside'
  refine ⟨by rw [hreply, hreply', hsame], ?_⟩
  exact (Agree.of_eq hk hp).trans (hagree.trans (Agree.of_eq hk'.symm hp'.symm))

/-! ## Deterministic coordinators -/

namespace Deterministic

/-- A message brings up no other sources. -/
theorem receive? (h : c.Deterministic) (outside : Outside) (m : Message) :
    (c.receive? outside m).2.Deterministic := by
  have hproducer := (c.receive?_leaves outside m).2
  suffices (c.producerAfter (c.exchange? outside m)).Filed ∧
      (c.producerAfter (c.exchange? outside m)).AllSources Source.IsDeterministic from
    ⟨hproducer ▸ this.1, hproducer ▸ this.2⟩
  cases hx : c.exchange? outside m with
  | none => exact ⟨h.filed, h.sources⟩
  | some x =>
    have hbefore := before_of_exchange? hx
    have hhandles := x.handles (hbefore ▸ h.filed)
    have hsources : x.before.AllSources Source.IsDeterministic := hbefore ▸ h.sources
    exact ⟨hhandles.filed (hbefore ▸ h.filed),
      hsources.handles lasting_isDeterministic (hbefore ▸ h.filed) hhandles⟩

/-- Every message with a usable envelope is answered under its correlation id, and is counted. -/
theorem exists_reply (h : c.Deterministic) {e : Envelope} (he : m.envelope? = some e)
    (outside : Outside) :
    (∃ response handled, c.response? outside m = some response ∧
      (c.receive? outside m).1 = .ok (some handled) ∧
      handled.reply = (⟨e.uid, response⟩ : Consumption).toMessage e.cid) ∧
      (c.receive? outside m).2.requestsHandled = c.requestsHandled + 1 := by
  rcases receive?_cases c outside m with
    ⟨hnone, -⟩ | ⟨⟨e', r, crash, -, -, -, hcrash⟩, -⟩ |
      ⟨-, e', handled, c', he', hok, hreply, -, hcount, -⟩
  · rw [he] at hnone
    cases hnone
  · let x : Exchange := ⟨c.producer, outside.read, r.identifier⟩
    obtain ⟨log, hreply⟩ := x.answered_of_deterministic h.filed h.sources
    cases hcrash.symm.trans hreply
  · obtain rfl := Option.some.inj (he.symm.trans he')
    obtain ⟨response, hmessage, -⟩ := hreply
    rw [response?, hok]
    refine ⟨⟨response, handled, ?_, rfl, hmessage⟩, hcount⟩
    simp only [hmessage, Consumption.toMessage, Consumption.ofJson_toJson]
    rfl

end Deterministic

end Coordinator

/-! ## Two tenures -/

/-- What can happen to a subject: something is asked about it, or the test stops. -/
inductive Turn where
  | ask (r : Request)
  | testStop

namespace Subject

/-- What a happening is to a subject. The end of a test is nothing to a key. -/
def turn? (σ : Subject) : Happening → Option Turn
  | .message _ m => (m.request?.filter fun r => r.subject? = some σ).map .ask
  | .testStop _ =>
    match σ with
    | .key _ => none
    | .scenario _ => some .testStop
  | .stop _ => none

/-- What happens to a subject, in its order. -/
def turns (σ : Subject) (happenings : List Happening) : List Turn := happenings.filterMap σ.turn?

variable {σ : Subject} {a : Happening}

theorem turn?_eq_ask {r : Request} :
    σ.turn? a = some (.ask r) ↔
      ∃ outside m, a = .message outside m ∧ m.request? = some r ∧ r.subject? = some σ := by
  cases a with
  | message outside m => simp [turn?, Option.filter_eq_some_iff]
  | testStop => cases σ <;> simp [turn?]
  | stop => simp [turn?]

theorem turn?_eq_testStop :
    σ.turn? a = some .testStop ↔
      ∃ attempt identifier, a = .testStop attempt ∧ σ = .scenario identifier := by
  cases a with
  | message outside m => simp [turn?]
  | testStop => cases σ <;> simp [turn?]
  | stop => simp [turn?]

end Subject

namespace Delivery

/-- What the request of the message is about. -/
def subject? (x : Delivery) : Option Subject := x.message.request?.bind Request.subject?

/-- The response that the message got. -/
def response? (x : Delivery) : Option Json := x.before.response? x.outside x.message

end Delivery

namespace Tenure

variable {σ : Subject} {t t' : Tenure}

/-- The responses to all requests about a subject. -/
def responses (σ : Subject) (t : Tenure) : List (Option Json) :=
  (t.deliveries.filter fun x => x.subject? = some σ).map (·.response?)

/-- Two tenures cannot be told apart by what is asked about a subject. -/
structure Alike (σ : Subject) (t t' : Tenure) : Prop where
  left : t.coordinator.Deterministic
  right : t'.coordinator.Deterministic
  agree : t.coordinator.Agree σ t'.coordinator
  responses : t.responses σ = t'.responses σ

theorem responses_message_of_ne (t : Tenure) {outside : Outside} {m : Message}
    (hm : m.request?.bind Request.subject? ≠ some σ) :
    (t.step (.message outside m)).responses σ = t.responses σ := by
  simp [Tenure.responses, step, Delivery.subject?, hm]

theorem responses_message (t : Tenure) {outside : Outside} {m : Message}
    (hm : m.request?.bind Request.subject? = some σ) :
    (t.step (.message outside m)).responses σ =
      t.responses σ ++ [t.coordinator.response? outside m] := by
  simp [Tenure.responses, step, Delivery.subject?, Delivery.response?, hm]

/-- Nothing that happens brings up other sources. -/
theorem deterministic_step (h : t.coordinator.Deterministic) (happening : Happening) :
    (t.step happening).coordinator.Deterministic := by
  cases happening with
  | message outside m => exact h.receive? outside m
  | testStop => exact ⟨h.filed, h.sources⟩
  | stop => exact ⟨h.filed, h.sources⟩

/-- Neither the coordinator nor any that a message met has other sources. -/
theorem deterministic_run (h : t.coordinator.Deterministic)
    (hx : ∀ x ∈ t.deliveries, x.before.Deterministic) (happenings : List Happening) :
    (t.run happenings).coordinator.Deterministic ∧
      ∀ x ∈ (t.run happenings).deliveries, x.before.Deterministic := by
  refine run_of_step (P := fun t => t.coordinator.Deterministic ∧
    ∀ x ∈ t.deliveries, x.before.Deterministic) ?_ ⟨h, hx⟩ happenings
  intro t happening ⟨h, hx⟩
  refine ⟨deterministic_step h happening, ?_⟩
  cases happening with
  | message outside m =>
    intro x hmem
    rcases List.mem_append.1 hmem with hmem | hmem
    · exact hx x hmem
    · obtain rfl := List.mem_singleton.1 hmem
      exact h
  | testStop | stop => exact hx

/-- What is nothing to a subject leaves it alone. -/
theorem step_of_idle (h : t.coordinator.Deterministic) {happening : Happening}
    (hidle : σ.turn? happening = none) :
    (t.step happening).coordinator.Agree σ t.coordinator ∧
      (t.step happening).responses σ = t.responses σ := by
  cases happening with
  | message outside m =>
    have hm : m.request?.bind Request.subject? ≠ some σ := by
      intro hm
      obtain ⟨r, hr, hs⟩ := Option.bind_eq_some_iff.1 hm
      simp [Subject.turn?, hr, hs] at hidle
    exact ⟨Coordinator.receive?_agree_of_ne h hm outside, t.responses_message_of_ne hm⟩
  | testStop a =>
    cases σ with
    | key key => exact ⟨rfl, rfl⟩
    | scenario identifier => cases hidle
  | stop a => exact ⟨.of_eq rfl rfl, rfl⟩

namespace Alike

theorem symm (h : Alike σ t t') : Alike σ t' t :=
  ⟨h.right, h.left, h.agree.symm, h.responses.symm⟩

/-- What is nothing to the subject, on one side. -/
theorem idle (h : Alike σ t t') {happening : Happening} (hidle : σ.turn? happening = none) :
    Alike σ (t.step happening) t' := by
  obtain ⟨hagree, hresponses⟩ := step_of_idle h.left hidle
  exact ⟨deterministic_step h.left happening, h.right, hagree.trans h.agree,
    hresponses.trans h.responses⟩

/-- The same for the subject, on both sides. -/
theorem turn (h : Alike σ t t') {happening happening' : Happening} {τ : Turn}
    (hturn : σ.turn? happening = some τ) (hturn' : σ.turn? happening' = some τ) :
    Alike σ (t.step happening) (t'.step happening') := by
  suffices (t.step happening).coordinator.Agree σ (t'.step happening').coordinator ∧
      (t.step happening).responses σ = (t'.step happening').responses σ from
    ⟨deterministic_step h.left happening, deterministic_step h.right happening', this.1, this.2⟩
  cases τ with
  | ask r =>
    obtain ⟨outside, m, rfl, hm, hr⟩ := Subject.turn?_eq_ask.1 hturn
    obtain ⟨outside', m', rfl, hm', -⟩ := Subject.turn?_eq_ask.1 hturn'
    obtain ⟨hresponse, hagree⟩ :=
      Coordinator.receive?_agree h.agree h.left h.right hm hm' hr outside outside'
    refine ⟨hagree, ?_⟩
    rw [responses_message t (by rw [hm]; exact hr), responses_message t' (by rw [hm']; exact hr),
      h.responses, hresponse]
  | testStop =>
    obtain ⟨attempt, identifier, rfl, rfl⟩ := Subject.turn?_eq_testStop.1 hturn
    obtain ⟨attempt', -, rfl, -⟩ := Subject.turn?_eq_testStop.1 hturn'
    exact ⟨Producer.Agree.reset h.agree, h.responses⟩

theorem run_idle (h : Alike σ t t') {happenings : List Happening}
    (hidle : ∀ a ∈ happenings, σ.turn? a = none) : Alike σ (t.run happenings) t' := by
  induction happenings generalizing t with
  | nil => exact h
  | cons a rest ih =>
    obtain ⟨ha, hrest⟩ := List.forall_mem_cons.1 hidle
    exact ih (h.idle ha) hrest

/-- The same turns of the subject, whatever happens between them. -/
theorem run (h : Alike σ t t') {happenings happenings' : List Happening}
    (hturns : σ.turns happenings = σ.turns happenings') :
    Alike σ (t.run happenings) (t'.run happenings') := by
  induction happenings generalizing t t' happenings' with
  | nil => exact (h.symm.run_idle (List.filterMap_eq_nil_iff.1 hturns.symm)).symm
  | cons a rest ih =>
    cases ha : σ.turn? a with
    | none => exact ih (h.idle ha) (by rwa [Subject.turns, List.filterMap_cons_none ha] at hturns)
    | some τ =>
      rw [Subject.turns, List.filterMap_cons_some ha] at hturns
      -- the other side comes to the same turn after some happenings that are nothing to the subject
      obtain ⟨before, a', rest', rfl, hbefore, ha', hrest⟩ :=
        List.filterMap_eq_cons_iff.1 hturns.symm
      have hmeet := (h.symm.run_idle hbefore).symm.turn ha ha'
      have hend := ih hmeet hrest.symm
      rwa [show t'.run (before ++ a' :: rest') = ((t'.run before).step a').run rest' by
        simp [Tenure.run]]

end Alike

end Tenure

/-! ## Either order -/

namespace Subject

/-- A message that is about something else is nothing to a subject. -/
theorem turn?_of_ne {σ σ' : Subject} {m : Message} {r : Request} (hm : m.request? = some r)
    (hr : r.subject? = some σ) (hne : σ ≠ σ') (outside : Outside) :
    σ'.turn? (.message outside m) = none := by
  simp [turn?, hm, Option.filter, hr, hne]

/-- Of two messages about different things each subject sees one at most. -/
theorem turns_swap {m m' : Message} {r r' : Request} {σ σ' : Subject}
    (hm : m.request? = some r) (hr : r.subject? = some σ) (hm' : m'.request? = some r')
    (hr' : r'.subject? = some σ') (hne : σ ≠ σ') (outside outside' : Outside) (ρ : Subject) :
    ρ.turns [.message outside m, .message outside' m'] =
      ρ.turns [.message outside' m', .message outside m] := by
  by_cases hρ : σ = ρ
  · have hnone := turn?_of_ne hm' hr' (hρ ▸ hne.symm) outside'
    simp only [turns, List.filterMap_cons, hnone]
  · have hnone := turn?_of_ne hm hr hρ outside
    simp only [turns, List.filterMap_cons, hnone]

end Subject

/-- Requests about different things can be taken in either order. -/
theorem Coordinator.Deterministic.commutes {c : Coordinator} (h : c.Deterministic)
    {outside outside' : Outside} {m m' : Message} {r r' : Request} {σ σ' : Subject}
    (hm : m.request? = some r) (hr : r.subject? = some σ) (hm' : m'.request? = some r')
    (hr' : r'.subject? = some σ') (hne : σ ≠ σ') : c.Commutes outside m outside' m' := by
  have hapart : m.request?.bind Request.subject? ≠ some σ' := by
    rw [hm]
    exact fun h => hne (Option.some.inj (hr.symm.trans h))
  have hapart' : m'.request?.bind Request.subject? ≠ some σ := by
    rw [hm']
    exact fun h => hne (Option.some.inj (hr'.symm.trans h)).symm
  have hfirst := (receive?_agree_of_ne h hapart' outside').symm
  have hsecond := receive?_agree_of_ne h hapart outside
  refine ⟨(receive?_agree hfirst h (h.receive? outside' m') hm hm hr outside outside).1,
    (receive?_agree hsecond (h.receive? outside m) h hm' hm' hr' outside' outside').1, ?_⟩
  -- each subject sees the same turns in both orders
  let t : Tenure := ⟨c, .missing, [], []⟩
  obtain ⟨hkeystore, hproducer⟩ := Agree.eq_of_forall fun ρ =>
    (Tenure.Alike.run (t := t) ⟨h, h, .refl ρ c, rfl⟩
      (Subject.turns_swap hm hr hm' hr' hne outside outside' ρ)).agree
  obtain ⟨e, he, -⟩ := Option.bind_eq_some_iff.1 hm
  obtain ⟨e', he', -⟩ := Option.bind_eq_some_iff.1 hm'
  refine Coordinator.eq_of_fields hkeystore hproducer ?_ ?_
  · rw [(receive?_leaves _ outside' m').1, (receive?_leaves _ outside m).1,
      (receive?_leaves _ outside m).1, (receive?_leaves _ outside' m').1]
  · rw [((h.receive? outside m).exists_reply he' outside').2, (h.exists_reply he outside).2,
      ((h.receive? outside' m').exists_reply he outside).2, (h.exists_reply he' outside').2]

/-- Keys and scenarios are independent. In two tenures of coordinators with the same
deterministic test data, every request is answered, and the answer is made of its envelope and
a response. If the same is asked about a key, the responses are the same and so is the value
that is left under the key, whatever happens on other keys and in the test data. If the same is
asked for a scenario between the same ends of tests, the responses are the same, and so are its
counter, its table and its part of the snapshot. Hence requests about different keys, about
different scenarios, or about a key and a scenario can be taken in either order. -/
theorem Tenure.parts_independent {d : Definition} {snapshot : Snapshot} {p : Producer}
    (hd : d.IsDeterministic) (h : d.build snapshot = .ok p) (location location' : Option Location)
    (folder folder' : Folder) (happenings happenings' : List Happening) :
    let t := (start p location folder).run happenings
    let t' := (start p location' folder').run happenings'
    (∀ x ∈ t.deliveries, ∀ e, x.message.envelope? = some e →
      ∃ response handled, x.response? = some response ∧
        (x.before.receive? x.outside x.message).1 = .ok (some handled) ∧
        handled.reply = (⟨e.uid, response⟩ : Consumption).toMessage e.cid) ∧
    (∀ key, (Subject.key key).turns happenings = (Subject.key key).turns happenings' →
      t.responses (.key key) = t'.responses (.key key) ∧
        t.coordinator.keystore.get? key = t'.coordinator.keystore.get? key) ∧
    (∀ identifier,
      (Subject.scenario identifier).turns happenings =
        (Subject.scenario identifier).turns happenings' →
      t.responses (.scenario identifier) = t'.responses (.scenario identifier) ∧
        t.coordinator.producer.iteration? identifier =
          t'.coordinator.producer.iteration? identifier ∧
        t.coordinator.producer.tables.get? identifier =
          t'.coordinator.producer.tables.get? identifier ∧
        t.coordinator.producer.snapshot.get? identifier =
          t'.coordinator.producer.snapshot.get? identifier) ∧
    ∀ outside m r σ outside' m' r' σ', m.request? = some r → r.subject? = some σ →
      m'.request? = some r' → r'.subject? = some σ' → σ ≠ σ' →
      t.coordinator.Commutes outside m outside' m' := by
  intro t t'
  obtain ⟨hfiled, hsources⟩ := Definition.allSources_of_build h fun s hs v hv _ _ =>
    (hd s hs v hv).makes
  have hrun := deterministic_run (t := start p location folder) ⟨hfiled, hsources⟩ nofun happenings
  have hstart : ∀ σ, Alike σ (start p location folder) (start p location' folder') := fun σ =>
    ⟨⟨hfiled, hsources⟩, ⟨hfiled, hsources⟩, .of_eq rfl rfl, rfl⟩
  have halike : ∀ σ : Subject, σ.turns happenings = σ.turns happenings' → Alike σ t t' :=
    fun σ hturns => (hstart σ).run hturns
  refine ⟨fun x hx e he => ?_, fun key hturns => ?_, fun identifier hturns => ?_, ?_⟩
  · exact ((hrun.2 x hx).exists_reply he x.outside).1
  · have h := halike (.key key) hturns
    exact ⟨h.responses, h.agree⟩
  · have h := halike (.scenario identifier) hturns
    have hagree : t.coordinator.producer.Agree identifier t'.coordinator.producer := h.agree
    exact ⟨h.responses, hagree.count, hagree.table, hagree.snapshot⟩
  · intro outside m r σ outside' m' r' σ' hm hr hm' hr' hne
    exact hrun.1.commutes hm hr hm' hr' hne

namespace Tenure

/-- A request of the worker `w` at the start of time. -/
def asked (r : Request) : Happening :=
  .message ⟨fun _ => ⟨⟨0, 0⟩, 0⟩, ⟨0, 0⟩⟩ (⟨1, "w", r⟩ : Production).toMessage

/-- A key is counted up, and tickets are asked for before and after the end of a test. -/
def quiet : List Happening :=
  [asked (.keystore "A" .inc "n" none), asked (.testdata "A"), .testStop {}, asked (.testdata "A")]

/-- The same between requests about another key and another scenario. -/
def busy : List Happening :=
  [asked (.testdata "B"), asked (.keystore "A" .inc "n" none),
    asked (.keystore "B" .set "m" (some .null)), asked (.testdata "A"), .testStop {},
    asked (.testdata "B"), asked (.testdata "A"), .stop {}]

theorem ticketOffice_independent :
    ticketOffice.IsDeterministic ∧ ∃ p, ticketOffice.build ∅ = .ok p ∧
      let t := (start p none .missing).run quiet
      let t' := (start p none .missing).run busy
      t'.responses (.key "n") = t.responses (.key "n") ∧
      t'.responses (.scenario "A") = t.responses (.scenario "A") ∧
      (t'.responses (.scenario "A")).length = 2 ∧
      t'.coordinator.producer.iteration? "A" = t.coordinator.producer.iteration? "A" := by
  have hd : ticketOffice.IsDeterministic := by
    intro s hs v hv
    rcases List.mem_cons.1 hs with rfl | hs
    · obtain rfl := List.mem_singleton.1 hv
      trivial
    · obtain rfl := List.mem_singleton.1 hs
      obtain rfl := List.mem_singleton.1 hv
      trivial
  refine ⟨hd, _, rfl, ?_⟩
  obtain ⟨-, hkeys, hscenarios, -⟩ :=
    @parts_independent ticketOffice ∅ _ hd rfl none none .missing .missing busy quiet
  obtain ⟨hresponses, hiteration, -⟩ := hscenarios "A" rfl
  exact ⟨(hkeys "n" rfl).1, hresponses, rfl, hiteration⟩

end Tenure

end LoadTest
