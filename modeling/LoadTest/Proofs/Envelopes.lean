import LoadTest.Proofs.Records
/-!
# Requests in envelopes

The body of a request message can be read in one go, or its envelope first and then the request
in it. Both ways read the same bodies and find the same in them. The envelope alone asks for
less: a correlation id and a client id make one, whatever the request is.
-/

namespace LoadTest

namespace Json

/-! ## Parts of a record -/

/-- A conversion reads each thing from one value, its spelling. -/
def Inverts {α : Type} (convert : Conversion α) (spell : α → Json) : Prop :=
  ∀ v a, convert v = .ok a ↔ v = spell a

theorem inverts_asIs : Inverts asIs id := fun v a => by simp [asIs]

theorem inverts_asString : Inverts asString .str := fun v s => by cases v <;> simp [asString]

theorem inverts_asUInt64 : Inverts asUInt64 ofUInt64 := by
  intro v n
  constructor
  · intro h
    cases v with
    | int i =>
      obtain ⟨val, lower, upper⟩ := i
      by_cases hsign : 0 ≤ val
      · simp only [asUInt64, Integer.toUInt64?, if_pos hsign, Except.ok.injEq] at h
        subst h
        simp only [ofUInt64, Integer.ofUInt64, int.injEq, Integer.mk.injEq, UInt64.toNat_ofNat']
        omega
      · simp [asUInt64, Integer.toUInt64?, hsign] at h
    | _ => cases h
  · rintro rfl
    exact asUInt64_ofUInt64 n

/-- A missing text is spelled `null`. -/
theorem inverts_optional_asString : Inverts (Json.optional asString) (ofOption .str) := by
  intro v o
  cases v <;> cases o <;> simp [Json.optional, asString, ofOption, Except.map]

namespace Inverts

variable {α : Type} {convert : Conversion α} {spell : α → Json} (h : Inverts convert spell)
  {members : List (String × Json)} {items : List Json} {name : String} {i : Nat} {o : Option α}

include h

theorem map_eq_ok {v : Json} : (convert v).map some = .ok o ↔ some v = o.map spell := by
  cases hv : convert v with
  | error e =>
    cases o with
    | none => simp [Except.map]
    | some a =>
      have hne : v ≠ spell a := by
        rw [Ne, ← h, hv]
        exact nofun
      simp [Except.map, hne]
  | ok a =>
    rw [h] at hv
    subst hv
    cases o with
    | none => simp [Except.map]
    | some b =>
      have hiff := h (spell a) b
      simp only [(h (spell a) a).2 rfl, Except.ok.injEq] at hiff
      simp [Except.map, hiff]

/-- A field is read from its spelling, or is missing. -/
theorem field?_eq_ok :
    field? members name convert = .ok o ↔ Dict.lookup name members = o.map spell := by
  unfold field?
  cases Dict.lookup name members with
  | none => cases o <;> simp
  | some v => exact h.map_eq_ok

/-- An item is read from its spelling, or is missing. -/
theorem item?_eq_ok : item? items i convert = .ok o ↔ items[i]? = o.map spell := by
  unfold item?
  cases items[i]? with
  | none => cases o <;> simp
  | some v => exact h.map_eq_ok

end Inverts

variable {α : Type} {members : List (String × Json)} {items : List Json} {name record : String}
  {convert : Conversion α} {size i : Nat} {a : α} {o : Option α}

theorem field?_eq_ok_some : field? members name convert = .ok (some a) ↔
    ∃ v, Dict.lookup name members = some v ∧ convert v = .ok a := by
  unfold field?
  cases Dict.lookup name members with
  | none => simp
  | some v => cases h : convert v <;> simp [Except.map, h]

theorem item?_eq_ok_some : item? items i convert = .ok (some a) ↔
    ∃ v, items[i]? = some v ∧ convert v = .ok a := by
  unfold item?
  cases items[i]? with
  | none => simp
  | some v => cases h : convert v <;> simp [Except.map, h]

theorem required_eq_ok : required name o = .ok a ↔ o = some a := by
  cases o <;> simp [required]

theorem requiredItem_eq_ok : requiredItem record size i o = .ok a ↔ o = some a := by
  cases o <;> simp [requiredItem]

theorem atMost_eq_ok {u : Unit} : atMost size items = .ok u ↔ items.length ≤ size := by
  unfold atMost
  split <;> simp [*]

end Json

open Json

/-! ## Envelopes -/

namespace Envelope

variable {members : List (String × Json)} {items : List Json} {e : Envelope}

/-- An object is read as an envelope if it has a correlation id and a client id. -/
theorem ofJson_obj : Envelope.ofJson (.obj members) = .ok e ↔
    Dict.lookup "uid" members = some (ofUInt64 e.uid) ∧
      Dict.lookup "cid" members = some (.str e.cid) ∧
        e.request = (Dict.lookup "request" members).getD .null := by
  obtain ⟨uid, cid, request⟩ := e
  simp only [Envelope.ofJson, bind_eq_ok, inverts_asIs.field?_eq_ok, inverts_asString.field?_eq_ok,
    inverts_asUInt64.field?_eq_ok, required_eq_ok, Option.map_id_apply]
  constructor
  · rintro ⟨_, hcid, _, hrequest, _, huid, _, rfl, _, rfl, ⟨⟩⟩
    exact ⟨huid, hcid, by rw [hrequest]⟩
  · rintro ⟨huid, hcid, rfl⟩
    exact ⟨some cid, hcid, _, rfl, some uid, huid, _, rfl, _, rfl, rfl⟩

/-- A list is read as an envelope if it begins with a correlation id and a client id. -/
theorem ofJson_arr : Envelope.ofJson (.arr items) = .ok e ↔
    items[0]? = some (ofUInt64 e.uid) ∧ items[1]? = some (.str e.cid) ∧
      e.request = items[2]?.getD .null ∧ items.length ≤ 3 := by
  obtain ⟨uid, cid, request⟩ := e
  simp only [Envelope.ofJson, bind_eq_ok, inverts_asIs.item?_eq_ok, inverts_asString.item?_eq_ok,
    inverts_asUInt64.item?_eq_ok, requiredItem_eq_ok, atMost_eq_ok, Option.map_id_apply]
  constructor
  · rintro ⟨_, huid, _, rfl, _, hcid, _, rfl, _, hrequest, _, hlength, ⟨⟩⟩
    exact ⟨huid, hcid, by rw [hrequest], hlength⟩
  · rintro ⟨huid, hcid, rfl, hlength⟩
    exact ⟨some uid, huid, _, rfl, some cid, hcid, _, rfl, _, rfl, (), hlength, rfl⟩

end Envelope

/-! ## Requests in envelopes -/

/-- A request that is missing is none, and neither is `null`. -/
theorem Request.ofJson_getD {o : Option Json} {r : Request} :
    Request.ofJson (o.getD .null) = .ok r ↔ ∃ v, o = some v ∧ Request.ofJson v = .ok r := by
  cases o with
  | none => simp [Request.ofJson]
  | some v => simp

namespace Production

variable {members : List (String × Json)} {items : List Json} {p : Production}

theorem ofJson_obj : Production.ofJson (.obj members) = .ok p ↔
    Dict.lookup "uid" members = some (ofUInt64 p.uid) ∧
      Dict.lookup "cid" members = some (.str p.cid) ∧
        ∃ v, Dict.lookup "request" members = some v ∧ Request.ofJson v = .ok p.request := by
  obtain ⟨uid, cid, request⟩ := p
  simp only [Production.ofJson, bind_eq_ok, inverts_asString.field?_eq_ok,
    inverts_asUInt64.field?_eq_ok, required_eq_ok]
  constructor
  · rintro ⟨_, hcid, _, hrequest, _, huid, _, rfl, _, rfl, _, rfl, ⟨⟩⟩
    exact ⟨huid, hcid, field?_eq_ok_some.1 hrequest⟩
  · rintro ⟨huid, hcid, hrequest⟩
    exact ⟨some cid, hcid, _, field?_eq_ok_some.2 hrequest, some uid, huid, _, rfl, _, rfl, _, rfl,
      rfl⟩

theorem ofJson_arr : Production.ofJson (.arr items) = .ok p ↔
    items[0]? = some (ofUInt64 p.uid) ∧ items[1]? = some (.str p.cid) ∧
      (∃ v, items[2]? = some v ∧ Request.ofJson v = .ok p.request) ∧ items.length ≤ 3 := by
  obtain ⟨uid, cid, request⟩ := p
  simp only [Production.ofJson, bind_eq_ok, inverts_asString.item?_eq_ok,
    inverts_asUInt64.item?_eq_ok, requiredItem_eq_ok, atMost_eq_ok]
  constructor
  · rintro ⟨_, huid, _, rfl, _, hcid, _, rfl, _, hrequest, _, rfl, _, hlength, ⟨⟩⟩
    exact ⟨huid, hcid, item?_eq_ok_some.1 hrequest, hlength⟩
  · rintro ⟨huid, hcid, hrequest, hlength⟩
    exact ⟨some uid, huid, _, rfl, some cid, hcid, _, rfl, _, item?_eq_ok_some.2 hrequest, _, rfl,
      (), hlength, rfl⟩

/-- A body is read with its request exactly if its envelope is read and the request in it is,
and both find the same. An object is read as an envelope exactly if it has a correlation id and
a client id: its request may be anything, or be missing, which counts as `null`. -/
theorem ofJson_iff_envelope :
    (∀ v p, Production.ofJson v = .ok p ↔ ∃ e, Envelope.ofJson v = .ok e ∧
      e.uid = p.uid ∧ e.cid = p.cid ∧ Request.ofJson e.request = .ok p.request) ∧
    ∀ members e, Envelope.ofJson (.obj members) = .ok e ↔
      Dict.lookup "uid" members = some (ofUInt64 e.uid) ∧
        Dict.lookup "cid" members = some (.str e.cid) ∧
          e.request = (Dict.lookup "request" members).getD .null := by
  refine ⟨fun v p => ?_, fun _ _ => Envelope.ofJson_obj⟩
  cases v with
  | obj members =>
    simp only [ofJson_obj, Envelope.ofJson_obj, ← Request.ofJson_getD]
    constructor
    · rintro ⟨huid, hcid, hrequest⟩
      exact ⟨⟨p.uid, p.cid, _⟩, ⟨huid, hcid, rfl⟩, rfl, rfl, hrequest⟩
    · rintro ⟨e, ⟨huid, hcid, he⟩, hu, hc, hrequest⟩
      exact ⟨hu ▸ huid, hc ▸ hcid, he ▸ hrequest⟩
  | arr items =>
    simp only [ofJson_arr, Envelope.ofJson_arr, ← Request.ofJson_getD]
    constructor
    · rintro ⟨huid, hcid, hrequest, hlength⟩
      exact ⟨⟨p.uid, p.cid, _⟩, ⟨huid, hcid, rfl, hlength⟩, rfl, rfl, hrequest⟩
    · rintro ⟨e, ⟨huid, hcid, he, hlength⟩, hu, hc, hrequest⟩
      exact ⟨hu ▸ huid, hc ▸ hcid, he ▸ hrequest, hlength⟩
  | _ => simp [Production.ofJson, Envelope.ofJson]

end Production

end LoadTest
