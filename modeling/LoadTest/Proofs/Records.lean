import LoadTest.Message
import LoadTest.Response
import Mathlib
/-!
# Records as values

Reading undoes writing for the records that travel between workers and the coordinator.
A field is looked up in the list of fields that was written, so each round trip is a look-up
for every field followed by the round trip of its kind of value.
-/

namespace LoadTest

/-- Steps that follow one another succeed together. -/
theorem bind_eq_ok {ε α β : Type} {x : Except ε α} {f : α → Except ε β} {b : β} :
    x >>= f = .ok b ↔ ∃ a, x = .ok a ∧ f a = .ok b := by
  cases x with
  | error e => exact ⟨nofun, nofun⟩
  | ok a => exact ⟨fun h => ⟨a, rfl, h⟩, by rintro ⟨_, ⟨⟩, h⟩; exact h⟩

namespace Dict

variable {α : Type}

/-- In a list of entries that goes on with one more, the earlier ones count. -/
theorem lookup_concat (k : String) (es : List (String × α)) (e : String × α) :
    lookup k (es ++ [e]) = (lookup k es).or (if e.1 = k then some e.2 else none) := by
  induction es with
  | nil => rfl
  | cons x xs ih =>
    rw [List.cons_append, lookup_cons, lookup_cons, ih]
    split <;> rfl

private theorem get?_foldl_insert (es : List (String × α)) (d : Dict α) (k : String) :
    (es.foldl (fun d e => d.insert e.1 e.2) d).get? k = (lookup k es.reverse).or (d.get? k) := by
  induction es generalizing d with
  | nil => rfl
  | cons e es ih =>
    rw [List.foldl_cons, ih, get?_insert, List.reverse_cons, lookup_concat]
    cases lookup k es.reverse with
    | some v => rfl
    | none => split <;> rfl

/-- Of two pairs under one key the later counts. -/
theorem get?_ofList (es : List (String × α)) (k : String) :
    (ofList es).get? k = lookup k es.reverse := by
  rw [ofList, get?_foldl_insert]
  cases lookup k es.reverse <;> rfl

/-- In entries with ascending keys it does not matter which of two counts. -/
theorem lookup_reverse {es : List (String × α)} (h : es.Pairwise fun a b => a.1 < b.1)
    (k : String) : lookup k es.reverse = lookup k es := by
  induction es with
  | nil => rfl
  | cons e es ih =>
    obtain ⟨he, hes⟩ := List.pairwise_cons.1 h
    rw [List.reverse_cons, lookup_concat, ih hes, lookup_cons]
    by_cases hk : e.1 = k
    · rw [if_pos hk, if_pos hk, lookup_eq_none fun x hx heq => ?_]
      · rfl
      · have hlt := he x hx
        rw [heq, hk] at hlt
        exact String.lt_irrefl _ hlt
    · rw [if_neg hk, if_neg hk]
      cases lookup k es <;> rfl

/-- A dictionary is made of its own entries. -/
theorem ofList_entries (d : Dict α) : ofList d.entries = d := by
  apply ext_get?
  intro k
  rw [get?_ofList, lookup_reverse d.ascending]
  rfl

/-- Where every key stands once, a value is found exactly under the key that it stands under. -/
theorem lookup_eq_some_iff {es : List (String × α)} (h : (es.map (·.1)).Nodup) {k : String}
    {v : α} : lookup k es = some v ↔ (k, v) ∈ es := by
  refine ⟨mem_of_lookup, fun hmem => ?_⟩
  induction es with
  | nil => cases hmem
  | cons e es ih =>
    obtain ⟨he, hes⟩ := List.nodup_cons.1 h
    rw [lookup_cons]
    rcases List.mem_cons.1 hmem with rfl | hmem
    · exact if_pos rfl
    · have hne : e.1 ≠ k := fun hk => he (List.mem_map.2 ⟨(k, v), hmem, hk.symm⟩)
      rw [if_neg hne, ih hes hmem]

/-- The entries of a dictionary are its look-ups. -/
theorem mem_entries_iff {d : Dict α} {k : String} {v : α} :
    (k, v) ∈ d.entries ↔ d.get? k = some v := by
  have hkeys : (d.entries.map (·.1)).Nodup :=
    List.pairwise_map.2 (d.ascending.imp String.ne_of_lt)
  exact (lookup_eq_some_iff hkeys).symm

/-- Keys that a test lets through keep their values, and the others have none. -/
theorem lookup_filter (p : String → Bool) (es : List (String × α)) (k : String) :
    lookup k (es.filter fun e => p e.1) = if p k then lookup k es else none := by
  induction es with
  | nil => simp
  | cons e es ih =>
    rw [List.filter_cons]
    by_cases he : p e.1
    · rw [if_pos he, lookup_cons, ih, lookup_cons]
      by_cases hk : e.1 = k
      · simp [← hk, he]
      · simp [hk]
    · rw [if_neg he, ih, lookup_cons]
      by_cases hk : e.1 = k
      · simp [← hk, he]
      · simp [hk]

end Dict

namespace Json

/-! ## Fields -/

/-- A field of an object that was made of some fields. -/
theorem field?_ofList {α : Type} (fields : List (String × Json)) (name : String)
    (convert : Conversion α) :
    field? (Dict.ofList fields).entries name convert =
      match Dict.lookup name fields.reverse with
      | none => .ok none
      | some v => (convert v).map some := by
  rw [← Dict.get?_ofList]
  rfl

/-- An unsigned integer is read as it was written. -/
theorem asUInt64_ofUInt64 (n : UInt64) : asUInt64 (ofUInt64 n) = .ok n := by
  have h : (Integer.ofUInt64 n).toUInt64? = some n := by
    simp [Integer.toUInt64?, Integer.ofUInt64]
  rw [ofUInt64, asUInt64, h]

/-- A signed integer is read as it was written. -/
theorem int64?_ofInt64 (n : Int64) : (ofInt64 n).int64? = some n :=
  int64?_toInt n

/-- A text that may be missing is read as it was written. -/
theorem optional_asString_ofOption (s : Option String) :
    Json.optional asString (ofOption .str s) = .ok s := by
  cases s <;> rfl

/-- A text is no missing text. -/
theorem optional_asString_str (s : String) : Json.optional asString (.str s) = .ok (some s) := rfl

/-- A signed integer is read as it was written. -/
theorem asInt64_ofInt64 (n : Int64) : asInt64 (ofInt64 n) = .ok n := by
  have hback : (Integer.ofInt64 n).toInt64? = some n := int64?_ofInt64 n
  rw [ofInt64, asInt64, hback]

variable {α : Type} {convert : Conversion α} {write : α → Json}

/-- A list is read as it was written if its items are. -/
theorem listOf_map (h : ∀ a, convert (write a) = .ok a) (as : List α) :
    listOf convert (.arr (as.map write)) = .ok as := by
  show (as.map write).mapM convert = .ok as
  induction as with
  | nil => rfl
  | cons a as ih =>
    rw [List.map_cons, List.mapM_cons, h a, ih]
    rfl

/-- A dictionary is read as it was written if its values are. -/
theorem dictOf_map (h : ∀ a, convert (write a) = .ok a) (d : Dict α) :
    dictOf convert (ofDict (d.map write)) = .ok d := by
  have hentries : (d.map write).entries.mapM (fun m => (convert m.2).map (m.1, ·)) =
      (.ok d.entries : Except Mismatch _) := by
    show (d.entries.map fun e => (e.1, write e.2)).mapM _ = _
    induction d.entries with
    | nil => rfl
    | cons e es ih =>
      rw [List.map_cons, List.mapM_cons, ih]
      simp only [h e.2]
      rfl
  show ((d.map write).entries.mapM fun m => (convert m.2).map (m.1, ·)).map Dict.ofList = .ok d
  rw [hentries, Except.map, Dict.ofList_entries]

/-- A dictionary of values is read as it was written. -/
theorem dictOf_asIs_ofDict (d : Dict Json) : dictOf asIs (ofDict d) = .ok d := by
  have hsame : d.map id = d := Dict.ext_get? fun k => by simp
  have hasIs : ∀ v : Json, asIs (id v) = .ok v := fun _ => rfl
  have hread := dictOf_map hasIs d
  rwa [hsame] at hread

end Json

open Json

/-! ## Requests -/

/-- A request is read as it was written; absent data stay apart from `null`. -/
theorem Request.ofJson_toJson (r : Request) : Request.ofJson r.toJson = .ok r := by
  obtain ⟨message, identifier, action, key, data⟩ := r
  show Request.ofJson (.obj (Dict.ofList (Request.fields _)).entries) = _
  simp only [Request.ofJson, field?_ofList, Request.fields]
  cases action <;> cases key <;> cases data <;>
    simp [Dict.lookup_cons, optional_asString_str, asString, asIs, required, Except.map, bind,
      Except.bind, pure, Except.pure]

/-- The coordinator finds in the envelope of a request what the worker put there. -/
theorem Envelope.ofJson_toJson (p : Production) :
    Envelope.ofJson p.toJson = .ok ⟨p.uid, p.cid, p.request.toJson⟩ := by
  show Envelope.ofJson (.obj (Dict.ofList _).entries) = _
  simp only [Envelope.ofJson, field?_ofList]
  simp [Dict.lookup_cons, asUInt64_ofUInt64, asString, asIs, required, Except.map, bind,
    Except.bind, pure, Except.pure]

/-! ## Replies -/

/-- The body of a reply is read as it was written. -/
theorem Consumption.ofJson_toJson (c : Consumption) : Consumption.ofJson c.toJson = .ok c := by
  show Consumption.ofJson (.obj (Dict.ofList _).entries) = _
  simp only [Consumption.ofJson, field?_ofList]
  simp [Dict.lookup_cons, asUInt64_ofUInt64, asIs, required, Except.map, bind, Except.bind,
    pure, Except.pure]

/-- A response of the keystore is read as it was written. -/
theorem KeystoreResponse.ofJson_toJson (r : KeystoreResponse) :
    KeystoreResponse.ofJson r.toJson = .ok r := by
  obtain ⟨action, key, data, error⟩ := r
  show KeystoreResponse.ofJson (.obj (Dict.ofList (KeystoreResponse.fields _)).entries) = _
  simp only [KeystoreResponse.ofJson, field?_ofList, KeystoreResponse.fields]
  cases key <;>
    simp [Dict.lookup_cons, optional_asString_str, optional_asString_ofOption, asIs, Except.map,
      bind, Except.bind, pure, Except.pure]

/-- A payload is read as it was written, as long as no alias takes the place of the
variables. -/
theorem Payload.ofJson_toJson {p : Payload} (h : p.aliases.get? "variables" = none) :
    Payload.ofJson p.toJson = .ok p := by
  obtain ⟨values, aliases⟩ := p
  have hvalues : (Dict.ofList (("variables", ofDict values) :: aliases.entries)).get?
      "variables" = some (ofDict values) := by
    rw [Dict.get?_ofList, List.reverse_cons, Dict.lookup_concat,
      Dict.lookup_reverse aliases.ascending]
    show (aliases.get? "variables").or _ = _
    rw [h]
    rfl
  have haliases : Dict.ofList ((Dict.ofList (("variables", ofDict values) ::
      aliases.entries)).entries.filter fun m => m.1 ≠ "variables") = aliases := by
    apply Dict.ext_get?
    intro k
    rw [Dict.get?_ofList, Dict.lookup_reverse ((Dict.ascending _).filter _),
      Dict.lookup_filter fun s => decide (s ≠ "variables")]
    show (if decide (k ≠ "variables") then (Dict.ofList _).get? k else none) = _
    by_cases hk : k = "variables"
    · simp [hk, h]
    · rw [if_pos (by simpa using hk), Dict.get?_ofList, List.reverse_cons, Dict.lookup_concat,
        Dict.lookup_reverse aliases.ascending, if_neg fun he => hk he.symm]
      show (aliases.get? k).or none = _
      cases aliases.get? k <;> rfl
  show (do
    let values ← (match (Dict.ofList (("variables", ofDict values) ::
        aliases.entries)).get? "variables" with
      | none => .ok none
      | some v => (dictOf asIs v).map some : Except Mismatch _)
    return ⟨values.getD ∅, Dict.ofList _⟩) = (.ok ⟨values, aliases⟩ : Except Mismatch Payload)
  rw [hvalues]
  simp only [dictOf_asIs_ofDict, Except.map]
  show (.ok ⟨values, Dict.ofList _⟩ : Except Mismatch Payload) = _
  rw [haliases]

/-- A response about test data is read as it was written, under the same condition. -/
theorem TestdataResponse.ofJson_toJson {r : TestdataResponse}
    (h : ∀ p, r.data = some p → p.aliases.get? "variables" = none) :
    TestdataResponse.ofJson r.toJson = .ok r := by
  obtain ⟨action, data⟩ := r
  show TestdataResponse.ofJson (.obj (Dict.ofList _).entries) = _
  simp only [TestdataResponse.ofJson, field?_ofList]
  cases data with
  | none =>
    simp [Dict.lookup_cons, asString, required, Except.map, bind, Except.bind, pure, Except.pure]
  | some p =>
    have hp : Json.optional Payload.ofJson p.toJson = .ok (some p) := by
      show (Payload.ofJson p.toJson).map some = _
      rw [Payload.ofJson_toJson (h p rfl), Except.map]
    simp [Dict.lookup_cons, asString, hp, required, Except.map, bind, Except.bind, pure,
      Except.pure]

end LoadTest
