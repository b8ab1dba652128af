/-!
# Dictionaries with text keys

A dictionary keeps its entries in strictly ascending key order, so that two dictionaries
with the same look-ups are equal and listing one needs no sorting. Keys are compared code
point by code point, which is also the order of their UTF-8 bytes.
The laws say what each operation does to `get?`.
-/

namespace LoadTest

/-- A finite map from text keys to values, listed in strictly ascending key order. -/
structure Dict (α : Type) where
  entries : List (String × α)
  ascending : entries.Pairwise (fun a b => a.1 < b.1)
  deriving DecidableEq, Repr

namespace Dict

variable {α β : Type}

/-- The value of the first entry under a key. -/
def lookup (k : String) : List (String × α) → Option α
  | [] => none
  | e :: es => if e.1 = k then some e.2 else lookup k es

/-- Put a value under its key in an ascending list, replacing an earlier one. -/
def place (k : String) (v : α) : List (String × α) → List (String × α)
  | [] => [(k, v)]
  | e :: es =>
    if k < e.1 then (k, v) :: e :: es
    else if k = e.1 then (k, v) :: es
    else e :: place k v es

theorem mem_place {k : String} {v : α} {es : List (String × α)} {x : String × α}
    (h : x ∈ place k v es) : x = (k, v) ∨ x ∈ es := by
  induction es with
  | nil => simpa [place] using h
  | cons e es ih =>
    simp only [place] at h
    split at h
    · simpa using h
    · split at h
      · rcases List.mem_cons.1 h with h | h
        · exact .inl h
        · exact .inr (List.mem_cons_of_mem _ h)
      · rcases List.mem_cons.1 h with h | h
        · exact .inr (h ▸ List.mem_cons_self)
        · exact (ih h).imp_right (List.mem_cons_of_mem _)

theorem lt_of_not_lt {a b : String} (h : ¬ a < b) (hne : a ≠ b) : b < a :=
  String.not_le.1 fun hle => hne (String.le_antisymm hle (String.not_lt.1 h))

theorem pairwise_place (k : String) (v : α) {es : List (String × α)}
    (h : es.Pairwise (fun a b => a.1 < b.1)) :
    (place k v es).Pairwise (fun a b => a.1 < b.1) := by
  induction es with
  | nil => simp [place]
  | cons e es ih =>
    obtain ⟨he, hes⟩ := List.pairwise_cons.1 h
    simp only [place]
    split
    · next hk =>
      refine List.pairwise_cons.2 ⟨fun x hx => ?_, h⟩
      rcases List.mem_cons.1 hx with rfl | hx
      · exact hk
      · exact String.lt_trans hk (he x hx)
    · next hk =>
      split
      · next heq => exact List.pairwise_cons.2 ⟨fun x hx => heq ▸ he x hx, hes⟩
      · next hne =>
        refine List.pairwise_cons.2 ⟨fun x hx => ?_, ih hes⟩
        rcases mem_place hx with rfl | hx
        · exact lt_of_not_lt hk hne
        · exact he x hx

/-- The dictionary without entries. -/
def empty : Dict α := ⟨[], .nil⟩

instance : EmptyCollection (Dict α) := ⟨empty⟩

instance : Inhabited (Dict α) := ⟨empty⟩

/-- The value under a key. -/
def get? (d : Dict α) (k : String) : Option α := lookup k d.entries

/-- Whether a key has a value. -/
def contains (d : Dict α) (k : String) : Bool := (d.get? k).isSome

/-- Store a value under a key, replacing an earlier one. -/
def insert (d : Dict α) (k : String) (v : α) : Dict α :=
  ⟨place k v d.entries, pairwise_place k v d.ascending⟩

/-- Remove a key. -/
def erase (d : Dict α) (k : String) : Dict α :=
  ⟨d.entries.filter (fun e => e.1 ≠ k), d.ascending.filter _⟩

/-- Enter a list of pairs; of two values under one key the later counts. -/
def ofList (es : List (String × α)) : Dict α := es.foldl (fun d e => d.insert e.1 e.2) empty

/-- The number of keys. -/
def size (d : Dict α) : Nat := d.entries.length

/-- Whether there is no key. -/
def isEmpty (d : Dict α) : Bool := d.entries.isEmpty

/-- The keys, ascending. -/
def keys (d : Dict α) : List String := d.entries.map (·.1)

/-- Apply a function to every value. -/
def map (f : α → β) (d : Dict α) : Dict β :=
  ⟨d.entries.map (fun e => (e.1, f e.2)), List.pairwise_map.2 d.ascending⟩

/-- Keep the entries to which a function gives a value. -/
def filterMap (f : α → Option β) (d : Dict α) : Dict β :=
  ⟨d.entries.filterMap (fun e => (f e.2).map (e.1, ·)), by
    refine List.Pairwise.filterMap _ (fun a b hab x hx y hy => ?_) d.ascending
    obtain ⟨_, _, rfl⟩ := Option.map_eq_some_iff.1 hx
    obtain ⟨_, _, rfl⟩ := Option.map_eq_some_iff.1 hy
    exact hab⟩

/-! ## Look-ups -/

@[simp] theorem lookup_nil (k : String) : lookup k ([] : List (String × α)) = none := rfl

theorem lookup_cons (k : String) (e : String × α) (es : List (String × α)) :
    lookup k (e :: es) = if e.1 = k then some e.2 else lookup k es := rfl

theorem lookup_eq_none {k : String} {es : List (String × α)} (h : ∀ e ∈ es, e.1 ≠ k) :
    lookup k es = none := by
  induction es with
  | nil => rfl
  | cons e es ih =>
    rw [lookup_cons, if_neg (h e List.mem_cons_self)]
    exact ih fun x hx => h x (List.mem_cons_of_mem _ hx)

theorem mem_of_lookup {k : String} {v : α} {es : List (String × α)}
    (h : lookup k es = some v) : (k, v) ∈ es := by
  induction es with
  | nil => cases h
  | cons e es ih =>
    rw [lookup_cons] at h
    split at h
    · next he =>
      cases h
      exact he ▸ List.mem_cons_self
    · exact List.mem_cons_of_mem _ (ih h)

theorem lookup_place (k a : String) (v : α) (es : List (String × α)) :
    lookup a (place k v es) = if k = a then some v else lookup a es := by
  induction es with
  | nil => rfl
  | cons e es ih =>
    simp only [place]
    split
    · rfl
    · split
      · next heq =>
        rw [lookup_cons, lookup_cons]
        split <;> simp_all
      · next hne =>
        rw [lookup_cons, lookup_cons, ih]
        split
        · next h => rw [if_neg (fun hk => hne (hk.trans h.symm))]
        · rfl

@[simp] theorem get?_empty (k : String) : (∅ : Dict α).get? k = none := rfl

theorem get?_insert (d : Dict α) (k a : String) (v : α) :
    (d.insert k v).get? a = if k = a then some v else d.get? a :=
  lookup_place k a v d.entries

@[simp] theorem get?_insert_self (d : Dict α) (k : String) (v : α) :
    (d.insert k v).get? k = some v := by simp [get?_insert]

theorem get?_insert_of_ne (d : Dict α) {k a : String} (v : α) (h : k ≠ a) :
    (d.insert k v).get? a = d.get? a := by simp [get?_insert, h]

theorem get?_erase (d : Dict α) (k a : String) :
    (d.erase k).get? a = if k = a then none else d.get? a := by
  simp only [get?, erase]
  induction d.entries with
  | nil => simp
  | cons e es ih =>
    by_cases he : e.1 = k
    · rw [List.filter_cons_of_neg (by simp [he]), ih, lookup_cons, he]
      split <;> simp_all
    · rw [List.filter_cons_of_pos (by simp [he]), lookup_cons, ih, lookup_cons]
      split
      · next h => rw [if_neg (fun hk => he (h.trans hk.symm))]
      · rfl

@[simp] theorem get?_map (f : α → β) (d : Dict α) (k : String) :
    (d.map f).get? k = (d.get? k).map f := by
  simp only [get?, map]
  induction d.entries with
  | nil => rfl
  | cons e es ih =>
    simp only [List.map_cons, lookup_cons, ih]
    split <;> rfl

/-- Two dictionaries with the same look-ups have the same entries. -/
theorem ext_get? {d e : Dict α} (h : ∀ k, d.get? k = e.get? k) : d = e := by
  obtain ⟨xs, hx⟩ := d
  obtain ⟨ys, hy⟩ := e
  simp only [get?] at h
  suffices xs = ys by subst this; rfl
  induction xs generalizing ys with
  | nil =>
    cases ys with
    | nil => rfl
    | cons y ys => simpa [lookup_cons] using h y.1
  | cons x xs ih =>
    obtain ⟨hx1, hx2⟩ := List.pairwise_cons.1 hx
    cases ys with
    | nil => simpa [lookup_cons] using h x.1
    | cons y ys =>
      obtain ⟨hy1, hy2⟩ := List.pairwise_cons.1 hy
      have hk : x.1 = y.1 := by
        refine Decidable.byContradiction fun hne => ?_
        by_cases hlt : x.1 < y.1
        · have := h x.1
          rw [lookup_cons, if_pos rfl, lookup_cons, if_neg (Ne.symm hne), lookup_eq_none] at this
          · simp at this
          · intro e he heq
            exact String.lt_irrefl _ (heq ▸ String.lt_trans hlt (hy1 e he))
        · have hgt := lt_of_not_lt hlt hne
          have := h y.1
          rw [lookup_cons, if_neg hne, lookup_cons, if_pos rfl, lookup_eq_none] at this
          · simp at this
          · intro e he heq
            exact String.lt_irrefl _ (heq ▸ String.lt_trans hgt (hx1 e he))
      have hv : x.2 = y.2 := by
        have := h x.1
        rw [lookup_cons, if_pos rfl, lookup_cons, if_pos hk.symm] at this
        exact Option.some.inj this
      have hrest : xs = ys := by
        refine ih hx2 ys hy2 fun k => ?_
        by_cases hxk : x.1 = k
        · rw [lookup_eq_none, lookup_eq_none]
          · exact fun e he heq => String.lt_irrefl _ (heq ▸ hxk ▸ hk ▸ hy1 e he)
          · exact fun e he heq => String.lt_irrefl _ (heq ▸ hxk ▸ hx1 e he)
        · have := h k
          rwa [lookup_cons, if_neg hxk, lookup_cons, if_neg (hk ▸ hxk)] at this
      rw [hrest, show x = y from Prod.ext hk hv]

/-- Of two values stored under one key the later counts. -/
theorem insert_insert (d : Dict α) (k : String) (v w : α) :
    (d.insert k v).insert k w = d.insert k w := by
  apply ext_get?
  intro a
  rw [get?_insert, get?_insert, get?_insert]
  split <;> rfl

/-- Storing the value that is there already changes nothing. -/
theorem insert_of_get? {d : Dict α} {k : String} {v : α} (h : d.get? k = some v) :
    d.insert k v = d := by
  apply ext_get?
  intro a
  rw [get?_insert]
  split
  · next hk => rw [← hk, h]
  · rfl

end Dict

end LoadTest
