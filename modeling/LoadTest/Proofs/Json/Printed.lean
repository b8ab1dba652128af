import LoadTest.Json.Shape
import LoadTest.Proofs.Json.Scalars
import LoadTest.Proofs.Records
/-!
# Printed values

The compact text of a value is read back as that value, and nothing behind it is touched, as
long as the value has no more levels than the reader accepts; a deeper one is refused. This
holds of the values whose text says everything about them: those without doubles, whose
objects list their members in ascending order.
-/

namespace LoadTest

theorem Dict.lookup_ne_none {α : Type} {es : List (String × α)} {e : String × α} (h : e ∈ es) :
    lookup e.1 es ≠ none := by
  induction es with
  | nil => cases h
  | cons x xs ih =>
    rw [lookup_cons]
    split
    · exact Option.some_ne_none _
    · next hne =>
      rcases List.mem_cons.1 h with rfl | h
      · exact absurd rfl hne
      · exact ih h

/-- A dictionary that is made of some entries has all their keys. -/
theorem Dict.contains_ofList {α : Type} {es : List (String × α)} {k : String}
    (h : k ∈ es.map (·.1)) : (ofList es).contains k = true := by
  rw [contains, get?_ofList]
  cases hk : lookup k es.reverse with
  | some v => rfl
  | none =>
    obtain ⟨e, he, rfl⟩ := List.mem_map.1 h
    exact absurd hk (lookup_ne_none (List.mem_reverse.2 he))

namespace Json

open Text (Symbol)

/-- A value without doubles whose objects list their members in ascending order. -/
inductive Exact : Json → Prop
  | null : Exact .null
  | bool (b : Bool) : Exact (.bool b)
  | int (n : Integer) : Exact (.int n)
  | str (t : String) : Exact (.str t)
  | arr {vs : List Json} (items : ∀ v ∈ vs, Exact v) : Exact (.arr vs)
  | obj {ms : List (String × Json)} (ascending : ms.Pairwise fun a b => a.1 < b.1)
      (members : ∀ m ∈ ms, Exact m.2) : Exact (.obj ms)

/-- A value with no more than a number of levels; a deeper one is refused. -/
def within (levels : Nat) (v : Json) : Except TextFault Json :=
  if v.isDeeperThan levels then .error .malformed else .ok v

/-- A reader has an outcome on a text, and leaves what stands behind the text alone. -/
def Reads {α : Type} (reader : Reader α) (text : List Char) (outcome : Except TextFault α) :
    Prop :=
  ∀ s, EndsNumber s → reader (text.map some ++ s) = outcome.map (·, s)

/-! ## The start of a value -/

/-- Text that starts with neither a blank nor a closing bracket. -/
def StartsValue (cs : List Char) : Prop :=
  ∃ c rest, cs = c :: rest ∧ c ≠ ' ' ∧ c ≠ '\n' ∧ c ≠ '\t' ∧ c ≠ '\r' ∧ c ≠ ']'

theorem skipBlanks_of_ne {c : Char} (hspace : c ≠ ' ') (hline : c ≠ '\n') (htab : c ≠ '\t')
    (hreturn : c ≠ '\r') (s : List Symbol) : skipBlanks (some c :: s) = some c :: s := by
  simp [skipBlanks, hspace, hline, htab, hreturn]

theorem ne_of_isDigit {c d : Char} (hc : c.isDigit) (hd : d.isDigit = false) : c ≠ d := by
  rintro rfl
  rw [hc] at hd
  cases hd

theorem startsValue_naturalChars (n : Nat) : StartsValue (Text.naturalChars n) := by
  cases hcs : Text.naturalChars n with
  | nil => exact absurd hcs Nat.toDigits_ne_nil
  | cons c cs =>
    have hc : c.isDigit := isDigit_of_mem_naturalChars (hcs ▸ List.mem_cons_self)
    exact ⟨c, cs, rfl, ne_of_isDigit hc rfl, ne_of_isDigit hc rfl, ne_of_isDigit hc rfl,
      ne_of_isDigit hc rfl, ne_of_isDigit hc rfl⟩

theorem compactChars_int_of_neg {n : Integer} (hn : n.val < 0) :
    compactChars (.int n) = '-' :: Text.naturalChars n.val.natAbs := by
  simp [compactChars, scalarChars, Text.integerChars, hn]

theorem compactChars_int_of_nonneg {n : Integer} (hn : 0 ≤ n.val) :
    compactChars (.int n) = Text.naturalChars n.val.natAbs := by
  simp [compactChars, scalarChars, Text.integerChars, Int.not_lt.2 hn]

theorem Exact.startsValue {v : Json} (h : v.Exact) : StartsValue (compactChars v) := by
  cases h with
  | null => exact ⟨'n', _, rfl, by decide⟩
  | bool b =>
    cases b with
    | false => exact ⟨'f', _, rfl, by decide⟩
    | true => exact ⟨'t', _, rfl, by decide⟩
  | int n =>
    rcases Int.lt_or_le n.val 0 with hn | hn
    · exact ⟨'-', _, compactChars_int_of_neg hn, by decide⟩
    · rw [compactChars_int_of_nonneg hn]
      exact startsValue_naturalChars _
  | str t => exact ⟨'"', _, rfl, by decide⟩
  | arr _ => exact ⟨'[', _, rfl, by decide⟩
  | obj _ _ => exact ⟨'\x7b', _, rfl, by decide⟩

/-! ## Scalars -/

theorem value_digit {c : Char} (hc : c.isDigit) (levels : Nat) (s : List Symbol) :
    value levels (some c :: s) = number false (some c :: s) := by
  have hne {d : Char} (hd : d.isDigit = false) : some c ≠ some d :=
    fun h => ne_of_isDigit hc hd (Option.some.inj h)
  have hdigit : (digit? (some c)).isSome = true := by simp [digit?, hc]
  rw [value, skipBlanks_of_ne (ne_of_isDigit hc rfl) (ne_of_isDigit hc rfl)
    (ne_of_isDigit hc rfl) (ne_of_isDigit hc rfl)]
  dsimp only
  rw [if_neg (hne rfl), if_neg (hne rfl), if_neg (hne rfl), if_neg (hne rfl), if_pos hdigit]

theorem reads_int (n : Integer) (levels : Nat) :
    Reads (value levels) (compactChars (.int n)) (.ok (.int n)) := by
  intro s hs
  rcases Int.lt_or_le n.val 0 with hn | hn
  · have hvalue : value levels (some '-' :: ((Text.naturalChars n.val.natAbs).map some ++ s)) =
        number true ((Text.naturalChars n.val.natAbs).map some ++ s) := by
      simp [value, skipBlanks]
    rw [compactChars_int_of_neg hn, List.map_cons, List.cons_append, hvalue, number_of_neg hn hs]
    rfl
  · have hvalue : value levels ((Text.naturalChars n.val.natAbs).map some ++ s) =
        number false ((Text.naturalChars n.val.natAbs).map some ++ s) := by
      cases hcs : Text.naturalChars n.val.natAbs with
      | nil => exact absurd hcs Nat.toDigits_ne_nil
      | cons c cs =>
        exact value_digit (isDigit_of_mem_naturalChars (hcs ▸ List.mem_cons_self)) levels _
    rw [compactChars_int_of_nonneg hn, hvalue, number_of_nonneg hn hs]
    rfl

theorem reads_str (t : String) (levels : Nat) :
    Reads (value levels) (compactChars (.str t)) (.ok (.str t)) := by
  intro s _
  show value levels ((stringChars t).map some ++ s) = .ok (.str t, s)
  rw [map_stringChars]
  simp [value, skipBlanks, digit?, string_stringChars, Except.map]

/-! ## Arrays -/

/-- Behind a value stands a comma or what ends the list. -/
theorem endsNumber_flatMap {α : Type} (f : α → List Char) (xs : List α) {s : List Symbol}
    (hs : EndsNumber s) : EndsNumber ((xs.flatMap fun x => ',' :: f x).map some ++ s) := by
  cases xs with
  | nil => exact hs
  | cons x xs => exact endsNumber_comma _

theorem length_le_flatMap {α : Type} (f : α → List Char) (xs : List α) :
    xs.length ≤ (xs.flatMap fun x => ',' :: f x).length := by
  induction xs with
  | nil => exact Nat.zero_le _
  | cons x xs ih =>
    rw [List.flatMap_cons, List.length_append, List.length_cons, List.length_cons]
    omega

theorem compactItems_cons (v : Json) (vs : List Json) :
    compactItems (v :: vs) = compactChars v ++ vs.flatMap fun w => ',' :: compactChars w := by
  induction vs generalizing v with
  | nil => simp [compactItems]
  | cons w ws ih =>
    rw [compactItems, ih, List.flatMap_cons, List.cons_append]

theorem length_le_compactItems (vs : List Json) : vs.length ≤ (compactItems vs).length + 1 := by
  cases vs with
  | nil => exact Nat.zero_le _
  | cons v vs =>
    have hle := length_le_flatMap compactChars vs
    rw [compactItems_cons, List.length_append, List.length_cons]
    omega

theorem nextItem_bracket (first : Bool) (s : List Symbol) :
    nextItem first (some ']' :: s) = .ok (none, s) := by
  simp [nextItem, skipBlanks]

theorem nextItem_first {cs : List Char} (h : StartsValue cs) (s : List Symbol) :
    ∃ r, nextItem true (cs.map some ++ s) = .ok (some (cs.map some ++ s), r) := by
  obtain ⟨c, cs, rfl, hspace, hline, htab, hreturn, hbracket⟩ := h
  refine ⟨cs.map some ++ s, ?_⟩
  rw [List.map_cons, List.cons_append, nextItem, skipBlanks_of_ne hspace hline htab hreturn]
  simp [hbracket]

theorem nextItem_comma {cs : List Char} (h : StartsValue cs) (s : List Symbol) :
    ∃ r, nextItem false (some ',' :: (cs.map some ++ s)) = .ok (some (cs.map some ++ s), r) := by
  obtain ⟨c, cs, rfl, hspace, hline, htab, hreturn, hbracket⟩ := h
  refine ⟨cs.map some ++ s, ?_⟩
  rw [List.map_cons, List.cons_append, nextItem, skipBlanks_of_ne (by decide) (by decide)
    (by decide) (by decide)]
  simp [skipBlanks_of_ne hspace hline htab hreturn, hbracket]

section Items

variable {item : Reader Json} {outcome : Json → Except TextFault Json} {vs : List Json}

/-- One more item, and then the others. -/
theorem items_of_nextItem {first : Bool} {cs : List Char} {o : Except TextFault Json}
    (hread : Reads item cs o) {s t r rest : List Symbol} (ht : EndsNumber t)
    (hnext : nextItem first s = .ok (some (cs.map some ++ t), r)) {fuel : Nat}
    {others : Except TextFault (List Json)}
    (hothers : items item fuel false t = others.map (·, rest)) :
    items item (fuel + 1) first s =
      (do let v ← o; let vs ← others; return v :: vs : Except TextFault _).map (·, rest) := by
  rw [items, hnext]
  dsimp only
  rw [hread t ht]
  cases o with
  | error e => rfl
  | ok v =>
    dsimp only [Except.map]
    rw [hothers]
    cases others <;> rfl

/-- The items behind the first one are read one after the other. -/
theorem items_tail (hstart : ∀ v ∈ vs, StartsValue (compactChars v))
    (hread : ∀ v ∈ vs, Reads item (compactChars v) (outcome v)) {fuel : Nat}
    (hfuel : vs.length < fuel) (s : List Symbol) :
    items item fuel false
      ((vs.flatMap fun v => ',' :: compactChars v).map some ++ some ']' :: s) =
      (vs.mapM outcome).map (·, s) := by
  induction vs generalizing fuel with
  | nil =>
    obtain ⟨fuel, rfl⟩ := Nat.exists_eq_add_one.2 (Nat.zero_lt_of_lt hfuel)
    rw [List.flatMap_nil, List.map_nil, List.nil_append, items, nextItem_bracket]
    rfl
  | cons v vs ih =>
    obtain ⟨fuel, rfl⟩ := Nat.exists_eq_add_one.2 (Nat.zero_lt_of_lt hfuel)
    obtain ⟨hv, hvs⟩ := List.forall_mem_cons.1 hread
    obtain ⟨r, hnext⟩ := nextItem_comma (hstart v List.mem_cons_self)
      ((vs.flatMap fun v => ',' :: compactChars v).map some ++ some ']' :: s)
    rw [List.flatMap_cons, List.cons_append, List.map_cons, List.map_append, List.cons_append,
      List.append_assoc, List.mapM_cons]
    exact items_of_nextItem hv (endsNumber_flatMap _ _ (endsNumber_bracket s)) hnext
      (ih (fun v h => hstart v (List.mem_cons_of_mem _ h)) hvs (Nat.lt_of_succ_lt_succ hfuel))

/-- The text of an array is read item by item. -/
theorem items_compactItems (hstart : ∀ v ∈ vs, StartsValue (compactChars v))
    (hread : ∀ v ∈ vs, Reads item (compactChars v) (outcome v)) {fuel : Nat}
    (hfuel : vs.length < fuel) (s : List Symbol) :
    items item fuel true ((compactItems vs).map some ++ some ']' :: s) =
      (vs.mapM outcome).map (·, s) := by
  obtain ⟨fuel, rfl⟩ := Nat.exists_eq_add_one.2 (Nat.zero_lt_of_lt hfuel)
  cases vs with
  | nil =>
    rw [compactItems, List.map_nil, List.nil_append, items, nextItem_bracket]
    rfl
  | cons v vs =>
    obtain ⟨hv, hvs⟩ := List.forall_mem_cons.1 hread
    obtain ⟨r, hnext⟩ := nextItem_first (hstart v List.mem_cons_self)
      ((vs.flatMap fun v => ',' :: compactChars v).map some ++ some ']' :: s)
    rw [compactItems_cons, List.map_append, List.append_assoc, List.mapM_cons]
    exact items_of_nextItem hv (endsNumber_flatMap _ _ (endsNumber_bracket s)) hnext
      (items_tail (fun v h => hstart v (List.mem_cons_of_mem _ h)) hvs
        (Nat.lt_of_succ_lt_succ hfuel) s)

end Items

/-- The length of what is left is fuel enough for a list that is not longer than its text. -/
theorem lt_fuel {n : Nat} {text : List Char} (h : n ≤ text.length + 1) (x : Symbol)
    (s : List Symbol) : n < (text.map some ++ x :: s).length + 1 := by
  simp only [List.length_append, List.length_map, List.length_cons]
  omega

/-! ## Objects -/

/-- Blanks as they stand between the parts of a printed text. -/
def Blank (cs : List Char) : Prop := ∀ c ∈ cs, c = ' ' ∨ c = '\n'

theorem blank_nil : Blank [] := by simp [Blank]

theorem skipBlanks_append {cs : List Char} (h : Blank cs) (s : List Symbol) :
    skipBlanks (cs.map some ++ s) = skipBlanks s := by
  induction cs with
  | nil => rfl
  | cons c cs ih =>
    obtain ⟨hc, hcs⟩ := List.forall_mem_cons.1 h
    rw [List.map_cons, List.cons_append, skipBlanks, if_pos (by simpa using hc.imp_right .inl),
      ih hcs]

theorem endsNumber_blanks {cs : List Char} (h : Blank cs) {s : List Symbol}
    (hs : EndsNumber s) : EndsNumber (cs.map some ++ s) := by
  cases cs with
  | nil => exact hs
  | cons c cs =>
    rcases h c List.mem_cons_self with rfl | rfl <;> simp [EndsNumber, digit?]

theorem nextKey_brace (first : Bool) {cs : List Char} (h : Blank cs) (s : List Symbol) :
    nextKey first (cs.map some ++ some '\x7d' :: s) = .ok (none, s) := by
  rw [nextKey, skipBlanks_append h]
  simp [skipBlanks]

theorem nextKey_first {cs : List Char} (h : Blank cs) (k : String) (s : List Symbol) :
    nextKey true (cs.map some ++ ((stringChars k).map some ++ s)) = .ok (some k, s) := by
  rw [nextKey, skipBlanks_append h, map_stringChars]
  simp [skipBlanks, string_stringChars]

theorem nextKey_comma {cs : List Char} (h : Blank cs) (k : String) (s : List Symbol) :
    nextKey false (some ',' :: (cs.map some ++ ((stringChars k).map some ++ s))) =
      .ok (some k, s) := by
  rw [nextKey, skipBlanks_of_ne (by decide) (by decide) (by decide) (by decide)]
  simp only [Option.some.injEq, Char.reduceEq, if_true, if_false, Bool.false_eq_true]
  rw [skipBlanks_append h, map_stringChars]
  simp [skipBlanks, string_stringChars]

section Members

variable {lead trail : List Char} {text : String × Json → List Char}

/-- The text of a member: some blanks, its key, and what stands behind the key. -/
def memberChars (lead : List Char) (text : String × Json → List Char) (m : String × Json) :
    List Char :=
  lead ++ (stringChars m.1 ++ text m)

/-- The texts of some members, with commas between them. -/
def membersChars (lead : List Char) (text : String × Json → List Char) :
    List (String × Json) → List Char
  | [] => []
  | m :: ms => memberChars lead text m ++ ms.flatMap fun n => ',' :: memberChars lead text n

theorem compactMembers_eq (ms : List (String × Json)) :
    compactMembers ms = membersChars [] (fun m => ':' :: compactChars m.2) ms := by
  induction ms with
  | nil => rfl
  | cons m ms ih =>
    cases ms with
    | nil => simp [compactMembers, membersChars, memberChars]
    | cons n ns =>
      rw [compactMembers, ih]
      simp [membersChars, memberChars]

theorem length_le_membersChars (lead : List Char) (text : String × Json → List Char)
    (ms : List (String × Json)) : ms.length ≤ (membersChars lead text ms).length + 1 := by
  cases ms with
  | nil => exact Nat.zero_le _
  | cons m ms =>
    have hle := length_le_flatMap (memberChars lead text) ms
    rw [membersChars, List.length_append, List.length_cons]
    omega

theorem map_memberChars (m : String × Json) (s : List Symbol) :
    (memberChars lead text m).map some ++ s =
      lead.map some ++ ((stringChars m.1).map some ++ ((text m).map some ++ s)) := by
  rw [memberChars, List.map_append, List.map_append, List.append_assoc, List.append_assoc]

variable {σ : Type} {member : σ → String → Reader σ}
  {next : σ → String × Json → Except TextFault σ} {ms : List (String × Json)}

/-- One more member, and then the others. -/
theorem members_of_nextKey {first : Bool} {m : String × Json} {state : σ}
    {o : Except TextFault σ} (hread : Reads (member state m.1) (text m) o)
    {s t : List Symbol} (ht : EndsNumber t)
    (hnext : nextKey first s = .ok (some m.1, (text m).map some ++ t)) (fuel : Nat) :
    members member (fuel + 1) first state s =
      o.bind fun state => members member fuel false state t := by
  rw [members, hnext]
  dsimp only
  rw [hread t ht]
  cases o <;> rfl

/-- The members behind the first one are read one after the other. -/
theorem members_tail (hlead : Blank lead) (htrail : Blank trail)
    (hread : ∀ m ∈ ms, ∀ state, Reads (member state m.1) (text m) (next state m))
    {fuel : Nat} (hfuel : ms.length < fuel) (state : σ) (s : List Symbol) :
    members member fuel false state
      ((ms.flatMap fun m => ',' :: memberChars lead text m).map some ++
        (trail.map some ++ some '\x7d' :: s)) =
      (ms.foldlM next state).map (·, s) := by
  induction ms generalizing fuel state with
  | nil =>
    obtain ⟨fuel, rfl⟩ := Nat.exists_eq_add_one.2 (Nat.zero_lt_of_lt hfuel)
    rw [List.flatMap_nil, List.map_nil, List.nil_append, members, nextKey_brace false htrail]
    rfl
  | cons m ms ih =>
    obtain ⟨fuel, rfl⟩ := Nat.exists_eq_add_one.2 (Nat.zero_lt_of_lt hfuel)
    obtain ⟨hm, hms⟩ := List.forall_mem_cons.1 hread
    have hnext := nextKey_comma hlead m.1 ((text m).map some ++
      ((ms.flatMap fun m => ',' :: memberChars lead text m).map some ++
        (trail.map some ++ some '\x7d' :: s)))
    rw [List.flatMap_cons, List.cons_append, List.map_cons, List.map_append, List.cons_append,
      List.append_assoc, map_memberChars, members_of_nextKey (hm state)
      (endsNumber_flatMap _ _ (endsNumber_blanks htrail (endsNumber_brace s))) hnext,
      List.foldlM_cons]
    cases next state m with
    | error e => rfl
    | ok state => exact ih hms (Nat.lt_of_succ_lt_succ hfuel) state

/-- The text of an object is read member by member. -/
theorem members_membersChars (hlead : Blank lead) (htrail : Blank trail)
    (hread : ∀ m ∈ ms, ∀ state, Reads (member state m.1) (text m) (next state m))
    {fuel : Nat} (hfuel : ms.length < fuel) (state : σ) (s : List Symbol) :
    members member fuel true state
      ((membersChars lead text ms).map some ++ (trail.map some ++ some '\x7d' :: s)) =
      (ms.foldlM next state).map (·, s) := by
  obtain ⟨fuel, rfl⟩ := Nat.exists_eq_add_one.2 (Nat.zero_lt_of_lt hfuel)
  cases ms with
  | nil =>
    rw [membersChars, List.map_nil, List.nil_append, members, nextKey_brace true htrail]
    rfl
  | cons m ms =>
    obtain ⟨hm, hms⟩ := List.forall_mem_cons.1 hread
    rw [membersChars, List.map_append, List.append_assoc, map_memberChars,
      members_of_nextKey (hm state)
        (endsNumber_flatMap _ _ (endsNumber_blanks htrail (endsNumber_brace s)))
        (nextKey_first hlead _ _), List.foldlM_cons]
    cases next state m with
    | error e => rfl
    | ok state => exact members_tail hlead htrail hms (Nat.lt_of_succ_lt_succ hfuel) state s

/-- The compact text of an object is read member by member. -/
theorem members_compactMembers
    (hread : ∀ m ∈ ms, ∀ state, Reads (member state m.1) (':' :: compactChars m.2) (next state m))
    (state : σ) (s : List Symbol) :
    members member (((compactMembers ms).map some ++ some '\x7d' :: s).length + 1) true state
      ((compactMembers ms).map some ++ some '\x7d' :: s) = (ms.foldlM next state).map (·, s) := by
  rw [compactMembers_eq]
  exact members_membersChars blank_nil blank_nil hread
    (lt_fuel (length_le_membersChars _ _ ms) _ _) state s

end Members

/-- Entering a member under its key reads its value. -/
theorem reads_enter {reader : Reader Json} {cs : List Char} {o : Except TextFault Json}
    (h : Reads reader cs o) (d : Dict Json) (k : String) :
    Reads (enter reader d k) (':' :: cs) (o.map (d.insert k)) := by
  intro s hs
  have hcolon (r : List Symbol) : colon (some ':' :: r) = .ok r := by simp [colon, skipBlanks]
  rw [List.map_cons, List.cons_append, enter, hcolon]
  dsimp only
  rw [h s hs]
  cases o <;> rfl

/-! ## Values -/

theorem map_compactChars_arr (vs : List Json) (s : List Symbol) :
    (compactChars (.arr vs)).map some ++ s =
      some '[' :: ((compactItems vs).map some ++ some ']' :: s) := by
  simp [compactChars]

theorem map_compactChars_obj (ms : List (String × Json)) (s : List Symbol) :
    (compactChars (.obj ms)).map some ++ s =
      some '\x7b' :: ((compactMembers ms).map some ++ some '\x7d' :: s) := by
  simp [compactChars]

theorem value_bracket (levels : Nat) (s : List Symbol) :
    value (levels + 1) (some '[' :: s) =
      (items (value levels) (s.length + 1) true s).map fun (vs, r) => (.arr vs, r) := by
  simp [value, skipBlanks, digit?]

theorem value_brace (levels : Nat) (s : List Symbol) :
    value (levels + 1) (some '\x7b' :: s) =
      (members (enter (value levels)) (s.length + 1) true ∅ s).map
        fun (d, r) => (ofDict d, r) := by
  simp [value, skipBlanks, digit?]

/-- The items of an array are all read unless one of them is too deep. -/
theorem mapM_within (levels : Nat) (vs : List Json) :
    vs.mapM (within levels) =
      if vs.any (isDeeperThan levels) then .error .malformed else .ok vs := by
  induction vs with
  | nil => rfl
  | cons v vs ih =>
    rw [List.mapM_cons, ih, within, List.any_cons]
    cases isDeeperThan levels v with
    | true => rfl
    | false => cases vs.any (isDeeperThan levels) <;> rfl

/-- The members of an object are all entered unless the value of one of them is too deep. -/
theorem foldlM_within (levels : Nat) (ms : List (String × Json)) (d : Dict Json) :
    ms.foldlM (fun d m => (within levels m.2).map (d.insert m.1)) d =
      if ms.any fun m => isDeeperThan levels m.2 then .error .malformed
      else .ok (ms.foldl (fun d m => d.insert m.1 m.2) d) := by
  induction ms generalizing d with
  | nil => rfl
  | cons m ms ih =>
    rw [List.foldlM_cons, List.any_cons, List.foldl_cons]
    cases h : isDeeperThan levels m.2 with
    | true =>
      rw [within, h]
      rfl
    | false =>
      rw [within, h]
      exact ih _

/-- The compact text of an exact value is read back as that value, unless it has too many
levels. -/
theorem Exact.reads {v : Json} (h : v.Exact) (levels : Nat) :
    Reads (value levels) (compactChars v) (within levels v) := by
  induction h generalizing levels with
  | null =>
    intro s _
    cases levels <;> simp [compactChars, scalarChars, value, skipBlanks, keyword, within,
      isDeeperThan, Except.map]
  | bool b =>
    intro s _
    cases levels <;> cases b <;> simp [compactChars, scalarChars, value, skipBlanks, keyword,
      within, isDeeperThan, Except.map]
  | int n => cases levels <;> exact reads_int n _
  | str t => cases levels <;> exact reads_str t _
  | @arr vs hvs ih =>
    intro s _
    rw [map_compactChars_arr]
    cases levels with
    | zero => simp [value, skipBlanks, digit?, within, isDeeperThan, Except.map]
    | succ levels =>
      rw [value_bracket, items_compactItems (fun v hv => (hvs v hv).startsValue)
        (fun v hv => ih v hv levels) (lt_fuel (length_le_compactItems vs) _ _), mapM_within,
        within, isDeeperThan]
      cases vs.any (isDeeperThan levels) <;> rfl
  | @obj ms hascending hms ih =>
    intro s _
    have hentries : ofDict (ms.foldl (fun d m => d.insert m.1 m.2) ∅) = .obj ms :=
      congrArg ofDict (Dict.ofList_entries ⟨ms, hascending⟩)
    rw [map_compactChars_obj]
    cases levels with
    | zero => simp [value, skipBlanks, digit?, within, isDeeperThan, Except.map]
    | succ levels =>
      rw [value_brace, members_compactMembers fun m hm d => reads_enter (ih m hm levels) d m.1,
        foldlM_within, within, isDeeperThan]
      cases ms.any fun m => isDeeperThan levels m.2 with
      | true => rfl
      | false => simp [Except.map, hentries]

/-! ## Records -/

namespace Shape

variable {fields : List Field} {levels : Nat}

/-- Enter a member of a record unless its key was there before. -/
def enterOnce (levels : Nat) (d : Dict Json) (m : String × Json) : Except TextFault (Dict Json) :=
  if d.contains m.1 then .error .mismatched else (within levels m.2).map (d.insert m.1)

/-- A known field is entered with the value that its shape reads. -/
theorem reads_recordMember {m : String × Json} {f : Field} (hfield : field? fields m.1 = some f)
    (hread : Reads (f.shape levels) (compactChars m.2) (within levels m.2)) (d : Dict Json) :
    Reads (recordMember fields levels d m.1) (':' :: compactChars m.2) (enterOnce levels d m) := by
  intro s hs
  rw [recordMember, hfield, enterOnce]
  dsimp only
  split
  · rfl
  · exact reads_enter hread d m.1 s hs

/-- Among members with different keys none was there before. -/
theorem foldlM_enterOnce {ms : List (String × Json)} (hkeys : (ms.map (·.1)).Nodup)
    (d : Dict Json) (hnew : ∀ m ∈ ms, d.contains m.1 = false) :
    ms.foldlM (enterOnce levels) d =
      ms.foldlM (fun d m => (within levels m.2).map (d.insert m.1)) d := by
  induction ms generalizing d with
  | nil => rfl
  | cons m ms ih =>
    obtain ⟨hm, hms⟩ := List.nodup_cons.1 hkeys
    rw [List.foldlM_cons, List.foldlM_cons, enterOnce, hnew m List.mem_cons_self,
      if_neg (by decide)]
    cases within levels m.2 with
    | error e => rfl
    | ok v =>
      refine ih hms (d.insert m.1 v) fun n hn => ?_
      have hne : m.1 ≠ n.1 := fun h => hm (List.mem_map.2 ⟨n, hn, h.symm⟩)
      rw [Dict.contains, Dict.get?_insert_of_ne d v hne]
      exact hnew n (List.mem_cons_of_mem _ hn)

theorem record_brace (s : List Symbol) :
    record fields (levels + 1) (some '\x7b' :: s) =
      match members (recordMember fields levels) (s.length + 1) true ∅ s with
      | .error e => .error e
      | .ok (d, r) =>
        if fields.all fun f => !f.isRequired || d.contains f.name then .ok (ofDict d, r)
        else .error .mismatched := by
  rw [record, skipBlanks_of_ne (by decide) (by decide) (by decide) (by decide)]
  rfl

/-- The text of an object is read as a record of which it has every required field and no
member that is not a field, unless a member is too deep. -/
theorem reads_record {ms : List (String × Json)} (hkeys : (ms.map (·.1)).Nodup)
    (hknown : ∀ m ∈ ms, ∃ f, field? fields m.1 = some f ∧
      Reads (f.shape levels) (compactChars m.2) (within levels m.2))
    (hrequired : ∀ f ∈ fields, f.isRequired → f.name ∈ ms.map (·.1)) :
    Reads (record fields (levels + 1)) (compactChars (.obj ms))
      (if ms.any fun m => isDeeperThan levels m.2 then .error .malformed
        else .ok (object ms)) := by
  intro s _
  have hread : ∀ m ∈ ms, ∀ d, Reads (recordMember fields levels d m.1)
      (':' :: compactChars m.2) (enterOnce levels d m) := by
    intro m hm d
    obtain ⟨f, hfield, hread⟩ := hknown m hm
    exact reads_recordMember hfield hread d
  have hmembers := members_compactMembers hread ∅ s
  rw [foldlM_enterOnce hkeys ∅ fun m _ => rfl, foldlM_within] at hmembers
  rw [map_compactChars_obj, record_brace, hmembers]
  cases ms.any fun m => isDeeperThan levels m.2 with
  | true => rfl
  | false =>
    have hcomplete : (fields.all fun f => !f.isRequired ||
        (Dict.ofList ms).contains f.name) = true := by
      refine List.all_eq_true.2 fun f hf => ?_
      cases hr : f.isRequired with
      | false => rfl
      | true => exact Dict.contains_ofList (hrequired f hf hr)
    exact if_pos hcomplete

end Shape

/-- A text that a reader takes whole is a document. -/
theorem document_of_reads {α : Type} {reader : Reader α} {text : List Char}
    {o : Except TextFault α} (h : Reads reader text o) : document reader (text.map some) = o := by
  have hread := h [] endsNumber_nil
  rw [List.append_nil] at hread
  rw [document, hread]
  cases o <;> rfl

/-- The compact text of an exact value is a document of that value, unless it has too many
levels. -/
theorem Exact.parse_compact {v : Json} (h : v.Exact) :
    parse (compact v) = within maxLevels v := by
  rw [parse, Text.symbols, compact, String.toList_ofList]
  exact document_of_reads (h.reads maxLevels)

end Json

end LoadTest
