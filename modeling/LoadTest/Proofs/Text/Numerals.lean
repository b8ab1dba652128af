import LoadTest.Text.Numeral
import LoadTest.Proofs.Json.Scalars
import LoadTest.Proofs.Text.Blanks
/-!
# Numerals and their values

What is read as an integer is exactly an optional sign and at least one digit, and the integer
that is read is the one that the digits write. Blanks around a numeral can be removed before.
-/

namespace LoadTest.Text

/-! ## Grammar -/

/-- Digits, at least one, and the number that they write. -/
structure IsNatural (cs : List Char) (n : ℕ) : Prop where
  nonempty : cs ≠ []
  digits : ∀ c ∈ cs, c.isDigit
  value : Nat.ofDigitChars 10 cs 0 = n

/-- A numeral and the integer that it denotes. -/
inductive IsNumeral : List Char → ℤ → Prop where
  | unsigned {cs : List Char} {n : ℕ} (h : IsNatural cs n) : IsNumeral cs n
  | plus {cs : List Char} {n : ℕ} (h : IsNatural cs n) : IsNumeral ('+' :: cs) n
  | minus {cs : List Char} {n : ℕ} (h : IsNatural cs n) : IsNumeral ('-' :: cs) (-n)

variable {cs : List Char} {n : ℕ} {z : ℤ} {c : Char}

/-- A numeral has nothing but digits and a sign. -/
theorem IsNumeral.mem (h : IsNumeral cs z) (hc : c ∈ cs) : c.isDigit ∨ c = '+' ∨ c = '-' := by
  cases h with
  | unsigned h => exact .inl (h.digits c hc)
  | plus h =>
    rcases List.mem_cons.1 hc with rfl | hc
    · exact .inr (.inl rfl)
    · exact .inl (h.digits c hc)
  | minus h =>
    rcases List.mem_cons.1 hc with rfl | hc
    · exact .inr (.inr rfl)
    · exact .inl (h.digits c hc)

theorem IsNumeral.ne_nil (h : IsNumeral cs z) : cs ≠ [] := by
  cases h with
  | unsigned h => exact h.nonempty
  | plus | minus => exact List.cons_ne_nil _ _

/-- A numeral has no blanks. -/
theorem IsNumeral.not_blank (h : IsNumeral cs z) : ∀ c ∈ cs, isBlank c = false := by
  intro c hc
  rcases h.mem hc with hc | rfl | rfl
  · exact isBlank_of_isDigit hc
  · decide
  · decide

/-! ## Reading -/

/-- Digits are read as the number that they write, and nothing else is read. -/
theorem digitsValue_eq_some_iff {acc : ℕ} :
    digitsValue acc cs = some n ↔ (∀ c ∈ cs, c.isDigit) ∧ Nat.ofDigitChars 10 cs acc = n := by
  induction cs generalizing acc with
  | nil => simp [digitsValue]
  | cons c cs ih =>
    rw [digitsValue, List.forall_mem_cons, Nat.ofDigitChars_cons]
    split
    · next hc => rw [ih, and_iff_right hc]
    · next hc => simp [hc]

theorem natural?_eq_some_iff : natural? cs = some n ↔ IsNatural cs n := by
  cases cs with
  | nil => exact ⟨nofun, fun h => absurd rfl h.nonempty⟩
  | cons c cs =>
    rw [natural?, digitsValue_eq_some_iff]
    · exact ⟨fun h => ⟨List.cons_ne_nil _ _, h.1, h.2⟩, fun h => ⟨h.digits, h.value⟩⟩
    · exact nofun

/-- Numerals are read as what they denote, and nothing else is read. -/
theorem integer?_eq_some_iff : integer? cs = some z ↔ IsNumeral cs z := by
  constructor
  · intro h
    unfold integer? at h
    split at h
    all_goals
      obtain ⟨_, hvalue, rfl⟩ := Option.map_eq_some_iff.1 h
      obtain ⟨n, hn, ⟨⟩⟩ := Option.bind_eq_some_iff.1 hvalue
      have hnatural := natural?_eq_some_iff.1 hn
    · exact .minus hnatural
    · exact .plus hnatural
    · exact .unsigned hnatural
  · intro h
    cases h with
    | minus h =>
      rw [integer?, natural?_eq_some_iff.2 h]
      rfl
    | plus h =>
      rw [integer?, natural?_eq_some_iff.2 h]
      rfl
    | unsigned h =>
      rw [integer?, natural?_eq_some_iff.2 h]
      · rfl
      · rintro _ rfl
        simpa using h.digits '-' List.mem_cons_self
      · rintro _ rfl
        simpa using h.digits '+' List.mem_cons_self

/-- Numerals of 64-bit integers are read as what they denote, and nothing else is read. -/
theorem int64?_eq_some_iff {n : Int64} : int64? cs = some n ↔ IsNumeral cs n.toInt := by
  simp only [int64?, Option.bind_eq_some_iff, integer?_eq_some_iff, int64?_eq_some]
  exact ⟨fun ⟨_, hz, hn⟩ => hn ▸ hz, fun h => ⟨_, h, rfl⟩⟩

/-! ## Writing -/

theorem isNatural_naturalChars (n : ℕ) : IsNatural (naturalChars n) n :=
  ⟨Nat.toDigits_ne_nil, fun _ => Json.isDigit_of_mem_naturalChars, Nat.ofDigitChars_ten_toDigits⟩

/-- What is written for an integer is a numeral of it. -/
theorem isNumeral_integerChars (z : ℤ) : IsNumeral (integerChars z) z := by
  have hnatural := isNatural_naturalChars z.natAbs
  unfold integerChars
  split
  · next hz =>
    have hback : z = -(z.natAbs : ℤ) := by omega
    rw [hback, Int.natAbs_neg, Int.natAbs_natCast]
    exact .minus hnatural
  · next hz =>
    have hback : z = (z.natAbs : ℤ) := by omega
    rw [hback, Int.natAbs_natCast]
    exact .unsigned hnatural

/-! ## Blanks around a numeral -/

/-- A numeral that may have blanks around it. -/
inductive IsPadded : List Char → ℤ → Prop where
  | mk {lead cs trail : List Char} {z : ℤ} (hlead : AllBlank lead) (h : IsNumeral cs z)
    (htrail : AllBlank trail) : IsPadded (lead ++ (cs ++ trail)) z

theorem IsNumeral.padded (h : IsNumeral cs z) : IsPadded cs z := by
  simpa using IsPadded.mk allBlank_nil h allBlank_nil

/-- There may be more blanks behind it. -/
theorem IsPadded.append {trail : List Char} (h : IsPadded cs z) (htrail : AllBlank trail) :
    IsPadded (cs ++ trail) z := by
  obtain ⟨hlead, h, htrail'⟩ := h
  rw [List.append_assoc, List.append_assoc]
  exact .mk hlead h (htrail'.append htrail)

/-- A padded numeral has nothing but blanks, digits and a sign. -/
theorem IsPadded.mem (h : IsPadded cs z) (hc : c ∈ cs) :
    isBlank c = true ∨ c.isDigit ∨ c = '+' ∨ c = '-' := by
  obtain ⟨hlead, h, htrail⟩ := h
  rcases List.mem_append.1 hc with hc | hc
  · exact .inl (hlead c hc)
  rcases List.mem_append.1 hc with hc | hc
  · exact .inr (h.mem hc)
  · exact .inl (htrail c hc)

/-- What is read behind blanks and in front of blanks is a numeral of a 64-bit integer. -/
theorem int64?_trim_eq_some_iff {n : Int64} : int64? (trim cs) = some n ↔ IsPadded cs n.toInt := by
  rw [int64?_eq_some_iff]
  constructor
  · intro h
    obtain ⟨lead, trail, hlead, htrail, hcs⟩ := exists_trim cs
    rw [hcs]
    exact .mk hlead h htrail
  · generalize hz : n.toInt = z
    rintro ⟨hlead, h, htrail⟩
    rwa [trim_of_blanks hlead htrail h.not_blank]

end LoadTest.Text
