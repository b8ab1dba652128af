import LoadTest.Json.Printer
import LoadTest.Json.Reader
import Mathlib
/-!
# Printed numbers and strings

What is printed for an integer or a string is read back, whatever stands behind it. Only for
a number does it matter what that is: the reader must see where the number ends.
-/

namespace LoadTest.Json

open Text (Symbol)

/-! ## Numbers -/

/-- Nothing that would go on with a number. -/
def EndsNumber (s : List Symbol) : Prop :=
  ∀ x ∈ s.head?, digit? x = none ∧ x ≠ some '.' ∧ x ≠ some 'e' ∧ x ≠ some 'E'

theorem endsNumber_nil : EndsNumber [] := by simp [EndsNumber]

theorem endsNumber_comma (s : List Symbol) : EndsNumber (some ',' :: s) := by
  simp [EndsNumber, digit?]

theorem endsNumber_bracket (s : List Symbol) : EndsNumber (some ']' :: s) := by
  simp [EndsNumber, digit?]

theorem endsNumber_brace (s : List Symbol) : EndsNumber (some '\x7d' :: s) := by
  simp [EndsNumber, digit?]

theorem EndsNumber.not_startsExponent {s : List Symbol} (h : EndsNumber s) :
    startsExponent s = false := by
  cases s with
  | nil => rfl
  | cons x s =>
    obtain ⟨-, -, he, hE⟩ := h x rfl
    simp [startsExponent, he, hE]

theorem EndsNumber.no_point {s : List Symbol} (h : EndsNumber s) :
    s.head? ≠ some (some '.') := fun hs => (h _ hs).2.1 rfl

/-- A run of digits ends where the number ends. -/
theorem splitDigits_append {cs : List Char} {s : List Symbol} (hcs : ∀ c ∈ cs, c.isDigit)
    (hs : EndsNumber s) :
    splitDigits (cs.map some ++ s) = (cs.map fun c => c.toNat - '0'.toNat, s) := by
  induction cs with
  | nil =>
    cases s with
    | nil => rfl
    | cons x s => simp [splitDigits, (hs x rfl).1]
  | cons c cs ih =>
    have hc : digit? (some c) = some (c.toNat - '0'.toNat) := by
      rw [digit?, if_pos (hcs c List.mem_cons_self)]
    rw [List.map_cons, List.cons_append, splitDigits, hc,
      ih fun c hc => hcs c (List.mem_cons_of_mem _ hc)]
    rfl

theorem le_ofDigitChars (cs : List Char) (n : Nat) : n ≤ Nat.ofDigitChars 10 cs n := by
  induction cs generalizing n with
  | nil => rw [Nat.ofDigitChars_nil]
  | cons c cs ih =>
    rw [Nat.ofDigitChars_cons]
    exact Nat.le_trans (by omega) (ih _)

/-- Digits of a number that fits 64 bits are all kept. -/
theorem absorb_digits {cs : List Char} {n : Nat}
    (h : Nat.ofDigitChars 10 cs n < 0x10000000000000000) :
    absorb n (cs.map fun c => c.toNat - '0'.toNat) = (Nat.ofDigitChars 10 cs n, []) := by
  induction cs generalizing n with
  | nil => rfl
  | cons c cs ih =>
    rw [Nat.ofDigitChars_cons] at h ⊢
    have hfits : 10 * n + (c.toNat - '0'.toNat) < 0x10000000000000000 :=
      Nat.lt_of_le_of_lt (le_ofDigitChars cs _) h
    rw [List.map_cons, absorb, if_pos hfits, ih h]

theorem isDigit_of_mem_naturalChars {n : Nat} {c : Char} (h : c ∈ Text.naturalChars n) :
    c.isDigit :=
  Nat.isDigit_of_mem_toDigits (by decide) (by decide) h

/-- Only zero starts with the digit zero, and it has no other digit. -/
theorem naturalChars_of_zero_head {n : Nat} {cs : List Char}
    (h : Text.naturalChars n = '0' :: cs) : cs = [] := by
  have hzero : ∀ n, (Text.naturalChars n).head? = some '0' → n = 0 := by
    intro n
    induction n using Nat.base_induction 10 (by decide) with
    | single m hm =>
      rw [Text.naturalChars, Nat.toDigits_of_lt_base hm]
      simp
    | digit m k hk hm ih =>
      intro hhead
      rw [Text.naturalChars, ← Nat.toDigits_append_toDigits (by decide) hm hk,
        List.head?_append_of_ne_nil _ Nat.toDigits_ne_nil] at hhead
      exact absurd (ih hhead) (Nat.pos_iff_ne_zero.1 hm)
  have hn : n = 0 := hzero n (by rw [h]; rfl)
  subst hn
  exact (List.cons.inj h).2.symm

theorem eq_zero_of_isDigit {c : Char} (h : c.isDigit) (hc : c.toNat - '0'.toNat = 0) :
    c = '0' := by
  have hle : '0'.toNat ≤ c.toNat := by
    simp only [Char.isDigit, Bool.and_eq_true, decide_eq_true_eq] at h
    exact h.1
  exact Char.toNat_inj.1 (Nat.le_antisymm (Nat.sub_eq_zero_iff_le.1 hc) hle)

/-- Digits that do not start with a needless zero and fit 64 bits are a whole number. -/
theorem number_of_splitDigits (negative : Bool) {s rest : List Symbol} {ds : List Nat} {n : Nat}
    (hsplit : splitDigits s = (ds, rest)) (hne : ds ≠ [])
    (hzero : ∀ ds', ds = 0 :: ds' → ds' = []) (habsorb : absorb 0 ds = (n, []))
    (hrest : EndsNumber rest) : number negative s = whole negative n rest := by
  have hafter : (if rest.head? = some (some '.') then
        fraction negative (absorb 0 ds).1 (absorb 0 ds).2.length (rest.drop 1)
      else if (absorb 0 ds).2.isEmpty && !startsExponent rest then
        whole negative (absorb 0 ds).1 rest
      else afterDigits negative (absorb 0 ds).1 (absorb 0 ds).2.length rest) =
      whole negative n rest := by
    rw [habsorb, if_neg hrest.no_point, hrest.not_startsExponent]
    exact if_pos rfl
  rw [number, hsplit]
  match ds, hne, hzero, hafter with
  | [0], _, _, hafter => exact hafter
  | 0 :: _ :: _, _, hzero, _ => cases hzero _ rfl
  | (_ + 1) :: _, _, _, hafter => exact hafter

/-- The decimal digits of a number that fits 64 bits are read as that number. -/
theorem number_naturalChars (negative : Bool) {n : Nat} (hn : n < 0x10000000000000000)
    {s : List Symbol} (hs : EndsNumber s) :
    number negative ((Text.naturalChars n).map some ++ s) = whole negative n s := by
  have hdigits : ∀ c ∈ Text.naturalChars n, c.isDigit := fun _ => isDigit_of_mem_naturalChars
  have hvalue : Nat.ofDigitChars 10 (Text.naturalChars n) 0 = n := Nat.ofDigitChars_ten_toDigits
  refine number_of_splitDigits negative (splitDigits_append hdigits hs) ?nonempty ?zero ?absorb hs
  case nonempty => simp [Text.naturalChars]
  case zero =>
    intro ds' h
    cases hcs : Text.naturalChars n with
    | nil => exact absurd hcs Nat.toDigits_ne_nil
    | cons c cs =>
      rw [hcs, List.map_cons] at h
      obtain ⟨hc, rfl⟩ := List.cons.inj h
      rw [eq_zero_of_isDigit (hdigits c (hcs ▸ List.mem_cons_self)) hc] at hcs
      rw [naturalChars_of_zero_head hcs, List.map_nil]
  case absorb =>
    rw [absorb_digits (by rwa [hvalue]), hvalue]

theorem ofInt?_val (n : Integer) : Integer.ofInt? n.val = some n :=
  dif_pos ⟨n.lower, n.upper⟩

/-- The digits of a negative integer are read behind a sign. -/
theorem number_of_neg {n : Integer} (hn : n.val < 0) {s : List Symbol} (hs : EndsNumber s) :
    number true ((Text.naturalChars n.val.natAbs).map some ++ s) = .ok (.int n, s) := by
  have hlower := n.lower
  have hback : -((n.val.natAbs : Nat) : Int) = n.val := by omega
  rw [number_naturalChars true (by omega) hs, whole, if_pos rfl, if_neg (by omega), hback,
    ofInt?_val]

/-- The digits of any other integer are read without one. -/
theorem number_of_nonneg {n : Integer} (hn : 0 ≤ n.val) {s : List Symbol} (hs : EndsNumber s) :
    number false ((Text.naturalChars n.val.natAbs).map some ++ s) = .ok (.int n, s) := by
  have hupper := n.upper
  have hback : ((n.val.natAbs : Nat) : Int) = n.val := by omega
  rw [number_naturalChars false (by omega) hs, whole, if_neg (by decide), hback, ofInt?_val]

/-! ## Strings -/

theorem symbolSize_pos (x : Symbol) : 0 < Text.symbolSize x := by
  cases x with
  | none => exact Nat.one_pos
  | some c => exact c.utf8Size_pos

theorem not_endsWithinFour (a b c d : Symbol) (s : List Symbol) :
    endsWithinFour (a :: b :: c :: d :: s) = false := by
  have ha := symbolSize_pos a
  have hb := symbolSize_pos b
  have hc := symbolSize_pos c
  have hd := symbolSize_pos d
  simp only [endsWithinFour, List.take_succ_cons, List.take_zero, List.foldl_cons, List.foldl_nil]
  exact decide_eq_false (by omega)

theorem hexValue?_hexDigit (n : Nat) : hexValue? (some (hexDigit n)) = some (n % 16) :=
  Text.hexValue?_digitChar (Nat.mod_lt n (by decide))

theorem scanString_escape (done : List Char) (s : List Symbol) :
    scanString .plain done true (some '\\' :: s) = scanString .escape done true s := by
  rw [scanString, if_neg (by decide), if_pos rfl]

/-- A short escape is read as the character it stands for. -/
theorem scanString_shortEscape {a c : Char} (h : shortEscape? (some a) = some c)
    (done : List Char) (s : List Symbol) :
    scanString .plain done true (some '\\' :: some a :: s) =
      scanString .plain (c :: done) true s := by
  have ha : some a ≠ some 'u' := by
    rintro ⟨⟩
    cases h
  rw [scanString_escape, scanString, if_neg ha, h]

theorem scanString_digit (high : Option Nat) (left value n : Nat) (hleft : 1 < left)
    (done : List Char) (s : List Symbol) :
    scanString (.digits high left value) done true (some (hexDigit n) :: s) =
      scanString (.digits high (left - 1) (16 * value + n % 16)) done true s := by
  rw [scanString, hexValue?_hexDigit]
  exact if_pos hleft

/-- The hexadecimal escape of a character below U+0020 is read as that character. -/
theorem scanString_hexEscape {c : Char} (hc : c.toNat < 0x20) (done : List Char)
    (s : List Symbol) :
    scanString .plain done true (some '\\' :: some 'u' :: some (hexDigit 0) :: some (hexDigit 0) ::
      some (hexDigit (c.toNat / 16)) :: some (hexDigit c.toNat) :: s) =
      scanString .plain (c :: done) true s := by
  have hvalue : 16 * (16 * (16 * (16 * 0 + 0 % 16) + 0 % 16) + c.toNat / 16 % 16) +
      c.toNat % 16 = c.toNat := by omega
  have hfinish : finishEscape none c.toNat = .ok (.inl c) := by
    rw [finishEscape, if_neg (by omega), if_neg (by omega), Char.ofNat_toNat]
  rw [scanString_escape, scanString, if_pos rfl, not_endsWithinFour, if_neg (by decide),
    scanString_digit _ _ _ _ (by decide), scanString_digit _ _ _ _ (by decide),
    scanString_digit _ _ _ _ (by decide), scanString, hexValue?_hexDigit]
  dsimp only
  rw [hvalue, hfinish, if_neg (by decide)]

/-- A character is written by a short escape, by a hexadecimal one, or as it is. -/
theorem stringChar_cases (c : Char) :
    (∃ a, shortEscape? (some a) = some c ∧ stringChar c = ['\\', a]) ∨
    (c.toNat < 0x20 ∧ stringChar c = ['\\', 'u', hexDigit 0, hexDigit 0,
      hexDigit (c.toNat / 16), hexDigit c.toNat]) ∨
    (c ≠ '"' ∧ c ≠ '\\' ∧ ¬ c.toNat < 0x20 ∧ stringChar c = [c]) := by
  unfold stringChar
  split_ifs with hquote hslash hback hform hline hreturn htab hlow
  · exact .inl ⟨'"', by rw [hquote]; rfl, rfl⟩
  · exact .inl ⟨'\\', by rw [hslash]; rfl, rfl⟩
  · exact .inl ⟨'b', by rw [hback]; rfl, rfl⟩
  · exact .inl ⟨'f', by rw [hform]; rfl, rfl⟩
  · exact .inl ⟨'n', by rw [hline]; rfl, rfl⟩
  · exact .inl ⟨'r', by rw [hreturn]; rfl, rfl⟩
  · exact .inl ⟨'t', by rw [htab]; rfl, rfl⟩
  · exact .inr (.inl ⟨hlow, rfl⟩)
  · exact .inr (.inr ⟨hquote, hslash, hlow, rfl⟩)

/-- A character is read as it was written. -/
theorem scanString_stringChar (c : Char) (done : List Char) (s : List Symbol) :
    scanString .plain done true ((stringChar c).map some ++ s) =
      scanString .plain (c :: done) true s := by
  obtain ⟨a, hescape, htext⟩ | ⟨hlow, htext⟩ | ⟨hquote, hslash, hlow, htext⟩ :=
    stringChar_cases c
  · rw [htext]
    exact scanString_shortEscape hescape done s
  · rw [htext]
    exact scanString_hexEscape hlow done s
  · rw [htext, List.map_singleton, List.singleton_append, scanString, if_neg hquote,
      if_neg hslash, if_neg hlow]

theorem scanString_chars (cs done : List Char) (s : List Symbol) :
    scanString .plain done true ((cs.flatMap stringChar).map some ++ some '"' :: s) =
      .ok (String.ofList (done.reverse ++ cs), s) := by
  induction cs generalizing done with
  | nil =>
    show scanString .plain done true (some '"' :: s) = _
    rw [scanString, if_pos rfl, if_pos rfl, List.append_nil]
  | cons c cs ih =>
    rw [List.flatMap_cons, List.map_append, List.append_assoc, scanString_stringChar, ih,
      List.reverse_cons, List.append_assoc]
    rfl

/-- The symbols of a string behind its opening quote. -/
theorem map_stringChars (t : String) (s : List Symbol) :
    (stringChars t).map some ++ s =
      some '"' :: ((t.toList.flatMap stringChar).map some ++ some '"' :: s) := by
  simp [stringChars]

/-- A printed string is read back from behind its opening quote. -/
theorem string_stringChars (t : String) (s : List Symbol) :
    string ((t.toList.flatMap stringChar).map some ++ some '"' :: s) = .ok (t, s) := by
  rw [string, scanString_chars, List.reverse_nil, List.nil_append, String.ofList_toList]

end LoadTest.Json
