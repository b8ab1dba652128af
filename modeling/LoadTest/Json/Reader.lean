import LoadTest.Json.Basic
import LoadTest.Text.Hex
import LoadTest.Text.Symbols
/-!
# Reading documents

A document is read from left to right, and the first fault counts: the text ends too early,
or it is no JSON, or (for readers that expect a shape) it is JSON of another shape. Arrays
and objects may be nested 127 levels deep. Digits of a number that would overflow 64 bits
are dropped from its significand, so a long number becomes a double.
-/

namespace LoadTest

/-- What is wrong with a text that should be a document of some shape. -/
inductive TextFault where
  /-- The text ends inside the document. -/
  | truncated
  /-- The text is no JSON document. -/
  | malformed
  /-- The text is JSON so far, but of another shape. -/
  | mismatched
  deriving DecidableEq, Repr

namespace Json

open Text (Symbol)

/-- A reader takes a value off the front of a list of symbols. -/
abbrev Reader (α : Type) := List Symbol → Except TextFault (α × List Symbol)

/-- Drop the blanks of the grammar. -/
def skipBlanks : List Symbol → List Symbol
  | [] => []
  | x :: s =>
    if x = some ' ' ∨ x = some '\n' ∨ x = some '\t' ∨ x = some '\r' then skipBlanks s
    else x :: s

/-- Take the rest of a keyword. -/
def keyword : List Char → List Symbol → Except TextFault (List Symbol)
  | [], s => .ok s
  | _ :: _, [] => .error .truncated
  | c :: cs, x :: s => if x = some c then keyword cs s else .error .malformed

/-! ## Strings -/

/-- The value of a hex digit. -/
def hexValue? (x : Symbol) : Option Nat := x.bind Text.hexValue?

/-- The character that a short escape stands for. -/
def shortEscape? : Symbol → Option Char
  | some '"' => some '"'
  | some '\\' => some '\\'
  | some '/' => some '/'
  | some 'b' => some '\x08'
  | some 'f' => some '\x0c'
  | some 'n' => some '\n'
  | some 'r' => some '\r'
  | some 't' => some '\t'
  | _ => none

/-- Whether fewer than four bytes are left. -/
def endsWithinFour (s : List Symbol) : Bool :=
  (s.take 4).foldl (fun size x => size + Text.symbolSize x) 0 < 4

/-- Where a scan stands inside a string. -/
inductive StringScan where
  /-- Between characters. -/
  | plain
  /-- After a backslash. -/
  | escape
  /-- Inside the hexadecimal digits of an escape, perhaps the second one of a pair. -/
  | digits (high : Option Nat) (left value : Nat)
  /-- After the first escape of a pair. -/
  | afterHigh (high : Nat)
  /-- After the first escape of a pair and a backslash. -/
  | afterHighEscape (high : Nat)

/-- The character of a finished hexadecimal escape, or the first half of a pair. -/
def finishEscape (high : Option Nat) (value : Nat) : Except TextFault (Sum Char Nat) :=
  match high with
  | none =>
    if 0xdc00 ≤ value ∧ value ≤ 0xdfff then .error .malformed
    else if 0xd800 ≤ value ∧ value ≤ 0xdbff then .ok (.inr value)
    else .ok (.inl (Char.ofNat value))
  | some h =>
    if 0xdc00 ≤ value ∧ value ≤ 0xdfff then
      .ok (.inl (Char.ofNat (0x10000 + (h - 0xd800) * 0x400 + (value - 0xdc00))))
    else .error .malformed

/-- Read a string from behind its opening quote. The characters so far are kept in reverse;
bytes that form no character are a fault only once the string has ended. -/
def scanString (scan : StringScan) (done : List Char) (sound : Bool) : Reader String
  | [] => .error .truncated
  | x :: s =>
    match scan with
    | .plain =>
      match x with
      | none => scanString .plain done false s
      | some c =>
        if c = '"' then
          if sound then .ok (String.ofList done.reverse, s) else .error .malformed
        else if c = '\\' then scanString .escape done sound s
        else if c.toNat < 0x20 then .error .malformed
        else scanString .plain (c :: done) sound s
    | .escape =>
      if x = some 'u' then
        if endsWithinFour s then .error .truncated
        else scanString (.digits none 4 0) done sound s
      else
        match shortEscape? x with
        | some c => scanString .plain (c :: done) sound s
        | none => .error .malformed
    | .digits high left value =>
      match hexValue? x with
      | none => .error .malformed
      | some d =>
        let value := 16 * value + d
        if 1 < left then scanString (.digits high (left - 1) value) done sound s
        else
          match finishEscape high value with
          | .error e => .error e
          | .ok (.inl c) => scanString .plain (c :: done) sound s
          | .ok (.inr h) => scanString (.afterHigh h) done sound s
    | .afterHigh h =>
      if x = some '\\' then scanString (.afterHighEscape h) done sound s
      else .error .malformed
    | .afterHighEscape h =>
      if x = some 'u' then
        if endsWithinFour s then .error .truncated
        else scanString (.digits (some h) 4 0) done sound s
      else .error .malformed

/-- Read a string from behind its opening quote. -/
def string : Reader String := scanString .plain [] true

/-- Skip a string from behind its opening quote. Escapes must be complete, but nothing is
asked of the characters that they and the bytes stand for. -/
def skipString (scan : StringScan) : List Symbol → Except TextFault (List Symbol)
  | [] => .error .truncated
  | x :: s =>
    match scan with
    | .escape =>
      if x = some 'u' then
        if endsWithinFour s then .error .truncated else skipString (.digits none 4 0) s
      else
        match shortEscape? x with
        | some _ => skipString .plain s
        | none => .error .malformed
    | .digits high left value =>
      match hexValue? x with
      | none => .error .malformed
      | some _ =>
        if 1 < left then skipString (.digits high (left - 1) value) s else skipString .plain s
    | _ =>
      match x with
      | none => skipString .plain s
      | some c =>
        if c = '"' then .ok s
        else if c = '\\' then skipString .escape s
        else if c.toNat < 0x20 then .error .malformed
        else skipString .plain s

/-! ## Numbers -/

/-- The value of a decimal digit. -/
def digit? : Symbol → Option Nat
  | some c => if c.isDigit then some (c.toNat - '0'.toNat) else none
  | none => none

/-- Split off the leading decimal digits. -/
def splitDigits : List Symbol → List Nat × List Symbol
  | [] => ([], [])
  | x :: s =>
    match digit? x with
    | some d => (d :: (splitDigits s).1, (splitDigits s).2)
    | none => ([], x :: s)

/-- Append digits to a significand as long as it fits 64 bits; the rest is left over. -/
def absorb (significand : Nat) : List Nat → Nat × List Nat
  | [] => (significand, [])
  | d :: ds =>
    if 10 * significand + d < 0x10000000000000000 then absorb (10 * significand + d) ds
    else (significand, d :: ds)

/-- Whether the next symbol starts an exponent. -/
def startsExponent : List Symbol → Bool
  | x :: _ => x = some 'e' || x = some 'E'
  | [] => false

/-- The double of a significand and a power of ten, if it is finite. -/
def finishDouble (negative : Bool) (significand : Nat) (exponent : Int) : Reader Json :=
  fun s =>
    match Double.ofDecimal? negative significand exponent with
    | some x => .ok (.double x, s)
    | none => .error .malformed

/-- Read an exponent from behind its letter. -/
def exponent (negative : Bool) (significand : Nat) (before : Int) : Reader Json := fun s =>
  let (down, s) : Bool × List Symbol :=
    match s with
    | some '+' :: r => (false, r)
    | some '-' :: r => (true, r)
    | s => (false, s)
  match splitDigits s with
  | ([], []) => .error .truncated
  | ([], _ :: _) => .error .malformed
  | (ds, r) =>
    let n : Nat := ds.foldl (fun n d => 10 * n + d) 0
    if 0x80000000 ≤ n then
      if significand ≠ 0 ∧ !down then .error .malformed else .ok (.double (.zero negative), r)
    else finishDouble negative significand (before + if down then -(n : Int) else (n : Int)) r

/-- Read what may follow the last digit of a significand: an exponent, or nothing. -/
def afterDigits (negative : Bool) (significand : Nat) (before : Int) : Reader Json := fun s =>
  if startsExponent s then exponent negative significand before (s.drop 1)
  else finishDouble negative significand before s

/-- Read the digits behind a decimal point. -/
def fraction (negative : Bool) (significand : Nat) (before : Int) : Reader Json := fun s =>
  match splitDigits s with
  | ([], []) => .error .truncated
  | ([], _ :: _) => .error .malformed
  | (ds, r) =>
    let (significand, left) := absorb significand ds
    afterDigits negative significand (before - ((ds.length - left.length : Nat) : Int)) r

/-- The number without fraction and exponent: an integer if it fits, a double otherwise.
Negative zero is a double. -/
def whole (negative : Bool) (significand : Nat) : Reader Json := fun s =>
  if negative then
    if significand = 0 then .ok (.double (.zero true), s)
    else
      match Integer.ofInt? (-(significand : Int)) with
      | some n => .ok (.int n, s)
      | none => finishDouble true significand 0 s
  else
    match Integer.ofInt? significand with
    | some n => .ok (.int n, s)
    | none => finishDouble false significand 0 s

/-- Read a number from behind its sign. -/
def number (negative : Bool) : Reader Json := fun s =>
  match splitDigits s with
  | ([], []) => .error .truncated
  | ([], _ :: _) => .error .malformed
  | (0 :: _ :: _, _) => .error .malformed
  | (ds, r) =>
    let (significand, left) := absorb 0 ds
    if r.head? = some (some '.') then fraction negative significand left.length (r.drop 1)
    else if left.isEmpty && !startsExponent r then whole negative significand r
    else afterDigits negative significand left.length r

/-- Skip a number from behind its sign; any size will do. -/
def skipNumber (s : List Symbol) : Except TextFault (List Symbol) :=
  match splitDigits s with
  | ([], _) => .error .malformed
  | (0 :: _ :: _, _) => .error .malformed
  | (_, r) =>
    let afterFraction : Except TextFault (List Symbol) :=
      if r.head? = some (some '.') then
        match splitDigits (r.drop 1) with
        | ([], _) => .error .malformed
        | (_, r) => .ok r
      else .ok r
    match afterFraction with
    | .error e => .error e
    | .ok r =>
      if startsExponent r then
        let r := r.drop 1
        let r := if r.head? = some (some '+') ∨ r.head? = some (some '-') then r.drop 1 else r
        match splitDigits r with
        | ([], _) => .error .malformed
        | (_, r) => .ok r
      else .ok r

/-! ## Arrays and objects -/

/-- Take the colon behind a key. -/
def colon (s : List Symbol) : Except TextFault (List Symbol) :=
  match skipBlanks s with
  | [] => .error .truncated
  | x :: r => if x = some ':' then .ok r else .error .malformed

/-- Move to the next item of an array: `none` at the closing bracket. -/
def nextItem (first : Bool) (s : List Symbol) :
    Except TextFault (Option (List Symbol) × List Symbol) :=
  match skipBlanks s with
  | [] => .error .truncated
  | x :: r =>
    if x = some ']' then .ok (none, r)
    else if first then .ok (some (x :: r), r)
    else if x = some ',' then
      match skipBlanks r with
      | [] => .error .truncated
      | y :: t => if y = some ']' then .error .malformed else .ok (some (y :: t), t)
    else .error .malformed

/-- Read the items of an array from behind its opening bracket. -/
def items {α : Type} (item : Reader α) : (fuel : Nat) → (first : Bool) → Reader (List α)
  | 0, _, _ => .error .malformed
  | fuel + 1, first, s =>
    match nextItem first s with
    | .error e => .error e
    | .ok (none, r) => .ok ([], r)
    | .ok (some t, _) =>
      match item t with
      | .error e => .error e
      | .ok (v, r) =>
        match items item fuel false r with
        | .error e => .error e
        | .ok (vs, r) => .ok (v :: vs, r)

/-- Move to the next key of an object and read it: `none` at the closing brace. -/
def nextKey (first : Bool) (s : List Symbol) : Except TextFault (Option String × List Symbol) :=
  let key (s : List Symbol) : Except TextFault (Option String × List Symbol) :=
    match s with
    | [] => .error .truncated
    | x :: r =>
      if x = some '"' then
        match string r with
        | .error e => .error e
        | .ok (k, r) => .ok (some k, r)
      else .error .malformed
  match skipBlanks s with
  | [] => .error .truncated
  | x :: r =>
    if x = some '\x7d' then .ok (none, r)
    else if first then key (x :: r)
    else if x = some ',' then key (skipBlanks r)
    else .error .malformed

/-- Read the members of an object from behind its opening brace. Each key is handed on
together with the symbols behind it. -/
def members {σ : Type} (member : σ → String → Reader σ) :
    (fuel : Nat) → (first : Bool) → σ → Reader σ
  | 0, _, _, _ => .error .malformed
  | fuel + 1, first, state, s =>
    match nextKey first s with
    | .error e => .error e
    | .ok (none, r) => .ok (state, r)
    | .ok (some k, r) =>
      match member state k r with
      | .error e => .error e
      | .ok (state, r) => members member fuel false state r

/-- Read the value of a member and enter it under its key. -/
def enter (value : Reader Json) (d : Dict Json) (k : String) : Reader (Dict Json) := fun s =>
  match colon s with
  | .error e => .error e
  | .ok r =>
    match value r with
    | .error e => .error e
    | .ok (v, r) => .ok (d.insert k v, r)

/-- Read any value, with a number of levels left for arrays and objects. -/
def value : (levels : Nat) → Reader Json
  | levels, s =>
    match skipBlanks s with
    | [] => .error .truncated
    | x :: r =>
      if x = some 'n' then (keyword ['u', 'l', 'l'] r).map (.null, ·)
      else if x = some 't' then (keyword ['r', 'u', 'e'] r).map (.bool true, ·)
      else if x = some 'f' then (keyword ['a', 'l', 's', 'e'] r).map (.bool false, ·)
      else if x = some '-' then number true r
      else if (digit? x).isSome then number false (x :: r)
      else if x = some '"' then (string r).map fun (t, r) => (.str t, r)
      else if x = some '[' then
        match levels with
        | 0 => .error .malformed
        | levels + 1 =>
          (items (value levels) (r.length + 1) true r).map fun (vs, r) => (.arr vs, r)
      else if x = some '\x7b' then
        match levels with
        | 0 => .error .malformed
        | levels + 1 =>
          (members (enter (value levels)) (r.length + 1) true ∅ r).map fun (d, r) => (ofDict d, r)
      else .error .malformed

/-! ## Skipping -/

/-- Where a skipping reader stands between the parts of a value. -/
inductive SkipPoint where
  /-- Before a value. -/
  | value
  /-- Behind an opening bracket or brace. -/
  | opened
  /-- Behind a value. -/
  | closed

/-- Skip one value. The open arrays (`false`) and objects (`true`) around the current point
are kept on a stack, so nesting has no limit. -/
def skipFrom : (fuel : Nat) → SkipPoint → (stack : List Bool) → List Symbol →
    Except TextFault (List Symbol)
  | 0, _, _, _ => .error .malformed
  | _ + 1, .closed, [], s => .ok s
  | fuel + 1, .closed, isObject :: stack, s =>
    match skipBlanks s with
    | [] => .error .truncated
    | x :: r =>
      if x = some ',' then
        if isObject then
          match skipKey r with
          | .error e => .error e
          | .ok r => skipFrom fuel .value (isObject :: stack) r
        else skipFrom fuel .value (isObject :: stack) r
      else if x = some (if isObject then '\x7d' else ']') then skipFrom fuel .closed stack r
      else .error .malformed
  | _ + 1, .opened, [], _ => .error .malformed
  | fuel + 1, .opened, isObject :: stack, s =>
    match skipBlanks s with
    | [] => .error .truncated
    | x :: r =>
      if x = some (if isObject then '\x7d' else ']') then skipFrom fuel .closed stack r
      else if isObject then
        match skipKey (x :: r) with
        | .error e => .error e
        | .ok r => skipFrom fuel .value (isObject :: stack) r
      else skipFrom fuel .value (isObject :: stack) (x :: r)
  | fuel + 1, .value, stack, s =>
    match skipBlanks s with
    | [] => .error .truncated
    | x :: r =>
      let close (rest : Except TextFault (List Symbol)) : Except TextFault (List Symbol) :=
        match rest with
        | .error e => .error e
        | .ok r => skipFrom fuel .closed stack r
      if x = some 'n' then close (keyword ['u', 'l', 'l'] r)
      else if x = some 't' then close (keyword ['r', 'u', 'e'] r)
      else if x = some 'f' then close (keyword ['a', 'l', 's', 'e'] r)
      else if x = some '-' then close (skipNumber r)
      else if (digit? x).isSome then close (skipNumber (x :: r))
      else if x = some '"' then close (skipString .plain r)
      else if x = some '[' then skipFrom fuel .opened (false :: stack) r
      else if x = some '\x7b' then skipFrom fuel .opened (true :: stack) r
      else .error .malformed
where
  /-- Skip a key and the colon behind it. -/
  skipKey (s : List Symbol) : Except TextFault (List Symbol) :=
    match skipBlanks s with
    | [] => .error .truncated
    | x :: r =>
      if x = some '"' then
        match skipString .plain r with
        | .error e => .error e
        | .ok r => colon r
      else .error .malformed

/-- Skip one value of any size and depth. -/
def skip (s : List Symbol) : Except TextFault (List Symbol) :=
  skipFrom (2 * s.length + 2) .value [] s

/-! ## Documents -/

/-- The number of levels that a document may have. -/
def maxLevels : Nat := 127

/-- Read a whole document: nothing but blanks may follow the value. -/
def document {α : Type} (reader : Reader α) (s : List Symbol) : Except TextFault α :=
  match reader s with
  | .error e => .error e
  | .ok (a, r) => if (skipBlanks r).isEmpty then .ok a else .error .malformed

/-- The value of a text. -/
def parse (text : String) : Except TextFault Json :=
  document (value maxLevels) (Text.symbols text)

end Json

end LoadTest
