/-!
# Binary floating-point numbers

A finite double is a sign and `mantissa · 2 ^ exponent`, with a mantissa below `2 ^ 53` and
an exponent of at least `-1074`; the number with the larger mantissa is the normal form.
All arithmetic here is exact arithmetic on naturals followed by one rounding to the nearest
double, a tie going to the even mantissa.
-/

namespace LoadTest

/-- A finite double: a sign and a magnitude `mantissa · 2 ^ exponent`. -/
structure Double where
  negative : Bool
  mantissa : Nat
  exponent : Int
  deriving DecidableEq, Repr

namespace Double

/-- The exponent of the smallest doubles. -/
def minExponent : Int := -1074

/-- The exponent of the largest doubles. -/
def maxExponent : Int := 971

/-- Zero with a sign. -/
def zero (negative : Bool) : Double := ⟨negative, 0, minExponent⟩

/-- The quotient of two naturals in units of `2 ^ e`, as a fraction. -/
def inUnits (num den : Nat) (e : Int) : Nat × Nat :=
  if 0 ≤ e then (num, den * Nat.pow 2 e.toNat) else (num * Nat.pow 2 (-e).toNat, den)

/-- A fraction rounded to the nearest natural, a tie going to the even one. -/
def roundHalfEven (num den : Nat) : Nat :=
  let q := num / den
  let r := num % den
  if 2 * r < den then q else if den < 2 * r then q + 1 else if q % 2 = 0 then q else q + 1

/-- The exponent at which a positive fraction has a mantissa of 53 bits, if there is one. -/
def exponentFor (num den : Nat) : Int :=
  let e := (Nat.log2 num : Int) - (Nat.log2 den : Int) - 53
  let (n, d) := inUnits num den e
  max minExponent (if Nat.pow 2 53 ≤ n / d then e + 1 else e)

/-- The double nearest to a fraction, if it is in the range of finite doubles. -/
def ofFraction? (negative : Bool) (num den : Nat) : Option Double :=
  if num = 0 then some (zero negative)
  else
    let e := exponentFor num den
    let (n, d) := inUnits num den e
    let m := roundHalfEven n d
    let (m, e) := if m = Nat.pow 2 53 then (Nat.pow 2 52, e + 1) else (m, e)
    if maxExponent < e then none else some ⟨negative, m, e⟩

/-- The magnitude as a fraction. -/
def magnitude (x : Double) : Nat × Nat :=
  if 0 ≤ x.exponent then (x.mantissa * Nat.pow 2 x.exponent.toNat, 1)
  else (x.mantissa, Nat.pow 2 (-x.exponent).toNat)

/-- The magnitude of the double nearest to a power of ten up to the 308th. -/
def powerOfTen (k : Nat) : Nat × Nat :=
  match ofFraction? false (Nat.pow 10 k) 1 with
  | some p => p.magnitude
  | none => (0, 1)

/-- The product with a power of ten, rounded once after both factors are doubles. -/
def timesPowerOfTen? (x : Double) (k : Nat) : Option Double :=
  let (a, b) := x.magnitude
  let (p, q) := powerOfTen k
  ofFraction? x.negative (a * p) (b * q)

/-- The quotient by a power of ten, rounded once after both operands are doubles. -/
def overPowerOfTen (x : Double) (k : Nat) : Double :=
  let (a, b) := x.magnitude
  let (p, q) := powerOfTen k
  (ofFraction? x.negative (a * q) (b * p)).getD (zero x.negative)

/--
The double read from a significand of at most 64 bits and a power of ten: the significand
is rounded to a double, then scaled by the power. Powers beyond the 308th are taken in
steps of at most 308; what is left after two such divisions is zero.
-/
def ofDecimal? (negative : Bool) (significand : Nat) (exponent : Int) : Option Double := do
  let x ← ofFraction? negative significand 1
  if 0 ≤ exponent then
    if exponent ≤ 308 then x.timesPowerOfTen? exponent.toNat
    else if x.mantissa = 0 then some x else none
  else if -308 ≤ exponent then some (x.overPowerOfTen (-exponent).toNat)
  else if -616 ≤ exponent then
    some ((x.overPowerOfTen 308).overPowerOfTen (-exponent - 308).toNat)
  else some (zero negative)

/-! ## Shortest decimals -/

/-- The ends of the interval of reals that round to a double, and the double itself between
them, over a common denominator. -/
structure Interval where
  low : Nat
  value : Nat
  high : Nat
  denominator : Nat
  closed : Bool

/-- The interval of a magnitude: half a unit to both sides, a quarter below a power of two. -/
def interval (x : Double) : Interval :=
  let below := if x.mantissa = Nat.pow 2 52 ∧ minExponent < x.exponent then 1 else 2
  let m := 4 * x.mantissa
  let scale := if 2 ≤ x.exponent then Nat.pow 2 (x.exponent - 2).toNat else 1
  ⟨(m - below) * scale, m * scale, (m + 2) * scale,
    if 2 ≤ x.exponent then 1 else Nat.pow 2 (2 - x.exponent).toNat, x.mantissa % 2 = 0⟩

/-- The position of the leading decimal digit of a positive fraction. -/
def leadingPosition (num den : Nat) : Int :=
  let a := (Nat.toDigits 10 num).length
  let b := (Nat.toDigits 10 den).length
  let p := (a : Int) - (b : Int)
  if den * Nat.pow 10 p.toNat ≤ num * Nat.pow 10 (-p).toNat then p else p - 1

/-- The number nearest to the value among the two neighbours on the grid `10 ^ k` that lie
in the interval. -/
def onGrid? (i : Interval) (k : Int) : Option Nat :=
  let up := Nat.pow 10 (-k).toNat
  let den := i.denominator * Nat.pow 10 k.toNat
  let c := i.value * up / den
  let rest := i.value * up % den
  let inside (c : Nat) : Bool :=
    if i.closed then i.low * up ≤ c * den && c * den ≤ i.high * up
    else i.low * up < c * den && c * den < i.high * up
  match inside c, inside (c + 1) with
  | true, true =>
    some (if 2 * rest < den || (2 * rest = den && c % 2 = 0) then c else c + 1)
  | true, false => some c
  | false, true => some (c + 1)
  | false, false => none

/-- Search the grids from coarse to fine for a decimal in the interval. -/
def search (i : Interval) : (fuel : Nat) → (k : Int) → Nat × Int
  | 0, k => ((onGrid? i k).getD 0, k)
  | fuel + 1, k =>
    match onGrid? i k with
    | some c => (c, k)
    | none => search i fuel (k - 1)

/-- The shortest decimal that reads back as a positive magnitude, as an integer and a power
of ten; seventeen digits always suffice. -/
def shortest (x : Double) : Nat × Int :=
  let i := x.interval
  search i 16 (leadingPosition i.value i.denominator)

/-- How a decimal is laid out: positional notation for the scientific exponents from
`positionalFrom` up to but not including `positionalBelow`, scientific notation beyond. -/
structure Layout where
  positionalFrom : Int
  positionalBelow : Int

/-- Documents write positionally from `0.00001` to below `1e16`. -/
def documentLayout : Layout := ⟨-5, 16⟩

/-- Lay out digits whose first one stands at a decimal position. -/
def layOut (l : Layout) (digits : List Char) (position : Int) : List Char :=
  if l.positionalFrom ≤ position ∧ position < l.positionalBelow then
    if position < 0 then '0' :: '.' :: List.replicate (-position - 1).toNat '0' ++ digits
    else
      let n := position.toNat + 1
      if digits.length ≤ n then
        digits ++ List.replicate (n - digits.length) '0' ++ ['.', '0']
      else digits.take n ++ '.' :: digits.drop n
  else
    let fraction := if digits.length ≤ 1 then [] else '.' :: digits.drop 1
    let sign := if position < 0 then '-' else '+'
    digits.take 1 ++ fraction ++ 'e' :: sign :: Nat.toDigits 10 position.natAbs

/-- The text of a double: its shortest decimal, laid out as documents do. -/
def text (x : Double) : String :=
  let sign := if x.negative then ['-'] else []
  if x.mantissa = 0 then String.ofList (sign ++ ['0', '.', '0'])
  else
    let (c, k) := x.shortest
    let all := Nat.toDigits 10 c
    let digits := (all.reverse.dropWhile (· == '0')).reverse
    String.ofList (sign ++ layOut documentLayout digits (k + all.length - 1))

end Double

end LoadTest
