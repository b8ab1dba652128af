import LoadTest.Text.Hex
import LoadTest.Text.Numeral
/-!
# Socket addresses

An address is a host, four bytes or eight groups of sixteen bits, and the number of a service
there. The text of the long form stands in brackets; one run of zero groups may be left out,
the last two groups may be written as four bytes, and a zone may follow. Written out, the
longest run of at least two zero groups is left out.
-/

namespace LoadTest.Transport

/-- The host of a socket address. -/
inductive Host where
  | short (bytes : List Nat)
  | long (groups : List Nat) (zone : Nat)
  deriving DecidableEq, Repr

/-- A socket address: a host and the number of a service there. -/
structure Address where
  host : Host
  service : Nat
  deriving DecidableEq, Repr

namespace Address

/-- Read one thing at the front of a text, and tell what is behind it. -/
abbrev Scan (α : Type) := List Char → Option (α × List Char)

/-- A given character. -/
def char (c : Char) : Scan Unit
  | [] => none
  | d :: r => if d = c then some ((), r) else none

/-- The value of a digit in a base of at most sixteen. -/
def digit? (base : Nat) (c : Char) : Option Nat := (Text.hexValue? c).filter (· < base)

/-- A numeral of a bounded number of digits with a value up to a limit. -/
def numeral (base limit : Nat) (width : Option Nat) (zeros : Bool) : Scan Nat := fun s =>
  let ds := (s.takeWhile fun c => (digit? base c).isSome).filterMap (digit? base)
  let value := ds.foldl (fun n d => n * base + d) 0
  if ds.isEmpty || (width.any (· < ds.length)) || limit < value ||
      (!zeros && ds.head? = some 0 && 1 < ds.length) then none
  else some (value, s.drop ds.length)

/-- Something behind a separator, which is left out at the start. -/
def separated {α : Type} (separator : Char) (i : Nat) (scan : Scan α) : Scan α := fun s =>
  if i = 0 then scan s else (char separator s).bind fun x => scan x.2

/-- The bytes from number `i` on, up to the fourth. -/
def bytesFrom : (left : Nat) → (i : Nat) → Scan (List Nat)
  | 0, _, s => some ([], s)
  | left + 1, i, s => do
    let (b, s) ← separated '.' i (numeral 10 255 (some 3) false) s
    let (bs, s) ← bytesFrom left (i + 1) s
    return (b :: bs, s)

/-- Four bytes. -/
def short : Scan (List Nat) := bytesFrom 4 0

/-- Groups of sixteen bits from number `i` on, as many as there are up to a limit. Four
bytes at the end count as two groups, and the result tells whether they were there. -/
def groupsFrom (s : List Char) : (left i : Nat) → (List Nat × Bool) × List Char
  | 0, _ => (([], false), s)
  | left + 1, i =>
    match if 0 < left then separated ':' i short s else none with
    | some ([a, b, c, d], s) => (([a * 256 + b, c * 256 + d], true), s)
    | _ =>
      match separated ':' i (numeral 16 65535 (some 4) true) s with
      | none => (([], false), s)
      | some (g, s) =>
        let ((gs, mixed), s) := groupsFrom s left (i + 1)
        ((g :: gs, mixed), s)

/-- Eight groups, of which one run of zeros may be left out. -/
def long : Scan (List Nat) := fun s => do
  let ((head, mixed), s) := groupsFrom s 8 0
  if head.length = 8 then return (head, s)
  else if mixed then none
  else
    let ((), s) ← char ':' s
    let ((), s) ← char ':' s
    let ((tail, _), s) := groupsFrom s (7 - head.length) 0
    return (head ++ List.replicate (8 - head.length - tail.length) 0 ++ tail, s)

/-- The number of a service behind a colon. -/
def serviceBehind : Scan Nat := fun s => do
  let ((), s) ← char ':' s
  numeral 10 65535 none true s

/-- A zone behind a percent sign; without one the zone is zero. -/
def zone : Scan Nat := fun s =>
  match char '%' s with
  | none => some (0, s)
  | some ((), s) => numeral 10 4294967295 none true s

/-- An address of the short form. -/
def shortAddress : Scan Address := fun s => do
  let (bytes, s) ← short s
  let (service, s) ← serviceBehind s
  return (⟨.short bytes, service⟩, s)

/-- An address of the long form. -/
def longAddress : Scan Address := fun s => do
  let ((), s) ← char '[' s
  let (groups, s) ← long s
  let (zone, s) ← zone s
  let ((), s) ← char ']' s
  let (service, s) ← serviceBehind s
  return (⟨.long groups zone, service⟩, s)

/-- The address that a whole text denotes. -/
def ofText? (text : String) : Option Address :=
  match (shortAddress text.toList).or (longAddress text.toList) with
  | some (a, []) => some a
  | _ => none

/-! ## Writing -/

/-- The length of the run of zeros at the front. -/
def zeros (groups : List Nat) : Nat := (groups.takeWhile (· = 0)).length

/-- The position and the length of the first longest run of zeros. -/
def longestZeros (groups : List Nat) : Nat × Nat :=
  (List.range groups.length).foldl (fun best i =>
    let n := zeros (groups.drop i)
    if best.2 < n then (i, n) else best) (0, 0)

/-- Groups with colons between them. -/
def groupsText (groups : List Nat) : String :=
  ":".intercalate (groups.map fun g => String.ofList (Nat.toDigits 16 g))

/-- Bytes with dots between them. -/
def bytesText (bytes : List Nat) : String :=
  ".".intercalate (bytes.map fun b : Nat => Text.decimal (b : Int))

/-- The text of the long form without brackets. -/
def longText (groups : List Nat) : String :=
  match groups with
  | [0, 0, 0, 0, 0, 65535, a, b] => "::ffff:" ++ bytesText [a / 256, a % 256, b / 256, b % 256]
  | _ =>
    let (i, n) := longestZeros groups
    if n < 2 then groupsText groups
    else groupsText (groups.take i) ++ "::" ++ groupsText (groups.drop (i + n))

/-- The text of an address. -/
def text (a : Address) : String :=
  match a.host with
  | .short bytes => bytesText bytes ++ ":" ++ Text.decimal a.service
  | .long groups zone =>
    "[" ++ longText groups ++ (if zone = 0 then "" else "%" ++ Text.decimal zone) ++ "]:" ++
      Text.decimal a.service

/-- Whether a server can listen at an address on a machine whose interfaces are all down: at
any address of the short form, also when it is written in the long form, and at the one that
stands for all. -/
def canListen (a : Address) : Bool :=
  match a.host with
  | .short _ | .long [0, 0, 0, 0, 0, 65535, _, _] _ => true
  | .long groups _ => groups.all (· = 0)

end Address

end LoadTest.Transport
