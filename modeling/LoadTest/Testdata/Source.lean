import LoadTest.Error
import LoadTest.Json.Printer
import LoadTest.TimeFormat
import LoadTest.Text.Blank
import LoadTest.Text.Numeral
/-!
# Sources of variables

A source gives the next value each time it is read: a fixed value, a counter, rows one after
another, random integers, or the time. What a read finds in the outside world, a moment, is
an argument, so a read is a function. Some faults of a time source end the program instead
of the call; they are crashes.
-/

namespace LoadTest

/-- A fault that ends the program rather than the call. -/
inductive Crash where
  /-- An offset in seconds is no span of time. -/
  | spanOutOfRange
  /-- The calendar has no date for a shifted instant. -/
  | dateOutOfRange
  /-- A time format has an unknown specifier. -/
  | badTimeFormat
  deriving DecidableEq, Repr

/-- How an operation on a source can fail. -/
inductive Failure where
  | error (e : Error)
  | crash (c : Crash)
  deriving Repr

/-- What a read finds in the outside world: the time, and some number drawn at random. -/
structure Moment where
  now : Instant
  drawn : Nat
  deriving Repr

namespace Testdata

open Json

/-! ## Counters -/

/-- An integer that grows by a step with every read, and may be kept for the next run. -/
structure Counter where
  next : Int64
  step : Int64
  persists : Bool := false
  deriving DecidableEq, Repr

namespace Counter

/-- The value of this read. The value of the next read must exist already. -/
def read (c : Counter) : Except Error (Json × Counter) :=
  match checkedAdd? c.next c.step with
  | some n => .ok (.ofInt64 c.next, { c with next := n })
  | none => .error (.materialize "integer_incrementer" "counter overflow")

/-- The text from which the counter can be restored. -/
def saved (c : Counter) : String :=
  Text.decimal c.next.toInt ++ " | step=" ++ Text.decimal c.step.toInt

/-- Take the step from what follows the bar of a saved text. -/
def savedStep? (cs : List Char) : Option Int64 :=
  match Text.trim cs with
  | 's' :: 't' :: 'e' :: 'p' :: '=' :: cs => Text.int64? (Text.trim cs)
  | _ => none

/-- The next value and the step in a saved text, which is split at its first bar. -/
def parseSaved? (text : String) : Option (Int64 × Int64) :=
  match text.toList.span (· ≠ '|') with
  | (_, []) => none
  | (before, _ :: behind) => do
    let step ← savedStep? behind
    let next ← Text.int64? (Text.trim before)
    return (next, step)

/-- Continue from a saved text; any other text changes nothing. -/
def restore (c : Counter) (text : String) : Except Error Counter :=
  match parseSaved? text with
  | some (next, step) => .ok { c with next := next, step := step }
  | none =>
    .error (.materialize "integer_incrementer" ("cannot restore from \"" ++ text ++ "\""))

/-- Continue from a saved text in place. What has been stored in the counter stays there, whatever
fails afterwards. -/
def restoreInPlace (text : String) : EStateM Error Counter Unit := do
  let invalid := Error.materialize "integer_incrementer" ("cannot restore from \"" ++ text ++ "\"")
  match text.toList.span (· ≠ '|') with
  | (_, []) => throw invalid
  | (before, _ :: behind) =>
    let step ← (savedStep? behind).getDM (throw invalid)
    let next ← (Text.int64? (Text.trim before)).getDM (throw invalid)
    modify fun c => { c with next := next }
    modify fun c => { c with step := step }

end Counter

/-! ## Rows -/

/-- Rows that are served one after another, perhaps over and over. -/
structure Rows where
  rows : List (Dict Json)
  position : Nat := 0
  repeats : Bool := false
  deriving Repr

namespace Rows

/-- The row of this read, or `null` when all rows were served. -/
def read (r : Rows) : Json × Rows :=
  match r.rows[r.position]? with
  | some row => (.ofDict row, { r with position := r.position + 1 })
  | none =>
    match r.repeats, r.rows with
    | true, row :: _ => (.ofDict row, { r with position := 1 })
    | _, _ => (.null, r)

/-- The columns of the first row. -/
def columns (r : Rows) : List String :=
  match r.rows with
  | [] => []
  | row :: _ => row.keys

end Rows

/-! ## Random integers -/

/-- A range of integers, neither end left out. -/
structure IntRange where
  min : Int64
  max : Int64
  ordered : min.toInt ≤ max.toInt
  deriving Repr

namespace IntRange

/-- The range between two integers. -/
def make (min max : Int64) : Except Error IntRange :=
  if h : min.toInt ≤ max.toInt then .ok ⟨min, max, h⟩
  else
    .error (.validation "random_integer"
      ("min " ++ Text.decimal min.toInt ++ " is greater than max " ++ Text.decimal max.toInt))

/-- The member of the range that a random number picks. -/
def pick (r : IntRange) (drawn : Nat) : Int :=
  r.min.toInt + (drawn : Int) % (r.max.toInt - r.min.toInt + 1)

theorem min_le_pick (r : IntRange) (drawn : Nat) : r.min.toInt ≤ r.pick drawn := by
  have := r.ordered
  have := Int.emod_nonneg (drawn : Int) (b := r.max.toInt - r.min.toInt + 1) (by omega)
  unfold pick
  omega

theorem pick_le_max (r : IntRange) (drawn : Nat) : r.pick drawn ≤ r.max.toInt := by
  have := r.ordered
  have := Int.emod_lt_of_pos (drawn : Int) (b := r.max.toInt - r.min.toInt + 1) (by omega)
  unfold pick
  omega

end IntRange

/-! ## Times -/

/-- The current time, moved by some seconds and written in a format. -/
structure Clock where
  format : Option String
  offset : Int64
  deriving DecidableEq, Repr

namespace Clock

/-- The largest number of seconds in a span of time. -/
def maxSpan : Int := 9223372036854775

/-- A clock whose offset is a span of time. -/
def make (format : Option String) (offset : Int64) : Except Crash Clock :=
  if -maxSpan ≤ offset.toInt ∧ offset.toInt ≤ maxSpan then .ok ⟨format, offset⟩
  else .error .spanOutOfRange

/-- The text of a moment. -/
def read (c : Clock) (m : Moment) : Except Crash Json :=
  match m.now.shift? c.offset.toInt with
  | none => .error .dateOutOfRange
  | some t =>
    match c.format with
    | none => .ok (.str (TimeFormat.internetText t))
    | some format =>
      match TimeFormat.render? format t with
      | some s => .ok (.str s)
      | none => .error .badTimeFormat

end Clock

/-! ## Sources -/

/-- Where the value of a variable comes from. -/
inductive Source where
  | literal (value : Json)
  | counter (c : Counter)
  | rows (r : Rows)
  | random (r : IntRange)
  | clock (c : Clock)
  /-- The worker fills the value in. -/
  | onConsumer
  deriving Repr

namespace Source

/-- Whether the worker fills the value in. -/
def isOnConsumer : Source → Bool
  | onConsumer => true
  | _ => false

/-- The value of this read, and the source for the next one. -/
def read (m : Moment) : Source → Except Failure (Json × Source)
  | literal v => .ok (v, literal v)
  | counter c =>
    match c.read with
    | .ok (v, c) => .ok (v, counter c)
    | .error e => .error (.error e)
  | rows r => .ok (r.read.1, rows r.read.2)
  | random r => .ok (.ofInt64 (Int64.ofInt (r.pick m.drawn)), random r)
  | clock c =>
    match c.read m with
    | .ok v => .ok (v, clock c)
    | .error e => .error (.crash e)
  | onConsumer => .ok (.null, onConsumer)

/-- The attributes that are known before a read; none are known of most sources. -/
def attributes : Source → List String
  | literal (.obj members) => members.map (·.1)
  | rows r => r.columns
  | _ => []

/-- What the next run continues from. -/
def initial? : Source → Option Json
  | counter c => if c.persists then some (.str c.saved) else none
  | _ => none

end Source

/-- Take an attribute out of a value that was read for a key. There is none in `null`. -/
def project (key : String) (value : Json) (attr : String) : Except Error Json :=
  match value with
  | .null => .ok .null
  | .obj members =>
    match Dict.lookup attr members with
    | some v => .ok v
    | none => .error (.materialize key ("no attribute \"" ++ attr ++ "\""))
  | v => .error (.materialize key ("value " ++ v.compact ++ " has no attributes"))

end Testdata

end LoadTest
