import LoadTest.Calendar
import LoadTest.Text.Numeral
/-!
# Time formats

A time format is a text with specifiers: a percent sign, perhaps a padding flag, and a
letter. `items?` reads a format and gives nothing if a specifier is unknown; `write` fills
the items in for an instant. All times are those of coordinated universal time.
-/

namespace LoadTest

namespace TimeFormat

/-- How a number is filled up to its width. -/
inductive Padding where
  | none
  | zero
  | blank
  deriving DecidableEq, Repr

/-- The numbers of an instant. -/
inductive NumberField where
  | year
  | century
  | yearOfCentury
  | weekYear
  | weekYearOfCentury
  | quarter
  | month
  | day
  | weekFromSunday
  | weekFromMonday
  | isoWeek
  | weekdayFromSunday
  | weekdayFromMonday
  | dayOfYear
  | hour
  | hourOfHalf
  | minute
  | second
  | nanosecond
  | timestamp
  deriving DecidableEq, Repr

/-- The words and fixed shapes of an instant. -/
inductive TextField where
  | shortMonth
  | longMonth
  | shortWeekday
  | longWeekday
  | lowerHalf
  | upperHalf
  | zone
  | offset
  | offsetColon
  | offsetSeconds
  | offsetHours
  | shortestFraction
  | pointFraction (digits : Nat)
  | fraction (digits : Nat)
  | internet
  deriving DecidableEq, Repr

/-- A part of a format. -/
inductive Item where
  | literal (c : Char)
  | number (field : NumberField) (padding : Padding)
  | text (field : TextField)
  deriving DecidableEq, Repr

/-! ## Reading formats -/

/-- A number filled with zeros. -/
def padded (f : NumberField) : Item := .number f .zero

/-- The items of hours, minutes and seconds. -/
def clock : List Item :=
  [padded .hour, .literal ':', padded .minute, .literal ':', padded .second]

/-- The items of a month, a day and a year of two digits. -/
def slashed : List Item :=
  [padded .month, .literal '/', padded .day, .literal '/', padded .yearOfCentury]

/-- The items that a single letter stands for. -/
def letter? : Char → Option (List Item)
  | 'A' => some [.text .longWeekday]
  | 'B' => some [.text .longMonth]
  | 'C' => some [padded .century]
  | 'D' => some slashed
  | 'F' => some [padded .year, .literal '-', padded .month, .literal '-', padded .day]
  | 'G' => some [padded .weekYear]
  | 'H' => some [padded .hour]
  | 'I' => some [padded .hourOfHalf]
  | 'M' => some [padded .minute]
  | 'P' => some [.text .lowerHalf]
  | 'R' => some [padded .hour, .literal ':', padded .minute]
  | 'S' => some [padded .second]
  | 'T' => some clock
  | 'U' => some [padded .weekFromSunday]
  | 'V' => some [padded .isoWeek]
  | 'W' => some [padded .weekFromMonday]
  | 'X' => some clock
  | 'Y' => some [padded .year]
  | 'Z' => some [.text .zone]
  | 'a' => some [.text .shortWeekday]
  | 'b' | 'h' => some [.text .shortMonth]
  | 'c' =>
    some ([.text .shortWeekday, .literal ' ', .text .shortMonth, .literal ' ',
      .number .day .blank, .literal ' '] ++ clock ++ [.literal ' ', padded .year])
  | 'd' => some [padded .day]
  | 'e' => some [.number .day .blank]
  | 'f' => some [padded .nanosecond]
  | 'g' => some [padded .weekYearOfCentury]
  | 'j' => some [padded .dayOfYear]
  | 'k' => some [.number .hour .blank]
  | 'l' => some [.number .hourOfHalf .blank]
  | 'm' => some [padded .month]
  | 'n' => some [.literal '\n']
  | 'p' => some [.text .upperHalf]
  | 'q' => some [.number .quarter .none]
  | 'r' =>
    some [padded .hourOfHalf, .literal ':', padded .minute, .literal ':', padded .second,
      .literal ' ', .text .upperHalf]
  | 's' => some [.number .timestamp .none]
  | 't' => some [.literal '\t']
  | 'u' => some [.number .weekdayFromMonday .none]
  | 'v' =>
    some [.number .day .blank, .literal '-', .text .shortMonth, .literal '-', padded .year]
  | 'w' => some [.number .weekdayFromSunday .none]
  | 'x' => some slashed
  | 'y' => some [padded .yearOfCentury]
  | 'z' => some [.text .offset]
  | '+' => some [.text .internet]
  | '%' => some [.literal '%']
  | _ => none

/-- The padding that a flag asks for. -/
def flag? : Char → Option Padding
  | '-' => some .none
  | '0' => some .zero
  | '_' => some .blank
  | _ => none

/-- Read a format. A padding flag may stand before a letter for a single number only. -/
def items? : List Char → Option (List Item)
  | [] => some []
  | '%' :: ':' :: ':' :: ':' :: 'z' :: cs => (items? cs).map (.text .offsetHours :: ·)
  | '%' :: ':' :: ':' :: 'z' :: cs => (items? cs).map (.text .offsetSeconds :: ·)
  | '%' :: ':' :: 'z' :: cs => (items? cs).map (.text .offsetColon :: ·)
  | '%' :: '.' :: 'f' :: cs => (items? cs).map (.text .shortestFraction :: ·)
  | '%' :: '.' :: '3' :: 'f' :: cs => (items? cs).map (.text (.pointFraction 3) :: ·)
  | '%' :: '.' :: '6' :: 'f' :: cs => (items? cs).map (.text (.pointFraction 6) :: ·)
  | '%' :: '.' :: '9' :: 'f' :: cs => (items? cs).map (.text (.pointFraction 9) :: ·)
  | '%' :: '3' :: 'f' :: cs => (items? cs).map (.text (.fraction 3) :: ·)
  | '%' :: '6' :: 'f' :: cs => (items? cs).map (.text (.fraction 6) :: ·)
  | '%' :: '9' :: 'f' :: cs => (items? cs).map (.text (.fraction 9) :: ·)
  | '%' :: c :: cs =>
    match flag? c with
    | none =>
      match letter? c with
      | none => none
      | some is => (items? cs).map (is ++ ·)
    | some padding =>
      match cs with
      | [] => none
      | d :: cs =>
        match letter? d with
        | some [.number field _] => (items? cs).map (.number field padding :: ·)
        | _ => none
  | ['%'] => none
  | c :: cs => (items? cs).map (.literal c :: ·)

/-! ## Writing instants -/

/-- The English names of the months. -/
def monthNames : List String :=
  ["January", "February", "March", "April", "May", "June", "July", "August", "September",
    "October", "November", "December"]

/-- The English names of the weekdays from Monday on. -/
def weekdayNames : List String :=
  ["Monday", "Tuesday", "Wednesday", "Thursday", "Friday", "Saturday", "Sunday"]

/-- The characters of a name in a list. -/
def nameAt (names : List String) (i : Nat) : List Char := (names[i]?.getD "").toList

/-- The value of a number field and the width it is filled up to. -/
def fieldValue (t : Instant) : NumberField → Int × Nat
  | .year => (t.date.year, 4)
  | .century => (t.date.year / 100, 2)
  | .yearOfCentury => (t.date.year % 100, 2)
  | .weekYear => (t.date.isoWeek.1, 4)
  | .weekYearOfCentury => (t.date.isoWeek.1 % 100, 2)
  | .quarter => (((t.date.month - 1) / 3 + 1 : Nat), 1)
  | .month => (t.date.month, 2)
  | .day => (t.date.day, 2)
  | .weekFromSunday => (((t.date.dayOfYear + 6 - (t.date.weekday + 1) % 7) / 7 : Nat), 2)
  | .weekFromMonday => (((t.date.dayOfYear + 6 - t.date.weekday) / 7 : Nat), 2)
  | .isoWeek => (t.date.isoWeek.2, 2)
  | .weekdayFromSunday => (((t.date.weekday + 1) % 7 : Nat), 1)
  | .weekdayFromMonday => ((t.date.weekday + 1 : Nat), 1)
  | .dayOfYear => (t.date.dayOfYear, 3)
  | .hour => ((t.secondOfDay / 3600 : Nat), 2)
  | .hourOfHalf => (((t.secondOfDay / 3600 + 11) % 12 + 1 : Nat), 2)
  | .minute => ((t.secondOfDay / 60 % 60 : Nat), 2)
  | .second => ((t.secondOfDay % 60 : Nat), 2)
  | .nanosecond => (t.nanos, 9)
  | .timestamp => (t.seconds, 9)

/-- Whether a number is a year outside 0 to 9999, which always has a sign. -/
def isSigned (f : NumberField) (n : Int) : Bool :=
  match f with
  | .year | .weekYear => n < 0 || 9999 < n
  | _ => false

/-- A number filled up to a width, which a sign that is always written widens by one. -/
def writeNumber (n : Int) (width : Nat) (padding : Padding) (signed : Bool) : List Char :=
  let sign := if n < 0 then ['-'] else if signed then ['+'] else []
  let digits := Text.naturalChars n.natAbs
  let missing := (if signed then width + 1 else width) - (sign.length + digits.length)
  match padding with
  | .none => sign ++ digits
  | .zero => sign ++ List.replicate missing '0' ++ digits
  | .blank => List.replicate missing ' ' ++ sign ++ digits

/-- A century has two places and eight bits: its tens are one character, counted on from
`0` past `9`. -/
def writeCentury (n : Int) (padding : Padding) : List Char :=
  let c := (n % 256).toNat
  if c < 100 then writeNumber c 2 padding false
  else [Char.ofNat ('0'.toNat + c / 10), Char.ofNat ('0'.toNat + c % 10)]

/-- A number field of an instant. -/
def writeField (t : Instant) (f : NumberField) (padding : Padding) : List Char :=
  let (n, width) := fieldValue t f
  match f with
  | .century => writeCentury n padding
  | _ => writeNumber n width padding (isSigned f n)

/-- The leading digits of the nanoseconds. -/
def writeFraction (t : Instant) (digits : Nat) : List Char :=
  writeNumber (t.nanos / Nat.pow 10 (9 - digits) : Nat) digits .zero false

/-- A point and as many groups of three digits of the nanoseconds as are needed. -/
def shortestFraction (t : Instant) : List Char :=
  if t.nanos = 0 then []
  else if t.nanos % 1000000 = 0 then '.' :: writeFraction t 3
  else if t.nanos % 1000 = 0 then '.' :: writeFraction t 6
  else '.' :: writeFraction t 9

/-- Whether an instant lies before noon. -/
def beforeNoon (t : Instant) : Bool := t.secondOfDay < 43200

/-- Date and time with a `T` between them, the shortest fraction and the offset. -/
def internet (t : Instant) : List Char :=
  writeField t .year .zero ++ '-' :: writeField t .month .zero ++
    '-' :: writeField t .day .zero ++ 'T' :: writeField t .hour .zero ++
    ':' :: writeField t .minute .zero ++ ':' :: writeField t .second .zero ++
    shortestFraction t ++ "+00:00".toList

/-- A word or fixed shape of an instant. -/
def writeText (t : Instant) : TextField → List Char
  | .shortMonth => (nameAt monthNames (t.date.month - 1)).take 3
  | .longMonth => nameAt monthNames (t.date.month - 1)
  | .shortWeekday => (nameAt weekdayNames t.date.weekday).take 3
  | .longWeekday => nameAt weekdayNames t.date.weekday
  | .lowerHalf => if beforeNoon t then ['a', 'm'] else ['p', 'm']
  | .upperHalf => if beforeNoon t then ['A', 'M'] else ['P', 'M']
  | .zone => ['U', 'T', 'C']
  | .offset => "+0000".toList
  | .offsetColon => "+00:00".toList
  | .offsetSeconds => "+00:00:00".toList
  | .offsetHours => "+00".toList
  | .shortestFraction => shortestFraction t
  | .pointFraction digits => '.' :: writeFraction t digits
  | .fraction digits => writeFraction t digits
  | .internet => internet t

/-- One part of a format, filled in. -/
def writeItem (t : Instant) : Item → List Char
  | .literal c => [c]
  | .number field padding => writeField t field padding
  | .text field => writeText t field

/-- A format, filled in. -/
def write (t : Instant) (items : List Item) : String :=
  String.ofList (items.flatMap (writeItem t))

/-- The text of an instant in a format, if the format has no unknown specifier. -/
def render? (format : String) (t : Instant) : Option String :=
  (items? format.toList).map (write t)

/-- The text of an instant without a format. -/
def internetText (t : Instant) : String := String.ofList (internet t)

end TimeFormat

end LoadTest
