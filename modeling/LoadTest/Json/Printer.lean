import LoadTest.Json.Basic
/-!
# Printed documents

A value has a compact text without blanks and an indented text with two blanks per level.
Members are written in the order in which the object lists them. In a string only quotes,
backslashes and the characters below U+0020 are escaped.
-/

namespace LoadTest.Json

/-- One hexadecimal digit in lower case. -/
def hexDigit (n : Nat) : Char := Nat.digitChar (n % 16)

/-- How a character is written inside a string. -/
def stringChar (c : Char) : List Char :=
  if c = '"' then ['\\', '"']
  else if c = '\\' then ['\\', '\\']
  else if c = '\x08' then ['\\', 'b']
  else if c = '\x0c' then ['\\', 'f']
  else if c = '\n' then ['\\', 'n']
  else if c = '\r' then ['\\', 'r']
  else if c = '\t' then ['\\', 't']
  else if c.toNat < 0x20 then ['\\', 'u', '0', '0', hexDigit (c.toNat / 16), hexDigit c.toNat]
  else [c]

/-- A string with its quotes and escapes. -/
def stringChars (s : String) : List Char := '"' :: s.toList.flatMap stringChar ++ ['"']

/-- A value that is neither an array nor an object. -/
def scalarChars : Json → List Char
  | null => ['n', 'u', 'l', 'l']
  | bool true => ['t', 'r', 'u', 'e']
  | bool false => ['f', 'a', 'l', 's', 'e']
  | int n => Text.integerChars n.val
  | double x => x.text.toList
  | str s => stringChars s
  | arr _ => []
  | obj _ => []

mutual

/-- The characters of the compact text of a value. -/
def compactChars : Json → List Char
  | arr items => '[' :: compactItems items ++ [']']
  | obj members => '\x7b' :: compactMembers members ++ ['\x7d']
  | v => scalarChars v

/-- The items of an array, with commas between them. -/
def compactItems : List Json → List Char
  | [] => []
  | v :: vs =>
    match vs with
    | [] => compactChars v
    | _ :: _ => compactChars v ++ ',' :: compactItems vs

/-- The members of an object, with commas between them. -/
def compactMembers : List (String × Json) → List Char
  | [] => []
  | (k, v) :: ms =>
    match ms with
    | [] => stringChars k ++ ':' :: compactChars v
    | _ :: _ => stringChars k ++ ':' :: compactChars v ++ ',' :: compactMembers ms

end

/-- The compact text of a value. -/
def compact (v : Json) : String := String.ofList (compactChars v)

/-- A new line with two blanks for every level. -/
def newLine (level : Nat) : List Char := '\n' :: List.replicate (2 * level) ' '

mutual

/-- The characters of the indented text of a value that starts at a level. -/
def indentedChars (level : Nat) : Json → List Char
  | arr [] => ['[', ']']
  | arr (v :: vs) => '[' :: indentedItems (level + 1) (v :: vs) ++ newLine level ++ [']']
  | obj [] => ['\x7b', '\x7d']
  | obj (m :: ms) =>
    '\x7b' :: indentedMembers (level + 1) (m :: ms) ++ newLine level ++ ['\x7d']
  | v => scalarChars v

/-- The items of an array, each on a line of its own. -/
def indentedItems (level : Nat) : List Json → List Char
  | [] => []
  | v :: vs =>
    match vs with
    | [] => newLine level ++ indentedChars level v
    | _ :: _ => newLine level ++ indentedChars level v ++ ',' :: indentedItems level vs

/-- The members of an object, each on a line of its own. -/
def indentedMembers (level : Nat) : List (String × Json) → List Char
  | [] => []
  | (k, v) :: ms =>
    let member := newLine level ++ stringChars k ++ ':' :: ' ' :: indentedChars level v
    match ms with
    | [] => member
    | _ :: _ => member ++ ',' :: indentedMembers level ms

end

/-- The indented text of a value, without a line break at the end. -/
def indented (v : Json) : String := String.ofList (indentedChars 0 v)

end LoadTest.Json
