import LoadTest.Text.Printable
/-!
# Quoted texts

How a text is shown inside a message: between double quotes, with a backslash before
quotes and backslashes, short escapes for the common controls, and the code point in
braces for every other character that cannot be told apart when printed.
-/

namespace LoadTest.Text

/-- The hexadecimal digits of a number, in lower case and without leading zeros. -/
def hexDigits (n : Nat) : List Char := Nat.toDigits 16 n

/-- How one character is shown inside a quoted text. -/
def quotedChar (c : Char) : List Char :=
  if c = '\x00' then ['\\', '0']
  else if c = '\t' then ['\\', 't']
  else if c = '\r' then ['\\', 'r']
  else if c = '\n' then ['\\', 'n']
  else if c = '\\' then ['\\', '\\']
  else if c = '"' then ['\\', '"']
  else if isExtending c || !isPrintable c then
    ['\\', 'u', '\x7b'] ++ hexDigits c.toNat ++ ['\x7d']
  else [c]

/-- A text between double quotes, with every special character escaped. -/
def quoted (s : String) : String :=
  String.ofList ('"' :: s.toList.flatMap quotedChar ++ ['"'])

/-- How one character of a path is shown: in a path single quotes are escaped, too. -/
def quotedPathChar (c : Char) : List Char :=
  if c = '\'' then ['\\', '\''] else quotedChar c

/-- A path between double quotes, with every special character escaped. -/
def quotedPath (s : String) : String :=
  String.ofList ('"' :: s.toList.flatMap quotedPathChar ++ ['"'])

end LoadTest.Text
