import LoadTest.Json.Basic
import LoadTest.Text.Quoted
/-!
# Outlines of values

How a value is shown inside a message about a definition: every part with the name of its
kind, strings quoted.
-/

namespace LoadTest.Json

mutual

/-- The outline of a value. -/
def outline : Json → String
  | null => "Null"
  | bool b => "Bool(" ++ (if b then "true" else "false") ++ ")"
  | int n => "Number(" ++ Text.decimal n.val ++ ")"
  | double x => "Number(" ++ x.text ++ ")"
  | str s => "String(" ++ Text.quoted s ++ ")"
  | arr items => "Array [" ++ outlineItems items ++ "]"
  | obj members => "Object \x7b" ++ outlineMembers members ++ "\x7d"

/-- The outlines of the items of an array. -/
def outlineItems : List Json → String
  | [] => ""
  | v :: vs =>
    match vs with
    | [] => outline v
    | _ :: _ => outline v ++ ", " ++ outlineItems vs

/-- The quoted keys and the outlines of the members of an object. -/
def outlineMembers : List (String × Json) → String
  | [] => ""
  | (k, v) :: ms =>
    match ms with
    | [] => Text.quoted k ++ ": " ++ outline v
    | _ :: _ => Text.quoted k ++ ": " ++ outline v ++ ", " ++ outlineMembers ms

end

/-- The outline of a row, which is shown without the name of its kind. -/
def outlineRow (row : Dict Json) : String := "\x7b" ++ outlineMembers row.entries ++ "\x7d"

end LoadTest.Json
