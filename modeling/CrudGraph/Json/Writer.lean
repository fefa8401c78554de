/-
The compact text of a JSON value: no blanks, members in their order, and in strings only those
characters escaped that have to be.
-/
import CrudGraph.Json.Basic
import CrudGraph.Text.Digits

namespace CrudGraph.Json

/-- One character of a string. -/
def escaped (c : Char) : List Char :=
  match c with
  | '"' => ['\\', '"']
  | '\\' => ['\\', '\\']
  | '\n' => ['\\', 'n']
  | '\r' => ['\\', 'r']
  | '\t' => ['\\', 't']
  | _ =>
    if c.toNat = 8 then ['\\', 'b']
    else if c.toNat = 12 then ['\\', 'f']
    else if c.toNat < 32 then ['\\', 'u'] ++ Text.paddedHex 4 c.toNat
    else [c]

/-- A string between its quotes. -/
def textOfString (s : String) : String :=
  String.ofList ('"' :: s.toList.flatMap escaped ++ ['"'])

mutual

/-- The compact text of a value. -/
def text : Json → String
  | .null => "null"
  | .bool value => if value then "true" else "false"
  | .integer value => toString value
  | .double value => value.text .json
  | .string value => textOfString value
  | .array items => "[" ++ ",".intercalate (textItems items) ++ "]"
  | .object members => "\x7b" ++ ",".intercalate (textMembers members) ++ "\x7d"

/-- The texts of items. -/
def textItems : List Json → List String
  | [] => []
  | item :: rest => text item :: textItems rest

/-- The texts of members, each a name and its value. -/
def textMembers : List (String × Json) → List String
  | [] => []
  | (key, value) :: rest => (textOfString key ++ ":" ++ text value) :: textMembers rest

end

/-- A string as its own text, any other value as its compact JSON text. -/
def token (j : Json) : String :=
  match j with
  | .string value => value
  | other => other.text

end CrudGraph.Json
