/-
Values as documents write them. A JSON value becomes a literal of the same shape; the names of its
members have to be names of a document. Only references to variables and the values of enumerations
have no JSON counterpart.
-/
import CrudGraph.Document.Name
import CrudGraph.Json.Writer

namespace CrudGraph

/-- A value as documents write it. Numbers keep the text that they are written with. -/
inductive Literal where
  | null
  | boolean (value : Bool)
  | int (text : String)
  | float (text : String)
  | string (value : String)
  | enumValue (name : Name)
  | reference (name : Name)
  | list (items : List Literal)
  | object (fields : List (Name × Literal))

namespace Literal

-- =============================================================== from JSON

mutual

/-- The literal of a JSON value. The name of a member is checked before its value. -/
def ofJson : Json → Except Refusal Literal
  | .null => .ok .null
  | .bool value => .ok (.boolean value)
  | .integer value => .ok (.int (toString value))
  | .double value => .ok (.float (value.text .json))
  | .string value => .ok (.string value)
  | .array items => do return .list (← ofItems items)
  | .object members => do return .object (← ofMembers members)

/-- The literals of items. -/
def ofItems : List Json → Except Refusal (List Literal)
  | [] => .ok []
  | item :: rest => do
    let item ← ofJson item
    return item :: (← ofItems rest)

/-- The literals of members, under their names. -/
def ofMembers : List (String × Json) → Except Refusal (List (Name × Literal))
  | [] => .ok []
  | (key, value) :: rest => do
    let name ← Name.ofText key
    let value ← ofJson value
    return (name, value) :: (← ofMembers rest)

end

-- ============================================================= references

mutual

/-- The variables that a literal refers to, in order, each as often as it occurs. -/
def references : Literal → List Name
  | .reference name => [name]
  | .list items => referencesOfItems items
  | .object fields => referencesOfFields fields
  | _ => []

/-- The variables that items refer to. -/
def referencesOfItems : List Literal → List Name
  | [] => []
  | item :: rest => item.references ++ referencesOfItems rest

/-- The variables that fields refer to. -/
def referencesOfFields : List (Name × Literal) → List Name
  | [] => []
  | (_, value) :: rest => value.references ++ referencesOfFields rest

end

-- =================================================================== text

/-- One character of a string: quotes, backslashes and control characters are escaped, a tab is
not. -/
def escaped (c : Char) : List Char :=
  match c with
  | '"' => ['\\', '"']
  | '\\' => ['\\', '\\']
  | '\n' => ['\\', 'n']
  | '\r' => ['\\', 'r']
  | '\t' => ['\t']
  | _ =>
    if c.toNat = 8 then ['\\', 'b']
    else if c.toNat = 12 then ['\\', 'f']
    else if c.toNat < 32 then ['\\', 'u'] ++ (Text.paddedHex 4 c.toNat).map Char.toUpper
    else [c]

/-- A string between its quotes. -/
def textOfString (s : String) : String :=
  String.ofList ('"' :: s.toList.flatMap escaped ++ ['"'])

mutual

/-- The text of a literal on one line. -/
def text : Literal → String
  | .null => "null"
  | .boolean value => if value then "true" else "false"
  | .int text | .float text => text
  | .string value => textOfString value
  | .enumValue name => name.text
  | .reference name => "$" ++ name.text
  | .list items => "[" ++ ", ".intercalate (textItems items) ++ "]"
  | .object fields => "\x7b" ++ ", ".intercalate (textFields fields) ++ "\x7d"

/-- The texts of items. -/
def textItems : List Literal → List String
  | [] => []
  | item :: rest => item.text :: textItems rest

/-- The texts of fields, each a name and its value. -/
def textFields : List (Name × Literal) → List String
  | [] => []
  | (name, value) :: rest => (name.text ++ ": " ++ value.text) :: textFields rest

end

end Literal

end CrudGraph
