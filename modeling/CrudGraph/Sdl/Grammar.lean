/-
The grammar of schema texts: how tokens make up values, types, members and definitions. Repetition
is bounded by the number of tokens, which is the fuel, and nesting by `Read.deepest`. A directive's
argument and an object's field may lack its value and then say nothing, and a root may lack its
type.
-/
import CrudGraph.Sdl.Definition
import CrudGraph.Sdl.Token

namespace CrudGraph.Sdl

-- =============================================================== reading

/-- Reads from the tokens of a text, of which a comma is never the next one. -/
abbrev Read (α : Type) := StateT (List Token) Option α

namespace Read

/-- The next token, which stays. -/
def peek? : Read (Option Token) := do
  return (← get).head?

/-- Passes over commas. -/
def skipCommas : Read Unit :=
  modify fun tokens => tokens.dropWhile (· = .comma)

/-- Takes the next token. -/
def next : Read Token := do
  match ← get with
  | [] => failure
  | token :: rest =>
    set rest
    skipCommas
    return token

/-- No comma may stand behind the next token. -/
def noCommaBehind : Read Unit := do
  match ← get with
  | _ :: .comma :: _ => failure
  | _ => return ()

/-- Takes the next token if it is the given mark. -/
def mark? (c : Char) : Read Bool := do
  if (← peek?) = some (.mark c) then
    let _ ← next
    return true
  else return false

/-- Takes the given mark. -/
def mark (c : Char) : Read Unit := do
  if ← mark? c then return () else failure

/-- Takes a name. -/
def name : Read Name := do
  match ← next with
  | .name name => return name
  | _ => failure

/-- The next token as a word. -/
def word? : Read (Option String) := do
  match ← peek? with
  | some (.name name) => return some name.text
  | _ => return none

/-- Takes the next token if it is the given word. -/
def keyword? (word : String) : Read Bool := do
  if (← word?) = some word then
    let _ ← next
    return true
  else return false

/-- Takes a description, if there is one. -/
def description : Read Unit := do
  match ← peek? with
  | some (.string _) =>
    let _ ← next
    return ()
  | _ => return ()

/-- Reads things up to a closing mark; there has to be one. -/
def untilMark {α : Type} (c : Char) (read : Read α) : Nat → Read (List α)
  | 0 => failure
  | fuel + 1 => do
    let first ← read
    if ← mark? c then return [first]
    else return first :: (← untilMark c read fuel)

/-- Reads things between marks; there has to be one. -/
def between {α : Type} (opening closing : Char) (read : Read α) : Read (List α) := do
  mark opening
  untilMark closing read (← get).length

/-- Reads things between marks, if the opening mark is there. -/
def optionallyBetween {α : Type} (opening closing : Char) (read : Read α) : Read (List α) := do
  if (← peek?) = some (.mark opening) then between opening closing read else return []

/-- Reads things with a mark between any two. -/
def separated {α : Type} (c : Char) (read : Read α) : Nat → Read (List α)
  | 0 => failure
  | fuel + 1 => do
    let first ← read
    if ← mark? c then return first :: (← separated c read fuel) else return [first]

/-- Reads things with a mark between any two and perhaps before the first. -/
def joined {α : Type} (c : Char) (read : Read α) : Read (List α) := do
  let _ ← mark? c
  separated c read ((← get).length + 1)

-- ================================================================ values

/-- How many lists may stand in each other in a type, and lists and objects in a value. -/
def deepest : Nat :=
  500

/-- A type with as many lists in each other. -/
def typeExpr (depth : Nat) : Read TypeExpr := do
  let type ←
    if ← mark? '[' then
      match depth with
      | 0 => failure
      | depth + 1 => do
        let item ← typeExpr depth
        mark ']'
        pure (TypeExpr.list item)
    else do pure (TypeExpr.named (← name))
  if ← mark? '!' then return type.nonNull?.getD type else return type

/-- A type. -/
def type : Read TypeExpr :=
  typeExpr deepest

/-- The value that a word stands for. -/
def valueOfName (name : Name) : Literal :=
  if name.text = "true" then .boolean true
  else if name.text = "false" then .boolean false
  else if name.text = "null" then .null
  else .enumValue name

/-- A name with something behind a colon, which may be missing. -/
def labelled {α : Type} (read : Read α) : Read (Name × Option α) := do
  let name ← name
  if ← mark? ':' then return (name, some (← read)) else return (name, none)

/-- A value without variables, with as many lists and objects in each other. -/
def valueWithin (depth : Nat) : Read Literal := do
  match ← next, depth with
  | .name name, _ => return valueOfName name
  | .int text, _ => return .int text
  | .float text, _ => return .float text
  | .string s, _ => return .string s
  | .mark '[', depth + 1 =>
    if ← mark? ']' then return .list []
    else return .list (← untilMark ']' (valueWithin depth) (← get).length)
  | .mark '\x7b', depth + 1 =>
    if ← mark? '\x7d' then return .object []
    else
      let fields ← untilMark '\x7d' (labelled (valueWithin depth)) (← get).length
      return .object (fields.filterMap fun (name, value) => value.map fun value => (name, value))
  | _, _ => failure

/-- A value without variables. -/
def value : Read Literal :=
  valueWithin deepest

/-- Applied directives; the answer tells whether there are any. -/
def directivesFrom (found : Bool) : Nat → Read Bool
  | 0 => return found
  | fuel + 1 => do
    if ← mark? '@' then
      let _ ← name
      let _ ← optionallyBetween '(' ')' (labelled value)
      directivesFrom true fuel
    else return found

/-- Applied directives; the answer tells whether there are any. -/
def directives : Read Bool := do
  directivesFrom false (← get).length

-- =============================================================== members

/-- An argument or an input field. -/
def input : Read InputDefinition := do
  description
  let name ← name
  mark ':'
  let type ← type
  let defaultValue ←
    if ← mark? '=' then do pure (some (← value)) else pure none
  let _ ← directives
  return ⟨name, type, defaultValue⟩

/-- A field. -/
def field : Read FieldDefinition := do
  description
  let name ← name
  let args ← optionallyBetween '(' ')' input
  mark ':'
  let type ← type
  let _ ← directives
  return ⟨name, args, type⟩

/-- A value of an enumeration, which is none of the words that stand for other values. -/
def enumValue : Read Name := do
  description
  let name ← name
  let _ ← directives
  if ["true", "false", "null"].contains name.text then failure else return name

/-- The interfaces of a type. -/
def interfaces : Read (List Name) := do
  if ← keyword? "implements" then joined '&' name else return []

/-- The members of a union. -/
def members : Read (List Name) := do
  if ← mark? '=' then joined '|' name else return []

/-- A root with its type, which may be missing. -/
def root : Read (Option (Root × Name)) := do
  let word ← name
  mark ':'
  match Root.all.find? fun root => root.text == word.text, ← peek? with
  | some root, some (.name _) => return some (root, ← name)
  | some _, _ => return none
  | none, _ => failure

/-- The roots of a schema, if they are given. -/
def roots? : Read (Option (List (Root × Name))) := do
  if (← peek?) = some (.mark '\x7b') then
    return some ((← between '\x7b' '\x7d' root).filterMap id)
  else return none

-- ================================================================= types

/-- The places where a directive may be applied. -/
def locations : List String := [
  "QUERY", "MUTATION", "SUBSCRIPTION", "FIELD", "FRAGMENT_DEFINITION", "FRAGMENT_SPREAD",
  "INLINE_FRAGMENT", "VARIABLE_DEFINITION", "SCHEMA", "SCALAR", "OBJECT", "FIELD_DEFINITION",
  "ARGUMENT_DEFINITION", "INTERFACE", "UNION", "ENUM", "ENUM_VALUE", "INPUT_OBJECT",
  "INPUT_FIELD_DEFINITION"]

/-- A place where a directive may be applied. -/
def location : Read Unit := do
  let name ← name
  if locations.contains name.text then return () else failure

/-- A type behind the word for its kind: its name and body, and whether it says anything besides
its name. -/
def typeBehind (word : String) : Read (Name × Body × Bool) := do
  let name ← name
  match word with
  | "scalar" =>
    let applied ← directives
    return (name, .scalar, applied)
  | "type" =>
    let interfaces ← interfaces
    let applied ← directives
    let fields ← optionallyBetween '\x7b' '\x7d' field
    return (name, .object interfaces fields, applied || !interfaces.isEmpty || !fields.isEmpty)
  | "interface" =>
    let interfaces ← interfaces
    let applied ← directives
    let fields ← optionallyBetween '\x7b' '\x7d' field
    return (name, .interface interfaces fields,
      applied || !interfaces.isEmpty || !fields.isEmpty)
  | "union" =>
    let applied ← directives
    let members ← members
    return (name, .union members, applied || !members.isEmpty)
  | "enum" =>
    let applied ← directives
    let values ← optionallyBetween '\x7b' '\x7d' enumValue
    return (name, .enum values, applied || !values.isEmpty)
  | "input" =>
    let applied ← directives
    let fields ← optionallyBetween '\x7b' '\x7d' input
    return (name, .inputObject fields, applied || !fields.isEmpty)
  | _ => failure

/-- An addition to the schema or to a type, which has to add something. -/
def addition : Read Definition := do
  let word := (← name).text
  if word = "schema" then
    let applied ← directives
    let roots ← roots?
    if applied || roots.isSome then return .schemaAddition (roots.getD []) else failure
  else
    let (name, body, saysMore) ← typeBehind word
    if saysMore then return .typeAddition name body else failure

/-- The definition of a directive, behind its word. -/
def directive : Read Definition := do
  mark '@'
  let name ← name
  let _ ← optionallyBetween '(' ')' input
  let _ ← keyword? "repeatable"
  if ← keyword? "on" then
    let _ ← joined '|' location
    return .directive name
  else failure

/-- A definition. No comma may stand behind its description or behind the word that makes it an
addition. -/
def definition : Read Definition := do
  match ← peek? with
  | some (.string _) => noCommaBehind
  | _ => pure ()
  if (← word?) = some "extend" then
    noCommaBehind
    let _ ← next
    addition
  else
    description
    let word := (← name).text
    if word = "schema" then
      let _ ← directives
      return .schema ((← roots?).getD [])
    else if word = "directive" then directive
    else
      let (name, body, _) ← typeBehind word
      return .type name body

/-- Definitions up to the end of the text. -/
def definitionsFrom : Nat → Read (List Definition)
  | 0 => return []
  | fuel + 1 => do
    if (← get).isEmpty then return []
    else return (← definition) :: (← definitionsFrom fuel)

end Read

/-- The definitions of a text, if it consists of definitions. -/
def definitions? (s : String) : Option (List Definition) := do
  let tokens ← Token.ofText? s
  let read : Read (List Definition) := do
    Read.skipCommas
    Read.definitionsFrom tokens.length
  let (definitions, _) ← read tokens
  return definitions

end CrudGraph.Sdl
