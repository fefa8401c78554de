/-
Reading values out of structured data. A data format is known to readers by a few views of its
values; readers for texts, booleans, lists, maps and values that may be absent are written once,
over any format.
-/
import CrudGraph.Json.Basic
import CrudGraph.Reading.Problem

namespace CrudGraph.Reading

/-- The name of a member as it is given, or what stands in its place. -/
inductive MemberName where
  | text (name : String)
  | other (found : Found)
deriving DecidableEq, Repr

/-- A data format as readers see it. -/
class Node (ν : Type) where
  /-- What a value is, for the message when something else was wanted. -/
  found : ν → Found
  /-- The members of a map, in order. -/
  members? : ν → Option (List (MemberName × ν))
  /-- The elements of a sequence. -/
  elements? : ν → Option (List ν)
  /-- The text of a value that may stand where a text is wanted. -/
  text? : ν → Option String
  /-- The value of a boolean. -/
  boolean? : ν → Option Bool
  /-- Whether the value stands for an absent one. -/
  isAbsent : ν → Bool
  /-- What is wanted of a sequence that is longer than a record of so many fields. -/
  noLonger : Nat → String

/-- A JSON value is a node; only strings are texts, and `null` stands for an absent value. -/
instance : Node Json where
  found
    | .null => .null
    | .bool value => .boolean value
    | .integer value => .integer value
    | .double value => .double value
    | .string value => .string value
    | .array _ => .sequence
    | .object _ => .map
  members? value := value.members?.map fun members => members.map fun (name, v) => (.text name, v)
  elements? := Json.items?
  text? := Json.text?
  boolean?
    | .bool value => some value
    | _ => none
  isAbsent := Json.isNull
  noLonger _ := "fewer elements in array"

variable {ν : Type} [Node ν] {α : Type}

/-- A reader of values of type `α`. -/
abbrev Reader (ν α : Type) := ν → Except Failure α

/-- The value is not of the wanted type. -/
def mismatch (value : ν) (wanted : String) : Except Failure α :=
  fail (.invalidType (Node.found value) wanted)

-- =============================================================== readers

/-- Reads a text. -/
def text : Reader ν String := fun value =>
  match Node.text? value with
  | some s => .ok s
  | none => mismatch value "a string"

/-- Reads a boolean. -/
def boolean : Reader ν Bool := fun value =>
  match Node.boolean? value with
  | some b => .ok b
  | none => mismatch value "a boolean"

/-- Reads the elements of a sequence, the first at the given index. -/
def elementsFrom (read : Reader ν α) (index : Nat) : List ν → Except Failure (List α)
  | [] => .ok []
  | value :: rest => do
    let element ← within (.element index) (read value)
    let elements ← elementsFrom read (index + 1) rest
    return element :: elements

/-- Reads a sequence. -/
def sequence (read : Reader ν α) : Reader ν (List α) := fun value =>
  match Node.elements? value with
  | some elements => elementsFrom read 0 elements
  | none => mismatch value "a sequence"

/-- Reads the members of a map in order. -/
def membersOf (read : Reader ν α) : List (MemberName × ν) → Except Failure (List (String × α))
  | [] => .ok []
  | (.other found, _) :: _ => fail (.invalidType found "a string")
  | (.text name, value) :: rest => do
    let member ← within (.member name) (read value)
    let members ← membersOf read rest
    return (name, member) :: members

/-- Reads a map of names. -/
def map (read : Reader ν α) : Reader ν (Table α) := fun value =>
  match Node.members? value with
  | some members => do return Table.ofList (← membersOf read members)
  | none => mismatch value "a map"

/-- Reads a value that may be absent. -/
def nullable (read : Reader ν α) : Reader ν (Option α) := fun value =>
  if Node.isAbsent value then .ok none else some <$> read value

/-- Reads a value, with a default for an absent one. -/
def orDefault (default : α) (read : Reader ν α) : Reader ν α := fun value =>
  if Node.isAbsent value then .ok default else read value

/-- Reads a JSON value as it is. -/
def anything : Reader Json Json := .ok

/-- Reads an unsigned number of 64 bits. -/
def unsigned64 : Reader Json UInt64 := fun value =>
  match value.unsigned64? with
  | some n => .ok n
  | none =>
    match value with
    | .integer n => fail (.invalidValue (.integer n) "u64")
    | other => mismatch other "u64"

end CrudGraph.Reading
