/-
What can be wrong with data that should hold a typed record, and where in the data it is wrong. The
causes are separate from their wording; a failure adds the way from the top of the data down to the
offending value.
-/
import CrudGraph.Decimal.Text
import CrudGraph.Text.Quoted

namespace CrudGraph.Reading

-- ================================================================ causes

/-- What a reader met. -/
inductive Found where
  | null
  | unit
  | boolean (value : Bool)
  | integer (value : Int)
  | wideInteger (value : Int)
  | double (value : Double)
  | floating (text : String)
  | string (value : String)
  | sequence
  | map
deriving DecidableEq, Repr

/-- Why data does not hold the record that is wanted. -/
inductive Problem where
  | missingField (name : String)
  | unknownField (name : String) (known : List String)
  | duplicateField (name : String)
  | unknownVariant (name : String) (known : List String)
  | invalidType (found : Found) (wanted : String)
  | invalidValue (found : Found) (wanted : String)
  | invalidLength (given : Nat) (wanted : String)
deriving DecidableEq, Repr

-- =============================================================== wording

/-- What was met, in words. -/
def Found.text : Found → String
  | .null => "null"
  | .unit => "unit value"
  | .boolean value => if value then "boolean `true`" else "boolean `false`"
  | .integer value => s!"integer `{value}`"
  | .wideInteger value =>
    if value < 0 then s!"integer `{value}` as i128" else s!"integer `{value}` as u128"
  | .double value => "floating point `" ++ value.text .json ++ "`"
  | .floating text => s!"floating point `{text}`"
  | .string value => "string " ++ Text.quoted value
  | .sequence => "sequence"
  | .map => "map"

/-- The names to choose from, in words. -/
def choice : List String → String
  | [] => "nothing"
  | [a] => s!"`{a}`"
  | [a, b] => s!"`{a}` or `{b}`"
  | names => "one of " ++ ", ".intercalate (names.map fun name => s!"`{name}`")

/-- The problem, in words. -/
def Problem.text : Problem → String
  | .missingField name => s!"missing field `{name}`"
  | .unknownField name known => s!"unknown field `{name}`, expected {choice known}"
  | .duplicateField name => s!"duplicate field `{name}`"
  | .unknownVariant name known => s!"unknown variant `{name}`, expected {choice known}"
  | .invalidType found wanted => s!"invalid type: {found.text}, expected {wanted}"
  | .invalidValue found wanted => s!"invalid value: {found.text}, expected {wanted}"
  | .invalidLength given wanted => s!"invalid length {given}, expected {wanted}"

-- ================================================================ places

/-- One step from a value down to a part of it. -/
inductive Step where
  | member (name : String)
  | element (index : Nat)
deriving DecidableEq, Repr

/-- A problem with the way to the value that has it, outermost step first. -/
structure Failure where
  way : List Step
  problem : Problem
deriving DecidableEq, Repr

/-- A problem of the value at hand. -/
def fail {α : Type} (problem : Problem) : Except Failure α :=
  .error ⟨[], problem⟩

/-- A failure seen from one step further out. -/
def Failure.behind (step : Step) (failure : Failure) : Failure :=
  { failure with way := step :: failure.way }

/-- Reads a part of a value, so that a failure tells which part it was. -/
def within {α : Type} (step : Step) (result : Except Failure α) : Except Failure α :=
  result.mapError (Failure.behind step)

/-- A way behind the text of the steps already taken: members are set off by points, elements in
brackets, and a way that begins with an element starts at a point of its own. -/
def wayText (taken : String) : List Step → String
  | [] => taken
  | .member name :: rest =>
    wayText (if taken.isEmpty then name else taken ++ "." ++ name) rest
  | .element index :: rest =>
    wayText ((if taken.isEmpty then "." else taken) ++ s!"[{index}]") rest

/-- The failure in words, the place first where it is not the top. -/
def Failure.text (failure : Failure) : String :=
  if failure.way.isEmpty then failure.problem.text
  else wayText "" failure.way ++ ": " ++ failure.problem.text

end CrudGraph.Reading
