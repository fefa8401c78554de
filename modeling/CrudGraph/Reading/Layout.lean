/-
Reading records. A record is written as a map from its field names, in any order, or as the
sequence of its fields. Values are read in the order in which they are written, so that of several
problems the first one is reported; that a field is missing shows at the end. The fields that were
read are collected in a draft.
-/
import CrudGraph.Reading.Node

namespace CrudGraph.Reading

/-- A field of a record: how its value enters the draft, and whether it may be left out where the
record is written as a sequence. -/
structure RecordField (ν σ : Type) where
  name : String
  mayEnd : Bool
  enter : ν → σ → Except Failure σ

/-- How a record is written. A closed record takes no members besides its fields. -/
structure Layout (ν σ : Type) where
  name : String
  fields : List (RecordField ν σ)
  isClosed : Bool

variable {ν : Type} [Node ν] {σ α : Type}

/-- A field that has to be given. -/
def RecordField.required (name : String) (read : Reader ν α) (set : σ → α → σ) :
    RecordField ν σ :=
  ⟨name, false, fun value draft => do return set draft (← read value)⟩

/-- A field with a default. -/
def RecordField.optional (name : String) (read : Reader ν α) (set : σ → α → σ) :
    RecordField ν σ :=
  ⟨name, true, fun value draft => do return set draft (← read value)⟩

namespace Layout

/-- The names of the fields, in the order of their declaration. -/
def names (layout : Layout ν σ) : List String :=
  layout.fields.map (·.name)

/-- Enters the members of a map, of which the fields in `seen` came before. -/
def enterMembers (layout : Layout ν σ) (seen : List String) (draft : σ) :
    List (MemberName × ν) → Except Failure σ
  | [] => .ok draft
  | (.other found, _) :: _ => fail (.invalidType found "field identifier")
  | (.text name, value) :: rest =>
    match layout.fields.find? (·.name == name) with
    | some field =>
      if seen.contains name then fail (.duplicateField name)
      else do
        let draft ← within (.member name) (field.enter value draft)
        enterMembers layout (name :: seen) draft rest
    | none =>
      if layout.isClosed then fail (.unknownField name layout.names)
      else enterMembers layout seen draft rest

/-- Enters the elements of a sequence of `given` elements, the first at the given index, for the
fields from that index on. -/
def enterElements (layout : Layout ν σ) (given index : Nat) (draft : σ) :
    List (RecordField ν σ) → List ν → Except Failure σ
  | [], [] => .ok draft
  | [], _ :: _ => fail (.invalidLength given (Node.noLonger ν layout.fields.length))
  | field :: fields, [] =>
    if field.mayEnd then enterElements layout given (index + 1) draft fields []
    else fail (.invalidLength index
      s!"struct {layout.name} with {layout.fields.length} elements")
  | field :: fields, value :: values => do
    let draft ← within (.element index) (field.enter value draft)
    enterElements layout given (index + 1) draft fields values

/-- Reads the fields of a record into a draft. -/
def read (layout : Layout ν σ) (draft : σ) : Reader ν σ := fun value =>
  match Node.members? value, Node.elements? value with
  | some members, _ => layout.enterMembers [] draft members
  | none, some elements => layout.enterElements elements.length 0 draft layout.fields elements
  | none, none => mismatch value s!"struct {layout.name}"

end Layout

/-- The value of a field that has to be given. -/
def given (name : String) (entered : Option α) : Except Failure α :=
  match entered with
  | some value => .ok value
  | none => fail (.missingField name)

end CrudGraph.Reading
