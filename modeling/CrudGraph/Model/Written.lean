/-
The JSON form of a schema, written and read. Every member is written, absent ones as `null` and
empty lists as `[]`. Reading is more liberal: members may be missing where they have a default,
lists may be `null`, unknown members are passed over, and a record may be the sequence of its
fields.
-/
import CrudGraph.Model.Schema
import CrudGraph.Reading.Layout

namespace CrudGraph

open Reading

-- =============================================================== writing

/-- A text that may be absent. -/
def Json.textOrNull (s : Option String) : Json :=
  match s with
  | some s => .string s
  | none => .null

/-- Writes a reference. -/
def TypeRef.toJson : TypeRef → Json
  | .bare kind name =>
    .object [("kind", .string kind.text), ("name", .textOrNull name), ("ofType", .null)]
  | .wrapping kind name inner =>
    .object [("kind", .string kind.text), ("name", .textOrNull name), ("ofType", inner.toJson)]

/-- Writes an argument or input field. -/
def InputValue.toJson (value : InputValue) : Json :=
  .object [
    ("name", .string value.name),
    ("type", value.type.toJson),
    ("defaultValue", .textOrNull value.defaultValue)]

/-- Writes a field. -/
def Field.toJson (field : Field) : Json :=
  .object [
    ("name", .string field.name),
    ("args", .array (field.args.map InputValue.toJson)),
    ("type", field.type.toJson)]

/-- Writes the value of an enumeration. -/
def enumValueToJson (name : String) : Json :=
  .object [("name", .string name)]

/-- Writes a named type. -/
def NamedType.toJson (type : NamedType) : Json :=
  .object [
    ("kind", .string type.kind.text),
    ("name", .string type.name),
    ("fields", .array (type.fields.map Field.toJson)),
    ("inputFields", .array (type.inputFields.map InputValue.toJson)),
    ("enumValues", .array (type.enumValues.map enumValueToJson))]

/-- Writes an operation. -/
def Operation.toJson (operation : Operation) : Json :=
  .object [
    ("name", .string operation.name),
    ("args", .array (operation.args.map InputValue.toJson)),
    ("type", (operation.type.map TypeRef.toJson).getD .null)]

/-- Writes a schema. -/
def Schema.toJson (schema : Schema) : Json :=
  .object [
    ("types", .array (schema.types.map NamedType.toJson)),
    ("queries", .array (schema.operations.map Operation.toJson))]

-- =============================================================== reading

/-- The kind of a name. -/
def TypeKind.ofName (name : String) : Except Failure TypeKind :=
  match TypeKind.ofText? name with
  | some kind => .ok kind
  | none => fail (.unknownVariant name (TypeKind.all.map TypeKind.text))

/-- Reads a kind: its name, or a map with the name as the only member and `null` as its value. -/
def TypeKind.read : Reader Json TypeKind
  | .string name => ofName name
  | .object [(name, value)] => do
    let kind ← ofName name
    if value.isNull then return kind else mismatch value "unit"
  | .object _ => fail (.invalidValue .map "map with a single key")
  | other => mismatch other "string or map"

/-- What is read of a reference. -/
structure TypeRef.Draft where
  kind : Option TypeKind := none
  name : Option String := none
  inner : Option TypeRef := none

/-- The reference that a draft describes. -/
def TypeRef.Draft.finish (draft : Draft) : Except Failure TypeRef := do
  let kind ← given "kind" draft.kind
  match draft.inner with
  | some inner => return .wrapping kind draft.name inner
  | none => return .bare kind draft.name

mutual

/-- Reads a reference. -/
def TypeRef.read : Json → Except Failure TypeRef
  | .object members => do (← TypeRef.readMembers {} members).finish
  | .array items => TypeRef.readItems items
  | other => mismatch other "struct TypeRef"

/-- Reads the members of a reference into a draft. -/
def TypeRef.readMembers (draft : TypeRef.Draft) :
    List (String × Json) → Except Failure TypeRef.Draft
  | [] => .ok draft
  | ("kind", value) :: rest => do
    let kind ← within (.member "kind") (TypeKind.read value)
    TypeRef.readMembers { draft with kind := some kind } rest
  | ("name", value) :: rest => do
    let name ← within (.member "name") (Reading.nullable text value)
    TypeRef.readMembers { draft with name := name } rest
  | ("ofType", value) :: rest => do
    let inner ←
      match value with
      | .null => pure none
      | value => within (.member "ofType") (some <$> TypeRef.read value)
    TypeRef.readMembers { draft with inner := inner } rest
  | _ :: rest => TypeRef.readMembers draft rest

/-- Reads a reference from the sequence of its fields, of which only the kind has to be given. -/
def TypeRef.readItems : List Json → Except Failure TypeRef
  | [] => fail (.invalidLength 0 "struct TypeRef with 3 elements")
  | [kind] => do
    let kind ← within (.element 0) (TypeKind.read kind)
    return .bare kind none
  | [kind, name] => do
    let kind ← within (.element 0) (TypeKind.read kind)
    let name ← within (.element 1) (Reading.nullable text name)
    return .bare kind name
  | kind :: name :: inner :: rest => do
    let kind ← within (.element 0) (TypeKind.read kind)
    let name ← within (.element 1) (Reading.nullable text name)
    let inner ←
      match inner with
      | .null => pure none
      | inner => within (.element 2) (some <$> TypeRef.read inner)
    if rest.isEmpty then TypeRef.Draft.finish ⟨some kind, name, inner⟩
    else fail (.invalidLength (rest.length + 3) "fewer elements in array")

end

/-- Reads a list that may be absent. -/
def readList {α : Type} (read : Reader Json α) : Reader Json (List α) :=
  orDefault [] (sequence read)

namespace InputValue

/-- What is read of an input value. -/
structure Draft where
  name : Option String := none
  type : Option TypeRef := none
  defaultValue : Option String := none

/-- How an input value is written. -/
def layout : Layout Json Draft where
  name := "InputValue"
  isClosed := false
  fields := [
    .required "name" text fun draft name => { draft with name := some name },
    .required "type" TypeRef.read fun draft type => { draft with type := some type },
    .optional "defaultValue" (nullable text) fun draft value =>
      { draft with defaultValue := value }]

/-- Reads an input value. -/
def read : Reader Json InputValue := fun value => do
  let draft ← layout.read {} value
  return ⟨← given "name" draft.name, ← given "type" draft.type, draft.defaultValue⟩

end InputValue

namespace Field

/-- What is read of a field. -/
structure Draft where
  name : Option String := none
  args : List InputValue := []
  type : Option TypeRef := none

/-- How a field is written. -/
def layout : Layout Json Draft where
  name := "Field"
  isClosed := false
  fields := [
    .required "name" text fun draft name => { draft with name := some name },
    .optional "args" (readList InputValue.read) fun draft args => { draft with args := args },
    .required "type" TypeRef.read fun draft type => { draft with type := some type }]

/-- Reads a field. -/
def read : Reader Json Field := fun value => do
  let draft ← layout.read {} value
  return ⟨← given "name" draft.name, draft.args, ← given "type" draft.type⟩

end Field

/-- A record that has only a name, and a draft of it. -/
def namedLayout (record : String) : Layout Json (Option String) where
  name := record
  isClosed := false
  fields := [.required "name" text fun _ name => some name]

/-- Reads the name of a record that has only a name. -/
def readNamed (record : String) : Reader Json String := fun value => do
  given "name" (← (namedLayout record).read none value)

namespace NamedType

/-- What is read of a named type. -/
structure Draft where
  kind : Option TypeKind := none
  name : Option String := none
  fields : List Field := []
  inputFields : List InputValue := []
  enumValues : List String := []

/-- How a named type is written. -/
def layout : Layout Json Draft where
  name := "NamedType"
  isClosed := false
  fields := [
    .required "kind" TypeKind.read fun draft kind => { draft with kind := some kind },
    .required "name" text fun draft name => { draft with name := some name },
    .optional "fields" (readList Field.read) fun draft fields => { draft with fields := fields },
    .optional "inputFields" (readList InputValue.read) fun draft fields =>
      { draft with inputFields := fields },
    .optional "enumValues" (readList (readNamed "EnumValue")) fun draft values =>
      { draft with enumValues := values }]

/-- Reads a named type. -/
def read : Reader Json NamedType := fun value => do
  let draft ← layout.read {} value
  return ⟨← given "kind" draft.kind, ← given "name" draft.name, draft.fields, draft.inputFields,
    draft.enumValues⟩

end NamedType

namespace Operation

/-- What is read of an operation. -/
structure Draft where
  name : Option String := none
  args : List InputValue := []
  type : Option TypeRef := none

/-- How an operation is written. -/
def layout : Layout Json Draft where
  name := "Operation"
  isClosed := false
  fields := [
    .required "name" text fun draft name => { draft with name := some name },
    .optional "args" (readList InputValue.read) fun draft args => { draft with args := args },
    .optional "type" (nullable TypeRef.read) fun draft type => { draft with type := type }]

/-- Reads an operation. -/
def read : Reader Json Operation := fun value => do
  let draft ← layout.read {} value
  return ⟨← given "name" draft.name, draft.args, draft.type⟩

end Operation

namespace Schema

/-- How a schema is written. -/
def layout : Layout Json Schema where
  name := "IntrospectionSchema"
  isClosed := false
  fields := [
    .optional "types" (sequence NamedType.read) fun draft types => { draft with types := types },
    .optional "queries" (sequence Operation.read) fun draft operations =>
      { draft with operations := operations }]

/-- Reads a schema. -/
def read : Reader Json Schema :=
  layout.read ⟨[], []⟩

end Schema

end CrudGraph
