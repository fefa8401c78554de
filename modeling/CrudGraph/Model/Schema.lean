/-
The part of a schema that requests are built from: its named types, and its root operations, which
are the fields of the query and the mutation root. Names may come more than once; a lookup answers
with the last.
-/
import CrudGraph.Model.TypeRef

namespace CrudGraph

-- ================================================================= parts

/-- An argument of a field, or a field of an input object. -/
structure InputValue where
  name : String
  type : TypeRef
  defaultValue : Option String
deriving DecidableEq, Repr

/-- Whether a value has to be given: null is excluded and there is no default. -/
def InputValue.isRequired (value : InputValue) : Bool :=
  value.type.isNonNull && value.defaultValue.isNone

/-- A field of an object or interface type. -/
structure Field where
  name : String
  args : List InputValue
  type : TypeRef
deriving DecidableEq, Repr

/-- Whether some argument has to be given. -/
def Field.hasRequiredArguments (field : Field) : Bool :=
  field.args.any (·.isRequired)

/-- A named type. Objects and interfaces have fields, input objects input fields, enumerations the
names of their values. -/
structure NamedType where
  kind : TypeKind
  name : String
  fields : List Field
  inputFields : List InputValue
  enumValues : List String
deriving DecidableEq, Repr

namespace NamedType

/-- The first field of a name. -/
def field? (type : NamedType) (name : String) : Option Field :=
  type.fields.find? (·.name == name)

/-- A field of a name is found just where the type has one. -/
theorem isSome_field?_iff {type : NamedType} {name : String} :
    (type.field? name).isSome = true ↔ ∃ field ∈ type.fields, field.name = name := by
  rw [field?, List.find?_isSome]
  simp only [beq_iff_eq]

/-- The first input field of a name. -/
def inputField? (type : NamedType) (name : String) : Option InputValue :=
  type.inputFields.find? (·.name == name)

/-- Whether a name is one of the values of an enumeration. -/
def hasEnumValue (type : NamedType) (name : String) : Bool :=
  type.enumValues.contains name

end NamedType

/-- A root operation. Some descriptions of operations leave out what they return. -/
structure Operation where
  name : String
  args : List InputValue
  type : Option TypeRef
deriving DecidableEq, Repr

/-- The first argument of a name. -/
def Operation.argument? (operation : Operation) (name : String) : Option InputValue :=
  operation.args.find? (·.name == name)

/-- A field of a root type as an operation. -/
def Operation.ofField (field : Field) : Operation :=
  ⟨field.name, field.args, some field.type⟩

-- ================================================================ schema

/-- The last element with a property. -/
def findLast? {α : Type} (p : α → Bool) : List α → Option α
  | [] => none
  | a :: rest =>
    match findLast? p rest with
    | some b => some b
    | none => if p a then some a else none

/-- What is found last is one of the list, and it passes. -/
theorem findLast?_some {α : Type} {p : α → Bool} {xs : List α} {a : α}
    (h : findLast? p xs = some a) : p a = true ∧ a ∈ xs := by
  induction xs with
  | nil => simp [findLast?] at h
  | cons x xs ih =>
    simp only [findLast?] at h
    split at h
    · next b hb =>
      cases h
      exact ⟨(ih hb).1, List.mem_cons_of_mem _ (ih hb).2⟩
    · split at h
      · next hx =>
        cases h
        exact ⟨hx, List.mem_cons_self⟩
      · cases h

/-- The named types and the root operations of a schema. -/
structure Schema where
  types : List NamedType
  operations : List Operation
deriving DecidableEq, Repr

namespace Schema

/-- The last type of a name. -/
def type? (schema : Schema) (name : String) : Option NamedType :=
  findLast? (·.name == name) schema.types

/-- The last operation of a name. -/
def operation? (schema : Schema) (name : String) : Option Operation :=
  findLast? (·.name == name) schema.operations

/-- An argument that an operation declares. -/
def argument? (schema : Schema) (operation argument : String) : Option InputValue :=
  schema.operation? operation >>= (·.argument? argument)

/-- Whether an operation declares an argument. -/
def supportsArgument (schema : Schema) (operation argument : String) : Bool :=
  (schema.argument? operation argument).isSome

/-- The named type that a reference leads to. -/
def typeOf? (schema : Schema) (type : TypeRef) : Option NamedType :=
  type.baseName >>= schema.type?

/-- The named type that an operation returns. -/
def returnType? (schema : Schema) (operation : String) : Option NamedType :=
  schema.operation? operation >>= (·.type) >>= schema.typeOf?

/-- The named type that an argument takes. -/
def argumentType? (schema : Schema) (operation argument : String) : Option NamedType :=
  schema.argument? operation argument >>= fun value => schema.typeOf? value.type

/-- The enumeration that an argument takes, when it offers any value besides `natural`. -/
def orderingEnum? (schema : Schema) (operation argument natural : String) : Option NamedType :=
  (schema.argumentType? operation argument).filter fun type =>
    type.kind = .enum && type.enumValues.any (· != natural)

/-- The number of types and the number of operations. -/
def counts (schema : Schema) : Nat × Nat :=
  (schema.types.length, schema.operations.length)

-- =========================================================== what is found

/-- A type is found under its own name. -/
theorem name_of_type? {schema : Schema} {name : String} {type : NamedType}
    (h : schema.type? name = some type) : type.name = name := by
  simpa using (findLast?_some h).1

/-- What is found is a type of the schema. -/
theorem mem_of_type? {schema : Schema} {name : String} {type : NamedType}
    (h : schema.type? name = some type) : type ∈ schema.types :=
  (findLast?_some h).2

end Schema

end CrudGraph
