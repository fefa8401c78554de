/-
Schemas that a text defines. Additions join the type they name, wherever they stand; one of
another kind than the type is passed over in front of its definition and refused behind it. A text
is refused when two definitions collide: two types of one name, two members of one type, or two
roots of one kind. What is defined is not validated further: types may be undefined, and a root may
be no object.
-/
import CrudGraph.Model.Schema
import CrudGraph.Sdl.Grammar
import CrudGraph.Sdl.Laid

namespace CrudGraph.Sdl

-- ================================================================ bodies

/-- The kind of a body. -/
def Body.kind : Body → TypeKind
  | scalar => .scalar
  | object _ _ => .object
  | interface _ _ => .interface
  | union _ => .union
  | enum _ => .enum
  | inputObject _ => .inputObject

/-- A body with an addition; they have to be of one kind. -/
def Body.add? : Body → Body → Option Body
  | scalar, scalar => some scalar
  | object is fs, object js gs => some (object (is ++ js) (fs ++ gs))
  | interface is fs, interface js gs => some (interface (is ++ js) (fs ++ gs))
  | union ms, union ns => some (union (ms ++ ns))
  | enum vs, enum ws => some (enum (vs ++ ws))
  | inputObject fs, inputObject gs => some (inputObject (fs ++ gs))
  | _, _ => none

/-- The interfaces that a body names. -/
def Body.interfaces : Body → List Name
  | object interfaces _ | interface interfaces _ => interfaces
  | _ => []

/-- The names of a body's members. -/
def Body.members : Body → List Name
  | scalar => []
  | object _ fields | interface _ fields => fields.map (·.name)
  | union members => members
  | enum values => values
  | inputObject fields => fields.map (·.name)

/-- Whether a body names no interface and no member twice. -/
def Body.isDistinct (body : Body) : Bool :=
  decide body.interfaces.Nodup && decide body.members.Nodup

-- ============================================================== built in

/-- The scalars that every schema has. -/
def builtInScalars : List String :=
  ["Int", "Float", "String", "Boolean", "ID"]

/-- A type that describes a part of schemas. -/
structure DescribingType where
  name : String
  kind : TypeKind
  members : List String

/-- The types that describe a schema. They are not part of what is described. -/
def describingTypes : List DescribingType := [
  ⟨"__Schema", .object,
    ["description", "types", "queryType", "mutationType", "subscriptionType", "directives"]⟩,
  ⟨"__Type", .object,
    ["kind", "name", "description", "fields", "interfaces", "possibleTypes", "enumValues",
      "inputFields", "ofType", "specifiedByURL"]⟩,
  ⟨"__TypeKind", .enum,
    ["SCALAR", "OBJECT", "INTERFACE", "UNION", "ENUM", "INPUT_OBJECT", "LIST", "NON_NULL"]⟩,
  ⟨"__Field", .object,
    ["name", "description", "args", "type", "isDeprecated", "deprecationReason"]⟩,
  ⟨"__InputValue", .object,
    ["name", "description", "type", "defaultValue", "isDeprecated", "deprecationReason"]⟩,
  ⟨"__EnumValue", .object, ["name", "description", "isDeprecated", "deprecationReason"]⟩,
  ⟨"__Directive", .object, ["name", "description", "locations", "args", "isRepeatable"]⟩,
  ⟨"__DirectiveLocation", .enum, Read.locations⟩]

/-- The kind of a type that every schema has. -/
def builtInKind? (name : String) : Option TypeKind :=
  if builtInScalars.contains name then some .scalar
  else (describingTypes.find? (·.name == name)).map (·.kind)

-- ============================================================== schemas

/-- A schema as a text defines it: its types without those that every schema has, each with all
that is added to it, and its roots. -/
structure SchemaText where
  types : List (Name × Body)
  roots : List (Root × Name)
  types_distinct : (types.map (·.1)).Nodup
  types_own : ∀ type ∈ types, builtInKind? type.1.text = none
  members_distinct : ∀ type ∈ types, type.2.isDistinct = true
  roots_distinct : (roots.map (·.1)).Nodup

-- ============================================================== assembly

/-- What definitions add to a type. -/
def additionsTo (name : String) (definitions : List Definition) : List Body :=
  definitions.filterMap fun
    | .typeAddition other addition => if other.text = name then some addition else none
    | _ => none

/-- Whether a definition is that of a type. -/
def Definition.defines (name : Name) : Definition → Bool
  | .type other _ => other = name
  | _ => false

/-- A type with the additions that name it: those in front of its definition as far as they are of
its kind, and all of those behind it. -/
def assembleType? (definitions : List Definition) (name : Name) (body : Body) :
    Option (Name × Body) := do
  let inFront := definitions.takeWhile (!·.defines name)
  let behind := definitions.dropWhile (!·.defines name)
  let body := (additionsTo name.text inFront).foldl (fun body a => (body.add? a).getD body) body
  let whole ← (additionsTo name.text behind).foldlM Body.add? body
  return (name, whole)

/-- Whether what is added to the types that describe a schema collides with nothing there. -/
def joinsDescribing (definitions : List Definition) : Bool :=
  describingTypes.all fun type =>
    let additions := additionsTo type.name definitions
    decide (additions.flatMap (·.interfaces)).Nodup
      && decide (type.members ++ additions.flatMap fun a => a.members.map (·.text)).Nodup

/-- The types that are defined. -/
def definedTypes (definitions : List Definition) : List (Name × Body) :=
  definitions.filterMap fun
    | .type name body => some (name, body)
    | _ => none

/-- Whether an addition has a type of its kind to join. The types that are defined are looked at
when they are assembled. -/
def hasTarget (types : List (Name × Body)) : Definition → Bool
  | .typeAddition name addition =>
    types.any (·.1 = name) || builtInKind? name.text = some addition.kind
  | _ => true

/-- The roots that are there when none are named: the objects with the usual names. -/
def defaultRoots (types : List (Name × Body)) : List (Root × Name) :=
  Root.all.filterMap fun root =>
    (types.find? fun type => type.1.text == root.defaultType && type.2.kind = .object).map
      fun type => (root, type.1)

/-- The roots that each schema definition names. -/
def namedRoots (definitions : List Definition) : List (List (Root × Name)) :=
  definitions.filterMap fun
    | .schema roots => some roots
    | _ => none

/-- The roots that each addition to the schema names. -/
def addedRoots (definitions : List Definition) : List (List (Root × Name)) :=
  definitions.filterMap fun
    | .schemaAddition roots => some roots
    | _ => none

/-- The roots of a schema. Additions join the roots that are named, or those that are there without
being named; without any of these there is nothing to join. -/
def roots? (definitions : List Definition) (types : List (Name × Body)) :
    Option (List (Root × Name)) := do
  let named := namedRoots definitions
  let additions := addedRoots definitions
  let start ←
    match named with
    | [roots] => some roots
    | [] =>
      let roots := defaultRoots types
      if roots.isEmpty && !additions.isEmpty then none else some roots
    | _ => none
  return start ++ additions.flatten

/-- The directives that are defined. -/
def definedDirectives (definitions : List Definition) : List Name :=
  definitions.filterMap fun
    | .directive name => some name
    | _ => none

/-- The schema of definitions, if they fit together. There has to be one. -/
def assemble? (definitions : List Definition) : Option SchemaText := do
  let defined := definedTypes definitions
  if definitions.isEmpty || !decide (definedDirectives definitions).Nodup
      || !definitions.all (hasTarget defined) || !joinsDescribing definitions then none
  let types ← defined.mapM fun (name, body) => assembleType? definitions name body
  let roots ← roots? definitions defined
  if h : (types.map (·.1)).Nodup ∧ (∀ type ∈ types, builtInKind? type.1.text = none)
      ∧ (∀ type ∈ types, type.2.isDistinct = true) ∧ (roots.map (·.1)).Nodup then
    return ⟨types, roots, h.1, h.2.1, h.2.2.1, h.2.2.2⟩
  else none

/-- The schema that a text defines. -/
def SchemaText.ofText? (s : String) : Option SchemaText :=
  definitions? s >>= assemble?

-- ============================================================= the model

namespace SchemaText

variable (schema : SchemaText)

/-- The kind of a type; one that is not defined counts as a scalar. -/
def kindOf (name : String) : TypeKind :=
  match schema.types.find? (·.1.text == name) with
  | some type => type.2.kind
  | none => (builtInKind? name).getD .scalar

/-- The reference to a type. -/
def typeRef : TypeExpr → TypeRef
  | .named name => .named (schema.kindOf name.text) name.text
  | .nonNullNamed name => .nonNullOf (.named (schema.kindOf name.text) name.text)
  | .list item => .listOf (typeRef item)
  | .nonNullList item => .nonNullOf (.listOf (typeRef item))

/-- An argument or input field. -/
def inputValue (input : InputDefinition) : InputValue where
  name := input.name.text
  type := schema.typeRef input.type
  defaultValue := input.defaultValue.map (laidOut 0)

/-- A field. -/
def field (field : FieldDefinition) : Field where
  name := field.name.text
  args := field.args.map schema.inputValue
  type := schema.typeRef field.type

/-- A named type. -/
def namedType (name : Name) (body : Body) : NamedType where
  kind := body.kind
  name := name.text
  fields :=
    match body with
    | .object _ fields | .interface _ fields => fields.map schema.field
    | _ => []
  inputFields :=
    match body with
    | .inputObject fields => fields.map schema.inputValue
    | _ => []
  enumValues :=
    match body with
    | .enum values => values.map (·.text)
    | _ => []

/-- The types that are described: the scalars that every schema has, then those that the text
defines, without those whose names begin with two underscores. -/
def namedTypes : List NamedType :=
  builtInScalars.map (fun name => ⟨.scalar, name, [], [], []⟩)
    ++ (schema.types.filter fun type => !type.1.text.startsWith "__").map
      fun type => schema.namedType type.1 type.2

/-- The name of the root of a kind. -/
def rootName? (root : Root) : Option String :=
  (schema.roots.find? (·.1 = root)).map (·.2.text)

/-- The operations of the root of a kind. -/
def rootOperations (root : Root) : List Operation :=
  let type := schema.rootName? root >>= fun name => schema.namedTypes.find? (·.name == name)
  match type with
  | some type => type.fields.map Operation.ofField
  | none => []

/-- The model of a schema: its types, and the operations of the query root before those of the
mutation root. -/
def toSchema : Schema where
  types := schema.namedTypes
  operations := schema.rootOperations .query ++ schema.rootOperations .mutation

end SchemaText

end CrudGraph.Sdl
