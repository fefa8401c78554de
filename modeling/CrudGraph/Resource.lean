/-
Resources: how they are called and how their records are identified. A resource may be named by its
type, by one record or by many; all these lead to the same three names.

The key field is named by the operation that answers with one record: it is the first argument that
has nothing to do with paging or filtering. A key other than the uniform identifier is addressed
through the synthetic one, by operations of their own, and comes back under the name of the uniform
one.
-/
import CrudGraph.Configuration.Basic
import CrudGraph.Inflection.Rule
import CrudGraph.Model.Schema
import CrudGraph.Refusal
import CrudGraph.Text.Case

namespace CrudGraph

-- =============================================================== names

/-- The names of a resource. -/
structure Resource where
  /-- The type of its records. -/
  typeName : String
  /-- The operation that answers with one record, and the field of a payload that holds it. -/
  single : String
  /-- The operation that answers with many. -/
  plural : String
deriving DecidableEq, Repr

namespace Resource

/-- The resource of a type. -/
def ofTypeName (typeName : String) : Resource :=
  let single := Text.uncapitalize typeName
  ⟨typeName, single, Inflection.plural single⟩

/-- The resource of a name in any number; the empty name is refused. -/
def ofName (name : String) : Except Refusal Resource :=
  if name.isEmpty then .error (.invalidRequest "the resource name is empty")
  else .ok (ofTypeName (Text.capitalize (Inflection.singular name)))

/-- All three names follow from the name of the type. -/
theorem eq_ofTypeName {name : String} {resource : Resource} (h : ofName name = .ok resource) :
    resource = ofTypeName resource.typeName := by
  unfold ofName at h
  split at h
  · cases h
  · cases h; rfl

end Resource

-- ================================================================ keys

/-- How the records of a resource are identified and addressed. -/
structure PrimaryKey where
  /-- The key field. -/
  fieldName : String
  /-- The scalar type of the key field. -/
  scalarType : String
  /-- The argument that takes an identifier. -/
  idArgumentName : String
  /-- The scalar type of that argument. -/
  idArgumentType : String
  /-- The operation that answers with one record. -/
  singleOperation : String
  /-- The operation that deletes a record. -/
  deleteOperation : String
  /-- The operation that updates a record. -/
  updateOperation : String
  /-- Whether the identity field comes back under the uniform name. -/
  aliasRequired : Bool
  /-- The field that is known as the uniform identifier. -/
  identityField : String
deriving DecidableEq, Repr

namespace PrimaryKey

/-- Arguments that name no key. -/
def reservedArguments : List String :=
  ["first", "last", "offset", "before", "after", "filter"]

/-- The key field that the operation of a resource names, the uniform identifier where it names
none. -/
def derivedField (schema : Schema) (resource : Resource) (naming : Naming) : String :=
  let argument := schema.operation? resource.single >>= fun operation =>
    operation.args.find? fun arg => !reservedArguments.contains arg.name
  (argument.map (·.name)).getD naming.identifierName

/-- The key of a resource whose key field is the uniform identifier. -/
def direct (resource : Resource) (field scalar : String) : PrimaryKey where
  fieldName := field
  scalarType := scalar
  idArgumentName := field
  idArgumentType := scalar
  singleOperation := resource.single
  deleteOperation := "delete" ++ resource.typeName
  updateOperation := "update" ++ resource.typeName
  aliasRequired := false
  identityField := field

/-- The key of a resource that is addressed through the synthetic identifier. -/
def aliased (schema : Schema) (type : NamedType) (resource : Resource) (naming : Naming)
    (field scalar : String) : PrimaryKey :=
  let single := resource.single ++ naming.aliasedOperationSuffix
  { fieldName := field
    scalarType := scalar
    idArgumentName := naming.syntheticIdentifier
    idArgumentType :=
      ((schema.argument? single naming.syntheticIdentifier) >>= (·.type.baseName)).getD "ID"
    singleOperation := single
    deleteOperation := "delete" ++ resource.typeName ++ naming.aliasedOperationSuffix
    updateOperation := "update" ++ resource.typeName ++ naming.aliasedOperationSuffix
    aliasRequired := true
    identityField :=
      if (type.field? naming.syntheticIdentifier).isSome then naming.syntheticIdentifier
      else field }

/-- The key of a resource. Its type has to exist and to have the key field. -/
def resolve (schema : Schema) (resource : Resource) (naming : Naming) :
    Except Refusal PrimaryKey := do
  let some type := schema.type? resource.typeName
    | throw (.resourceTypeUnresolved resource.typeName)
  let field := derivedField schema resource naming
  let some scalar := type.field? field >>= (·.type.baseName)
    | throw (.primaryKeyUnresolvable resource.typeName field)
  if field = naming.identifierName then return direct resource field scalar
  else return aliased schema type resource naming field scalar

/-- The keys that were resolved before, by the names of the types. -/
abbrev Cache := Table PrimaryKey

/-- The key of a resource, taken from the cache where it is there. A key that is resolved enters
the cache; a refusal leaves no trace. -/
def cached (schema : Schema) (resource : Resource) (naming : Naming) (cache : Cache) :
    Except Refusal PrimaryKey × Cache :=
  match Table.find? cache resource.typeName with
  | some key => (.ok key, cache)
  | none =>
    match resolve schema resource naming with
    | .ok key => (.ok key, Table.insert cache resource.typeName key)
    | .error refusal => (.error refusal, cache)

end PrimaryKey

end CrudGraph
