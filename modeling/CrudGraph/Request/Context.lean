/-
What a request is built from, and the checks and lookups that the verbs share.
-/
import CrudGraph.Request.Envelope
import CrudGraph.Request.Params
import CrudGraph.Request.Selected

namespace CrudGraph

/-- What a request is built from. -/
structure Context where
  schema : Schema
  configuration : Configuration
  strategies : Strategies
  resource : Resource
  resourceType : NamedType
  key : PrimaryKey
  verb : Verb

namespace Context

variable (c : Context)

-- ================================================================ checks

/-- The identifier of a request that needs one. -/
def requireId (params : Params) : Except Refusal Json :=
  match params.id.filter fun id => !id.isNull with
  | some id => .ok id
  | none => .error (.invalidRequest s!"{c.verb.text} requires an `id`")

/-- The identifiers that are asked for, without the absent ones. -/
def givenIds (params : Params) : List Json :=
  params.ids.filter fun id => !id.isNull

/-- Some identifiers; there has to be one. -/
def requireSome (ids : List Json) : Except Refusal Unit :=
  if ids.isEmpty then
    .error (.invalidRequest s!"{c.verb.text} requires at least one identifier")
  else .ok ()

/-- The schema has to have an operation. -/
def requireOperation (operation : String) : Except Refusal Unit :=
  if (c.schema.operation? operation).isSome then .ok ()
  else .error (.invalidRequest s!"the schema has no `{operation}` operation for {c.verb.text}")

-- =============================================================== lookups

/-- The selections of the resource. -/
def select : Reported (List Selection) :=
  let projector : Projector := ⟨c.schema, c.strategies, c.configuration.naming, c.verb⟩
  projector.select c.resource.typeName (some c.key)

/-- The form of an identifier that a scalar takes. -/
def encode (scalar : String) (raw : Json) : Json :=
  Identifier.encode c.configuration.identifiers c.strategies scalar raw

/-- The form of an identifier that the identifier argument takes. -/
def encodeId (raw : Json) : Json :=
  c.encode c.key.idArgumentType raw

/-- The form of an identifier that the key field takes. -/
def encodeKey (raw : Json) : Json :=
  c.encode c.key.scalarType raw

/-- The declared type of an argument, or the given one where it is not declared. -/
def argumentType (operation argument : String) (fallback : TypeExpr) : Except Refusal TypeExpr :=
  match c.schema.argument? operation argument with
  | some declared => declared.type.toExpr
  | none => .ok fallback

/-- The type of the identifier argument of an operation on one record. -/
def idType (operation : String) : Except Refusal TypeExpr := do
  let scalar ← Name.ofText c.key.idArgumentType
  c.argumentType operation c.key.idArgumentName (.nonNullNamed scalar)

end Context

end CrudGraph
