/-
The definitions of a schema text. Each is a type with its members, an addition to a type, the roots
of the schema, or a directive. Descriptions and applied directives say nothing that requests depend
on and are not kept.
-/
import CrudGraph.Document.Literal
import CrudGraph.Document.TypeExpr

namespace CrudGraph.Sdl

/-- An argument or an input field. -/
structure InputDefinition where
  name : Name
  type : TypeExpr
  defaultValue : Option Literal

/-- A field of an object or interface type. -/
structure FieldDefinition where
  name : Name
  args : List InputDefinition
  type : TypeExpr

/-- A type without its name, or what is added to one. -/
inductive Body where
  | scalar
  | object (interfaces : List Name) (fields : List FieldDefinition)
  | interface (interfaces : List Name) (fields : List FieldDefinition)
  | union (members : List Name)
  | enum (values : List Name)
  | inputObject (fields : List InputDefinition)

/-- The kinds of roots. -/
inductive Root where
  | query
  | mutation
  | subscription
deriving DecidableEq

/-- The word that stands for a root. -/
def Root.text : Root → String
  | query => "query"
  | mutation => "mutation"
  | subscription => "subscription"

/-- The type that is a root when no roots are named. -/
def Root.defaultType : Root → String
  | query => "Query"
  | mutation => "Mutation"
  | subscription => "Subscription"

/-- All kinds of roots. -/
def Root.all : List Root :=
  [query, mutation, subscription]

/-- A definition of a schema text. -/
inductive Definition where
  | schema (roots : List (Root × Name))
  | schemaAddition (roots : List (Root × Name))
  | type (name : Name) (body : Body)
  | typeAddition (name : Name) (body : Body)
  | directive (name : Name)

end CrudGraph.Sdl
