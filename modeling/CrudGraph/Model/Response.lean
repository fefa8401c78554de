/-
Reading a schema from the response to an introspection query. The schema may stand at the top, as
the member `__schema`, or inside the member `data` of a whole response. Its operations are the
fields of the types that are named as query or mutation root.
-/
import CrudGraph.Model.Written
import CrudGraph.Refusal

namespace CrudGraph.Schema

open Reading

/-- A schema as introspection describes it, with its roots by name. -/
structure Described where
  queryRoot : Option String := none
  mutationRoot : Option String := none
  types : List NamedType := []

namespace Described

/-- How a described schema is written. -/
def layout : Layout Json Described where
  name := "RawSchema"
  isClosed := false
  fields := [
    .optional "queryType" (nullable (readNamed "RootTypeName")) fun draft root =>
      { draft with queryRoot := root },
    .optional "mutationType" (nullable (readNamed "RootTypeName")) fun draft root =>
      { draft with mutationRoot := root },
    .optional "types" (sequence NamedType.read) fun draft types => { draft with types := types }]

/-- The names of the roots. -/
def roots (described : Described) : List String :=
  described.queryRoot.toList ++ described.mutationRoot.toList

/-- The operations: the fields of the root types, in the order of the types. -/
def operations (described : Described) : List Operation :=
  (described.types.filter fun type => described.roots.contains type.name).flatMap fun type =>
    type.fields.map Operation.ofField

end Described

/-- The part of a response that describes the schema. -/
def describedIn (response : Json) : Json :=
  let inData := ((response.member? "data").getD response).member? "__schema"
  (inData.or (response.member? "__schema")).getD response

/-- The schema that the response to an introspection query describes. -/
def ofResponse (response : Json) : Except Refusal Schema :=
  match Described.layout.read {} (describedIn response) with
  | .error failure => .error (.invalidIntrospection failure.problem.text)
  | .ok described =>
    if described.roots.isEmpty then
      .error (.invalidIntrospection "schema declares neither a query nor a mutation type")
    else .ok ⟨described.types, described.operations⟩

end CrudGraph.Schema
