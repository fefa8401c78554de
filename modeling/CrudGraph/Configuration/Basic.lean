/-
The conventions of a schema: how it names identifiers and orderings, which operators its filters
have, which identifiers stay texts, and how single types are selected. Every convention has a
default, so nothing has to be configured.
-/
import CrudGraph.Table

namespace CrudGraph

/-- How the schema names things. -/
structure Naming where
  /-- The identifier under which every record is known outside. -/
  identifierName : String := "id"
  /-- The argument that addresses records whose key is another field. -/
  syntheticIdentifier : String := "nodeId"
  /-- What follows the names of operations that take the synthetic identifier. -/
  aliasedOperationSuffix : String := "ByNodeId"
  /-- The value of an ordering that asks for none. -/
  naturalOrdering : String := "NATURAL"
  /-- The field of an input that a payload gives back. -/
  clientMutationId : String := "clientMutationId"
deriving DecidableEq, Repr

/-- The operators of filters that name none. -/
structure FilterOperators where
  stringOperator : String := "includesInsensitive"
  stringScalars : List String := ["String"]
  fullTextOperator : String := "matches"
  fullTextScalars : List String := ["FullText"]
  /-- What is appended to a text that is searched for. -/
  fullTextWildcard : String := "*"
  equalityOperator : String := "equalTo"
  listOperator : String := "in"
  /-- The filter key whose value is passed on as the condition. -/
  conditionKey : String := "$condition"
deriving DecidableEq, Repr

/-- The scalars whose identifiers stay as they are. -/
structure Identifiers where
  passthroughScalars : List String := ["string", "uuid", "id"]
deriving DecidableEq, Repr

/-- How the fields of one type are selected, as far as it can be declared. -/
structure DeclaredType where
  includeFields : Option (List String) := none
  excludeFields : Option (List String) := none
  expand : Bool := false
deriving DecidableEq, Repr

/-- The conventions of a schema. -/
structure Configuration where
  naming : Naming := {}
  filters : FilterOperators := {}
  identifiers : Identifiers := {}
  types : Table DeclaredType := []
deriving DecidableEq, Repr

namespace Configuration

/-- The names that must not be empty, by where they are configured. -/
def requiredNames (configuration : Configuration) : List (String × String) := [
  ("naming.identifier_name", configuration.naming.identifierName),
  ("naming.synthetic_identifier", configuration.naming.syntheticIdentifier),
  ("naming.natural_ordering", configuration.naming.naturalOrdering),
  ("naming.client_mutation_id", configuration.naming.clientMutationId),
  ("filters.list_operator", configuration.filters.listOperator),
  ("filters.equality_operator", configuration.filters.equalityOperator)]

/-- Where a name is configured that must not be empty and is. -/
def emptyNames (configuration : Configuration) : List String :=
  (configuration.requiredNames.filter (·.2.isEmpty)).map (·.1)

end Configuration

end CrudGraph
