/-
The written form of a configuration. It is read from any data format and written as JSON. Every
record is closed: a member that is none of its fields is an error.
-/
import CrudGraph.Configuration.Basic
import CrudGraph.Reading.Layout

namespace CrudGraph

open Reading

variable {ν : Type} [Node ν]

-- =============================================================== reading

/-- How naming conventions are written. -/
def Naming.layout : Layout ν Naming where
  name := "Naming"
  isClosed := true
  fields := [
    .optional "identifier_name" text fun draft s => { draft with identifierName := s },
    .optional "synthetic_identifier" text fun draft s => { draft with syntheticIdentifier := s },
    .optional "aliased_operation_suffix" text fun draft s =>
      { draft with aliasedOperationSuffix := s },
    .optional "natural_ordering" text fun draft s => { draft with naturalOrdering := s },
    .optional "client_mutation_id" text fun draft s => { draft with clientMutationId := s }]

/-- How operators are written. -/
def FilterOperators.layout : Layout ν FilterOperators where
  name := "FilterOperators"
  isClosed := true
  fields := [
    .optional "string_operator" text fun draft s => { draft with stringOperator := s },
    .optional "string_scalars" (sequence text) fun draft s => { draft with stringScalars := s },
    .optional "full_text_operator" text fun draft s => { draft with fullTextOperator := s },
    .optional "full_text_scalars" (sequence text) fun draft s =>
      { draft with fullTextScalars := s },
    .optional "full_text_wildcard" text fun draft s => { draft with fullTextWildcard := s },
    .optional "equality_operator" text fun draft s => { draft with equalityOperator := s },
    .optional "list_operator" text fun draft s => { draft with listOperator := s },
    .optional "condition_key" text fun draft s => { draft with conditionKey := s }]

/-- How the treatment of identifiers is written. -/
def Identifiers.layout : Layout ν Identifiers where
  name := "Identifiers"
  isClosed := true
  fields := [
    .optional "passthrough_scalars" (sequence text) fun draft s =>
      { draft with passthroughScalars := s }]

/-- How the declaration of a type is written. -/
def DeclaredType.layout : Layout ν DeclaredType where
  name := "DeclaredTypeConfig"
  isClosed := true
  fields := [
    .optional "include_fields" (nullable (sequence text)) fun draft s =>
      { draft with includeFields := s },
    .optional "exclude_fields" (nullable (sequence text)) fun draft s =>
      { draft with excludeFields := s },
    .optional "expand" boolean fun draft b => { draft with expand := b }]

/-- Reads the declaration of a type. -/
def DeclaredType.read : Reader ν DeclaredType :=
  DeclaredType.layout.read {}

/-- A table in the order of its names. -/
def Table.sorted {α : Type} (t : Table α) : Table α :=
  t.mergeSort fun a b => decide (a.1 ≤ b.1)

/-- How a configuration is written. Each section starts from the defaults. -/
def Configuration.layout : Layout ν Configuration where
  name := "Configuration"
  isClosed := true
  fields := [
    .optional "naming" (Naming.layout.read {}) fun draft s => { draft with naming := s },
    .optional "filters" (FilterOperators.layout.read {}) fun draft s => { draft with filters := s },
    .optional "identifiers" (Identifiers.layout.read {}) fun draft s =>
      { draft with identifiers := s },
    .optional "types" (Reading.map DeclaredType.read) fun draft s =>
      { draft with types := s.sorted }]

-- =============================================================== writing

/-- Writes texts. -/
def textsToJson (texts : List String) : Json :=
  .array (texts.map .string)

/-- Writes naming conventions. -/
def Naming.toJson (naming : Naming) : Json :=
  .object [
    ("identifier_name", .string naming.identifierName),
    ("synthetic_identifier", .string naming.syntheticIdentifier),
    ("aliased_operation_suffix", .string naming.aliasedOperationSuffix),
    ("natural_ordering", .string naming.naturalOrdering),
    ("client_mutation_id", .string naming.clientMutationId)]

/-- Writes operators. -/
def FilterOperators.toJson (operators : FilterOperators) : Json :=
  .object [
    ("string_operator", .string operators.stringOperator),
    ("string_scalars", textsToJson operators.stringScalars),
    ("full_text_operator", .string operators.fullTextOperator),
    ("full_text_scalars", textsToJson operators.fullTextScalars),
    ("full_text_wildcard", .string operators.fullTextWildcard),
    ("equality_operator", .string operators.equalityOperator),
    ("list_operator", .string operators.listOperator),
    ("condition_key", .string operators.conditionKey)]

/-- Writes the treatment of identifiers. -/
def Identifiers.toJson (identifiers : Identifiers) : Json :=
  .object [("passthrough_scalars", textsToJson identifiers.passthroughScalars)]

/-- Writes the declaration of a type. -/
def DeclaredType.toJson (declared : DeclaredType) : Json :=
  .object [
    ("include_fields", (declared.includeFields.map textsToJson).getD .null),
    ("exclude_fields", (declared.excludeFields.map textsToJson).getD .null),
    ("expand", .bool declared.expand)]

/-- Writes a configuration. -/
def Configuration.toJson (configuration : Configuration) : Json :=
  .object [
    ("naming", configuration.naming.toJson),
    ("filters", configuration.filters.toJson),
    ("identifiers", configuration.identifiers.toJson),
    ("types", .object (configuration.types.map fun (name, type) => (name, type.toJson)))]

end CrudGraph
