/-
The JSON Schema of configurations, for editors and validators. Each section is described by the
properties it has. Their defaults are those of the section itself, so the two cannot come apart.
-/
import CrudGraph.Configuration.Written
import CrudGraph.Json.Writer

namespace CrudGraph.Configuration.JsonSchema

-- ============================================================ properties

/-- The values that a property takes. -/
inductive Shape where
  | text
  | texts
  | textsOrNull
  | boolean

/-- The part of a schema that says which values there are. -/
def Shape.toJson : Shape → List (String × Json)
  | text => [("type", .string "string")]
  | texts => [("type", .string "array"), ("items", .object [("type", .string "string")])]
  | textsOrNull =>
    [("type", .array [.string "array", .string "null"]),
      ("items", .object [("type", .string "string")])]
  | boolean => [("type", .string "boolean")]

/-- A property of a section. -/
structure Property where
  name : String
  description : String
  shape : Shape

/-- The text of a default, as descriptions mention it. -/
def textOfDefault : Json → String
  | .array items => "[" ++ ", ".intercalate (items.map Json.text) ++ "]"
  | value => value.text

/-- A property whose description ends with its default, in a section with the given defaults. -/
def Property.mentioning (defaults : Json) (name about : String) (shape : Shape) : Property where
  name := name
  description := about ++ " default: " ++ textOfDefault ((defaults.member? name).getD .null)
  shape := shape

/-- The schema of a property, in a section with the given defaults. -/
def Property.toJson (defaults : Json) (property : Property) : Json :=
  .object <|
    [("description", .string property.description),
      ("default", (defaults.member? property.name).getD .null)]
    ++ property.shape.toJson

/-- The schema of a closed record with the given defaults. -/
def sectionSchema (description : String) (defaults : Json) (properties : List Property) : Json :=
  .object [
    ("description", .string description),
    ("type", .string "object"),
    ("properties", .object (properties.map fun property =>
      (property.name, property.toJson defaults))),
    ("additionalProperties", .bool false)]

-- ============================================================== sections

/-- The schema of declared types. -/
def declaredType : Json :=
  sectionSchema "The declarative subset of a type configuration." (DeclaredType.toJson {}) [
    ⟨"exclude_fields", "These fields are never selected.", .textsOrNull⟩,
    ⟨"expand",
      "Fields of this type are selected with a nested selection instead of being dropped.",
      .boolean⟩,
    ⟨"include_fields",
      "Only these fields are selected. Wins over `exclude_fields` when both are set.",
      .textsOrNull⟩]

/-- The schema of filter operators. -/
def filterOperators : Json :=
  let defaults := FilterOperators.toJson {}
  sectionSchema "Default filter operators, by scalar kind." defaults [
    .mentioning defaults "condition_key"
      "Filter key whose value is sent as the `condition` argument." .text,
    .mentioning defaults "equality_operator" "Operator for every other scalar and enum." .text,
    .mentioning defaults "full_text_operator" "Operator for full-text scalars." .text,
    .mentioning defaults "full_text_scalars" "Scalars filtered with `full_text_operator`." .texts,
    .mentioning defaults "full_text_wildcard" "Appended to full-text values." .text,
    .mentioning defaults "list_operator" "Operator for list values." .text,
    .mentioning defaults "string_operator" "Partial-match operator for string-like scalars." .text,
    .mentioning defaults "string_scalars" "Scalars filtered with `string_operator`." .texts]

/-- The schema of the treatment of identifiers. -/
def identifiers : Json :=
  let defaults := Identifiers.toJson {}
  sectionSchema "Identifier coercion settings." defaults [
    .mentioning defaults "passthrough_scalars"
      "Lower-cased scalar names whose identifiers are never parsed as integers." .texts]

/-- The schema of naming conventions. -/
def naming : Json :=
  let defaults := Naming.toJson {}
  sectionSchema "Naming conventions of the target schema." defaults [
    .mentioning defaults "aliased_operation_suffix"
      "Suffix of single-record operations addressed by the synthetic identifier." .text,
    .mentioning defaults "client_mutation_id"
      "Input and payload field echoing a client supplied token, used by batch mutations." .text,
    .mentioning defaults "identifier_name"
      "The uniform identifier every record surfaces to the caller." .text,
    .mentioning defaults "natural_ordering"
      "Ordering sentinel used when no sort is requested." .text,
    .mentioning defaults "synthetic_identifier"
      "Stand-in identifier argument used when a resource is not keyed by `identifier_name`."
      .text]

-- ================================================================= whole

/-- A reference to a definition. -/
def reference (definition : String) : Json :=
  .object [("$ref", .string ("#/definitions/" ++ definition))]

/-- The property for a section with the given default. -/
def sectionProperty (description : String) (default : Json) (definition : String) : Json :=
  .object [
    ("description", .string description),
    ("default", default),
    ("allOf", .array [reference definition])]

/-- The property for the types, which are declared under their names. -/
def typesProperty : Json :=
  .object [
    ("description", .string ("Declarative per-type configuration, keyed by type name.\n\n"
      ++ "Programmatic type configuration registered on the builder takes precedence.")),
    ("default", .object []),
    ("type", .string "object"),
    ("additionalProperties", reference "DeclaredTypeConfig")]

end JsonSchema

open JsonSchema

/-- The JSON Schema of configurations. -/
def jsonSchema : Json :=
  .object [
    ("$schema", .string "http://json-schema.org/draft-07/schema#"),
    ("title", .string "Configuration"),
    ("description", .string ("The configuration for the synthesizer.\n\n"
      ++ "Every section has defaults matching a PostGraphile schema built with the connection "
      ++ "filter plugin, so an empty document is a valid configuration.")),
    ("type", .string "object"),
    ("properties", .object [
      ("filters", sectionProperty
        "Filter operators used when a filter value does not name one explicitly."
        (FilterOperators.toJson {}) "FilterOperators"),
      ("identifiers", sectionProperty "Identifier coercion." (Identifiers.toJson {})
        "Identifiers"),
      ("naming", sectionProperty "Naming conventions of the target schema." (Naming.toJson {})
        "Naming"),
      ("types", typesProperty)]),
    ("additionalProperties", .bool false),
    ("definitions", .object [
      ("DeclaredTypeConfig", JsonSchema.declaredType),
      ("FilterOperators", JsonSchema.filterOperators),
      ("Identifiers", JsonSchema.identifiers),
      ("Naming", JsonSchema.naming)])]

end CrudGraph.Configuration
