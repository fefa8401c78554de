/-
Why a request is refused. Every refusal happens before anything is sent, except that of a response
that does not have the shape the request asked for.
-/
namespace CrudGraph

/-- Why a request, a schema or a response is refused. -/
inductive Refusal where
  /-- The schema has no type for the resource. -/
  | resourceTypeUnresolved (type : String)
  /-- The type of the resource lacks the field that should identify its records. -/
  | primaryKeyUnresolvable (type field : String)
  /-- A plain value was given for a field whose type has no operator of its own. -/
  | unsupportedFilterScalar (field type : String)
  /-- A map was given for a field, and it is no operator with a value. -/
  | malformedFilterSpec (field : String)
  /-- The verb is none of those known. -/
  | unimplementedVerb (token : String)
  /-- Something is missing or does not fit. -/
  | invalidRequest (reason : String)
  /-- A text that has to be a name in a document is none. -/
  | invalidName (name : String)
  /-- The response does not have the shape of the document. -/
  | malformedResponse (reason : String)
  /-- The description of the schema cannot be read. -/
  | invalidIntrospection (reason : String)
deriving DecidableEq, Repr

namespace Refusal

/-- A stable name of the cause. -/
def code : Refusal → String
  | resourceTypeUnresolved _ => "RESOURCE_TYPE_UNRESOLVED"
  | primaryKeyUnresolvable _ _ => "PRIMARY_KEY_UNRESOLVABLE"
  | unsupportedFilterScalar _ _ => "UNSUPPORTED_FILTER_SCALAR"
  | malformedFilterSpec _ => "MALFORMED_FILTER_SPEC"
  | unimplementedVerb _ => "UNIMPLEMENTED_VERB"
  | invalidRequest _ => "INVALID_REQUEST"
  | invalidName _ => "INVALID_NAME"
  | malformedResponse _ => "MALFORMED_RESPONSE"
  | invalidIntrospection _ => "INVALID_INTROSPECTION"

/-- The refusal in words. -/
def message : Refusal → String
  | resourceTypeUnresolved type =>
    s!"Type \"{type}\" did not exist in the introspection result."
  | primaryKeyUnresolvable type field =>
    s!"could not resolve the primary key of type \"{type}\": it has no field named \"{field}\""
  | unsupportedFilterScalar field type =>
    s!"filter for field \"{field}\" of type \"{type}\" has no default operator, " ++
      "pass a filter spec instead"
  | malformedFilterSpec field =>
    s!"filter for field \"{field}\" must be a filter spec with an `operator` and a `value`"
  | unimplementedVerb token => s!"{token} is not yet implemented."
  | invalidRequest reason => s!"invalid request: {reason}"
  | invalidName name => s!"\"{name}\" is not a valid GraphQL name"
  | malformedResponse reason => s!"response was malformed: {reason}"
  | invalidIntrospection reason => s!"introspection result could not be read: {reason}"

end Refusal

end CrudGraph
