/-
Building requests from verbs, resources and parameters. A builder knows one schema and its
conventions. It keeps the primary keys that it has resolved; they depend on nothing else, so what
was built before never shows in what is built next.
-/
import CrudGraph.Request.Fetch
import CrudGraph.Request.Write
import CrudGraph.Strategy

namespace CrudGraph

/-- What requests are built with: a schema, its conventions, the strategies of its types, and the
keys resolved so far. -/
structure Builder where
  schema : Schema
  configuration : Configuration
  strategies : Strategies
  keys : PrimaryKey.Cache := []

namespace Builder

/-- A builder that has built nothing yet. The strategies given here come on top of those built in
and those of the configuration. -/
def new (schema : Schema) (configuration : Configuration) (strategies : Strategies) : Builder where
  schema := schema
  configuration := configuration
  strategies := Strategies.layered configuration strategies

/-- The request of a context. -/
def request (c : Context) (params : Params) : Reported Envelope :=
  match c.verb with
  | .getOne => c.getOne params
  | .getList => c.getList params
  | .getMany => c.getMany params
  | .getManyReference => c.getManyReference params
  | .create => c.create params
  | .update => c.update params
  | .updateMany => c.updateMany params
  | .delete => c.delete params
  | .deleteMany => c.deleteMany params

/-- The resource, its type and the verb that a request names. -/
def target (builder : Builder) (verb resource : String) :
    Except Refusal (Resource × NamedType × Verb) := do
  if verb.isEmpty then throw (.invalidRequest "the verb is empty")
  else
    let resource ← Resource.ofName resource
    match builder.schema.type? resource.typeName with
    | none => throw (.resourceTypeUnresolved resource.typeName)
    | some type => return (resource, type, ← Verb.parse verb)

/-- The request for a verb on a resource, with what was left out of it, and the builder afterwards.
The resource may be named in any number. -/
def build (builder : Builder) (verb resource : String) (params : Params) :
    Except Refusal (Envelope × List Omission) × Builder :=
  match builder.target verb resource with
  | .error refusal => (.error refusal, builder)
  | .ok (resource, type, verb) =>
    let (key, keys) := PrimaryKey.cached builder.schema resource builder.configuration.naming
      builder.keys
    let builder := { builder with keys := keys }
    match key with
    | .error refusal => (.error refusal, builder)
    | .ok key =>
      let context : Context := {
        schema := builder.schema
        configuration := builder.configuration
        strategies := builder.strategies
        resource := resource
        resourceType := type
        key := key
        verb := verb }
      let reported := request context params
      (reported.result.map fun envelope => (envelope, reported.omissions), builder)

end Builder

end CrudGraph
