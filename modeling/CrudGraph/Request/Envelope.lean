/-
Requests. A draft collects the variables of an operation with their values, so that declarations
and values cannot come apart. A finished request is an envelope: the document, the values of its
variables, and the way to decode the response.
-/
import CrudGraph.Document.Operation
import CrudGraph.Json.Writer
import CrudGraph.Omission
import CrudGraph.Request.Answer

namespace CrudGraph

-- ================================================================ drafts

/-- A variable of an operation: its declaration and its value. -/
structure Variable where
  name : Name
  type : TypeExpr
  value : Json

/-- An operation that is being put together. -/
structure Draft where
  kind : OperationKind
  name : Name
  bindings : List Variable := []
  selections : List Selection := []

namespace Draft

/-- An operation without variables and selections. -/
def start (kind : OperationKind) (name : String) : Except Refusal Draft := do
  return { kind, name := ← Name.ofText name }

/-- Declares a variable, which must not have been declared before. -/
def declare (draft : Draft) (variableName : String) (type : TypeExpr) (value : Json) :
    Except Refusal (Name × Draft) := do
  let name ← Name.ofText variableName
  if draft.bindings.any fun declared => declared.name = name then
    throw (.invalidRequest s!"variable `${variableName}` is declared twice")
  else return (name, { draft with bindings := draft.bindings ++ [⟨name, type, value⟩] })

/-- Adds a root field. -/
def select (draft : Draft) (selection : Selection) : Draft :=
  { draft with selections := draft.selections ++ [selection] }

/-- The operation without the values of its variables. -/
def definition (draft : Draft) : OperationDefinition where
  kind := draft.kind
  name := draft.name
  declarations := draft.bindings.map fun declared => ⟨declared.name, declared.type⟩
  selections := draft.selections

/-- The values of the variables. -/
def values (draft : Draft) : Table Json :=
  draft.bindings.map fun declared => (declared.name.text, declared.value)

end Draft

/-- The selection of a root operation with its arguments. -/
def Selection.call (responseName : Option Name) (operation : String)
    (arguments : List (String × Literal)) (selections : List Selection) :
    Except Refusal Selection := do
  let name ← Name.ofText operation
  let arguments ← arguments.mapM fun (argument, value) => do
    return (← Name.ofText argument, value)
  return .field responseName name arguments selections

-- ============================================================= envelopes

/-- A finished request. -/
structure Envelope where
  document : Document
  operationName : String
  values : Table Json
  decoder : Decoder

namespace Envelope

/-- The request that a draft has become. -/
def ofDraft (draft : Draft) (decoder : Decoder) : Envelope where
  document := ⟨[draft.definition]⟩
  operationName := draft.name.text
  values := draft.values
  decoder := decoder

/-- The body that is posted for a request. Without variables there is no member for them. -/
def body (envelope : Envelope) : Json :=
  .object <| [
    ("query", .string envelope.document.text),
    ("operationName", .string envelope.operationName)]
    ++ if envelope.values.isEmpty then [] else [("variables", .object envelope.values)]

/-- Decodes the response to a request. -/
def parseResponse (envelope : Envelope) (response : Json) : Except Refusal Answer :=
  envelope.decoder.decodeResponse response

end Envelope

end CrudGraph
