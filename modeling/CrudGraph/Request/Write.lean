/-
Requests that write records: one by one, or many with one operation each. Mutations take a single
argument `input`; what it is made of follows from the input types that the schema declares.
-/
import CrudGraph.Request.Batch
import CrudGraph.Request.Context

namespace CrudGraph.Context

variable (c : Context)

-- ================================================================== inputs

/-- The type of a field of the input of an operation. -/
def nestedInputType (operation field : String) : Option NamedType :=
  c.schema.argumentType? operation "input" >>= fun input =>
    input.inputField? field >>= fun value => c.schema.typeOf? value.type

/-- The type of the record that an operation creates. -/
def recordType (operation : String) : Option NamedType :=
  (c.nestedInputType operation c.resource.single).or
    (c.schema.type? (c.resource.typeName ++ "Input"))

/-- The type of the patch that an operation applies. -/
def patchType (operation : String) : Option NamedType :=
  (c.nestedInputType operation "patch").or (c.schema.type? (c.resource.typeName ++ "Patch"))

/-- The form in which an input takes a value of a field of the resource. -/
def inputValue (field : String) (value : Json) : Json :=
  let coerced := c.resourceType.field? field >>= (·.type.baseName) >>= fun type =>
    c.strategies.coerce? type value
  coerced.getD value

/-- The data of a caller in the shape of an input type: the fields that the type declares, in its
order. Without a type all data is passed on. -/
def inputData (type : Option NamedType) (data : Table Json) : Table Json :=
  match type with
  | some type =>
    Table.ofList <| type.inputFields.filterMap fun field =>
      (Table.find? data field.name).map fun value => (field.name, c.inputValue field.name value)
  | none => data.map fun (field, value) => (field, c.inputValue field value)

/-- The type of the input of an operation that declares none. -/
def defaultInputType (operation : String) : Except Refusal TypeExpr := do
  return .nonNullNamed (← Name.ofText (Text.capitalize operation ++ "Input"))

/-- The type of the input of an operation. -/
def inputType (operation : String) : Except Refusal TypeExpr := do
  c.argumentType operation "input" (← defaultInputType operation)

-- ============================================================== one record

/-- One record: `operation(input: $input) { single { … } }`. -/
def writeRecord (operation : String) (input : Table Json) : Reported Envelope := do
  let selections ← c.select
  let draft ← Draft.start .mutation operation
  let type ← c.inputType operation
  let (name, draft) ← draft.declare "input" type (.object input)
  let record ← Selection.call none c.resource.single [] selections
  let root ← Selection.call none operation [("input", .reference name)] [record]
  return .ofDraft (draft.select root) (.payloadRecord operation c.resource.single)

/-- Creates a record from data. -/
def create (params : Params) : Reported Envelope := do
  let operation := "create" ++ c.resource.typeName
  c.requireOperation operation
  let data := c.inputData (c.recordType operation) params.data
  c.writeRecord operation [(c.resource.single, .object data)]

/-- Applies data to a record. -/
def update (params : Params) : Reported Envelope := do
  let raw ← c.requireId params
  let operation := c.key.updateOperation
  c.requireOperation operation
  let patch := c.inputData (c.patchType operation) params.data
  c.writeRecord operation
    (Table.ofList [(c.key.idArgumentName, c.encodeId raw), ("patch", .object patch)])

/-- Deletes a record. -/
def delete (params : Params) : Reported Envelope := do
  let raw ← c.requireId params
  let operation := c.key.deleteOperation
  c.requireOperation operation
  c.writeRecord operation [(c.key.idArgumentName, c.encodeId raw)]

-- ============================================================ many records

/-- Whether the input of an operation takes a token for the client. -/
def acceptsToken (operation : String) : Bool :=
  (c.schema.argumentType? operation "input").any fun input =>
    (input.inputField? c.configuration.naming.clientMutationId).isSome

/-- Whether the payload of an operation gives back a token of the client. -/
def echoesToken (operation : String) : Bool :=
  (c.schema.returnType? operation).any fun payload =>
    (payload.field? c.configuration.naming.clientMutationId).isSome

/-- The field of the inputs that takes a token, if there is one. -/
def tokenField (operation : String) : Option String :=
  if c.acceptsToken operation then some c.configuration.naming.clientMutationId else none

/-- The field of the payloads in which a token comes back, if one was sent and does. -/
def echoField (operation : String) : Option String :=
  if c.acceptsToken operation && c.echoesToken operation then
    some c.configuration.naming.clientMutationId
  else none

/-- The input of one operation of a batch: the identifier, its token under the field that takes it,
and the data that all operations share. -/
def batchInput (operation : String) (patch : Option (Table Json)) (id : Json) : Table Json :=
  Table.ofList <|
    (c.key.idArgumentName, c.encodeId id)
      :: ((c.tokenField operation).map fun field => (field, Json.string id.token)).toList
      ++ (patch.map fun patch => ("patch", Json.object patch)).toList

/-- One operation for each identifier. Where both the input and the payload have the field for it,
a token is sent and comes back; otherwise nothing of the payloads is needed. -/
def writeMany (params : Params) (operation label lead : String) (patch : Option (Table Json)) :
    Reported Envelope := do
  let ids := givenIds params
  c.requireSome ids
  let type ← c.inputType operation
  let payload ← Name.ofText ((c.echoField operation).getD "__typename")
  let draft ← Draft.start .mutation label
  let batch : Batch := {
    operation, lead, type
    argument := "input"
    variableLead := "arg"
    valueOf := fun id => .object (c.batchInput operation patch id)
    selections := [.leaf payload] }
  let (aliases, draft) ← batch.addTo draft [] [] ids
  return .ofDraft draft
    (.identifiers ((aliases.map (·.text)).zip ids) (c.echoField operation))

/-- Applies the same data to many records. -/
def updateMany (params : Params) : Reported Envelope := do
  let operation := c.key.updateOperation
  c.requireOperation operation
  let patch := c.inputData (c.patchType operation) params.data
  c.writeMany params operation ("updateMany" ++ c.resource.typeName) "update" (some patch)

/-- Deletes many records. -/
def deleteMany (params : Params) : Reported Envelope := do
  let operation := c.key.deleteOperation
  c.requireOperation operation
  c.writeMany params operation ("deleteMany" ++ c.resource.typeName) "k" none

end CrudGraph.Context
