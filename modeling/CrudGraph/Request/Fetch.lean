/-
Requests that read records: one by its identifier, a page of a list, many by their identifiers, and
those that another record is related to.
-/
import CrudGraph.Request.Batch
import CrudGraph.Request.Context
import CrudGraph.Request.Filter
import CrudGraph.Request.SortKey

namespace CrudGraph.Context

variable (c : Context)

-- ============================================================== one record

/-- One record: `single(id: $id) { … }`. -/
def getOne (params : Params) : Reported Envelope := do
  let raw ← c.requireId params
  let operation := c.key.singleOperation
  c.requireOperation operation
  let selections ← c.select
  let draft ← Draft.start .query operation
  let type ← c.idType operation
  let (id, draft) ← draft.declare c.key.idArgumentName type (c.encodeId raw)
  let root ← Selection.call none operation [(c.key.idArgumentName, .reference id)] selections
  return .ofDraft (draft.select root) (.record operation)

-- ================================================================== a list

/-- A number of a page as an integer of 32 bits, which is what schemas take. -/
def pageNumber (name : String) (value : Option UInt64) : Except Refusal Json :=
  match value.filter fun value => Width.fitsSigned 32 value.toNat with
  | some value => .ok (.integer value.toNat)
  | none => .error (.invalidRequest s!"pagination `{name}` does not fit in a GraphQL Int")

/-- The value of the ordering that a request asks for. Under the uniform identifier the key field
is meant. -/
def sortKey (sort : SortBy) : String :=
  let field :=
    if c.key.aliasRequired && sort.field == c.configuration.naming.identifierName then
      c.key.fieldName
    else sort.field
  SortKey.ofField field sort.order

/-- The ordering to send, if the operation offers any besides the natural one. A value that the
ordering does not have gives way to the natural one. -/
def orderBy (sort : Option SortBy) : Reported (Option Json) :=
  let operation := c.resource.plural
  let natural := c.configuration.naming.naturalOrdering
  match c.schema.orderingEnum? operation "orderBy" natural, sort with
  | none, none => pure none
  | none, some _ => do
    Reported.leaveOut (.unsupportedArgument operation "orderBy")
    return none
  | some _, none => pure (some (.array [.string natural]))
  | some ordering, some sort =>
    let key := c.sortKey sort
    if ordering.hasEnumValue key then pure (some (.array [.string key]))
    else do
      Reported.leaveOut (.unknownSortKey operation key)
      return some (.array [.string natural])

/-- Passes on values as arguments of a list operation, each through a variable of its name. What
the operation does not declare is left out. -/
def passArguments (operation : String) (draft : Draft) :
    List (String × Option Json) → Reported (List (String × Literal) × Draft)
  | [] => pure ([], draft)
  | (_, none) :: rest => passArguments operation draft rest
  | (argument, some value) :: rest =>
    match c.schema.argument? operation argument with
    | none => do
      Reported.leaveOut (.unsupportedArgument operation argument)
      passArguments operation draft rest
    | some declared => do
      let type ← declared.type.toExpr
      let (name, draft) ← draft.declare argument type value
      let (arguments, draft) ← passArguments operation draft rest
      return ((argument, .reference name) :: arguments, draft)

/-- Whether the connection that an operation returns has a total. -/
def hasTotal (operation : String) : Bool :=
  (c.schema.returnType? operation).any fun connection => (connection.field? "totalCount").isSome

/-- A page of a list: `plural(first: $first, offset: $offset, filter: $filter,
condition: $condition, orderBy: $orderBy) { nodes { … } totalCount }`, with those of the last three
arguments that the operation declares and that have a value. -/
def getListBy (params : Params) (filter : Table Json) : Reported Envelope := do
  let operation := c.resource.plural
  c.requireOperation operation
  let operators := c.configuration.filters
  let compiled ← Filter.compile operators c.resourceType filter
  let condition := (Table.find? filter operators.conditionKey).filter fun value => !value.isNull
  let selections ← c.select
  let pagination := params.pagination.getD .first
  let draft ← Draft.start .query operation
  let first ← pageNumber "perPage" (some pagination.perPage)
  let offset ← pageNumber "offset" pagination.offset?
  let int ← Name.ofText "Int"
  let (firstName, draft) ← draft.declare "first" (.nonNullNamed int) first
  let (offsetName, draft) ← draft.declare "offset" (.nonNullNamed int) offset
  let order ← c.orderBy params.sort
  let (passed, draft) ← c.passArguments operation draft
    [("filter", compiled), ("condition", condition), ("orderBy", order)]
  let total := c.hasTotal operation
  let nodes ← Selection.call none "nodes" [] selections
  let totals ← if total then do pure [Selection.leaf (← Name.ofText "totalCount")] else pure []
  let root ← Selection.call none operation
    (("first", .reference firstName) :: ("offset", .reference offsetName) :: passed)
    (nodes :: totals)
  return .ofDraft (draft.select root) (.connection operation total)

/-- A page of the records that a filter leaves. -/
def getList (params : Params) : Reported Envelope :=
  c.getListBy params params.filter

-- ============================================================ many records

/-- Many records, each by an aliased operation on one. -/
def getManyByLookup (ids : List Json) : Reported Envelope := do
  c.requireSome ids
  let operation := c.key.singleOperation
  c.requireOperation operation
  let selections ← c.select
  let type ← c.idType operation
  let draft ← Draft.start .query c.resource.plural
  let batch : Batch := {
    operation, type, selections
    lead := "k"
    argument := c.key.idArgumentName
    variableLead := c.key.idArgumentName
    valueOf := c.encodeId }
  let (aliases, draft) ← batch.addTo draft [] [] ids
  return .ofDraft draft (.records (aliases.map (·.text)))

/-- Many records: `plural(filter: {key: {in: $ids}}) { nodes { … } }`, the whole list where the
operation takes no filter. Resources that are addressed through the synthetic identifier are looked
up one by one. -/
def getMany (params : Params) : Reported Envelope := do
  let ids := givenIds params
  if c.key.aliasRequired then c.getManyByLookup ids
  else
    let operation := c.resource.plural
    c.requireOperation operation
    let selections ← c.select
    let draft ← Draft.start .query operation
    let (arguments, draft) ←
      if c.schema.supportsArgument operation "filter" then do
        let scalar ← Name.ofText c.key.scalarType
        let (name, draft) ← draft.declare "ids" (.list (.nonNullNamed scalar))
          (.array (ids.map c.encodeKey))
        let operator ← Name.ofText c.configuration.filters.listOperator
        let field ← Name.ofText c.key.fieldName
        pure ([("filter", .object [(field, .object [(operator, .reference name)])])], draft)
      else pure (([] : List (String × Literal)), draft)
    let nodes ← Selection.call none "nodes" [] selections
    let root ← Selection.call none operation arguments [nodes]
    return .ofDraft (draft.select root) (.connection operation false)

-- ========================================================== related records

/-- The filter of a relation: the encoded identifier under the field that relates, then the
caller's entries, each in place of one of the same name. -/
def relationFilter (target : String) (id : Json) (filter : Table Json) : Table Json :=
  let related :=
    match c.resourceType.field? target >>= (·.type.baseName) with
    | some scalar => c.encode scalar id
    | none => id
  filter.foldl (fun t entry => Table.insert t entry.1 entry.2) [(target, related)]

/-- A page of the records that a field relates to the identified one. -/
def getManyReference (params : Params) : Reported Envelope := do
  match params.target.filter fun target => !target.isEmpty with
  | none => Reported.refuse (.invalidRequest "GET_MANY_REFERENCE requires a `target`")
  | some target =>
    let id ← c.requireId params
    c.getListBy params (c.relationFilter target id params.filter)

end CrudGraph.Context
