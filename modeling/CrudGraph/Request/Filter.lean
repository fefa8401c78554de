/-
Filters. A caller's filter maps fields to values; the schema takes a conjunction of clauses, each a
field with an operator and a value. Which operator a plain value gets depends on its shape and on
the scalar of its field; a map names its operator itself and may name another field.
-/
import CrudGraph.Configuration.Basic
import CrudGraph.Json.Writer
import CrudGraph.Model.Schema
import CrudGraph.Omission

namespace CrudGraph

/-- An operator with its value, and the field to compare when it is another than the filter key. -/
structure FilterSpec where
  operator : String
  value : Json
  key : Option String := none

namespace Filter

-- ============================================================ normal form

/-- The operator and value for a plain value. Only scalars and enumerations have one. -/
def defaultSpec (operators : FilterOperators) (field : Field) (value : Json) :
    Except Refusal FilterSpec :=
  let base := field.type.base
  let type := field.type.baseText
  let isIn (scalars : List String) : Bool := base.kind = .scalar && scalars.contains type
  if !base.kind.isLeaf then .error (.unsupportedFilterScalar field.name type)
  else if isIn operators.stringScalars then .ok { operator := operators.stringOperator, value }
  else if isIn operators.fullTextScalars then
    .ok {
      operator := operators.fullTextOperator
      value := .string (value.token ++ operators.fullTextWildcard) }
  else .ok { operator := operators.equalityOperator, value }

/-- The specification that a map gives: an operator, a value, and perhaps another field. A null
value clears the key. -/
def explicitSpec (field : Field) (members : Table Json) : Except Refusal (Option FilterSpec) := do
  let malformed := Refusal.malformedFilterSpec field.name
  let some operator := Table.find? members "operator" >>= Json.text?
    | throw malformed
  let some value := Table.find? members "value"
    | throw malformed
  if value.isNull then return none
  else
    match Table.find? members "key" with
    | none | some .null => return some { operator, value }
    | some (.string key) => return some { operator, value, key := some key }
    | some _ => throw malformed

/-- The specification of the value given for a field; `none` when the key was cleared. -/
def normalize (operators : FilterOperators) (field : Field) (value : Json) :
    Except Refusal (Option FilterSpec) :=
  match value with
  | .null => .ok none
  | .array _ => .ok (some { operator := operators.listOperator, value })
  | .object members => explicitSpec field members
  | _ => some <$> defaultSpec operators field value

-- ============================================================ compilation

/-- The clause of a specification given under a key. -/
def clause (key : String) (spec : FilterSpec) : Json :=
  .object [(spec.key.getD key, .object [(spec.operator, spec.value)])]

/-- The clause of one entry of a filter, if it gives one. The entry of the condition is passed
over; an entry that names no field or has no value is left out. -/
def compileEntry (operators : FilterOperators) (type : NamedType) (key : String) (value : Json) :
    Reported (Option Json) :=
  if key = operators.conditionKey then pure none
  else
    match type.field? key with
    | none => do
      Reported.leaveOut (.unknownFilterKey type.name key)
      return none
    | some field => do
      match ← Filter.normalize operators field value with
      | none =>
        Reported.leaveOut (.clearedFilterKey key)
        return none
      | some spec => return some (clause key spec)

/-- The clauses of a filter, in order. -/
def clauses (operators : FilterOperators) (type : NamedType) :
    List (String × Json) → Reported (List Json)
  | [] => pure []
  | (key, value) :: rest => do
    let first ← compileEntry operators type key value
    let others ← clauses operators type rest
    return first.toList ++ others

/-- The conjunction of the clauses of a filter, if there are any. -/
def compile (operators : FilterOperators) (type : NamedType) (filter : Table Json) :
    Reported (Option Json) := do
  let clauses ← clauses operators type filter
  return if clauses.isEmpty then none else some (.object [("and", .array clauses)])

end Filter

end CrudGraph
