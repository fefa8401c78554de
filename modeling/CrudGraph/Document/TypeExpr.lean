/-
Types as documents write them, for the declaration of a variable. Exclusion of null belongs to the
name or the list that it follows, so it cannot be applied twice.
-/
import CrudGraph.Document.Name
import CrudGraph.Model.TypeRef

namespace CrudGraph

/-- A type as documents write it. -/
inductive TypeExpr where
  | named (name : Name)
  | nonNullNamed (name : Name)
  | list (item : TypeExpr)
  | nonNullList (item : TypeExpr)
deriving DecidableEq

namespace TypeExpr

/-- The text of a type. -/
def text : TypeExpr → String
  | named name => name.text
  | nonNullNamed name => name.text ++ "!"
  | list item => "[" ++ item.text ++ "]"
  | nonNullList item => "[" ++ item.text ++ "]!"

/-- The name inside all lists. -/
def innermost : TypeExpr → Name
  | named name | nonNullNamed name => name
  | list item | nonNullList item => item.innermost

/-- Whether null is excluded. -/
def isNonNull : TypeExpr → Bool
  | nonNullNamed _ | nonNullList _ => true
  | named _ | list _ => false

/-- The type without null excluded. -/
def nullable : TypeExpr → TypeExpr
  | nonNullNamed name => named name
  | nonNullList item => list item
  | type => type

/-- The type with null excluded, unless it is already. -/
def nonNull? : TypeExpr → Option TypeExpr
  | named name => some (nonNullNamed name)
  | list item => some (nonNullList item)
  | nonNullNamed _ | nonNullList _ => none

end TypeExpr

namespace TypeRef

/-- A reference that lacks what it wraps, or its name. -/
def malformed : Refusal :=
  .invalidIntrospection "type reference is missing its wrapped type or name"

/-- The type that a reference describes. -/
def toExpr : TypeRef → Except Refusal TypeExpr
  | .wrapping .nonNull _ inner => do
    match (← inner.toExpr).nonNull? with
    | some type => return type
    | none => throw malformed
  | .wrapping .list _ inner => return .list (← inner.toExpr)
  | .bare .nonNull _ | .bare .list _ => throw malformed
  | .bare _ name | .wrapping _ name _ =>
    match name with
    | some name => return .named (← Name.ofText name)
    | none => throw malformed

end TypeRef

end CrudGraph
