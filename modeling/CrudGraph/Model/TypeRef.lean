/-
References to types. A reference either names a type or wraps another reference; which of the two
it is does not follow from its kind, since introspection data may be malformed: a list may lack
what it is a list of, and a scalar may wrap something.
-/
import CrudGraph.Json.Basic

namespace CrudGraph

/-- The kind of a type or of a reference to one. -/
inductive TypeKind where
  | scalar
  | object
  | interface
  | union
  | enum
  | inputObject
  | list
  | nonNull
deriving DecidableEq, Repr

namespace TypeKind

/-- All kinds, in the order in which messages list them. -/
def all : List TypeKind :=
  [scalar, object, interface, union, enum, inputObject, list, nonNull]

/-- The name of a kind in introspection data. -/
def text : TypeKind → String
  | scalar => "SCALAR"
  | object => "OBJECT"
  | interface => "INTERFACE"
  | union => "UNION"
  | enum => "ENUM"
  | inputObject => "INPUT_OBJECT"
  | list => "LIST"
  | nonNull => "NON_NULL"

/-- The kind of a name. -/
def ofText? (s : String) : Option TypeKind :=
  all.find? (·.text == s)

/-- The texts of the kinds are all different, so each is read back. -/
theorem ofText?_text (kind : TypeKind) : ofText? kind.text = some kind := by
  cases kind <;> decide

/-- Kinds whose values need a selection when they are queried. -/
def isComposite : TypeKind → Bool
  | object | interface | union => true
  | _ => false

/-- Kinds whose values are written as they are. -/
def isLeaf : TypeKind → Bool
  | scalar | enum => true
  | _ => false

end TypeKind

/-- A reference to a type, bare or wrapping another reference. -/
inductive TypeRef where
  | bare (kind : TypeKind) (name : Option String)
  | wrapping (kind : TypeKind) (name : Option String) (inner : TypeRef)
deriving DecidableEq, Repr

namespace TypeRef

/-- The reference to a named type. -/
def named (kind : TypeKind) (name : String) : TypeRef :=
  .bare kind (some name)

/-- The reference to lists of `inner`. -/
def listOf (inner : TypeRef) : TypeRef :=
  .wrapping .list none inner

/-- The reference to values of `inner` that are never null. -/
def nonNullOf (inner : TypeRef) : TypeRef :=
  .wrapping .nonNull none inner

/-- The kind at the outside. -/
def kind : TypeRef → TypeKind
  | .bare kind _ | .wrapping kind _ _ => kind

/-- The name at the outside, which wrappers do not have. -/
def name : TypeRef → Option String
  | .bare _ name | .wrapping _ name _ => name

/-- Whether null is excluded. -/
def isNonNull (t : TypeRef) : Bool :=
  t.kind = .nonNull

/-- The reference without a non-null wrapper around it; only one is taken off. -/
def nullable : TypeRef → TypeRef
  | .wrapping .nonNull _ inner => inner
  | t => t

/-- The innermost reference. -/
def base : TypeRef → TypeRef
  | .wrapping _ _ inner => base inner
  | t => t

/-- The name of the innermost reference. -/
def baseName (t : TypeRef) : Option String :=
  t.base.name

/-- The name of the innermost reference, empty where it has none. -/
def baseText (t : TypeRef) : String :=
  t.baseName.getD ""

end TypeRef

end CrudGraph
