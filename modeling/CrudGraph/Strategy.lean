/-
How a type is treated while fields are selected and inputs are filled in. A strategy answers four
questions and may answer any of them in its own way; left alone, it shows every field, does not
expand, computes no arguments and coerces nothing.

Strategies are composed of independent parts: which fields are selected, whether the type is
expanded, how arguments are computed and how values are coerced. A part that is not given takes the
default of a strategy.
-/
import CrudGraph.Configuration.Basic
import CrudGraph.Model.Schema
import CrudGraph.Text.Quoted
import CrudGraph.Verb

namespace CrudGraph

-- ========================================================== strategies

/-- How a type is treated. -/
structure Strategy where
  /-- Whether a field is selected by requests of a verb. -/
  isFieldVisible : String → Verb → Bool := fun _ _ => true
  /-- Whether fields of this type are selected with a nested selection. -/
  isExpanded : Bool := false
  /-- The arguments of a field, computed from its name and what it declares. -/
  argumentsForField : String → List InputValue → Option (Table Json) := fun _ _ => none
  /-- The form in which an input takes a value that a query returned. -/
  coerceInputValue : Json → Option Json := fun _ => none

/-- Strategies by type name. -/
abbrev Strategies := Table Strategy

namespace Strategies

/-- Adds strategies, each in place of one of the same type. -/
def extend (strategies others : Strategies) : Strategies :=
  others.foldl (fun t entry => Table.insert t entry.1 entry.2) strategies

/-- The form in which an input takes a value of a type, when that type has a coercion. -/
def coerce? (strategies : Strategies) (type : String) (value : Json) : Option Json :=
  Table.find? strategies type >>= fun strategy => strategy.coerceInputValue value

end Strategies

-- =============================================================== parts

/-- A set of fields, listed or given by a rule. -/
inductive FieldSelector where
  | names (names : List String)
  | rule (holds : String → Verb → Bool)

/-- Whether a field belongs to the set for requests of a verb. -/
def FieldSelector.selects (selector : FieldSelector) (field : String) (verb : Verb) : Bool :=
  match selector with
  | .names listed => listed.contains field
  | .rule holds => holds field verb

/-- The parts of a strategy. -/
structure ComposedStrategy where
  includeFields : Option FieldSelector := none
  excludeFields : Option FieldSelector := none
  expand : Bool := false
  computeArguments : Option (String → List InputValue → Option (Table Json)) := none
  coerce : Option (Json → Json) := none

namespace ComposedStrategy

/-- Whether a field is selected. Where fields to include are given, those to exclude do not
count. -/
def isFieldVisible (parts : ComposedStrategy) (field : String) (verb : Verb) : Bool :=
  match parts.includeFields, parts.excludeFields with
  | some included, _ => included.selects field verb
  | none, some excluded => !excluded.selects field verb
  | none, none => true

/-- The strategy that the parts make up. -/
def toStrategy (parts : ComposedStrategy) : Strategy where
  isFieldVisible := parts.isFieldVisible
  isExpanded := parts.expand
  argumentsForField field args := parts.computeArguments >>= fun compute => compute field args
  coerceInputValue value := parts.coerce.map fun coerce => coerce value

/-- The parts that a declaration gives. -/
def ofDeclared (declared : DeclaredType) : ComposedStrategy where
  includeFields := declared.includeFields.map .names
  excludeFields := declared.excludeFields.map .names
  expand := declared.expand

-- ================================================================== text

/-- A set of fields, for display. -/
def textOfSelector : Option FieldSelector → String
  | none => "None"
  | some (.names names) => "Some(Names([" ++ ", ".intercalate (names.map Text.quoted) ++ "]))"
  | some (.rule _) => "Some(Predicate(..))"

/-- The parts, for display. Of functions it only shows whether they are given. -/
def text (parts : ComposedStrategy) : String :=
  "TypeConfig \x7b include_fields: " ++ textOfSelector parts.includeFields
    ++ ", exclude_fields: " ++ textOfSelector parts.excludeFields
    ++ ", expand: " ++ toString parts.expand
    ++ ", compute_arguments_for_field: " ++ toString parts.computeArguments.isSome
    ++ ", query_value_to_input_value: " ++ toString parts.coerce.isSome ++ " \x7d"

end ComposedStrategy

namespace Strategies

/-- The types of geometry columns. They are expanded, and written back as their `geojson`
member. -/
def geometry : ComposedStrategy where
  expand := true
  coerce := some fun value => (value.member? "geojson").getD value

/-- The strategies that hold for every schema unless others take their place. -/
def builtIn : Strategies :=
  ["GeometryPoint", "GeometryGeometry", "GeographyPoint"].map fun type =>
    (type, geometry.toStrategy)

/-- The strategies in force: those built in, those that the configuration declares, and those given
besides, a later one in place of an earlier one of the same type. -/
def layered (configuration : Configuration) (others : Strategies) : Strategies :=
  let declared := configuration.types.map fun (type, declared) =>
    (type, (ComposedStrategy.ofDeclared declared).toStrategy)
  (builtIn.extend declared).extend others

end Strategies

end CrudGraph
