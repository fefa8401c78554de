/-
Documents: a list of operations, each with its declared variables and its selections. Their text
stands on one line.
-/
import CrudGraph.Document.Literal
import CrudGraph.Document.TypeExpr

namespace CrudGraph

-- ============================================================= selections

/-- A selected field: the key its value comes back under when that is not its name, its arguments,
and what is selected of its value. -/
inductive Selection where
  | field (responseName : Option Name) (name : Name) (arguments : List (Name × Literal))
    (selections : List Selection)

namespace Selection

/-- The key that is asked for in place of the field's name. -/
def responseName? : Selection → Option Name
  | field responseName _ _ _ => responseName

/-- The name of the field. -/
def name : Selection → Name
  | field _ name _ _ => name

/-- The arguments of the field. -/
def arguments : Selection → List (Name × Literal)
  | field _ _ arguments _ => arguments

/-- What is selected of the field's value. -/
def selections : Selection → List Selection
  | field _ _ _ selections => selections

/-- The key that the value comes back under. -/
def responseKey (s : Selection) : Name :=
  s.responseName?.getD s.name

/-- A field without arguments of which nothing further is selected. -/
def leaf (name : Name) : Selection :=
  .field none name [] []

mutual

/-- The variables that the arguments of a field and of the fields under it refer to. -/
def references : Selection → List Name
  | field _ _ arguments selections =>
    Literal.referencesOfFields arguments ++ referencesOfAll selections

/-- The variables that selections refer to. -/
def referencesOfAll : List Selection → List Name
  | [] => []
  | s :: rest => s.references ++ referencesOfAll rest

end

/-- Arguments in parentheses, nothing where there are none. -/
def textOfArguments (arguments : List (Name × Literal)) : String :=
  if arguments.isEmpty then ""
  else "(" ++ ", ".intercalate (Literal.textFields arguments) ++ ")"

mutual

/-- The text of a selection. -/
def text : Selection → String
  | field responseName name arguments selections =>
    (match responseName with
      | some key => key.text ++ ": "
      | none => "")
      ++ name.text ++ textOfArguments arguments
      ++ (match selections with
        | [] => ""
        | selections => " \x7b " ++ " ".intercalate (texts selections) ++ " \x7d")

/-- The texts of selections. -/
def texts : List Selection → List String
  | [] => []
  | s :: rest => s.text :: texts rest

end

end Selection

-- ============================================================= operations

/-- What an operation does. -/
inductive OperationKind where
  | query
  | mutation
deriving DecidableEq, Repr

/-- The word an operation begins with. -/
def OperationKind.text : OperationKind → String
  | query => "query"
  | mutation => "mutation"

/-- The declaration of a variable. -/
structure VariableDefinition where
  name : Name
  type : TypeExpr
deriving DecidableEq

/-- The text of a declaration. -/
def VariableDefinition.text (definition : VariableDefinition) : String :=
  "$" ++ definition.name.text ++ ": " ++ definition.type.text

/-- A named operation. -/
structure OperationDefinition where
  kind : OperationKind
  name : Name
  declarations : List VariableDefinition
  selections : List Selection

namespace OperationDefinition

/-- The variables that an operation refers to, in order, each as often as it occurs. -/
def references (definition : OperationDefinition) : List Name :=
  Selection.referencesOfAll definition.selections

/-- The text of an operation. -/
def text (definition : OperationDefinition) : String :=
  definition.kind.text ++ " " ++ definition.name.text
    ++ (if definition.declarations.isEmpty then ""
      else "(" ++ ", ".intercalate (definition.declarations.map (·.text)) ++ ")")
    ++ " \x7b " ++ " ".intercalate (Selection.texts definition.selections) ++ " \x7d"

end OperationDefinition

/-- A document. -/
structure Document where
  operations : List OperationDefinition

/-- The text of a document. -/
def Document.text (document : Document) : String :=
  " ".intercalate (document.operations.map (·.text))

end CrudGraph
