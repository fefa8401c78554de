/-
Configurations from YAML text. A text is refused when it holds no data, when the data is no
configuration, or when a name is empty that requests are built with. What is accepted has all the
names that it needs.
-/
import CrudGraph.Configuration.Written
import CrudGraph.Yaml.Document

namespace CrudGraph

/-- Why a text is no configuration. -/
inductive ConfigurationError where
  /-- The text does not hold the data of a single document. -/
  | noData
  /-- The data is not laid out as a configuration is. -/
  | misread (failure : Reading.Failure)
  /-- Names that must not be empty are, by where they are configured. -/
  | emptyNames (places : List String)
deriving DecidableEq, Repr

/-- The error in words. -/
def ConfigurationError.message : ConfigurationError → String
  | noData => "could not deserialize configuration: the text is not a YAML document"
  | misread failure => "could not deserialize configuration: " ++ failure.text
  | emptyNames places =>
    "configured names must not be empty: "
      ++ ", ".intercalate (places.map fun place => s!"`{place}`") ++ " is empty"

namespace Configuration

/-- A configuration all of whose required names are there. -/
def validate (configuration : Configuration) : Except ConfigurationError Configuration :=
  if configuration.emptyNames.isEmpty then .ok configuration
  else .error (.emptyNames configuration.emptyNames)

/-- The configuration that data holds. What it leaves out takes its default. -/
def ofNode {ν : Type} [Reading.Node ν] (node : ν) : Except ConfigurationError Configuration :=
  match Configuration.layout.read {} node with
  | .ok configuration => configuration.validate
  | .error failure => .error (.misread failure)

/-- The configuration that a YAML text holds. -/
def ofYaml (text : String) : Except ConfigurationError Configuration :=
  match Yaml.ofText? text with
  | some node => ofNode node
  | none => .error .noData

/-- A text is accepted where the node that it holds is. -/
theorem ofYaml_eq_ok_iff {text : String} {configuration : Configuration} :
    ofYaml text = .ok configuration
      ↔ ∃ node, Yaml.ofText? text = some node ∧ ofNode node = .ok configuration := by
  unfold ofYaml
  cases Yaml.ofText? text with
  | none => exact iff_of_false (fun h => by cases h) fun ⟨_, hnode, _⟩ => by cases hnode
  | some node =>
    constructor
    · exact fun h => ⟨node, rfl, h⟩
    · rintro ⟨_, hnode, h⟩
      cases hnode
      exact h

/-- A configuration passes where none of its names is empty, and it passes as it is. -/
theorem validate_eq_ok_iff {configuration accepted : Configuration} :
    configuration.validate = .ok accepted ↔
      configuration.emptyNames = [] ∧ accepted = configuration := by
  unfold validate
  split
  · next h => simp [List.isEmpty_iff.1 h, eq_comm]
  · next h => simp [List.isEmpty_iff] at h; simp [h]

end Configuration

end CrudGraph
