/-
The operators of a configuration and the clauses of a filter. A filter may leave the operator of an
entry to the configuration, and the clause then has one of four: that of lists, of texts, of words
or of equality. A configuration is read once, and what it lacks should be found then, when all that
is known is the configuration itself.

# What is shown

A configuration that was accepted has all names that it is asked for
(`Configuration.named_of_ofNode`), and among these are the operators of lists and of equality, but
not the other two. So a clause without a specification of its own has an operator unless its field
is one of texts, or of words, and the configuration has the empty text for just that
(`Filter.operator_of_ofNode_iff`). The empty text is a name that can be configured: what is asked
for then is an operator without a name (`Filter.nameless_of_ofYaml`).

# How

None of this depends on the format in which a configuration is written. A node of any format is
accepted by the same check, and the check is all that the proof reads; a document comes in only as
the text of a node (`Configuration.ofYaml_eq_ok_iff`).

The value of an entry decides between the operator of lists and that of the entry's field, and the
field between the other three (`Filter.Compares`). Each of the four cases is compared with what the
configuration was asked for.
-/
import CrudGraph.Configuration.Loaded
import CrudGraph.Proofs.Conjunction
import CrudGraph.Proofs.Matching

namespace CrudGraph

namespace Configuration

-- ========================================================= what is accepted

/-- No name is empty just where each that is asked for is a name. -/
theorem emptyNames_eq_nil_iff {configuration : Configuration} :
    configuration.emptyNames = [] ↔ ∀ required ∈ configuration.requiredNames, required.2 ≠ "" := by
  rw [emptyNames, List.map_eq_nil_iff, List.filter_eq_nil_iff]
  simp only [String.isEmpty_iff, ne_eq]

section

variable {ν : Type} [Reading.Node ν] {node : ν} {configuration : Configuration}

/-- What is accepted has all the names that it is asked for. -/
theorem named_of_ofNode (h : ofNode node = .ok configuration) :
    ∀ required ∈ configuration.requiredNames, required.2 ≠ "" := by
  unfold ofNode at h
  split at h
  · obtain ⟨hnamed, rfl⟩ := validate_eq_ok_iff.1 h
    exact emptyNames_eq_nil_iff.1 hnamed
  · cases h

/-- What is accepted has an operator for lists and one for equality. -/
theorem operators_of_ofNode (h : ofNode node = .ok configuration) :
    configuration.filters.listOperator ≠ "" ∧ configuration.filters.equalityOperator ≠ "" := by
  have hnamed := named_of_ofNode h
  constructor
  · apply hnamed ("filters.list_operator", _)
    simp [requiredNames]
  · apply hnamed ("filters.equality_operator", _)
    simp [requiredNames]

end

end Configuration

namespace Filter

variable {operators : FilterOperators} {type : NamedType} {field : Field} {key : String}
  {value : Json}

-- =============================================================== operators

/-- A value that is no specification, so that its operator is that of the configuration. -/
def Unspecified (value : Json) : Prop :=
  ∀ members, value ≠ .object members

/-- The operator that a field is compared by has no name. -/
inductive Nameless (operators : FilterOperators) (field : Field) : Prop
  | text (text : IsScalarOf field operators.stringScalars) (empty : operators.stringOperator = "")
  | words (other : ¬IsScalarOf field operators.stringScalars)
      (words : IsScalarOf field operators.fullTextScalars) (empty : operators.fullTextOperator = "")

/-- Where equality has a name, only texts and words can be without one. -/
theorem Compares.eq_empty_iff {operator : String} {compared : Json}
    (h : Compares operators field value operator compared)
    (hequality : operators.equalityOperator ≠ "") :
    operator = "" ↔ Nameless operators field := by
  cases h with
  | text htext =>
    constructor
    · exact .text htext
    · intro hnameless
      cases hnameless with
      | text _ hempty => exact hempty
      | words hother => exact absurd htext hother
  | words hother hwords =>
    constructor
    · exact .words hother hwords
    · intro hnameless
      cases hnameless with
      | text htext => exact absurd htext hother
      | words _ _ hempty => exact hempty
  | whole hother hanother =>
    refine iff_of_false hequality fun hnameless => ?_
    cases hnameless with
    | text htext => exact hother htext
    | words _ hwords => exact hanother hwords

/-- A value without an operator of its own is compared with the entry's field, a list by the
operator of lists and anything else by that of the field. -/
theorem operator_of_normalize {spec : FilterSpec} (hvalue : Unspecified value)
    (h : normalize operators field value = .ok (some spec)) :
    spec.key = none
      ∧ ((∃ items, value = .array items) ∧ spec.operator = operators.listOperator
        ∨ (∀ items, value ≠ .array items)
          ∧ Compares operators field value spec.operator spec.value) := by
  cases value with
  | null => cases h
  | object members => exact absurd rfl (hvalue members)
  | array items =>
      cases h
      exact ⟨rfl, .inl ⟨⟨items, rfl⟩, rfl⟩⟩
  | bool | integer | double | string =>
      unfold normalize at h
      obtain ⟨found, hdefault, hspec⟩ := bind_eq_ok_iff.1 h
      cases hspec
      exact ⟨key_of_defaultSpec hdefault, .inr ⟨fun _ hitems => (by cases hitems),
        compares_of_defaultSpec hdefault⟩⟩

/-- The clause of an entry without a specification has an operator, unless its value is no list and
the operator of its field has no name. -/
theorem Compiled.operator_iff (hlist : operators.listOperator ≠ "")
    (hequality : operators.equalityOperator ≠ "") {clause : Json} {omission : Option Omission}
    (h : Compiled operators type key value (some clause) omission) (hvalue : Unspecified value) :
    ∃ field operator compared, type.field? key = some field
      ∧ clause = clauseOf key operator compared
      ∧ (operator = "" ↔ (∀ items, value ≠ .array items) ∧ Nameless operators field) := by
  cases h with
  | @clause _ _ field spec _ hfield hnormal =>
    obtain ⟨hkey, hoperator⟩ := operator_of_normalize hvalue hnormal
    refine ⟨field, spec.operator, spec.value, hfield, by rw [hkey, Option.getD_none], ?_⟩
    rcases hoperator with ⟨⟨items, hitems⟩, hoperator⟩ | ⟨hitems, hcompares⟩
    · rw [hoperator]
      exact iff_of_false hlist fun hnone => hnone.1 items hitems
    · rw [hcompares.eq_empty_iff hequality]
      exact (and_iff_right hitems).symm

-- ================================================================= filters

/-- With a configuration that was accepted, in whatever format it is written, every clause that does
not come from a specification has an operator with a name, unless it compares a field of texts or of
words, not with a list, and the configuration has no name for their operator. -/
theorem operator_of_ofNode_iff {ν : Type} [Reading.Node ν] {node : ν}
    {configuration : Configuration} (haccepted : Configuration.ofNode node = .ok configuration)
    (type : NamedType) (filter : Table Json) {omissions : List Omission} {compiled : Option Json}
    (hcompiled : (compile configuration.filters type filter).Reports omissions compiled) :
    ∃ parts : List (Option Json),
      List.Forall₂ (fun entry part => ∀ clause, part = some clause → Unspecified entry.2 →
          ∃ field operator compared, type.field? entry.1 = some field
            ∧ clause = clauseOf entry.1 operator compared
            ∧ (operator = "" ↔ (∀ items, entry.2 ≠ .array items)
                ∧ Nameless configuration.filters field))
        filter parts
      ∧ compiled = conjunction (parts.filterMap id) := by
  obtain ⟨hlist, hequality⟩ := Configuration.operators_of_ofNode haccepted
  obtain ⟨all, hall, rfl⟩ := reports_compile_iff.1 hcompiled
  obtain ⟨parts, hparts, rfl, -⟩ := reports_clauses_iff.1 hall
  refine ⟨parts.map (·.1), ?_, by rw [List.filterMap_map]; rfl⟩
  rw [List.forall₂_map_right_iff]
  refine hparts.imp fun entry part hpart clause hclause hvalue => ?_
  rw [hclause] at hpart
  exact hpart.operator_iff hlist hequality hvalue

/-- A configuration with an empty text for the operator of texts. -/
def wordless : String :=
  "filters:\n  string_operator: \"\"\n"

theorem ofYaml_wordless :
    Configuration.ofYaml wordless = .ok { filters := { stringOperator := "" } } := by
  decide +kernel

/-- Titles that are compared with a list have an operator all the same. -/
theorem operator_of_ofNode_iff_titles :
    ∃ operator compared,
      (compile { stringOperator := "" } volume [("title", .array [.string "Dune"])]).Reports []
          (conjunction [clauseOf "title" operator compared])
        ∧ operator ≠ "" := by
  have hcompiled : (compile { stringOperator := "" } volume
      [("title", .array [.string "Dune"])]).Reports []
        (conjunction [clauseOf "title" "in" (.array [.string "Dune"])]) := by
    rfl
  obtain ⟨node, -, haccepted⟩ := Configuration.ofYaml_eq_ok_iff.1 ofYaml_wordless
  obtain ⟨parts, hparts, hcompiles⟩ :=
    operator_of_ofNode_iff haccepted volume [("title", .array [.string "Dune"])] hcompiled
  have hclauses := conjunction_injective hcompiles
  cases hparts with
  | @cons _ part _ _ hpart hrest =>
    cases hrest
    cases part with
    | none => exact absurd hclauses (List.cons_ne_nil _ _)
    | some clause =>
      obtain rfl := (List.cons.inj hclauses).1
      obtain ⟨_, operator, compared, -, hclause, hempty⟩ := hpart _ rfl fun _ h => by cases h
      rw [hclause] at hcompiled
      exact ⟨operator, compared, hcompiled, fun hnone => (hempty.1 hnone).1 _ rfl⟩

/-- But a title that is compared with a text has none. -/
theorem nameless_of_ofYaml :
    ∃ configuration, Configuration.ofYaml wordless = .ok configuration
      ∧ Unspecified (.string "Dune")
      ∧ (compile configuration.filters volume [("title", .string "Dune")]).Reports []
          (conjunction [clauseOf "title" "" (.string "Dune")]) :=
  ⟨_, ofYaml_wordless, fun _ h => (by cases h), rfl⟩

end Filter

end CrudGraph
