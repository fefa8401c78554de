/-
References to variables inside values and selections. The values of a caller enter a document in
two ways: through a variable, or as a literal that a strategy computed. A literal that comes from
JSON refers to no variable, whatever texts it holds, so the references of an operation are exactly
those that were put there on purpose.
-/
import CrudGraph.Document.Operation
import CrudGraph.Proofs.Outcome

namespace CrudGraph

-- ======================================================= literals of JSON

namespace Literal

mutual

/-- The literal of a JSON value refers to nothing. -/
theorem settles_ofJson : ∀ j : Json, Settles (ofJson j) fun literal => literal.references = []
  | .null | .bool _ | .integer _ | .double _ | .string _ => by
      rw [ofJson]
      exact Settles.ok (by simp only [references])
  | .array items => by
      rw [ofJson]
      refine Settles.bind (settles_ofItems items) fun literals hnone => Settles.ok ?_
      rw [references]
      exact hnone
  | .object members => by
      rw [ofJson]
      refine Settles.bind (settles_ofMembers members) fun fields hnone => Settles.ok ?_
      rw [references]
      exact hnone

/-- The literals of items refer to nothing. -/
theorem settles_ofItems :
    ∀ items : List Json, Settles (ofItems items) fun literals => referencesOfItems literals = []
  | [] => Settles.ok rfl
  | item :: rest => by
      rw [ofItems]
      refine Settles.bind (settles_ofJson item) fun first hfirst => ?_
      refine Settles.bind (settles_ofItems rest) fun others hothers => Settles.ok ?_
      rw [referencesOfItems, hfirst, hothers]
      rfl

/-- The literals of members refer to nothing. -/
theorem settles_ofMembers :
    ∀ members : List (String × Json),
      Settles (ofMembers members) fun fields => referencesOfFields fields = []
  | [] => Settles.ok rfl
  | (key, value) :: rest => by
      rw [ofMembers]
      refine Settles.bind (settles_ofText key) fun name _ => ?_
      refine Settles.bind (settles_ofJson value) fun first hfirst => ?_
      refine Settles.bind (settles_ofMembers rest) fun others hothers => Settles.ok ?_
      rw [referencesOfFields, hfirst, hothers]
      rfl

end

/-- The references of fields are those of their values. -/
theorem referencesOfFields_eq_flatMap (fields : List (Name × Literal)) :
    referencesOfFields fields = fields.flatMap fun field => field.2.references := by
  induction fields with
  | nil => rfl
  | cons field rest ih =>
      rw [referencesOfFields, List.flatMap_cons, ih]

end Literal

-- ============================================================= selections

namespace Selection

theorem referencesOfAll_singleton (s : Selection) : referencesOfAll [s] = s.references := by
  rw [referencesOfAll, referencesOfAll, List.append_nil]

/-- A field over selections that refer to nothing refers to what its arguments refer to. -/
theorem references_field {responseName : Option Name} {name : Name}
    {arguments : List (Name × Literal)} {selections : List Selection}
    (hnone : referencesOfAll selections = []) :
    references (.field responseName name arguments selections)
      = Literal.referencesOfFields arguments := by
  rw [references, hnone, List.append_nil]

end Selection

end CrudGraph
