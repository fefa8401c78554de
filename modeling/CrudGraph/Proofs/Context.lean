/-
What the checks and lookups that the verbs share end with. Each verb is a chain of these; what a
chain needs of a link is stated here, once for each link: a check that passes has checked something,
the selections of the resource refer to no variable, and no link refuses for a variable that was
declared twice.
-/
import CrudGraph.Proofs.Selection.Origin
import CrudGraph.Request.Fetch
import CrudGraph.Request.Write

namespace CrudGraph

-- ================================================================== types

/-- A named type may lack its name, or have one that is no name in a document; neither has to do
with variables. -/
theorem TypeRef.settles_named (name : Option String) :
    Settles (match name with
      | some name => do return TypeExpr.named (← Name.ofText name)
      | none => throw malformed) fun _ => True := by
  cases name with
  | none => exact Settles.error fun reason => by simp [malformed]
  | some name => exact Settles.bind (settles_ofText name) fun _ _ => Settles.ok trivial

/-- The expression of a type may not exist, but it declares no variable. -/
theorem TypeRef.settles_toExpr (t : TypeRef) : Settles t.toExpr fun _ => True := by
  induction t with
  | bare kind name =>
      cases kind
      case list | nonNull => exact Settles.error fun reason => by simp [malformed]
      all_goals exact settles_named name
  | wrapping kind name inner ih =>
      cases kind
      case nonNull =>
        rw [toExpr]
        refine Settles.bind ih fun type _ => ?_
        split
        · exact Settles.ok trivial
        · exact Settles.error fun reason => by simp [malformed]
      case list => exact Settles.bind ih fun _ _ => Settles.ok trivial
      all_goals exact settles_named name

namespace Context

variable (c : Context)

/-- The type of an argument is the declared one or the fallback. -/
theorem settles_argumentType (operation argument : String) (fallback : TypeExpr) :
    Settles (c.argumentType operation argument fallback) fun _ => True := by
  unfold argumentType
  split
  · exact TypeRef.settles_toExpr _
  · exact Settles.ok trivial

/-- The types of the identifier and of inputs are looked up in the same way. -/
theorem settles_idType (operation : String) : Settles (c.idType operation) fun _ => True :=
  Settles.bind (settles_ofText _) fun _ _ => c.settles_argumentType _ _ _

theorem settles_inputType (operation : String) :
    Settles (c.inputType operation) fun _ => True := by
  have hfallback : Settles (defaultInputType operation) fun _ => True :=
    Settles.bind (settles_ofText _) fun _ _ => Settles.ok trivial
  exact Settles.bind hfallback fun _ _ => c.settles_argumentType _ _ _

-- ================================================================ checks

/-- The name of no verb begins like the refusal of a variable. -/
theorem head?_text_append (verb : Verb) (rest : String) :
    (verb.text ++ rest).toList.head? ≠ some 'v' := by
  rw [String.toList_append]
  cases verb <;> (intro h; cases h)

/-- The identifier that is required is there. -/
theorem settles_requireId (params : Params) :
    Settles (c.requireId params) fun id => params.id = some id ∧ id.isNull = false := by
  unfold requireId
  split
  · next id hid =>
    obtain ⟨hsome, hnull⟩ := Option.filter_eq_some_iff.1 hid
    exact Settles.ok ⟨hsome, by simpa using hnull⟩
  · exact Settles.invalid (head?_text_append c.verb _)

/-- There are identifiers where there have to be. -/
theorem settles_requireSome (ids : List Json) :
    Settles (c.requireSome ids) fun _ => ids ≠ [] := by
  unfold requireSome
  split
  · exact Settles.invalid (head?_text_append c.verb _)
  · next hsome => exact Settles.ok (by simpa using hsome)

/-- Where there is an identifier, one that is required is there. -/
theorem requireSome_eq_ok {ids : List Json} (hids : ids ≠ []) : c.requireSome ids = .ok () := by
  unfold requireSome
  rw [if_neg (by simpa using hids)]

/-- The schema has the operation that it has to have. -/
theorem settles_requireOperation (operation : String) :
    Settles (c.requireOperation operation) fun _ =>
      (c.schema.operation? operation).isSome = true := by
  unfold requireOperation
  split
  · next hsome => exact Settles.ok hsome
  · refine Settles.invalid fun h => ?_
    simp only [String.toList_append] at h
    cases h

/-- The selections of the resource refer to no variable. -/
theorem settles_select :
    c.select.Settles fun selections => Selection.referencesOfAll selections = [] := by
  refine .mono (Projector.settles_select _ _ _) ?_
  intro selections hselections
  obtain ⟨-, type, -, hchosen⟩ := hselections
  exact hchosen.references_eq_nil

end Context

end CrudGraph
