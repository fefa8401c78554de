/-
Where selections come from. The projector walks over a schema that may be cyclic, and its recursion
ends by a measure on the path; facts about what it selects should not have to speak of that measure
each time. `Chosen` says the same as a derivation: every selection was put there by a field that
passed the gate, either as a leaf or over the selections of its own type, one level down and without
a key. The walk is followed once (`settles_selectFields`); afterwards a fact about all selections at
all levels is an induction on the derivation.

The gate is read the same way: what a field that passes it is known to satisfy (`Passed`).
-/
import CrudGraph.Proofs.Reference
import CrudGraph.Request.Selected

namespace CrudGraph.Projector

variable (p : Projector)

-- ================================================================= the gate

/-- What is known of a field that passes the gate, of the key that it comes back under, and of the
arguments that it is selected with. -/
structure Passed (key : Option PrimaryKey) (owner : NamedType) (field : Field)
    (responseName : Option Name) (arguments : List (Name × Literal)) : Prop where
  /-- A strategy of the type shows the field. -/
  visible : ∀ strategy, Table.find? p.strategies owner.name = some strategy →
    strategy.isFieldVisible field.name p.verb = true
  /-- The key is the one that the primary key gives the field. -/
  named : p.responseName key owner field = .ok (.ok responseName)
  /-- No required argument is missing. -/
  provided : lacksArgument field arguments = false
  /-- The arguments are literals throughout. -/
  closed : Literal.referencesOfFields arguments = []

/-- Arguments from a strategy are literals that refer to no variable. -/
theorem settles_argumentsOf (computed : List (String × Json)) :
    Settles (argumentsOf computed) fun arguments => Literal.referencesOfFields arguments = [] := by
  induction computed with
  | nil => exact Settles.ok rfl
  | cons entry rest ih =>
      obtain ⟨name, value⟩ := entry
      rw [argumentsOf]
      refine Settles.bind (Literal.settles_ofJson value) fun literal hliteral => ?_
      refine Settles.bind (settles_ofText name) fun name _ => ?_
      refine Settles.bind ih fun others hothers => Settles.ok ?_
      rw [Literal.referencesOfFields, hliteral, hothers]
      rfl

/-- So are those of any field, with a strategy or without one. -/
theorem settles_arguments (strategy : Option Strategy) (field : Field) :
    Settles (arguments strategy field) fun arguments =>
      Literal.referencesOfFields arguments = [] := by
  unfold arguments
  split
  · exact Settles.ok rfl
  · split
    · exact settles_argumentsOf _
    · exact Settles.ok rfl

/-- The response name of a field is fixed by the configuration. -/
theorem settles_responseName (key : Option PrimaryKey) (owner : NamedType) (field : Field) :
    Settles (p.responseName key owner field) fun _ => True := by
  unfold responseName
  split
  · split
    · split
      · exact Settles.bind (settles_ofText _) fun name _ => Settles.ok trivial
      · split <;> exact Settles.ok trivial
    · exact Settles.ok trivial
  · exact Settles.ok trivial

/-- The gate lets a field through only as `Passed` says. -/
theorem settles_gate (key : Option PrimaryKey) (owner : NamedType) (field : Field) :
    Settles (p.gate key owner field) fun outcome =>
      ∀ responseName arguments, outcome = .ok (responseName, arguments) →
        p.Passed key owner field responseName arguments := by
  simp only [gate]
  split
  · exact Settles.ok fun _ _ h => by cases h
  · split
    · exact Settles.ok fun _ _ h => by cases h
    · next hshown =>
      have hvisible : ∀ strategy, Table.find? p.strategies owner.name = some strategy →
          strategy.isFieldVisible field.name p.verb = true := by
        intro strategy hfound
        rw [hfound] at hshown
        simpa using hshown
      refine Settles.bind (p.settles_responseName key owner field).eq_ok fun named hnamed => ?_
      cases named with
      | error omission => exact Settles.ok fun _ _ h => by cases h
      | ok responseName =>
          refine Settles.bind (settles_arguments _ field) fun arguments hclosed => ?_
          split
          · exact Settles.ok fun _ _ h => by cases h
          · next hprovided =>
            refine Settles.ok fun _ _ h => ?_
            cases h
            exact ⟨hvisible, hnamed, by simpa using hprovided, hclosed⟩

-- =========================================================== the derivation

/-- How selections come from the fields of a type, one rule for each fate of a field. The selections
under a field are those of its own type, on a path that has grown by that type, and without a
key. -/
inductive Chosen : Option PrimaryKey → List String → NamedType → List Field → List Selection → Prop
  | nil {key path owner} : Chosen key path owner [] []
  /-- The field is left out. -/
  | skip {key path owner field rest others} :
      Chosen key path owner rest others → Chosen key path owner (field :: rest) others
  /-- The field is selected as it is. -/
  | leaf {key path owner field rest others responseName arguments name} :
      p.Passed key owner field responseName arguments →
      name.text = field.name →
      field.type.base.kind.isComposite = false →
      Chosen key path owner rest others →
      Chosen key path owner (field :: rest) (.field responseName name arguments [] :: others)
  /-- The field is selected with what is selected of its type. -/
  | nested {key path owner field rest others responseName arguments name type selections} :
      p.Passed key owner field responseName arguments →
      name.text = field.name →
      field.type.base.kind.isComposite = true →
      p.isExpanded field.type.baseText = true →
      path.contains field.type.baseText = false →
      p.schema.type? field.type.baseText = some type →
      Chosen none (type.name :: path) type type.fields selections →
      selections ≠ [] →
      Chosen key path owner rest others →
      Chosen key path owner (field :: rest)
        (.field responseName name arguments selections :: others)

mutual

/-- Every list of selections that the walk over fields ends with has a derivation. -/
theorem settles_selectFields (key : Option PrimaryKey) (path : List String) (owner : NamedType)
    (fields : List Field) :
    (p.selectFields key path owner fields).Settles (p.Chosen key path owner fields) := by
  cases fields with
  | nil =>
      rw [selectFields]
      exact Settles.ok .nil
  | cons field rest =>
      rw [selectFields]
      refine .bind (settles_selectField key path owner field) fun first hfirst => ?_
      refine .bind (settles_selectFields key path owner rest) fun others hothers => ?_
      exact Settles.ok (hfirst rest others hothers)
termination_by (p.unvisited path, 2 * fields.length + 1)

/-- The selection of a field, or its absence, is one step of a derivation. -/
theorem settles_selectField (key : Option PrimaryKey) (path : List String) (owner : NamedType)
    (field : Field) :
    (p.selectField key path owner field).Settles fun found =>
      ∀ rest others, p.Chosen key path owner rest others →
        p.Chosen key path owner (field :: rest) (found.toList ++ others) := by
  rw [selectField]
  refine .bind (p.settles_gate key owner field).lift fun outcome hgate => ?_
  cases outcome with
  | error omission => exact Settles.ok fun rest others hrest => .skip hrest
  | ok passed =>
      obtain ⟨responseName, arguments⟩ := passed
      have hpassed := hgate responseName arguments rfl
      dsimp only
      split
      · next hcomposite =>
        split
        · exact Settles.ok fun rest others hrest => .skip hrest
        · next hexpanded =>
          split
          · exact Settles.ok fun rest others hrest => .skip hrest
          · next fresh =>
            split
            · exact Settles.error fun reason => by simp
            · next type found =>
              -- the nested selection has one more type on its path
              have hlt := p.unvisited_lt found fresh
              refine .bind (settles_selectFields none (type.name :: path) type type.fields)
                fun selections hselections => ?_
              split
              · exact Settles.ok fun rest others hrest => .skip hrest
              · next hsome =>
                refine .bind (settles_ofText field.name).lift fun name hname => ?_
                refine Settles.ok fun rest others hrest => ?_
                exact .nested hpassed hname hcomposite (by simpa using hexpanded) fresh found
                  hselections (by simpa using hsome) hrest
      · next hleaf =>
        refine .bind (settles_ofText field.name).lift fun name hname => ?_
        refine Settles.ok fun rest others hrest => ?_
        exact .leaf hpassed hname (by simpa using hleaf) hrest
termination_by (p.unvisited path, 2)

end

/-- What is selected of a type is derived from all its fields, and there is something. -/
theorem settles_select (typeName : String) (key : Option PrimaryKey) :
    (p.select typeName key).Settles fun selections =>
      selections ≠ [] ∧ ∃ type, p.schema.type? typeName = some type
        ∧ p.Chosen key [type.name] type type.fields selections := by
  unfold select
  split
  · exact Settles.error fun reason => by simp
  · next type found =>
    refine .bind (p.settles_selectFields key _ type _) fun selections hchosen => ?_
    split
    · refine Settles.invalid fun h => ?_
      rw [String.toList_append, String.toList_append] at h
      cases h
    · next hsome => exact Settles.ok ⟨by simpa using hsome, type, found, hchosen⟩

/-- Selections refer to no variable: all that a field may bring with it are literals. -/
theorem Chosen.references_eq_nil {p : Projector} {key : Option PrimaryKey} {path : List String}
    {owner : NamedType} {fields : List Field} {selections : List Selection}
    (h : p.Chosen key path owner fields selections) :
    Selection.referencesOfAll selections = [] := by
  induction h with
  | nil => rfl
  | skip _ ih => exact ih
  | leaf hpassed _ _ _ ih =>
      rw [Selection.referencesOfAll, ih, Selection.references_field rfl, hpassed.closed]
      rfl
  | nested hpassed _ _ _ _ _ _ _ _ ihnested ih =>
      rw [Selection.referencesOfAll, ih, Selection.references_field ihnested, hpassed.closed]
      rfl

end CrudGraph.Projector
