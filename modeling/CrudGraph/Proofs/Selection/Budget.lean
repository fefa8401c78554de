/-
The walk over a schema, written down once more with a budget of levels in place of the argument that
it ends. Below the last level there may be anything.

With as many levels as the schema has names of types, the budget is never used up: whatever stands
below, the result is that of the walk (`selectWithin_eq`). The names that a path leaves carry the
induction: they get fewer with every type that is entered (`card_sdiff_lt`).

The recursion on levels is structural, and so it is also the way to find out what the walk selects
of a schema that is given.
-/
import CrudGraph.Proofs.Selection.Walk

namespace CrudGraph

namespace Projector

variable {p : Projector}

variable (p) in
/-- What becomes of a field, with what is selected of a type on a path as a parameter. -/
def stepField (below : List String → NamedType → Reported (List Selection))
    (key : Option PrimaryKey) (path : List String) (owner : NamedType) (field : Field) :
    Reported (Option Selection) := do
  match ← (p.gate key owner field : Except Refusal _) with
  | .error omission =>
    Reported.leaveOut omission
    return none
  | .ok (responseName, arguments) =>
    let type := field.type.baseText
    if field.type.base.kind.isComposite then
      if !p.isExpanded type then
        Reported.leaveOut (.unexpandedField owner.name field.name type)
        return none
      else if path.contains type then
        Reported.leaveOut (.recursiveField owner.name field.name type)
        return none
      else
        match p.schema.type? type with
        | none => Reported.refuse (.resourceTypeUnresolved type)
        | some nested =>
          let selections ← below (nested.name :: path) nested
          if selections.isEmpty then
            Reported.leaveOut (.emptySelection owner.name field.name type)
            return none
          else
            let name ← (Name.ofText field.name : Except Refusal Name)
            return some (.field responseName name arguments selections)
    else
      let name ← (Name.ofText field.name : Except Refusal Name)
      return some (.field responseName name arguments [])

variable (p) in
/-- What becomes of fields, one after the other. -/
def stepFields (below : List String → NamedType → Reported (List Selection))
    (key : Option PrimaryKey) (path : List String) (owner : NamedType) :
    List Field → Reported (List Selection)
  | [] => pure []
  | field :: rest => do
    let first ← p.stepField below key path owner field
    let others ← stepFields below key path owner rest
    return first.toList ++ others

variable (p) in
/-- The walk over a type through a number of levels, with anything below the last one. -/
def walkWithin (cut : Reported (List Selection)) :
    Nat → Option PrimaryKey → List String → NamedType → Reported (List Selection)
  | 0, _, _, _ => cut
  | levels + 1, key, path, owner =>
    p.stepFields (fun path type => walkWithin cut levels none path type) key path owner owner.fields

variable (p) in
/-- The selections of a type, through a number of levels. -/
def selectWithin (cut : Reported (List Selection)) (levels : Nat) (typeName : String)
    (key : Option PrimaryKey) : Reported (List Selection) := do
  match p.schema.type? typeName with
  | none => Reported.refuse (.resourceTypeUnresolved typeName)
  | some type =>
    let selections ← p.walkWithin cut levels key [type.name] type
    if selections.isEmpty then
      Reported.refuse (.invalidRequest s!"no field of `{typeName}` can be selected")
    else return selections

variable {key : Option PrimaryKey} {path : List String} {owner : NamedType}

/-- The walk goes one step further into the types that it enters, and nowhere else. -/
theorem selectField_eq_stepField {field : Field}
    {below : List String → NamedType → Reported (List Selection)}
    (hbelow : ∀ type, p.entered? key path owner field = some type →
      below (type.name :: path) type = p.selectFields none (type.name :: path) type type.fields) :
    p.selectField key path owner field = p.stepField below key path owner field := by
  rw [selectField, stepField]
  cases hgate : p.gate key owner field with
  | error refusal => rfl
  | ok outcome =>
    cases outcome with
    | error omission => rfl
    | ok passed =>
      show (if _ then _ else _) = (if _ then _ else _)
      split
      · next hcomposite =>
        split
        · rfl
        · next hexpanded =>
          split
          · next hvisited => rw [hvisited, if_pos rfl]
          · next hfresh =>
            refine Eq.trans ?_ (if_neg (by simp [hfresh, -List.contains_eq_mem])).symm
            split
            · next hnone =>
              conv_rhs => rw [hnone]
            · next type hfound =>
              -- the one place where the walk goes down
              have hentered : p.entered? key path owner field = some type :=
                entered?_eq_some_iff.2
                  ⟨⟨passed, hgate⟩, hcomposite, by simpa using hexpanded, hfresh, hfound⟩
              conv_rhs => rw [hfound]
              dsimp only
              rw [hbelow type hentered]
      · rfl

theorem selectFields_eq_stepFields {fields : List Field}
    {below : List String → NamedType → Reported (List Selection)}
    (hbelow : ∀ field type, p.entered? key path owner field = some type →
      below (type.name :: path) type = p.selectFields none (type.name :: path) type type.fields) :
    p.selectFields key path owner fields = p.stepFields below key path owner fields := by
  induction fields with
  | nil => rw [selectFields, stepFields]
  | cons field rest ih =>
    rw [selectFields, stepFields, ih, selectField_eq_stepField (hbelow field)]

/-- The names that a path leaves get fewer as it gets longer. -/
theorem card_sdiff_lt {field : Field} {type : NamedType}
    (h : p.entered? key path owner field = some type) :
    (p.schema.typeNames \ (type.name :: path).toFinset).card
      < (p.schema.typeNames \ path.toFinset).card := by
  have henters := entered?_eq_some_iff.1 h
  rw [List.toFinset_cons, Finset.sdiff_insert]
  apply Finset.card_erase_lt_of_mem
  rw [Finset.mem_sdiff, List.mem_toFinset, name_of_entered? h]
  refine ⟨?_, by simpa using henters.fresh⟩
  rw [← name_of_entered? h]
  exact Schema.name_mem_typeNames henters.found

/-- With a level for the type and one for each name that the path leaves, nothing is cut off. -/
theorem walkWithin_eq (cut : Reported (List Selection)) {levels : Nat}
    (h : (p.schema.typeNames \ path.toFinset).card < levels) :
    p.walkWithin cut levels key path owner = p.selectFields key path owner owner.fields := by
  induction levels generalizing key path owner with
  | zero => omega
  | succ levels ih =>
    rw [walkWithin]
    refine (selectFields_eq_stepFields fun field type hentered => ?_).symm
    apply ih
    have hlt := card_sdiff_lt hentered
    omega

/-- As many levels as there are names of types are enough for every type. -/
theorem selectWithin_eq (cut : Reported (List Selection)) {levels : Nat}
    (h : p.schema.typeNames.card ≤ levels) (typeName : String) (key : Option PrimaryKey) :
    p.selectWithin cut levels typeName key = p.select typeName key := by
  unfold selectWithin select
  cases hroot : p.schema.type? typeName with
  | none => rfl
  | some root =>
    dsimp only
    rw [walkWithin_eq cut]
    have hmem := Schema.name_mem_typeNames hroot
    have hlt : (p.schema.typeNames \ [root.name].toFinset).card < p.schema.typeNames.card := by
      rw [List.toFinset_cons, Finset.sdiff_insert, List.toFinset_nil, Finset.sdiff_empty]
      exact Finset.card_erase_lt_of_mem hmem
    omega

end Projector

end CrudGraph
