/-
Which fields of a type a request selects. A field is left out when its type's strategy hides it,
when it needs arguments that nobody computes, or when its own type is composite and is not expanded
or is being expanded already. The types that are being expanded form the path; since no type is
entered twice on one path, the selection comes to an end on every schema.
-/
import CrudGraph.Document.Operation
import CrudGraph.Omission
import CrudGraph.Resource
import CrudGraph.Strategy

namespace CrudGraph

/-- What a selection of fields depends on. -/
structure Projector where
  schema : Schema
  strategies : Strategies
  naming : Naming
  verb : Verb

namespace Projector

variable (p : Projector)

-- ================================================================= the gates

/-- The key under which a field comes back, if not under its own name. Where the uniform identifier
is an alias, it is the name of the identity field, and no other field may take it. -/
def responseName (key : Option PrimaryKey) (owner : NamedType) (field : Field) :
    Except Refusal (Except Omission (Option Name)) :=
  match key with
  | some key =>
    if key.aliasRequired then
      if field.name = key.identityField then do
        return .ok (some (← Name.ofText p.naming.identifierName))
      else if field.name = p.naming.identifierName then
        .ok (.error (.hiddenField owner.name field.name))
      else .ok (.ok none)
    else .ok (.ok none)
  | none => .ok (.ok none)

/-- Arguments from their computed values. The value is converted before its name is checked. -/
def argumentsOf : List (String × Json) → Except Refusal (List (Name × Literal))
  | [] => .ok []
  | (name, value) :: rest => do
    let value ← Literal.ofJson value
    let name ← Name.ofText name
    return (name, value) :: (← argumentsOf rest)

/-- The arguments of a field that declares some. -/
def arguments (strategy : Option Strategy) (field : Field) :
    Except Refusal (List (Name × Literal)) :=
  if field.args.isEmpty then .ok []
  else
    match strategy >>= fun strategy => strategy.argumentsForField field.name field.args with
    | some computed => argumentsOf computed
    | none => .ok []

/-- Whether some required argument is not among those computed. -/
def lacksArgument (field : Field) (arguments : List (Name × Literal)) : Bool :=
  field.args.any fun arg => arg.isRequired && !arguments.any fun entry => entry.1.text == arg.name

/-- Whether a type is expanded. -/
def isExpanded (type : String) : Bool :=
  match Table.find? p.strategies type with
  | some strategy => strategy.isExpanded
  | none => false

/-- What a field is selected with when nothing stands against it: the key it comes back under and
its arguments. -/
def gate (key : Option PrimaryKey) (owner : NamedType) (field : Field) :
    Except Refusal (Except Omission (Option Name × List (Name × Literal))) :=
  let strategy := Table.find? p.strategies owner.name
  if field.hasRequiredArguments && strategy.isNone then
    .ok (.error (.unconfiguredArgumentedField owner.name field.name))
  else if strategy.any fun strategy => !strategy.isFieldVisible field.name p.verb then
    .ok (.error (.hiddenField owner.name field.name))
  else do
    match ← p.responseName key owner field with
    | .error omission => return .error omission
    | .ok responseName =>
      let arguments ← arguments strategy field
      if lacksArgument field arguments then
        return .error (.missingFieldArguments owner.name field.name)
      else return .ok (responseName, arguments)

-- ============================================================== the measure

/-- How many types of the schema are not on a path. -/
def unvisited (path : List String) : Nat :=
  (p.schema.types.filter fun type => !path.contains type.name).length

/-- A stronger condition keeps at most as many elements, and fewer when it drops one that the
weaker one keeps. -/
private theorem length_filter_lt {α : Type} {strong weak : α → Bool} {xs : List α} {a : α}
    (implies : ∀ x, strong x = true → weak x = true) (mem : a ∈ xs) (kept : weak a = true)
    (dropped : strong a = false) : (xs.filter strong).length < (xs.filter weak).length := by
  have le : ∀ ys : List α, (ys.filter strong).length ≤ (ys.filter weak).length := fun ys => by
    rw [← List.countP_eq_length_filter, ← List.countP_eq_length_filter]
    exact List.countP_mono_left fun x _ => implies x
  induction xs with
  | nil => simp at mem
  | cons x rest ih =>
    rcases List.mem_cons.1 mem with rfl | h
    · have := le rest
      simp [dropped, kept]
      omega
    · have := ih h
      by_cases hs : strong x = true
      · simp [hs, implies x hs]
        omega
      · by_cases hw : weak x = true <;> simp [hs, hw] <;> omega

/-- A path that gets longer by a type of the schema leaves fewer types; this is why the walk ends.
-/
theorem unvisited_lt {path : List String} {name : String} {type : NamedType}
    (found : p.schema.type? name = some type) (fresh : path.contains name = false) :
    p.unvisited (type.name :: path) < p.unvisited path := by
  have hname : type.name = name := Schema.name_of_type? found
  refine length_filter_lt (fun x hx => ?_) (Schema.mem_of_type? found) ?_ ?_
  · simp only [Bool.not_eq_true', List.contains_cons, Bool.or_eq_false_iff] at hx ⊢
    exact hx.2
  · rw [hname, fresh]
    rfl
  · simp

-- ============================================================= the selection

mutual

/-- The selections of fields of a type, in order. -/
def selectFields (key : Option PrimaryKey) (path : List String) (owner : NamedType) :
    List Field → Reported (List Selection)
  | [] => pure []
  | field :: rest => do
    let first ← selectField key path owner field
    let others ← selectFields key path owner rest
    return first.toList ++ others
termination_by fields => (p.unvisited path, 2 * fields.length + 1)

/-- The selection of one field, if it is not left out. -/
def selectField (key : Option PrimaryKey) (path : List String) (owner : NamedType)
    (field : Field) : Reported (Option Selection) := do
  match ← (p.gate key owner field : Except Refusal _) with
  | .error omission =>
    Reported.leaveOut omission
    return none
  | .ok (responseName, arguments) =>
    let type := field.type.baseText
    if field.type.base.kind.isComposite then
      if !p.isExpanded type then
        Reported.leaveOut (.unexpandedField owner.name field.name type)
        return none
      else
        match fresh : path.contains type with
        | true =>
          Reported.leaveOut (.recursiveField owner.name field.name type)
          return none
        | false =>
          match found : p.schema.type? type with
          | none => Reported.refuse (.resourceTypeUnresolved type)
          | some nested =>
            have := p.unvisited_lt found fresh
            let selections ← selectFields none (nested.name :: path) nested nested.fields
            if selections.isEmpty then
              Reported.leaveOut (.emptySelection owner.name field.name type)
              return none
            else
              let name ← (Name.ofText field.name : Except Refusal Name)
              return some (.field responseName name arguments selections)
    else
      let name ← (Name.ofText field.name : Except Refusal Name)
      return some (.field responseName name arguments [])
termination_by (p.unvisited path, 2)

end

/-- The selections of a type for the records of a resource with the given key. There has to be at
least one. -/
def select (typeName : String) (key : Option PrimaryKey) : Reported (List Selection) := do
  match p.schema.type? typeName with
  | none => Reported.refuse (.resourceTypeUnresolved typeName)
  | some type =>
    let selections ← p.selectFields key [type.name] type type.fields
    if selections.isEmpty then
      Reported.refuse (.invalidRequest s!"no field of `{typeName}` can be selected")
    else return selections

end Projector

end CrudGraph
