/-
Selections and verbs. A verb enters the selection of fields in one place only: a strategy may show a
field to the requests of some verbs and hide it from those of others. Strategies that a
configuration declares list their fields and cannot do that; it takes one that is given besides
(`Strategies.layered_verbBlind`).

Where no strategy makes that difference, the same fields are selected for all verbs, at every depth
(`Projector.select_verb`). The proof goes over the same two functions as the selection and by the
same measure; all that there is to say at a field is said by its gate (`Projector.gate_verb`).
-/
import CrudGraph.Request.Selected
import CrudGraph.Strategy

namespace CrudGraph

-- ============================================================= strategies

/-- Whether a strategy shows a field is the same for all verbs. -/
def Strategy.VerbBlind (strategy : Strategy) : Prop :=
  ∀ field verb other, strategy.isFieldVisible field verb = strategy.isFieldVisible field other

namespace Strategies

/-- Whether a field is shown is the same for all verbs. -/
def VerbBlind (strategies : Strategies) : Prop :=
  ∀ type strategy, Table.find? strategies type = some strategy → strategy.VerbBlind

variable {strategies : Strategies}

/-- It is enough that every entry makes no difference, found or not. -/
theorem VerbBlind.of_forall (h : ∀ entry ∈ strategies, entry.2.VerbBlind) :
    strategies.VerbBlind :=
  fun type strategy hfound => h (type, strategy) (Table.mem_of_find? hfound)

/-- A strategy that makes no difference may be put under any type. -/
theorem VerbBlind.insert (h : strategies.VerbBlind) (type : String) {strategy : Strategy}
    (hblind : strategy.VerbBlind) : VerbBlind (Table.insert strategies type strategy) := by
  intro key found hfound
  by_cases heq : type = key
  · subst heq
    rw [Table.find?_insert_self] at hfound
    exact Option.some.inj hfound ▸ hblind
  · rw [Table.find?_insert_of_ne _ _ heq] at hfound
    exact h key found hfound

/-- Strategies that make none may come on top of others that make none. -/
theorem VerbBlind.extend (h : strategies.VerbBlind) {others : Strategies}
    (hothers : ∀ entry ∈ others, entry.2.VerbBlind) : (strategies.extend others).VerbBlind := by
  unfold Strategies.extend
  induction others generalizing strategies with
  | nil => exact h
  | cons entry rest ih =>
    refine ih (h.insert entry.1 (hothers entry List.mem_cons_self)) fun other hother => ?_
    exact hothers other (List.mem_cons_of_mem _ hother)

/-- A strategy that is declared lists its fields. -/
theorem ofDeclared_verbBlind (declared : DeclaredType) :
    (ComposedStrategy.ofDeclared declared).toStrategy.VerbBlind := by
  intro field verb other
  show (ComposedStrategy.ofDeclared declared).isFieldVisible field verb
    = (ComposedStrategy.ofDeclared declared).isFieldVisible field other
  unfold ComposedStrategy.isFieldVisible ComposedStrategy.ofDeclared
  cases declared.includeFields with
  | some included => rfl
  | none => cases declared.excludeFields <;> rfl

/-- The strategies in force make no difference between verbs, whatever the configuration, if those
that are given besides make none. -/
theorem layered_verbBlind (configuration : Configuration)
    (hothers : ∀ entry ∈ strategies, entry.2.VerbBlind) :
    (layered configuration strategies).VerbBlind := by
  have hbuiltIn : builtIn.VerbBlind := by
    refine .of_forall fun entry hentry => ?_
    obtain ⟨type, -, rfl⟩ := List.mem_map.1 hentry
    exact fun _ _ _ => rfl
  refine (hbuiltIn.extend fun entry hentry => ?_).extend hothers
  obtain ⟨⟨type, declared⟩, -, rfl⟩ := List.mem_map.1 hentry
  exact ofDeclared_verbBlind declared

end Strategies

namespace Projector

variable {p : Projector}

/-- A field passes the gate for one verb as it does for another. -/
theorem gate_verb (h : p.strategies.VerbBlind) (verb : Verb) (key : Option PrimaryKey)
    (owner : NamedType) (field : Field) :
    ({ p with verb := verb } : Projector).gate key owner field = p.gate key owner field := by
  have hshown :
      ((Table.find? p.strategies owner.name).any fun strategy =>
          !strategy.isFieldVisible field.name verb)
        = (Table.find? p.strategies owner.name).any fun strategy =>
          !strategy.isFieldVisible field.name p.verb := by
    cases hfound : Table.find? p.strategies owner.name with
    | none => rfl
    | some strategy => simp only [Option.any_some, h _ _ hfound field.name verb p.verb]
  simp only [gate]
  rw [hshown]
  rfl

mutual

/-- Field by field, the same is selected and the same is reported. -/
theorem selectFields_verb (h : p.strategies.VerbBlind) (verb : Verb) (key : Option PrimaryKey)
    (path : List String) (owner : NamedType) (fields : List Field) :
    ({ p with verb := verb } : Projector).selectFields key path owner fields
      = p.selectFields key path owner fields := by
  cases fields with
  | nil => rw [selectFields, selectFields]
  | cons field rest =>
    rw [selectFields, selectFields, selectField_verb h verb key path owner field,
      selectFields_verb h verb key path owner rest]
termination_by (p.unvisited path, 2 * fields.length + 1)

/-- At a field the verb is seen by the gate alone; whatever is nested is selected by a shorter walk.
-/
theorem selectField_verb (h : p.strategies.VerbBlind) (verb : Verb) (key : Option PrimaryKey)
    (path : List String) (owner : NamedType) (field : Field) :
    ({ p with verb := verb } : Projector).selectField key path owner field
      = p.selectField key path owner field := by
  rw [selectField, selectField, gate_verb h]
  refine congrArg _ (funext fun outcome => ?_)
  cases outcome with
  | error omission => rfl
  | ok passed =>
    dsimp only
    have hexpanded : ({ p with verb := verb } : Projector).isExpanded field.type.baseText
        = p.isExpanded field.type.baseText := rfl
    rw [hexpanded]
    split
    · split
      · rfl
      · split
        · rfl
        · next fresh =>
          split
          · rfl
          · next type found =>
            -- the nested selection has one more type on its path
            have hlt := p.unvisited_lt found fresh
            rw [selectFields_verb h verb none (type.name :: path) type type.fields]
    · rfl
termination_by (p.unvisited path, 2)

end

/-- For strategies that make no difference between verbs, the selections of a type do not either. -/
theorem select_verb (h : p.strategies.VerbBlind) (verb : Verb) (typeName : String)
    (key : Option PrimaryKey) :
    ({ p with verb := verb } : Projector).select typeName key = p.select typeName key := by
  unfold select
  dsimp only
  cases p.schema.type? typeName with
  | none => rfl
  | some type =>
    dsimp only
    rw [selectFields_verb h]

end Projector

end CrudGraph
