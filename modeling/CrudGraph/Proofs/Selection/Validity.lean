/-
Selections are valid on the schema that they were made for. The projector lets a field through six
gates, one of which calls functions that a caller wrote, and goes down into types that may refer
back to where it came from; what comes out has to be accepted by a server that knows nothing of all
that.

# What validity says

`Valid p type s` is stated on the schema and the strategies alone and mentions no gate: the
selection names a field of the type that the strategy of the type shows, carries every required
argument, and has something selected under it exactly when the field is of a composite type; then
that type exists, is configured, is expanded, and everything under it is valid on it.

`DistinctKeys selections` says that no answer hides another: on every level the keys of the
selections are different. This needs the names of fields to be different within a type, which a
schema read from a server promises and a model written by hand may break. Aliases do not break it:
the uniform identifier is the key of one field only, since a field that bears its name and is not
that field is left out (`keyOf`).

# How it is proved

Both are inductions on the derivation of the selections (`Chosen`), and the gate enters through
`Passed` only.
-/
import CrudGraph.Proofs.Selection.Budget

namespace CrudGraph

-- ====================================================== what is to be shown

/-- A selection that is valid on a type, with everything under it. -/
inductive Projector.Valid (p : Projector) : NamedType → Selection → Prop
  | field {owner : NamedType} {field : Field} {responseName : Option Name} {name : Name}
      {arguments : List (Name × Literal)} {selections : List Selection}
      (declared : field ∈ owner.fields)
      (named : name.text = field.name)
      (visible : ∀ strategy, Table.find? p.strategies owner.name = some strategy →
        strategy.isFieldVisible field.name p.verb = true)
      (provided : ∀ arg ∈ field.args, arg.isRequired = true →
        ∃ entry ∈ arguments, entry.1.text = arg.name)
      (shaped : selections ≠ [] ↔ field.type.base.kind.isComposite = true)
      (expanded : field.type.base.kind.isComposite = true →
        ∃ strategy, Table.find? p.strategies field.type.baseText = some strategy
          ∧ strategy.isExpanded = true)
      (resolved : field.type.base.kind.isComposite = true →
        ∃ type, p.schema.type? field.type.baseText = some type)
      (below : ∀ type, p.schema.type? field.type.baseText = some type →
        ∀ s ∈ selections, Projector.Valid p type s) :
      Projector.Valid p owner (.field responseName name arguments selections)

/-- On every level, the keys that values come back under are different. -/
inductive Selection.DistinctKeys : List Selection → Prop
  | intro {selections : List Selection}
      (here : (selections.map Selection.responseKey).Nodup)
      (below : ∀ s ∈ selections, Selection.DistinctKeys s.selections) :
      Selection.DistinctKeys selections

namespace Selection.DistinctKeys

/-- There is nothing to tell apart where nothing is selected. -/
theorem nil : DistinctKeys [] :=
  .intro List.nodup_nil fun s hs => by cases hs

/-- A selection in front of others needs a key of its own, and distinct keys under it. -/
theorem cons {first : Selection} {rest : List Selection}
    (hfresh : first.responseKey ∉ rest.map Selection.responseKey)
    (hbelow : DistinctKeys first.selections) (hrest : DistinctKeys rest) :
    DistinctKeys (first :: rest) := by
  obtain ⟨here, below⟩ := hrest
  refine .intro ?_ fun s hs => ?_
  · rw [List.map_cons, List.nodup_cons]
    exact ⟨hfresh, here⟩
  · rcases List.mem_cons.1 hs with rfl | hs
    · exact hbelow
    · exact below s hs

end Selection.DistinctKeys

namespace Projector

variable {p : Projector}

-- ============================================================= validity

/-- No required argument is missing, read argument by argument. -/
theorem provided_of_lacksArgument {field : Field} {arguments : List (Name × Literal)}
    (h : lacksArgument field arguments = false) {arg : InputValue} (harg : arg ∈ field.args)
    (hrequired : arg.isRequired = true) : ∃ entry ∈ arguments, entry.1.text = arg.name := by
  have hgiven := List.any_eq_false.1 h arg harg
  rw [hrequired] at hgiven
  simpa using hgiven

/-- An expanded type has a strategy, and the strategy says so. -/
theorem exists_strategy_of_isExpanded {type : String} (h : p.isExpanded type = true) :
    ∃ strategy, Table.find? p.strategies type = some strategy ∧ strategy.isExpanded = true := by
  unfold isExpanded at h
  split at h
  · next strategy found => exact ⟨strategy, found, h⟩
  · cases h

/-- What is derived from fields of a type is valid on it. -/
theorem Chosen.valid {key : Option PrimaryKey} {path : List String} {owner : NamedType}
    {fields : List Field} {selections : List Selection}
    (h : p.Chosen key path owner fields selections) (hfields : ∀ f ∈ fields, f ∈ owner.fields) :
    ∀ s ∈ selections, p.Valid owner s := by
  induction h with
  | nil => intro s hs; cases hs
  | skip _ ih => exact ih fun f hf => hfields f (List.mem_cons_of_mem _ hf)
  | leaf hpassed hname hleaf _ ih =>
      intro s hs
      rcases List.mem_cons.1 hs with rfl | hs
      · refine .field (hfields _ List.mem_cons_self) hname hpassed.visible
          (fun arg harg => provided_of_lacksArgument hpassed.provided harg) ?_ ?_ ?_ ?_
        · rw [hleaf]
          simp
        · intro hcomposite
          rw [hleaf] at hcomposite
          cases hcomposite
        · intro hcomposite
          rw [hleaf] at hcomposite
          cases hcomposite
        · intro type _ s hs
          cases hs
      · exact ih (fun f hf => hfields f (List.mem_cons_of_mem _ hf)) s hs
  | nested hpassed hname hcomposite hexpanded _ found _ hsome _ ihnested ih =>
      intro s hs
      rcases List.mem_cons.1 hs with rfl | hs
      · refine .field (hfields _ List.mem_cons_self) hname hpassed.visible
          (fun arg harg => provided_of_lacksArgument hpassed.provided harg) ?_ ?_ ?_ ?_
        · exact ⟨fun _ => hcomposite, fun _ => hsome⟩
        · exact fun _ => exists_strategy_of_isExpanded hexpanded
        · exact fun _ => ⟨_, found⟩
        · intro type hfound s hs
          rw [found] at hfound
          cases hfound
          exact ihnested (fun f hf => hf) s hs
      · exact ih (fun f hf => hfields f (List.mem_cons_of_mem _ hf)) s hs

-- ========================================================= distinct keys

/-- The key that a field comes back under, by the name of the field: the uniform identifier for
the identity field of a key that needs an alias, its own name for any other. A field that bears the
name of the uniform identifier without being that field has none. -/
def keyOf (p : Projector) (key : Option PrimaryKey) (fieldName : String) : Option String :=
  match key with
  | some key =>
    if key.aliasRequired then
      if fieldName = key.identityField then some p.naming.identifierName
      else if fieldName = p.naming.identifierName then none
      else some fieldName
    else some fieldName
  | none => some fieldName

/-- Fields with one key have one name. -/
theorem keyOf_injective {key : Option PrimaryKey} {first second responseKey : String}
    (hfirst : p.keyOf key first = some responseKey)
    (hsecond : p.keyOf key second = some responseKey) : first = second := by
  cases key with
  | none =>
      simp only [keyOf, Option.some.injEq] at hfirst hsecond
      rw [hfirst, hsecond]
  | some key =>
      simp only [keyOf] at hfirst hsecond
      grind

/-- The key of a field that passed the gate is the one for its name. -/
theorem Passed.keyOf_eq {key : Option PrimaryKey} {owner : NamedType} {field : Field}
    {responseName : Option Name} {arguments : List (Name × Literal)} {name : Name}
    (h : p.Passed key owner field responseName arguments) (hname : name.text = field.name) :
    p.keyOf key field.name = some (responseName.getD name).text := by
  have hnamed := h.named
  unfold Projector.responseName at hnamed
  split at hnamed
  · split at hnamed
    · next hrequired =>
      simp only [keyOf]
      rw [if_pos hrequired]
      -- the field of the identity, which is renamed
      split at hnamed
      · next hidentity =>
        rw [if_pos hidentity]
        cases hof : Name.ofText p.naming.identifierName with
        | error refusal =>
            rw [hof] at hnamed
            cases hnamed
        | ok renamed =>
            rw [hof] at hnamed
            cases hnamed
            exact congrArg some (Name.ofText_eq_ok_iff.1 hof).symm
      -- another field, which must not have the reserved name
      · next hother =>
        rw [if_neg hother]
        split at hnamed
        · cases hnamed
        · next hfree =>
          cases hnamed
          rw [if_neg hfree]
          exact congrArg some hname.symm
    -- without an alias every field keeps its name
    · next hplain =>
      cases hnamed
      simp only [keyOf]
      rw [if_neg hplain]
      exact congrArg some hname.symm
  · cases hnamed
    exact congrArg some hname.symm

/-- Every key on the first level is the key of one of the fields. -/
theorem Chosen.keyOf_mem {key : Option PrimaryKey} {path : List String} {owner : NamedType}
    {fields : List Field} {selections : List Selection}
    (h : p.Chosen key path owner fields selections) :
    ∀ s ∈ selections, ∃ f ∈ fields, p.keyOf key f.name = some s.responseKey.text := by
  induction h with
  | nil => intro s hs; cases hs
  | skip _ ih =>
      intro s hs
      obtain ⟨f, hf, heq⟩ := ih s hs
      exact ⟨f, List.mem_cons_of_mem _ hf, heq⟩
  | leaf hpassed hname _ _ ih | nested hpassed hname _ _ _ _ _ _ _ _ ih =>
      intro s hs
      rcases List.mem_cons.1 hs with rfl | hs
      · exact ⟨_, List.mem_cons_self, hpassed.keyOf_eq hname⟩
      · obtain ⟨f, hf, heq⟩ := ih s hs
        exact ⟨f, List.mem_cons_of_mem _ hf, heq⟩

/-- A field of another name than those that follow has another key. -/
theorem Chosen.responseKey_not_mem {key : Option PrimaryKey} {path : List String}
    {owner : NamedType} {field : Field} {rest : List Field} {selections : List Selection}
    (h : p.Chosen key path owner rest selections)
    (hfresh : field.name ∉ rest.map (·.name)) {responseKey : Name}
    (hkey : p.keyOf key field.name = some responseKey.text) :
    responseKey ∉ selections.map Selection.responseKey := by
  intro hmem
  obtain ⟨s, hs, rfl⟩ := List.mem_map.1 hmem
  obtain ⟨f, hf, heq⟩ := h.keyOf_mem s hs
  refine hfresh ?_
  rw [keyOf_injective hkey heq]
  exact List.mem_map_of_mem hf

/-- Where the names of fields are different within every type, so are the keys on every level. -/
theorem Chosen.distinctKeys {key : Option PrimaryKey} {path : List String} {owner : NamedType}
    {fields : List Field} {selections : List Selection}
    (h : p.Chosen key path owner fields selections)
    (htypes : ∀ name type, p.schema.type? name = some type → (type.fields.map (·.name)).Nodup)
    (hfields : (fields.map (·.name)).Nodup) : Selection.DistinctKeys selections := by
  induction h with
  | nil => exact .nil
  | skip _ ih =>
      rw [List.map_cons, List.nodup_cons] at hfields
      exact ih hfields.2
  | leaf hpassed hname _ hrest ih =>
      rw [List.map_cons, List.nodup_cons] at hfields
      have hfresh := hrest.responseKey_not_mem hfields.1 (hpassed.keyOf_eq hname)
      exact .cons hfresh .nil (ih hfields.2)
  | nested hpassed hname _ _ _ found _ _ hrest ihnested ih =>
      rw [List.map_cons, List.nodup_cons] at hfields
      have hfresh := hrest.responseKey_not_mem hfields.1 (hpassed.keyOf_eq hname)
      exact .cons hfresh (ihnested (htypes _ _ found)) (ih hfields.2)

-- ============================================================= the whole

/-- What a projector selects of a type is not empty and valid on the type at every level, and where
the names of fields are different within every type, no two selections of one level share a key. -/
theorem select_valid (p : Projector) {typeName : String} {key : Option PrimaryKey}
    {selections : List Selection} (h : (p.select typeName key).result = .ok selections) :
    selections ≠ []
      ∧ (∃ type, p.schema.type? typeName = some type ∧ ∀ s ∈ selections, p.Valid type s)
      ∧ ((∀ name type, p.schema.type? name = some type → (type.fields.map (·.name)).Nodup) →
          Selection.DistinctKeys selections) := by
  obtain ⟨hsome, type, found, hchosen⟩ := (p.settles_select typeName key).of_eq_ok h
  refine ⟨hsome, ⟨type, found, hchosen.valid fun f hf => hf⟩, fun htypes => ?_⟩
  exact hchosen.distinctKeys htypes (htypes typeName type found)

/-- Books and authors that refer to each other and are both expanded; the key of a book is its
`isbn`, it has a column of its own that is called `id`, and one field needs an argument. -/
def library : Projector where
  schema := {
    operations := []
    types := [
      { kind := .object, name := "Book", inputFields := [], enumValues := []
        fields := [
          ⟨"isbn", [], .nonNullOf (.named .scalar "String")⟩,
          ⟨"id", [], .named .scalar "Int"⟩,
          ⟨"greet", [⟨"name", .nonNullOf (.named .scalar "String"), none⟩],
            .named .scalar "String"⟩,
          ⟨"author", [], .named .object "Author"⟩] },
      { kind := .object, name := "Author", inputFields := [], enumValues := []
        fields := [
          ⟨"name", [], .named .scalar "String"⟩,
          ⟨"books", [], .listOf (.named .object "Book")⟩] }] }
  strategies := [
    ("Book", {
      isExpanded := true
      argumentsForField := fun _ _ => some [("name", .string "Ada")] }),
    ("Author", { isExpanded := true })]
  naming := {}
  verb := .getOne

/-- A book is known by its `isbn`, which comes back as the uniform identifier. -/
def libraryKey : PrimaryKey where
  fieldName := "isbn"
  scalarType := "String"
  idArgumentName := "nodeId"
  idArgumentType := "ID"
  singleOperation := "bookByNodeId"
  deleteOperation := "deleteBookByNodeId"
  updateOperation := "updateBookByNodeId"
  aliasRequired := true
  identityField := "isbn"

example : (library.select "Book" (some libraryKey)).result.map Selection.texts
    = .ok ["id: isbn", "greet(name: \"Ada\")", "author \x7b name \x7d"] := by
  rw [← selectWithin_eq (pure []) (show library.schema.typeNames.card ≤ 2 by decide)]
  decide +kernel

/-- Of types that refer to each other the selection is valid, and its keys are different. -/
theorem select_valid_library :
    ∃ selections, (library.select "Book" (some libraryKey)).result = .ok selections
      ∧ selections ≠ []
      ∧ (∃ type, library.schema.type? "Book" = some type
          ∧ ∀ s ∈ selections, library.Valid type s)
      ∧ Selection.DistinctKeys selections := by
  obtain ⟨selections, h⟩ :
      ∃ selections, (library.select "Book" (some libraryKey)).result = .ok selections := by
    rw [← selectWithin_eq (pure []) (show library.schema.typeNames.card ≤ 2 by decide)]
    exact ⟨_, rfl⟩
  have htypes : ∀ type ∈ library.schema.types, (type.fields.map (·.name)).Nodup := by decide
  obtain ⟨hsome, hvalid, hdistinct⟩ := select_valid library h
  exact ⟨selections, h, hsome, hvalid,
    hdistinct fun name type found => htypes type (Schema.mem_of_type? found)⟩

end Projector

end CrudGraph
