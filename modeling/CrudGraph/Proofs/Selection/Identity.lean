/-
The uniform identifier. Records of a resource whose key needs an alias come back with an identifier
under the uniform name all the same. Two places decide on it: the key says which field is the
identity (the synthetic identifier where the type declares it, the key field otherwise), and the
projector puts that field under the uniform name and keeps every other one away from it. A name may
stand for several of these at once: the synthetic identifier may be called like the uniform one, and
a type may have a column of that name that identifies nothing.

`UniformIdentifier` says what comes of it in all these cases. Half of it says what is not selected,
and follows from what is known of a selected field (`Chosen.exists_passed`). The other half says
that something is, and needs the walk to be followed once more: a field that nothing stands against
(`Selectable`) is never left out by a walk that succeeds (`mem_of_selectFields`).
-/
import CrudGraph.Proofs.Draft
import CrudGraph.Proofs.Key
import CrudGraph.Proofs.Selection.Validity

namespace CrudGraph

-- ====================================================== what is to be shown

/-- No selection has an alias, on this level or below. -/
inductive Selection.Plain : List Selection → Prop
  | intro {selections : List Selection}
      (here : ∀ s ∈ selections, s.responseName? = none)
      (below : ∀ s ∈ selections, Selection.Plain s.selections) :
      Selection.Plain selections

namespace Projector

/-- A field that nothing stands against: it is shown, nothing has to be selected of it, and every
argument that it requires is computed. -/
structure Selectable (p : Projector) (owner : NamedType) (field : Field) : Prop where
  visible : ∀ strategy, Table.find? p.strategies owner.name = some strategy →
    strategy.isFieldVisible field.name p.verb = true
  leaf : field.type.base.kind.isComposite = false
  provided : ∀ arg ∈ field.args, arg.isRequired = true →
    ∃ strategy computed, Table.find? p.strategies owner.name = some strategy
      ∧ strategy.argumentsForField field.name field.args = some computed
      ∧ arg.name ∈ Table.keys computed

/-- What selections of a type have to do with the uniform identifier of its records. -/
structure UniformIdentifier (p : Projector) (key : PrimaryKey) (type : NamedType)
    (selections : List Selection) : Prop where
  /-- The identity is a field of the type. -/
  declared : ∃ field ∈ type.fields, field.name = key.identityField
  /-- A field that is called like the identifier is selected only if it is the identity. -/
  reserved : ∀ s ∈ selections, s.name.text = p.naming.identifierName →
    s.name.text = key.identityField
  /-- What comes back as the identifier is the identity. -/
  addressed : ∀ s ∈ selections, s.responseKey.text = p.naming.identifierName →
    s.name.text = key.identityField
  /-- At most one value comes back as the identifier. -/
  single : (selections.map (·.responseKey.text)).count p.naming.identifierName ≤ 1
  /-- One does where the identity can be selected. -/
  present : ∀ field ∈ type.fields, field.name = key.identityField → p.Selectable type field →
    (selections.map (·.responseKey.text)).count p.naming.identifierName = 1
  /-- A key field besides the identity comes back under its own name where it can be selected. -/
  keyed : key.fieldName ≠ key.identityField →
    ∀ field ∈ type.fields, field.name = key.fieldName → p.Selectable type field →
      ∃ s ∈ selections, s.name.text = key.fieldName ∧ s.responseName? = none
  /-- No other selection has an alias. -/
  unaliased : ∀ s ∈ selections, s.responseKey.text ≠ p.naming.identifierName →
    s.responseName? = none
  /-- Nor has any below. -/
  plain : ∀ s ∈ selections, Selection.Plain s.selections

end Projector

-- =================================================================== keys

/-- A key that needs an alias is not called like the identifier, and its identity is a field of the
type. -/
theorem PrimaryKey.aliased_of_resolve {schema : Schema} {resource : Resource} {naming : Naming}
    {key : PrimaryKey} (h : resolve schema resource naming = .ok key)
    (halias : key.aliasRequired = true) {type : NamedType}
    (htype : schema.type? resource.typeName = some type) :
    key.fieldName ≠ naming.identifierName
      ∧ ∃ field ∈ type.fields, field.name = key.identityField := by
  obtain ⟨found, hfound, hkey⟩ := resolve_eq_ok_iff.1 h
  cases htype.symm.trans hfound
  exact ⟨hkey.alias_iff.1 halias, hkey.known⟩

namespace Projector

variable {p : Projector}

-- ======================================================== what is selected

/-- Every selection is that of a field that passed the gate. -/
theorem Chosen.exists_passed {key : Option PrimaryKey} {path : List String} {owner : NamedType}
    {fields : List Field} {selections : List Selection}
    (h : p.Chosen key path owner fields selections) :
    ∀ s ∈ selections, ∃ field ∈ fields, s.name.text = field.name
      ∧ p.Passed key owner field s.responseName? s.arguments := by
  induction h with
  | nil => intro s hs; cases hs
  | skip _ ih =>
      intro s hs
      obtain ⟨field, hfield, hpassed⟩ := ih s hs
      exact ⟨field, List.mem_cons_of_mem _ hfield, hpassed⟩
  | leaf hpassed hname _ _ ih | nested hpassed hname _ _ _ _ _ _ _ _ ih =>
      intro s hs
      rcases List.mem_cons.1 hs with rfl | hs
      · exact ⟨_, List.mem_cons_self, hname, hpassed⟩
      · obtain ⟨field, hfield, hpassed⟩ := ih s hs
        exact ⟨field, List.mem_cons_of_mem _ hfield, hpassed⟩

/-- Without a key, a field comes back under its own name. -/
theorem Passed.responseName_eq_none {owner : NamedType} {field : Field}
    {responseName : Option Name} {arguments : List (Name × Literal)}
    (h : p.Passed none owner field responseName arguments) : responseName = none := by
  have hnamed := h.named
  cases hnamed
  rfl

/-- So does every field but the identity. -/
theorem Passed.responseName_eq_none_of_ne {key : PrimaryKey} {owner : NamedType} {field : Field}
    {responseName : Option Name} {arguments : List (Name × Literal)}
    (h : p.Passed (some key) owner field responseName arguments)
    (hother : field.name ≠ key.identityField) : responseName = none := by
  have hnamed := h.named
  simp only [Projector.responseName] at hnamed
  rw [if_neg hother] at hnamed
  split at hnamed
  · split at hnamed
    · cases hnamed
    · cases hnamed
      rfl
  · cases hnamed
    rfl

/-- Nothing below the first level has an alias, since the key is left behind there. -/
theorem Chosen.plain {key : Option PrimaryKey} {path : List String} {owner : NamedType}
    {fields : List Field} {selections : List Selection}
    (h : p.Chosen key path owner fields selections) :
    (∀ s ∈ selections, Selection.Plain s.selections)
      ∧ (key = none → Selection.Plain selections) := by
  have hbelow : ∀ s ∈ selections, Selection.Plain s.selections := by
    induction h with
    | nil => intro s hs; cases hs
    | skip _ ih => exact ih
    | leaf _ _ _ _ ih =>
        intro s hs
        rcases List.mem_cons.1 hs with rfl | hs
        · exact .intro (fun s hs => by cases hs) (fun s hs => by cases hs)
        · exact ih s hs
    | nested _ _ _ _ _ _ hnested _ _ ihnested ih =>
        intro s hs
        rcases List.mem_cons.1 hs with rfl | hs
        · refine .intro (fun s hs => ?_) ihnested
          obtain ⟨field, -, -, hpassed⟩ := hnested.exists_passed s hs
          exact hpassed.responseName_eq_none
        · exact ih s hs
  -- Only the level with the key has response names, and it is the first one.
  refine ⟨hbelow, fun hnone => .intro (fun s hs => ?_) hbelow⟩
  subst hnone
  obtain ⟨field, -, -, hpassed⟩ := h.exists_passed s hs
  exact hpassed.responseName_eq_none

/-- Where the names of fields are different, so are the keys of their selections. -/
theorem Chosen.nodup_responseKeys {key : Option PrimaryKey} {path : List String}
    {owner : NamedType} {fields : List Field} {selections : List Selection}
    (h : p.Chosen key path owner fields selections) (hfields : (fields.map (·.name)).Nodup) :
    (selections.map Selection.responseKey).Nodup := by
  induction h with
  | nil => exact List.nodup_nil
  | skip _ ih =>
      rw [List.map_cons, List.nodup_cons] at hfields
      exact ih hfields.2
  | leaf hpassed hname _ hrest ih | nested hpassed hname _ _ _ _ _ _ hrest _ ih =>
      rw [List.map_cons, List.nodup_cons] at hfields ⊢
      exact ⟨hrest.responseKey_not_mem hfields.1 (hpassed.keyOf_eq hname), ih hfields.2⟩

-- ==================================================== what is not left out

/-- Computed arguments keep their names. -/
theorem argumentsOf_names {computed : List (String × Json)} {arguments : List (Name × Literal)}
    (h : argumentsOf computed = .ok arguments) :
    arguments.map (·.1.text) = Table.keys computed := by
  induction computed generalizing arguments with
  | nil => cases h; rfl
  | cons entry rest ih =>
      obtain ⟨name, value⟩ := entry
      rw [argumentsOf] at h
      obtain ⟨literal, -, h⟩ := bind_eq_ok_iff.1 h
      obtain ⟨argument, hname, h⟩ := bind_eq_ok_iff.1 h
      obtain ⟨others, hothers, h⟩ := bind_eq_ok_iff.1 h
      cases h
      rw [List.map_cons, ih hothers, Name.ofText_eq_ok_iff.1 hname]
      rfl

/-- A selectable field lacks none of the arguments that are computed for it. -/
theorem Selectable.lacksArgument_eq_false {owner : NamedType} {field : Field}
    (h : p.Selectable owner field) {given : List (Name × Literal)}
    (hgiven : arguments (Table.find? p.strategies owner.name) field = .ok given) :
    lacksArgument field given = false := by
  refine List.any_eq_false.2 fun arg harg => ?_
  cases hrequired : arg.isRequired with
  | false => exact Bool.false_ne_true
  | true =>
      obtain ⟨strategy, computed, hstrategy, hcomputed, hmem⟩ := h.provided arg harg hrequired
      have hsome : field.args.isEmpty = false := by
        cases hargs : field.args with
        | nil => rw [hargs] at harg; cases harg
        | cons first rest => rfl
      have hcall : (some strategy >>= fun strategy =>
          strategy.argumentsForField field.name field.args) = some computed := hcomputed
      rw [arguments, hsome, if_neg Bool.false_ne_true, hstrategy, hcall] at hgiven
      rw [← argumentsOf_names hgiven] at hmem
      obtain ⟨entry, hentry, hname⟩ := List.mem_map.1 hmem
      have hany : given.any (fun entry => entry.1.text == arg.name) = true :=
        List.any_eq_true.2 ⟨entry, hentry, by simpa using hname⟩
      rw [hany]
      exact Bool.false_ne_true

/-- A selectable field is let through the gate, unless its key is refused to it. -/
theorem Selectable.gate_eq_ok {key : Option PrimaryKey} {owner : NamedType} {field : Field}
    (h : p.Selectable owner field)
    (hfree : ∀ omission, p.responseName key owner field ≠ .ok (.error omission))
    {outcome : Except Omission (Option Name × List (Name × Literal))}
    (houtcome : p.gate key owner field = .ok outcome) :
    ∃ responseName given, outcome = .ok (responseName, given) := by
  have hconfigured : (field.hasRequiredArguments
      && (Table.find? p.strategies owner.name).isNone) = false := by
    cases hrequires : field.hasRequiredArguments with
    | false => rfl
    | true =>
        obtain ⟨arg, harg, hrequired⟩ := List.any_eq_true.1 hrequires
        obtain ⟨strategy, -, hstrategy, -⟩ := h.provided arg harg hrequired
        rw [hstrategy]
        rfl
  have hshown : (Table.find? p.strategies owner.name).any
      (fun strategy => !strategy.isFieldVisible field.name p.verb) = false := by
    cases hfound : Table.find? p.strategies owner.name with
    | none => rfl
    | some strategy =>
        rw [Option.any_some, h.visible strategy hfound]
        rfl
  simp only [gate] at houtcome
  rw [hconfigured, hshown, if_neg Bool.false_ne_true, if_neg Bool.false_ne_true] at houtcome
  obtain ⟨named, hnamed, houtcome⟩ := bind_eq_ok_iff.1 houtcome
  cases named with
  | error omission => exact absurd hnamed (hfree omission)
  | ok responseName =>
      obtain ⟨given, hgiven, houtcome⟩ := bind_eq_ok_iff.1 houtcome
      rw [h.lacksArgument_eq_false hgiven, if_neg Bool.false_ne_true] at houtcome
      cases houtcome
      exact ⟨responseName, given, rfl⟩

/-- What a walk makes of a selectable field is a selection of it. -/
theorem Selectable.exists_of_selectField {key : Option PrimaryKey} {path : List String}
    {owner : NamedType} {field : Field} (h : p.Selectable owner field)
    (hfree : ∀ omission, p.responseName key owner field ≠ .ok (.error omission))
    {found : Option Selection}
    (hfound : (p.selectField key path owner field).EndsWith found) :
    ∃ s, found = some s ∧ s.name.text = field.name
      ∧ p.Passed key owner field s.responseName? s.arguments := by
  rw [selectField] at hfound
  obtain ⟨outcome, hgate, hfound⟩ := hfound.of_lift_bind
  obtain ⟨responseName, given, rfl⟩ := h.gate_eq_ok hfree hgate
  have hpassed := (p.settles_gate key owner field).of_eq_ok hgate responseName given rfl
  dsimp only at hfound
  rw [h.leaf, if_neg Bool.false_ne_true] at hfound
  obtain ⟨name, hname, hfound⟩ := hfound.of_lift_bind
  cases hfound
  exact ⟨_, rfl, Name.ofText_eq_ok_iff.1 hname, hpassed⟩

/-- A walk that succeeds leaves no selectable field out. -/
theorem mem_of_selectFields {key : Option PrimaryKey} {path : List String} {owner : NamedType}
    {fields : List Field} {selections : List Selection}
    (h : (p.selectFields key path owner fields).EndsWith selections) {field : Field}
    (hfield : field ∈ fields) (hselectable : p.Selectable owner field)
    (hfree : ∀ omission, p.responseName key owner field ≠ .ok (.error omission)) :
    ∃ s ∈ selections, s.name.text = field.name
      ∧ p.Passed key owner field s.responseName? s.arguments := by
  induction fields generalizing selections with
  | nil => cases hfield
  | cons first rest ih =>
      rw [selectFields] at h
      obtain ⟨found, hfound, h⟩ := h.of_bind
      obtain ⟨others, hothers, h⟩ := h.of_bind
      cases h
      rcases List.mem_cons.1 hfield with rfl | hfield
      · obtain ⟨s, rfl, hs⟩ := hselectable.exists_of_selectField hfree hfound
        exact ⟨s, List.mem_append_left _ (List.mem_singleton.2 rfl), hs⟩
      · obtain ⟨s, hmem, hs⟩ := ih hothers hfield
        exact ⟨s, List.mem_append_right _ hmem, hs⟩

/-- Selections of a type come from a walk over all its fields. -/
theorem selectFields_of_select {typeName : String} {key : Option PrimaryKey} {type : NamedType}
    (htype : p.schema.type? typeName = some type) {selections : List Selection}
    (h : (p.select typeName key).EndsWith selections) :
    (p.selectFields key [type.name] type type.fields).EndsWith selections := by
  unfold select at h
  rw [htype] at h
  dsimp only at h
  obtain ⟨found, hfound, h⟩ := h.of_bind
  split at h
  · cases h
  · cases h
    exact hfound

-- ============================================================= the whole

/-- The identity comes back as the identifier. -/
theorem keyOf_identity {key : PrimaryKey} (halias : key.aliasRequired = true) :
    p.keyOf (some key) key.identityField = some p.naming.identifierName := by
  simp only [keyOf, halias, if_true]

/-- What comes back as the identifier, or is called like it and comes back at all, is the
identity. -/
theorem eq_identity_of_keyOf {key : PrimaryKey} (halias : key.aliasRequired = true)
    {fieldName responseKey : String} (h : p.keyOf (some key) fieldName = some responseKey)
    (hidentifier : responseKey = p.naming.identifierName
      ∨ fieldName = p.naming.identifierName) : fieldName = key.identityField := by
  simp only [keyOf, halias, if_true] at h
  by_cases hidentity : fieldName = key.identityField
  · exact hidentity
  · rw [if_neg hidentity] at h
    split at h
    · cases h
    · next hother =>
      cases h
      exact absurd (hidentifier.elim id id) hother

/-- No key is refused to the identity, nor to a field that is not called like the identifier. -/
theorem responseName_ne_omission {key : PrimaryKey} {owner : NamedType} {field : Field}
    (h : field.name = key.identityField ∨ field.name ≠ p.naming.identifierName)
    (omission : Omission) : p.responseName (some key) owner field ≠ .ok (.error omission) := by
  intro hnamed
  simp only [responseName] at hnamed
  split at hnamed
  · split at hnamed
    · obtain ⟨name, -, hnamed⟩ := bind_eq_ok_iff.1 hnamed
      cases hnamed
    · next hidentity =>
      rw [if_neg (h.resolve_left hidentity)] at hnamed
      cases hnamed
  · cases hnamed

/-- The selections of a type for a resource whose key needs an alias have a uniform identifier. -/
theorem select_uniformIdentifier (p : Projector) {resource : Resource} {key : PrimaryKey}
    (hkey : PrimaryKey.resolve p.schema resource p.naming = .ok key)
    (halias : key.aliasRequired = true) {type : NamedType}
    (htype : p.schema.type? resource.typeName = some type)
    (hnames : (type.fields.map (·.name)).Nodup) {selections : List Selection}
    (h : (p.select resource.typeName (some key)).result = .ok selections) :
    p.UniformIdentifier key type selections := by
  have hwalk := selectFields_of_select htype h
  have hchosen : p.Chosen (some key) [type.name] type type.fields selections :=
    (p.settles_selectFields _ _ _ _).of_eq_ok hwalk
  obtain ⟨hother, hdeclared⟩ := PrimaryKey.aliased_of_resolve hkey halias htype
  -- the key that a selection comes back under is the one for its name
  have hkeyOf : ∀ s ∈ selections,
      p.keyOf (some key) s.name.text = some s.responseKey.text := by
    intro s hs
    obtain ⟨field, -, hname, hpassed⟩ := hchosen.exists_passed s hs
    rw [hname]
    exact hpassed.keyOf_eq hname
  have hnodup : (selections.map (·.responseKey.text)).Nodup :=
    Name.nodup_texts (hchosen.nodup_responseKeys hnames)
  refine {
    declared := hdeclared
    reserved := fun s hs hname => eq_identity_of_keyOf halias (hkeyOf s hs) (.inr hname)
    addressed := fun s hs hresponse => eq_identity_of_keyOf halias (hkeyOf s hs) (.inl hresponse)
    single := List.nodup_iff_count_le_one.1 hnodup _
    present := fun field hfield hname hselectable => ?present
    keyed := fun hbesides field hfield hname hselectable => ?keyed
    unaliased := fun s hs hresponse => ?unaliased
    plain := hchosen.plain.1 }
  case present =>
    obtain ⟨s, hs, hsname, -⟩ := mem_of_selectFields hwalk hfield hselectable
      (responseName_ne_omission (.inl hname))
    have hresponse := hkeyOf s hs
    rw [hsname, hname, keyOf_identity halias, Option.some.injEq] at hresponse
    refine List.count_eq_one_of_mem hnodup ?_
    rw [hresponse]
    exact List.mem_map_of_mem hs
  case keyed =>
    rw [← hname] at hother hbesides
    obtain ⟨s, hs, hsname, hpassed⟩ := mem_of_selectFields hwalk hfield hselectable
      (responseName_ne_omission (.inr hother))
    exact ⟨s, hs, hsname.trans hname, hpassed.responseName_eq_none_of_ne hbesides⟩
  case unaliased =>
    obtain ⟨field, -, hname, hpassed⟩ := hchosen.exists_passed s hs
    refine hpassed.responseName_eq_none_of_ne fun hidentity => hresponse ?_
    have hidentifier := hkeyOf s hs
    rw [hname, hidentity, keyOf_identity halias, Option.some.injEq] at hidentifier
    exact hidentifier.symm

/-- The library, with an operation that answers with one book by its `isbn`. -/
def lendingLibrary : Projector where
  schema := {
    library.schema with
    operations := [⟨"book", [⟨"isbn", .nonNullOf (.named .scalar "String"), none⟩],
      some (.named .object "Book")⟩] }
  strategies := library.strategies
  naming := library.naming
  verb := library.verb

/-- A book that has a column `id` of its own comes back with its `isbn` as the identifier, and with
nothing else under that name. -/
theorem select_uniformIdentifier_library :
    PrimaryKey.resolve lendingLibrary.schema ⟨"Book", "book", "books"⟩ lendingLibrary.naming
        = .ok libraryKey
      ∧ ∃ type selections, lendingLibrary.schema.type? "Book" = some type
        ∧ (lendingLibrary.select "Book" (some libraryKey)).result = .ok selections
        ∧ lendingLibrary.UniformIdentifier libraryKey type selections
        ∧ (selections.map (·.responseKey.text)).count "id" = 1 := by
  obtain ⟨selections, h⟩ :
      ∃ selections, (lendingLibrary.select "Book" (some libraryKey)).result = .ok selections := by
    rw [← selectWithin_eq (pure []) (show lendingLibrary.schema.typeNames.card ≤ 2 by decide)]
    exact ⟨_, rfl⟩
  have hkey : PrimaryKey.resolve lendingLibrary.schema ⟨"Book", "book", "books"⟩
      lendingLibrary.naming = .ok libraryKey := by rfl
  obtain ⟨type, htype, hnames⟩ : ∃ type, lendingLibrary.schema.type? "Book" = some type
      ∧ (type.fields.map (·.name)).Nodup := ⟨_, rfl, by decide⟩
  have huniform := select_uniformIdentifier lendingLibrary hkey rfl htype hnames h
  refine ⟨hkey, type, selections, htype, h, huniform, ?_⟩
  cases htype
  refine huniform.present _ (List.mem_cons_self) rfl ⟨fun strategy hstrategy => ?_, rfl, ?_⟩
  · cases hstrategy
    rfl
  · intro arg harg
    cases harg

end Projector

end CrudGraph
