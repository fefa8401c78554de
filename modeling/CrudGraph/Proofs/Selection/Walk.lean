/-
One step of the walk over a schema. At a field the walk either goes down into the field's own type
or it does not, and this is decided before anything is selected there (`entered?`). So the walk is
taken apart twice. `Fate` says what becomes of a field and what is reported on it, with everything
that happens further down in one report; it is the only lemma on the way from a finished walk back
to its parts. `Entered` says which types a walk goes down into, and on which path.

The path only ever grows by a type that is not on it (`isPath_of_entered`), which is what keeps the
walk from going round in a circle.

What is known of every single step is known of the walk if it is known of one step after the other
(`selectFields_carried`). In this way a walk is never refused as an invalid request, and so a type
of which nothing can be selected is told apart from everything else that may go wrong
(`Completes`).
-/
import CrudGraph.Proofs.Selection.Origin
import Mathlib.Data.Finset.Card
import Mathlib.Data.List.Nodup

namespace CrudGraph

/-- The field that an omission reports on, behind the name of its type. -/
def Omission.field? : Omission → Option (String × String)
  | .unconfiguredArgumentedField type field | .missingFieldArguments type field
  | .hiddenField type field | .unexpandedField type field _ | .recursiveField type field _
  | .emptySelection type field _ => some (type, field)
  | _ => none

namespace Projector

variable (p : Projector)

-- ================================================================= going down

/-- The type that the walk goes down into at a field: the field passes the gate, and its type is a
composite one of the schema that is expanded and not on the path yet. -/
def entered? (key : Option PrimaryKey) (path : List String) (owner : NamedType) (field : Field) :
    Option NamedType :=
  match p.gate key owner field with
  | .ok (.ok _) =>
    if field.type.base.kind.isComposite && p.isExpanded field.type.baseText
        && !path.contains field.type.baseText then
      p.schema.type? field.type.baseText
    else none
  | _ => none

/-- What a type has to be for the walk to go down into it. -/
structure Enters (key : Option PrimaryKey) (path : List String) (owner : NamedType) (field : Field)
    (type : NamedType) : Prop where
  passes : ∃ passed, p.gate key owner field = .ok (.ok passed)
  composite : field.type.base.kind.isComposite = true
  expanded : p.isExpanded field.type.baseText = true
  fresh : path.contains field.type.baseText = false
  found : p.schema.type? field.type.baseText = some type

variable {p} {key : Option PrimaryKey} {path : List String} {owner : NamedType} {field : Field}

/-- The type that the walk goes down into is the one that is all of this. -/
theorem entered?_eq_some_iff {type : NamedType} :
    p.entered? key path owner field = some type ↔ p.Enters key path owner field type := by
  unfold entered?
  constructor
  · intro h
    split at h
    · next passed hgate =>
      split at h
      · next hopen =>
        simp only [Bool.and_eq_true, Bool.not_eq_true'] at hopen
        exact ⟨⟨passed, hgate⟩, hopen.1.1, hopen.1.2, hopen.2, h⟩
      · cases h
    · cases h
  · intro h
    obtain ⟨passed, hgate⟩ := h.passes
    rw [hgate]
    simp [h.composite, h.expanded, h.fresh, h.found, -List.contains_eq_mem]

/-- Where no type is, the walk stays at the field. -/
theorem entered?_eq_none (h : ∀ type, ¬p.Enters key path owner field type) :
    p.entered? key path owner field = none :=
  Option.eq_none_iff_forall_ne_some.2 fun type htype => h type (entered?_eq_some_iff.1 htype)

/-- The type is known to the schema under the name that the field gives for it. -/
theorem name_of_entered? {type : NamedType} (h : p.entered? key path owner field = some type) :
    type.name = field.type.baseText :=
  Schema.name_of_type? (entered?_eq_some_iff.1 h).found

/-- Where the walk goes down, one type less is left to go down into. -/
theorem unvisited_lt_of_entered? {type : NamedType}
    (h : p.entered? key path owner field = some type) :
    p.unvisited (type.name :: path) < p.unvisited path :=
  p.unvisited_lt (entered?_eq_some_iff.1 h).found (entered?_eq_some_iff.1 h).fresh

-- ==================================================================== fates

variable (p) in
/-- What becomes of a field, and what is reported on the way. -/
inductive Fate (key : Option PrimaryKey) (path : List String) (owner : NamedType) (field : Field) :
    List Omission → Option Selection → Prop
  /-- The field is left out, and the one report is on it. -/
  | leftOut {omission} :
      p.entered? key path owner field = none →
      omission.field? = some (owner.name, field.name) →
      Fate key path owner field [omission] none
  /-- The field is selected as it is. -/
  | leaf {responseName name arguments} :
      p.entered? key path owner field = none →
      field.type.base.kind.isComposite = false →
      name.text = field.name →
      Fate key path owner field [] (some (.field responseName name arguments []))
  /-- The field is selected with what is selected of its type, and all reports are from there. -/
  | nested {type omissions selections responseName name arguments} :
      p.entered? key path owner field = some type →
      name.text = field.name →
      (p.selectFields none (type.name :: path) type type.fields).Reports omissions selections →
      selections ≠ [] →
      Fate key path owner field omissions (some (.field responseName name arguments selections))
  /-- Nothing is selected of the field's type; behind the reports from there is the one on the
  field, which is left out for it. -/
  | emptied {type omissions} :
      p.entered? key path owner field = some type →
      (p.selectFields none (type.name :: path) type type.fields).Reports omissions [] →
      Fate key path owner field
        (omissions ++ [.emptySelection owner.name field.name field.type.baseText]) none

/-- What the gate reports is on the field that it does not let through. -/
theorem field?_of_gate {omission : Omission} (h : p.gate key owner field = .ok (.error omission)) :
    omission.field? = some (owner.name, field.name) := by
  simp only [gate] at h
  split at h
  · cases h
    rfl
  · split at h
    · cases h
      rfl
    · obtain ⟨named, hnamed, h⟩ := bind_eq_ok_iff.1 h
      cases named with
      | error omission =>
          cases h
          -- Of the four ways to a response name only a reserved one is reported.
          unfold responseName at hnamed
          split at hnamed
          · split at hnamed
            · split at hnamed
              · obtain ⟨_, -, hnamed⟩ := bind_eq_ok_iff.1 hnamed
                cases hnamed
              · split at hnamed
                · cases hnamed
                  rfl
                · cases hnamed
            · cases hnamed
          · cases hnamed
      | ok responseName =>
          obtain ⟨given, -, h⟩ := bind_eq_ok_iff.1 h
          split at h
          · cases h
            rfl
          · cases h

/-- A field that is done with has one of the four fates. -/
theorem fate_of_selectField {omissions : List Omission} {found : Option Selection}
    (h : (p.selectField key path owner field).Reports omissions found) :
    p.Fate key path owner field omissions found := by
  rw [selectField] at h
  obtain ⟨outcome, hgate, h⟩ := h.of_lift_bind
  cases outcome with
  | error omission =>
    cases h
    -- the gate has left the field out, so no type is entered
    refine .leftOut (entered?_eq_none fun type henters => ?_) (field?_of_gate hgate)
    obtain ⟨passed, hpassed⟩ := henters.passes
    cases hgate.symm.trans hpassed
  | ok passed =>
    obtain ⟨responseName, arguments⟩ := passed
    dsimp only at h
    split at h
    · next hcomposite =>
      split at h
      -- a composite type that is not expanded
      · next hunexpanded =>
        cases h
        refine .leftOut (entered?_eq_none fun type henters => ?_) rfl
        simp [henters.expanded] at hunexpanded
      · next hexpanded =>
        split at h
        -- an expanded one that is on the path
        · next hvisited =>
          cases h
          refine .leftOut (entered?_eq_none fun type henters => ?_) rfl
          exact Bool.false_ne_true (henters.fresh.symm.trans hvisited)
        · next hfresh =>
          split at h
          · cases h
          · next type hfound =>
            have hentered : p.entered? key path owner field = some type :=
              entered?_eq_some_iff.2
                ⟨⟨_, hgate⟩, hcomposite, by simpa using hexpanded, hfresh, hfound⟩
            -- all five conditions hold: the field is nested, or empty after all
            obtain ⟨selections, below, own, hbelow, h, homissions⟩ := h.of_bind
            split at h
            · next hempty =>
              cases h
              obtain rfl : selections = [] := by simpa using hempty
              rw [homissions]
              exact .emptied hentered hbelow
            · next hsome =>
              obtain ⟨name, hname, h⟩ := h.of_lift_bind
              cases h
              rw [homissions, List.append_nil]
              exact .nested hentered (Name.ofText_eq_ok_iff.1 hname) hbelow (by simpa using hsome)
    -- a type without fields
    · next hleaf =>
      obtain ⟨name, hname, h⟩ := h.of_lift_bind
      cases h
      refine .leaf (entered?_eq_none fun type henters => hleaf henters.composite) ?_ ?_
      · simpa using hleaf
      · exact Name.ofText_eq_ok_iff.1 hname

-- ==================================================================== walks

/-- A walk over fields is done with each of them, in order. -/
theorem reports_cons {rest : List Field} {omissions : List Omission} {selections : List Selection}
    (h : (p.selectFields key path owner (field :: rest)).Reports omissions selections) :
    ∃ found others before after,
      (p.selectField key path owner field).Reports before found
        ∧ (p.selectFields key path owner rest).Reports after others
        ∧ selections = found.toList ++ others ∧ omissions = before ++ after := by
  rw [selectFields] at h
  obtain ⟨found, before, later, hfound, h, homissions⟩ := h.of_bind
  obtain ⟨others, after, last, hothers, h, hlater⟩ := h.of_bind
  cases h
  rw [List.append_nil] at hlater
  rw [homissions, hlater]
  exact ⟨found, others, before, after, hfound, hothers, rfl, rfl⟩

/-- What is reported on one of the fields is among what is reported on all. -/
theorem reports_of_mem {fields : List Field} {omissions : List Omission}
    {selections : List Selection}
    (h : (p.selectFields key path owner fields).Reports omissions selections)
    (hfield : field ∈ fields) :
    ∃ found own, (p.selectField key path owner field).Reports own found
      ∧ own.Sublist omissions := by
  induction fields generalizing omissions selections with
  | nil => cases hfield
  | cons first rest ih =>
    obtain ⟨found, others, before, after, hfirst, hrest, -, rfl⟩ := reports_cons h
    rcases List.mem_cons.1 hfield with rfl | hfield
    · exact ⟨found, before, hfirst, List.sublist_append_left before after⟩
    · obtain ⟨found, own, hown, hsub⟩ := ih hrest hfield
      exact ⟨found, own, hown, hsub.trans (List.sublist_append_right before after)⟩

variable (p) in
/-- The types that a walk goes down into from a first one, each with the key and the path on which
it does. Below the first one there is no key. -/
inductive Entered (key : Option PrimaryKey) (root : NamedType) :
    Option PrimaryKey → List String → NamedType → Prop
  | root : Entered key root key [root.name] root
  | down {above path owner field type} :
      Entered key root above path owner →
      field ∈ owner.fields →
      p.entered? above path owner field = some type →
      Entered key root none (type.name :: path) type

/-- A walk that ends has ended in every type that it went down into, and reports what is reported
there. -/
theorem reports_of_entered {root : NamedType} {omissions : List Omission}
    {selections : List Selection}
    (hroot : (p.selectFields key [root.name] root root.fields).Reports omissions selections)
    {above : Option PrimaryKey} (h : p.Entered key root above path owner) :
    ∃ below own, (p.selectFields above path owner owner.fields).Reports own below
      ∧ own.Sublist omissions := by
  induction h with
  | root => exact ⟨selections, omissions, hroot, List.Sublist.refl omissions⟩
  | down _ hfield hentered ih =>
    obtain ⟨below, own, hown, hsub⟩ := ih
    obtain ⟨found, inner, hselected, hinner⟩ := reports_of_mem hown hfield
    cases fate_of_selectField hselected with
    | leftOut hclosed _ | leaf hclosed _ _ => cases hclosed.symm.trans hentered
    | nested hopened _ hbelow _ =>
      cases hopened.symm.trans hentered
      exact ⟨_, _, hbelow, hinner.trans hsub⟩
    | emptied hopened hbelow =>
      cases hopened.symm.trans hentered
      exact ⟨_, _, hbelow, ((List.sublist_append_left _ _).trans hinner).trans hsub⟩

end Projector

-- ==================================================================== paths

namespace Schema

/-- The names of the types of a schema. -/
def typeNames (schema : Schema) : Finset String :=
  (schema.types.map (·.name)).toFinset

/-- The names on the path of a walk: types of the schema, and all different. -/
structure IsPath (schema : Schema) (path : List String) : Prop where
  distinct : path.Nodup
  known : ∀ name ∈ path, name ∈ schema.typeNames

variable {schema : Schema} {path : List String} {name : String} {type : NamedType}

/-- Every type that is found has one of these names. -/
theorem name_mem_typeNames (h : schema.type? name = some type) : type.name ∈ schema.typeNames :=
  List.mem_toFinset.2 (List.mem_map_of_mem (mem_of_type? h))

/-- The path of a walk begins with its first type. -/
theorem isPath_singleton (h : schema.type? name = some type) : schema.IsPath [type.name] := by
  refine ⟨List.nodup_singleton _, fun other hother => ?_⟩
  rw [List.mem_singleton.1 hother]
  exact name_mem_typeNames h

/-- A path grows by a type that is not on it. -/
theorem IsPath.cons (hpath : schema.IsPath path) (hfound : schema.type? name = some type)
    (hfresh : path.contains name = false) : schema.IsPath (type.name :: path) := by
  refine ⟨List.nodup_cons.2 ⟨?_, hpath.distinct⟩, fun other hother => ?_⟩
  · rw [name_of_type? hfound]
    simpa using hfresh
  · rcases List.mem_cons.1 hother with rfl | hother
    · exact name_mem_typeNames hfound
    · exact hpath.known other hother

/-- No path is longer than there are names. -/
theorem IsPath.length_le (hpath : schema.IsPath path) :
    path.length ≤ schema.typeNames.card := by
  rw [← List.toFinset_card_of_nodup hpath.distinct]
  apply Finset.card_le_card
  intro other hother
  exact hpath.known other (List.mem_toFinset.1 hother)

end Schema

/-- Wherever a walk goes down, its path is one. -/
theorem Projector.isPath_of_entered {p : Projector} {key above : Option PrimaryKey}
    {path : List String} {typeName : String} {root owner : NamedType}
    (hroot : p.schema.type? typeName = some root) (h : p.Entered key root above path owner) :
    p.schema.IsPath path := by
  induction h with
  | root => exact Schema.isPath_singleton hroot
  | down _ _ hentered ih =>
    have henters := entered?_eq_some_iff.1 hentered
    exact ih.cons henters.found henters.fresh

-- ================================================================ completion

/-- A computation that is not refused as an invalid request. What else it may be refused for is in
the schema or in a strategy. -/
def Blameless {α : Type} (result : Except Refusal α) : Prop :=
  ∀ reason, result ≠ .error (.invalidRequest reason)

namespace Blameless

variable {α β : Type}

theorem ok (value : α) : Blameless (.ok value) := by
  intro reason h
  cases h

/-- Any other refusal is not one of an invalid request. -/
theorem error {refusal : Refusal} (h : ∀ reason, refusal ≠ .invalidRequest reason) :
    Blameless (.error refusal : Except Refusal α) := by
  intro reason heq
  exact h reason (Except.error.inj heq)

/-- Of two steps, neither is refused for the request if both are not. -/
theorem bind {result : Except Refusal α} {next : α → Except Refusal β} (h : Blameless result)
    (hnext : ∀ value, Blameless (next value)) : Blameless (result >>= next) := by
  cases result with
  | ok value => exact hnext value
  | error refusal =>
    intro reason heq
    cases heq
    exact h reason rfl

/-- The same holds of reported steps, since reports do not change what comes out. -/
theorem reported_bind {first : Reported α} {next : α → Reported β} (h : Blameless first.result)
    (hnext : ∀ value, Blameless (next value).result) : Blameless (first >>= next).result := by
  rw [Reported.result_bind]
  exact h.bind hnext

theorem ofText (s : String) : Blameless (Name.ofText s) := by
  intro reason h
  obtain ⟨-, hreason⟩ := Name.ofText_eq_error_iff.1 h
  cases hreason

end Blameless

mutual

/-- A value from a strategy may hold keys that are no names. -/
theorem Literal.blameless_ofJson (value : Json) : Blameless (ofJson value) := by
  cases value with
  | null | bool | integer | double | string => exact .ok _
  | array items => exact .bind (blameless_ofItems items) fun _ => .ok _
  | object members => exact .bind (blameless_ofMembers members) fun _ => .ok _

theorem Literal.blameless_ofItems (items : List Json) : Blameless (ofItems items) := by
  cases items with
  | nil => exact .ok _
  | cons item rest =>
    exact .bind (blameless_ofJson item) fun _ => .bind (blameless_ofItems rest) fun _ => .ok _

/-- Members are gone through in order, each with its key. -/
theorem Literal.blameless_ofMembers (members : List (String × Json)) :
    Blameless (ofMembers members) := by
  cases members with
  | nil => exact .ok _
  | cons member rest =>
    obtain ⟨key, value⟩ := member
    refine .bind (.ofText key) fun _ => .bind (blameless_ofJson value) fun _ => ?_
    exact .bind (blameless_ofMembers rest) fun _ => .ok _

end

namespace Projector

variable (p : Projector)

/-- Arguments from a strategy are names with such values. -/
theorem blameless_argumentsOf (computed : List (String × Json)) :
    Blameless (argumentsOf computed) := by
  induction computed with
  | nil => exact .ok _
  | cons entry rest ih =>
    refine .bind (Literal.blameless_ofJson _) fun _ => .bind (.ofText _) fun _ => ?_
    exact .bind ih fun _ => .ok _

/-- A gate refuses for what a strategy or the configuration has given, not for the request. -/
theorem blameless_gate (key : Option PrimaryKey) (owner : NamedType) (field : Field) :
    Blameless (p.gate key owner field) := by
  have hnamed : Blameless (p.responseName key owner field) := by
    unfold responseName
    split
    · split
      · split
        · exact .bind (.ofText _) fun _ => .ok _
        · split <;> exact .ok _
      · exact .ok _
    · exact .ok _
  have hgiven : Blameless (arguments (Table.find? p.strategies owner.name) field) := by
    unfold arguments
    split
    · exact .ok _
    · split
      · exact blameless_argumentsOf _
      · exact .ok _
  simp only [gate]
  split
  · exact .ok _
  · split
    · exact .ok _
    · refine .bind hnamed fun named => ?_
      cases named with
      | error omission => exact .ok _
      | ok responseName =>
        refine .bind hgiven fun given => ?_
        split <;> exact .ok _

/-- A property of computations that the steps of a walk have, which report on fields or are refused
for the schema or a strategy, and that two steps have together if each has it. -/
structure Carried (motive : ∀ {α : Type}, Reported α → Prop) : Prop where
  pure : ∀ {α : Type} (value : α), motive (pure value : Reported α)
  bind : ∀ {α β : Type} {first : Reported α} {next : α → Reported β},
    motive first → (∀ value, motive (next value)) → motive (first >>= next)
  leaveOut : ∀ {omission names}, omission.field? = some names → motive (Reported.leaveOut omission)
  refuse : ∀ {α : Type} {refusal : Refusal}, (∀ reason, refusal ≠ .invalidRequest reason) →
    motive (Reported.refuse refusal : Reported α)

/-- A step without reports is one of these when it is not refused for the request. -/
theorem Carried.lift_bind {motive : ∀ {α : Type}, Reported α → Prop} (h : Carried motive)
    {α β : Type} {result : Except Refusal α} (hresult : Blameless result) {next : α → Reported β}
    (hnext : ∀ value, result = .ok value → motive (next value)) :
    motive ((liftM result : Reported α) >>= next) := by
  cases result with
  | ok value => exact hnext value rfl
  | error refusal => exact h.refuse fun reason heq => hresult reason (congrArg Except.error heq)

mutual

/-- What holds of every step of a walk, and of one step after the other, holds of the walk. -/
theorem selectFields_carried {motive : ∀ {α : Type}, Reported α → Prop} (h : Carried motive)
    (key : Option PrimaryKey) (path : List String) (owner : NamedType) (fields : List Field) :
    motive (p.selectFields key path owner fields) := by
  cases fields with
  | nil =>
    rw [selectFields]
    exact h.pure []
  | cons field rest =>
    rw [selectFields]
    refine h.bind (selectField_carried h key path owner field) fun first => ?_
    exact h.bind (selectFields_carried h key path owner rest) fun others => h.pure _
termination_by (p.unvisited path, 2 * fields.length + 1)

/-- One field is the steps that its fate names, and perhaps a walk below it. -/
theorem selectField_carried {motive : ∀ {α : Type}, Reported α → Prop} (h : Carried motive)
    (key : Option PrimaryKey) (path : List String) (owner : NamedType) (field : Field) :
    motive (p.selectField key path owner field) := by
  rw [selectField]
  refine h.lift_bind (p.blameless_gate key owner field) fun outcome hgate => ?_
  cases outcome with
  | error omission => exact h.bind (h.leaveOut (field?_of_gate hgate)) fun _ => h.pure none
  | ok passed =>
    dsimp only
    split
    · split
      · exact h.bind (h.leaveOut rfl) fun _ => h.pure none
      · split
        · exact h.bind (h.leaveOut rfl) fun _ => h.pure none
        · next fresh =>
          split
          · exact h.refuse fun reason => by simp
          · next type found =>
            have hlt := p.unvisited_lt found fresh
            refine h.bind (selectFields_carried h none (type.name :: path) type type.fields)
              fun selections => ?_
            split
            · exact h.bind (h.leaveOut rfl) fun _ => h.pure none
            · exact h.lift_bind (.ofText field.name) fun name _ => h.pure _
    · exact h.lift_bind (.ofText field.name) fun name _ => h.pure _
termination_by (p.unvisited path, 2)

end

/-- No walk is refused as an invalid request. -/
theorem blameless_selectFields (key : Option PrimaryKey) (path : List String) (owner : NamedType)
    (fields : List Field) : Blameless (p.selectFields key path owner fields).result := by
  have hcarried : Carried fun {_} reported => Blameless reported.result :=
    ⟨.ok, .reported_bind, fun _ => .ok (), .error⟩
  exact p.selectFields_carried hcarried key path owner fields

/-- A walk reports on fields, and on nothing else. -/
theorem field?_of_mem_selectFields {key : Option PrimaryKey} {path : List String}
    {owner : NamedType} {fields : List Field} {omission : Omission}
    (h : omission ∈ (p.selectFields key path owner fields).omissions) :
    ∃ names, omission.field? = some names := by
  have hcarried : Carried fun {_} reported =>
      ∀ omission ∈ reported.omissions, ∃ names, omission.field? = some names := by
    refine ⟨fun _ _ h => (by cases h), ?_, ?_, fun _ _ h => (by cases h)⟩
    · intro _ _ first next hfirst hnext omission h
      rcases Reported.mem_omissions_bind h with h | ⟨value, h⟩
      · exact hfirst omission h
      · exact hnext value omission h
    · intro omission names hnames other hother
      rw [List.mem_singleton.1 hother]
      exact ⟨names, hnames⟩
  exact p.selectFields_carried hcarried key path owner fields omission h

/-- So all that is reported of the selections of a type is on fields: that there is none to select
is refused and not reported. -/
theorem field?_of_mem_select {typeName : String} {key : Option PrimaryKey} {omission : Omission}
    (h : omission ∈ (p.select typeName key).omissions) : ∃ names, omission.field? = some names := by
  unfold select at h
  split at h
  · cases h
  · rcases Reported.mem_omissions_bind h with h | ⟨selections, h⟩
    · exact p.field?_of_mem_selectFields h
    · split at h <;> cases h

/-- What a type comes to: selections that it has, or none, if it is refused for that and nothing
else. -/
def Completes (typeName : String) (key : Option PrimaryKey) (selections : List Selection) : Prop :=
  (p.select typeName key).result = .ok selections
    ∨ selections = [] ∧ (p.select typeName key).result
      = .error (.invalidRequest s!"no field of `{typeName}` can be selected")

variable {p}

/-- Where the type is known, what is selected of it is what the walk over its fields ends with. -/
theorem select_of_type? {typeName : String} {root : NamedType} {key : Option PrimaryKey}
    (hroot : p.schema.type? typeName = some root) :
    p.select typeName key
      = p.selectFields key [root.name] root root.fields >>= fun selections =>
        if selections.isEmpty then
          Reported.refuse (.invalidRequest s!"no field of `{typeName}` can be selected")
        else return selections := by
  rw [select, hroot]

/-- Then the walk over the type has ended, with these selections. -/
theorem Completes.reports {typeName : String} {key : Option PrimaryKey}
    {selections : List Selection} (h : p.Completes typeName key selections) :
    ∃ root, p.schema.type? typeName = some root
      ∧ (p.selectFields key [root.name] root root.fields).Reports
          (p.select typeName key).omissions selections := by
  cases hroot : p.schema.type? typeName with
  | none =>
    have hrefused : (p.select typeName key).result = .error (.resourceTypeUnresolved typeName) := by
      rw [select, hroot]
      rfl
    rw [Completes, hrefused] at h
    rcases h with h | ⟨-, h⟩ <;> cases h
  | some root =>
    refine ⟨root, rfl, ?_⟩
    have hblameless := p.blameless_selectFields key [root.name] root root.fields
    rw [Completes, select_of_type? hroot] at h
    rw [select_of_type? hroot]
    generalize p.selectFields key [root.name] root root.fields = walk at h hblameless
    obtain ⟨omissions, result⟩ := walk
    cases result with
    | error refusal =>
      -- No refusal of the walk is the one for which there may be no selections.
      rcases h with h | ⟨-, h⟩
      · cases h
      · cases h
        exact absurd rfl (hblameless _)
    | ok found =>
      rw [Reported.bind_ok rfl] at h ⊢
      by_cases hempty : found.isEmpty = true
      · simp only [hempty, if_true] at h ⊢
        rcases h with h | ⟨rfl, -⟩
        · cases h
        · obtain rfl : found = [] := by simpa using hempty
          exact congrArg (Reported.mk · _) (List.append_nil omissions).symm
      · simp only [hempty] at h ⊢
        rcases h with h | ⟨-, h⟩
        · cases h
          exact congrArg (Reported.mk · _) (List.append_nil omissions).symm
        · cases h

end Projector

end CrudGraph
