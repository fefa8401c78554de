/-
The data that a request writes. Creating a record, updating one and updating many records all put
the data of the caller under one field of an input. What gets there is decided in three places: a
type that is nested in the input of the operation, or one that is named by convention, says which
members are taken, and the resource's own type says which values are coerced.

# What is shown

What is put there has just those members of the data that the type of the field declares, in the
order of the declaration, or all of them where no such type is known (`Context.Carries`). The type
is the one that the operation's input gives the field, or else the conventional one
(`Context.ShapedBy`). A value is what it is coerced to, if the resource has a field of its name
whose type coerces it, and otherwise what the caller gave, null included (`Context.Written`).
`Builder.build_carries` says so of all that is built, for every root field of it.

# How

`Context.inputData` makes such an object of any data and any type (`Context.carries_inputData`). The
names of the object are those of a table that is made of a list, whose repetitions are dropped
(`Table.keys_ofList`): a type may declare a field twice. What is left is that the object gets where
it belongs. The three verbs make their inputs in different ways, but in all of them the data comes
last, so that an identifier or a token of the same name cannot take its place
(`Table.find?_ofList_concat`).
-/
import CrudGraph.Proofs.Batch.OneByOne
import CrudGraph.Proofs.Selection.Leaves

namespace CrudGraph

-- ============================================================ where data goes

/-- Where a request puts its data: the operation that it calls, the field of the operation's input
that takes the data, and the name that the type of this field has by convention. -/
structure Destination where
  operation : String
  field : String
  conventional : String

/-- A root field calls the operation with an input that has this object where the data goes. -/
structure Asked.Delivers (asked : Asked) (place : Destination) (object : Table Json) : Prop where
  operation : asked.operation.text = place.operation
  argument : asked.argument.text = "input"
  value : ∃ input, asked.value = .object input
    ∧ Table.find? input place.field = some (.object object)

/-- A request delivers an object if all its root fields do, and it has some. -/
structure Envelope.Delivers (envelope : Envelope) (place : Destination) (object : Table Json) :
    Prop where
  asks : envelope.asked ≠ []
  all : ∀ asked ∈ envelope.asked, ∃ one, asked = some one ∧ one.Delivers place object

namespace Context

variable (c : Context)

/-- Where a request puts its data, if it writes any. -/
def destination? : Option Destination :=
  match c.verb with
  | .create => some {
      operation := "create" ++ c.resource.typeName
      field := c.resource.single
      conventional := c.resource.typeName ++ "Input" }
  | .update | .updateMany => some {
      operation := c.key.updateOperation
      field := "patch"
      conventional := c.resource.typeName ++ "Patch" }
  | _ => none

-- ============================================================ what is taken

/-- The input of the operation has the field, and this is of a known type. -/
def Nests (place : Destination) (type : NamedType) : Prop :=
  ∃ argument input nested, c.schema.argument? place.operation "input" = some argument
    ∧ c.schema.typeOf? argument.type = some input
    ∧ input.inputField? place.field = some nested ∧ c.schema.typeOf? nested.type = some type

/-- The type that says what is taken: that of the field in the input of the operation, or else the
conventional one, or none. -/
inductive ShapedBy (place : Destination) : Option NamedType → Prop
  | nested {type : NamedType} (known : c.Nests place type) : ShapedBy place (some type)
  | conventional {type : NamedType} (unnested : ∀ type, ¬c.Nests place type)
      (known : c.schema.type? place.conventional = some type) : ShapedBy place (some type)
  | unknown (unnested : ∀ type, ¬c.Nests place type)
      (unknown : c.schema.type? place.conventional = none) : ShapedBy place none

/-- The resource has a field of the name, and the type of this field coerces the value. -/
def Coerces (name : String) (given value : Json) : Prop :=
  ∃ field type strategy, c.resourceType.field? name = some field
    ∧ field.type.baseName = some type ∧ Table.find? c.strategies type = some strategy
    ∧ strategy.coerceInputValue given = some value

/-- The form in which a value that is given under a name is written. -/
inductive Written (name : String) (given : Json) : Json → Prop
  | coerced {value : Json} (coerced : c.Coerces name given value) : Written name given value
  | verbatim (none : ∀ value, ¬c.Coerces name given value) : Written name given given

/-- An object has the data that a type declares: its names are the declared ones that the data has,
each where it is first declared, and their values are written. Without a type it has all data, in
the order of the data. -/
inductive Carries (data : Table Json) : Option NamedType → Table Json → Prop
  | declared {type : NamedType} {object : Table Json}
      (names : Table.keys object
        = ((type.inputFields.map (·.name)).filter (Table.contains data)).eraseDups)
      (values : ∀ member ∈ object, ∃ given,
        Table.find? data member.1 = some given ∧ c.Written member.1 given member.2) :
      Carries data (some type) object
  | all {object : Table Json}
      (members : List.Forall₂
        (fun given sent => sent.1 = given.1 ∧ c.Written given.1 given.2 sent.2) data object) :
      Carries data none object

-- ================================================================== types

variable {c : Context}

/-- The lookup of a nested input type, as a relation. -/
theorem nests_iff {place : Destination} {type : NamedType} :
    c.Nests place type ↔ c.nestedInputType place.operation place.field = some type := by
  simp only [Nests, nestedInputType, Schema.argumentType?, Option.bind_eq_bind,
    Option.bind_eq_some_iff]
  constructor
  · intro h
    obtain ⟨argument, input, nested, hargument, hinput, hnested, htype⟩ := h
    exact ⟨input, ⟨argument, hargument, hinput⟩, nested, hnested, htype⟩
  · intro h
    obtain ⟨input, ⟨argument, hargument, hinput⟩, nested, hnested, htype⟩ := h
    exact ⟨argument, input, nested, hargument, hinput, hnested, htype⟩

/-- Where nothing is nested, the lookup finds nothing. -/
theorem forall_not_nests_iff {place : Destination} :
    (∀ type, ¬c.Nests place type) ↔ c.nestedInputType place.operation place.field = none := by
  simp only [nests_iff, Option.eq_none_iff_forall_ne_some, ne_eq]

/-- The type that is looked up for the data. -/
def shape (c : Context) (place : Destination) : Option NamedType :=
  (c.nestedInputType place.operation place.field).or (c.schema.type? place.conventional)

/-- It is the type that says what is taken. -/
theorem shapedBy_iff {place : Destination} {type : Option NamedType} :
    c.ShapedBy place type ↔ type = c.shape place := by
  unfold shape
  constructor
  · intro h
    cases h with
    | nested hknown => rw [nests_iff.1 hknown, Option.some_or]
    | conventional hunnested hknown => rw [forall_not_nests_iff.1 hunnested, hknown, Option.none_or]
    | unknown hunnested hunknown => rw [forall_not_nests_iff.1 hunnested, hunknown, Option.none_or]
  · rintro rfl
    cases hnested : c.nestedInputType place.operation place.field with
    | some type => exact .nested (nests_iff.2 hnested)
    | none =>
      rw [Option.none_or]
      cases hknown : c.schema.type? place.conventional with
      | some type => exact .conventional (forall_not_nests_iff.2 hnested) hknown
      | none => exact .unknown (forall_not_nests_iff.2 hnested) hknown

-- ================================================================= values

variable {name : String} {given value : Json} {data : Table Json}

/-- The lookup of a coercion, as a relation. -/
theorem coerces_iff :
    c.Coerces name given value
      ↔ (c.resourceType.field? name >>= (·.type.baseName) >>= fun type =>
          c.strategies.coerce? type given) = some value := by
  simp only [Coerces, Strategies.coerce?, Option.bind_eq_bind, Option.bind_eq_some_iff]
  constructor
  · intro h
    obtain ⟨field, type, strategy, hfield, htype, hstrategy, hvalue⟩ := h
    exact ⟨type, ⟨field, hfield, htype⟩, strategy, hstrategy, hvalue⟩
  · intro h
    obtain ⟨type, ⟨field, hfield, htype⟩, strategy, hstrategy, hvalue⟩ := h
    exact ⟨field, type, strategy, hfield, htype, hstrategy, hvalue⟩

/-- There is one form in which a value is written. -/
theorem written_iff : c.Written name given value ↔ value = c.inputValue name given := by
  unfold inputValue
  constructor
  · intro h
    cases h with
    | coerced hcoerced => rw [coerces_iff.1 hcoerced, Option.getD_some]
    | verbatim hnone =>
      have hnone := fun value hvalue => hnone value (coerces_iff.2 hvalue)
      rw [Option.eq_none_iff_forall_ne_some.2 hnone, Option.getD_none]
  · intro h
    subst h
    cases hcoerced : c.resourceType.field? name >>= (·.type.baseName) >>= fun type =>
        c.strategies.coerce? type given with
    | some value => exact .coerced (coerces_iff.2 hcoerced)
    | none =>
      refine .verbatim fun value hvalue => ?_
      rw [coerces_iff.1 hvalue] at hcoerced
      cases hcoerced

/-- What the request makes of a value is one of the two ways to write it. -/
theorem written_inputValue : c.Written name given (c.inputValue name given) :=
  written_iff.2 rfl

-- ================================================================ objects

/-- The names of the data that a type takes, before repetitions are dropped. -/
theorem keys_taken (write : String → Json → Json) (fields : List InputValue) :
    Table.keys (fields.filterMap fun field =>
        (Table.find? data field.name).map fun value => (field.name, write field.name value))
      = (fields.map (·.name)).filter (Table.contains data) := by
  induction fields with
  | nil => rfl
  | cons field rest ih =>
    rw [List.filterMap_cons, List.map_cons, List.filter_cons, ← ih, Table.contains]
    cases Table.find? data field.name <;> rfl

/-- The data in the shape of a type is an object of the kind that is sent. -/
theorem carries_inputData (data : Table Json) (type : Option NamedType) :
    c.Carries data type (c.inputData type data) := by
  cases type with
  | none =>
    refine .all (List.forall₂_map_right_iff.2 (List.forall₂_same.2 fun entry _ => ?_))
    exact ⟨rfl, written_inputValue⟩
  | some type =>
    refine .declared ?_ fun member hmember => ?_
    · exact (Table.keys_ofList _).trans (congrArg _ (keys_taken c.inputValue type.inputFields))
    · obtain ⟨field, -, hmade⟩ := List.mem_filterMap.1 (Table.mem_of_mem_ofList hmember)
      obtain ⟨given, hgiven, rfl⟩ := Option.map_eq_some_iff.1 hmade
      exact ⟨given, hgiven, written_inputValue⟩

/-- Each value of an object follows from its name. -/
theorem eq_map_keys {object : Table Json}
    (h : ∀ member ∈ object, ∃ given,
      Table.find? data member.1 = some given ∧ c.Written member.1 given member.2) :
    object = (Table.keys object).map fun name =>
      (name, c.inputValue name ((Table.find? data name).getD .null)) := by
  have hmember : ∀ member ∈ object,
      (member.1, c.inputValue member.1 ((Table.find? data member.1).getD .null)) = member := by
    intro member hmember
    obtain ⟨given, hgiven, hwritten⟩ := h member hmember
    rw [hgiven, Option.getD_some, ← written_iff.1 hwritten]
  rw [Table.keys, List.map_map]
  exact ((List.map_congr_left hmember).trans (List.map_id _)).symm

/-- There is one object that has the data. -/
theorem carries_iff {type : Option NamedType} {object : Table Json} :
    c.Carries data type object ↔ object = c.inputData type data := by
  constructor
  · intro h
    cases h with
    | @declared type _ hnames hvalues =>
      -- two tables with the same names, in which a value follows from its name
      cases carries_inputData (c := c) data (some type) with
      | declared hsameNames hsameValues =>
        rw [eq_map_keys hvalues, eq_map_keys hsameValues, hnames, hsameNames]
    | all hmembers =>
      induction hmembers with
      | nil => rfl
      | @cons given sent _ _ hsent _ ih =>
        rw [ih, ← Prod.eta (p := sent), hsent.1, written_iff.1 hsent.2]
        rfl
  · rintro rfl
    exact carries_inputData data type

-- ================================================================ requests

variable {params : Params} {envelope : Envelope} {place : Destination} {object : Table Json}

/-- Writing one record delivers what its input holds. -/
theorem delivers_writeRecord {input : Table Json}
    (h : (c.writeRecord place.operation input).EndsWith envelope)
    (hinput : Table.find? input place.field = some (.object object)) :
    envelope.Delivers place object := by
  obtain ⟨type, selections, operation, argument, record, -, hoperation, hargument, -, rfl⟩ :=
    writeRecord_eq_ok h
  have hasked := Envelope.asked_ofCall .mutation operation argument type (.object input)
    [.field none record [] selections] (.payloadRecord operation.text record.text)
  refine ⟨hasked ▸ List.cons_ne_nil _ _, fun asked hmem => ?_⟩
  rw [hasked] at hmem
  exact ⟨_, List.mem_singleton.1 hmem, hoperation, hargument, input, rfl, hinput⟩

/-- Writing many records delivers the data that they share. -/
theorem delivers_writeMany {label lead : String} (hpatch : place.field = "patch")
    (h : (c.writeMany params place.operation label lead (some object)).EndsWith envelope) :
    envelope.Delivers place object := by
  obtain ⟨operation, argument, type, selections, hoperation, hargument, -, hasked⟩ :=
    writeMany_asked h
  obtain ⟨hids, -⟩ := (c.settles_writeMany _ _ _ _ _).of_eq_ok h
  refine ⟨hasked ▸ mt List.map_eq_nil_iff.1 hids, fun asked hmem => ?_⟩
  rw [hasked] at hmem
  obtain ⟨id, -, rfl⟩ := List.mem_map.1 hmem
  refine ⟨_, rfl, hoperation, hargument, c.batchInput place.operation (some object) id, rfl, ?_⟩
  rw [hpatch]
  exact Table.find?_ofList_concat _ _ _

/-- A request that writes data delivers it in the shape that it has to have. -/
theorem delivers_request (hplace : c.destination? = some place)
    (h : (Builder.request c params).EndsWith envelope) :
    envelope.Delivers place (c.inputData (c.shape place) params.data) := by
  obtain ⟨schema, configuration, strategies, resource, type, key, verb⟩ := c
  cases verb
  case create =>
    cases hplace
    obtain ⟨_, -, h⟩ := h.of_lift_bind
    exact delivers_writeRecord h (if_pos rfl)
  case update =>
    cases hplace
    obtain ⟨_, -, h⟩ := h.of_lift_bind
    obtain ⟨_, -, h⟩ := h.of_lift_bind
    exact delivers_writeRecord h (Table.find?_ofList_concat [_] _ _)
  case updateMany =>
    cases hplace
    obtain ⟨_, -, h⟩ := h.of_lift_bind
    exact delivers_writeMany rfl h
  all_goals cases hplace

end Context

namespace Builder

/-- Requests that write carry the declared data and nothing else. Of what is built to create a
record, to update one or to update many, every root field calls the operation with an input that
has one and the same object where the data goes. It is made of the data of the caller in the shape
of the type that the operation's input has there, or else of the conventional one, or of all data
if there is neither. -/
theorem build_carries (builder : Builder) {verb resource : String} {c : Context}
    (hcontext : builder.context verb resource = .ok c) {place : Destination}
    (hplace : c.destination? = some place) {params : Params} {envelope : Envelope}
    {omissions : List Omission}
    (hbuilt : (builder.build verb resource params).1 = .ok (envelope, omissions)) :
    ∃ type object, c.ShapedBy place type ∧ c.Carries params.data type object
      ∧ envelope.Delivers place object := by
  have hrequest := (builder.reports_of_build hcontext hbuilt).endsWith
  exact ⟨_, _, Context.shapedBy_iff.2 rfl, Context.carries_inputData _ _,
    Context.delivers_request hplace hrequest⟩

/-- A library whose books have a location. A point that is written is its `geojson` member, if it
has one. A book is created from a form of its own, which declares the location first and has no
room for notes. -/
def library : Builder := .new {
    operations := [
      ⟨"book", [⟨"id", .nonNullOf (.named .scalar "Int"), none⟩],
        some (.named .object "Book")⟩,
      ⟨"createBook", [⟨"input", .nonNullOf (.named .inputObject "CreateBookInput"), none⟩],
        some (.named .object "CreateBookPayload")⟩]
    types := [
      { kind := .object, name := "Book", inputFields := [], enumValues := []
        fields := [
          ⟨"id", [], .nonNullOf (.named .scalar "Int")⟩,
          ⟨"title", [], .named .scalar "String"⟩,
          ⟨"location", [], .named .scalar "Point"⟩] },
      { kind := .inputObject, name := "CreateBookInput", fields := [], enumValues := []
        inputFields := [⟨"book", .nonNullOf (.named .inputObject "BookForm"), none⟩] },
      { kind := .inputObject, name := "BookForm", fields := [], enumValues := []
        inputFields := [
          ⟨"location", .named .scalar "Point", none⟩,
          ⟨"isbn", .named .scalar "String", none⟩,
          ⟨"title", .named .scalar "String", none⟩] }] } {}
  [("Point", { coerceInputValue := fun value => value.member? "geojson" })]

/-- The context of a request for a new book. -/
def libraryContext : Context where
  schema := library.schema
  configuration := library.configuration
  strategies := library.strategies
  resource := ⟨"Book", "book", "books"⟩
  resourceType := {
    kind := .object, name := "Book", inputFields := [], enumValues := []
    fields := [
      ⟨"id", [], .nonNullOf (.named .scalar "Int")⟩,
      ⟨"title", [], .named .scalar "String"⟩,
      ⟨"location", [], .named .scalar "Point"⟩] }
  key := .direct ⟨"Book", "book", "books"⟩ "id" "Int"
  verb := .create

theorem library_context : library.context "CREATE" "book" = .ok libraryContext :=
  library.context_eq_ok ofName_book rfl rfl (Verb.parse_text .create)

/-- A book can be created from any data. -/
theorem exists_created (data : Table Json) :
    ∃ envelope omissions,
      (library.build "CREATE" "book" { data }).1 = .ok (envelope, omissions) := by
  have htype : library.schema.type? "Book" = some libraryContext.resourceType := rfl
  have hshown : Table.find? library.strategies "Book" = none := rfl
  have hselected : ∃ selections, libraryContext.select.EndsWith selections :=
    Projector.select_isOk htype hshown (by decide) (by decide) (by decide)
  have hknown : libraryContext.requireOperation "createBook" = .ok () := rfl
  obtain ⟨envelope, hrequest⟩ : ∃ envelope, (libraryContext.create { data }).EndsWith envelope :=
    Reported.exists_lift_bind hknown
      (Context.writeRecord_isOk hselected ⟨_, rfl⟩ (by decide) (by decide))
  exact ⟨envelope, _, library.build_eq_ok_iff.2 ⟨_, library_context, hrequest, rfl⟩⟩

/-- A book without a title is created at its point, without the note. -/
theorem build_carries_library :
    ∃ envelope omissions,
      (library.build "CREATE" "book" { data := [
          ("title", .null), ("note", .string "signed"),
          ("location", .object [("srid", .integer 4326), ("geojson", .string "0,0")])] }).1
        = .ok (envelope, omissions)
      ∧ envelope.Delivers ⟨"createBook", "book", "BookInput"⟩
          [("location", .string "0,0"), ("title", .null)] := by
  obtain ⟨envelope, omissions, hbuilt⟩ := exists_created [
    ("title", .null), ("note", .string "signed"),
    ("location", .object [("srid", .integer 4326), ("geojson", .string "0,0")])]
  obtain ⟨type, object, htype, hobject, hdelivers⟩ :=
    build_carries library library_context rfl hbuilt
  obtain rfl := Context.shapedBy_iff.1 htype
  obtain rfl := Context.carries_iff.1 hobject
  exact ⟨envelope, omissions, hbuilt, hdelivers⟩

end Builder

end CrudGraph
