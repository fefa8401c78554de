/-
The written form of a schema read back. Each part of a schema is written as a record, and its
reader enters the members of the record one by one. So there is one lemma for a member that is
entered (`Layout.enterMembers_field`), one for lists of parts (`Reading.sequence_array`), and the
law of each part (`TypeRef.read_toJson` up to `Schema.read_toJson`) is a walk over its members with
the laws of the parts before it.

References are the only part that holds parts of its own kind. They are read by a function of their
own, and their law is an induction on the wrappers.
-/
import CrudGraph.Model.Response

namespace CrudGraph

open Reading

namespace Reading

variable {σ α : Type}

-- ============================================================ texts and lists

theorem text_string (s : String) : text (Json.string s) = .ok s := rfl

/-- A text that may be missing is written as null where it is, and null is read as its absence. -/
theorem nullable_text (s : Option String) : nullable text (Json.textOrNull s) = .ok s := by
  cases s <;> rfl

/-- Elements that are read back one by one are read back in a list, whatever their index. -/
theorem elementsFrom_map {write : α → Json} {read : Reader Json α}
    (h : ∀ a, read (write a) = .ok a) (index : Nat) (as : List α) :
    elementsFrom read index (as.map write) = .ok as := by
  induction as generalizing index with
  | nil => rfl
  | cons a rest ih =>
      rw [List.map_cons, elementsFrom, h, ih]
      rfl

/-- A list of parts is read back where its parts are; these are the two lists of a schema. -/
theorem sequence_array {write : α → Json} {read : Reader Json α}
    (h : ∀ a, read (write a) = .ok a) (as : List α) :
    sequence read (.array (as.map write)) = .ok as :=
  elementsFrom_map h 0 as

/-- A list that may be absent is read back as well: what is written is always there. -/
theorem readList_array {write : α → Json} {read : Reader Json α}
    (h : ∀ a, read (write a) = .ok a) (as : List α) :
    readList read (.array (as.map write)) = .ok as :=
  elementsFrom_map h 0 as

-- ================================================================= members

/-- A field that has to be there enters the value that it reads, whatever the draft holds. -/
theorem RecordField.enter_required {name : String} {read : Reader Json α} {set : σ → α → σ}
    {value : Json} {draft : σ} {a : α} (h : read value = .ok a) :
    (RecordField.required name read set).enter value draft = .ok (set draft a) := by
  show (do return set draft (← read value)) = _
  rw [h]
  rfl

theorem RecordField.enter_optional {name : String} {read : Reader Json α} {set : σ → α → σ}
    {value : Json} {draft : σ} {a : α} (h : read value = .ok a) :
    (RecordField.optional name read set).enter value draft = .ok (set draft a) := by
  show (do return set draft (← read value)) = _
  rw [h]
  rfl

/-- A member whose value its field reads is entered, and the members behind it are next. -/
theorem Layout.enterMembers_field {layout : Layout Json σ} {seen : List String} {draft next : σ}
    {name : String} {value : Json} {field : RecordField Json σ}
    (hfield : layout.fields.find? (·.name == name) = some field)
    (hseen : seen.contains name = false) (henter : field.enter value draft = .ok next)
    (rest : List (MemberName × Json)) :
    layout.enterMembers seen draft ((.text name, value) :: rest)
      = layout.enterMembers (name :: seen) next rest := by
  rw [enterMembers, hfield]
  dsimp only
  rw [hseen, henter]
  rfl

end Reading

-- ============================================================== references

/-- Kinds are told apart by their texts. -/
theorem TypeKind.read_text (kind : TypeKind) : TypeKind.read (.string kind.text) = .ok kind := by
  rw [read, ofName, ofText?_text]

namespace TypeRef

variable {draft : Draft} {rest : List (String × Json)}

/-- The kind of a reference comes into the draft before anything else of it does. -/
theorem readMembers_kind (kind : TypeKind) :
    readMembers draft (("kind", .string kind.text) :: rest)
      = readMembers { draft with kind := some kind } rest := by
  rw [readMembers, TypeKind.read_text]
  rfl

theorem readMembers_name (name : Option String) :
    readMembers draft (("name", .textOrNull name) :: rest)
      = readMembers { draft with name := name } rest := by
  rw [readMembers, nullable_text]
  rfl

/-- What a wrapper is around stands last. It is an object, so it is not taken for a null. -/
theorem readMembers_inner {members : List (String × Json)} {inner : TypeRef}
    (h : read (.object members) = .ok inner) :
    readMembers draft (("ofType", .object members) :: rest)
      = readMembers { draft with inner := some inner } rest := by
  rw [readMembers, h]
  · rfl
  · intro hnull
    cases hnull

/-- A reference is read back, through any number of wrappers. -/
theorem read_toJson (t : TypeRef) : read t.toJson = .ok t := by
  induction t with
  | bare kind name =>
      rw [toJson, read, readMembers_kind, readMembers_name]
      rfl
  | wrapping kind name inner ih =>
      obtain ⟨members, hmembers⟩ : ∃ members, inner.toJson = .object members := by
        cases inner <;> exact ⟨_, rfl⟩
      rw [hmembers] at ih
      rw [toJson, read, hmembers, readMembers_kind, readMembers_name, readMembers_inner ih]
      rfl

end TypeRef

-- ================================================================== records

/-- An argument or an input field is read back, also without a default value. -/
theorem InputValue.read_toJson (value : InputValue) :
    InputValue.read value.toJson = .ok value := by
  have hread : layout.read {} value.toJson
      = .ok ⟨some value.name, some value.type, value.defaultValue⟩ := by
    show layout.enterMembers [] {} [(.text "name", .string value.name),
      (.text "type", value.type.toJson),
      (.text "defaultValue", .textOrNull value.defaultValue)] = _
    rw [Layout.enterMembers_field rfl rfl (RecordField.enter_required (text_string _)),
      Layout.enterMembers_field rfl rfl (RecordField.enter_required value.type.read_toJson),
      Layout.enterMembers_field rfl rfl
        (RecordField.enter_optional (nullable_text value.defaultValue))]
    rfl
  rw [read, hread]
  rfl

/-- A field is read back with its arguments. -/
theorem Field.read_toJson (field : Field) : Field.read field.toJson = .ok field := by
  have hread : layout.read {} field.toJson
      = .ok ⟨some field.name, field.args, some field.type⟩ := by
    show layout.enterMembers [] {} [(.text "name", .string field.name),
      (.text "args", .array (field.args.map InputValue.toJson)),
      (.text "type", field.type.toJson)] = _
    rw [Layout.enterMembers_field rfl rfl (RecordField.enter_required (text_string _)),
      Layout.enterMembers_field rfl rfl
        (RecordField.enter_optional (readList_array InputValue.read_toJson field.args)),
      Layout.enterMembers_field rfl rfl (RecordField.enter_required field.type.read_toJson)]
    rfl
  rw [read, hread]
  rfl

/-- A record that has only a name, as values of enumerations and roots have. -/
theorem readNamed_object (record name : String) :
    readNamed record (.object [("name", .string name)]) = .ok name := by
  have hread :
      (namedLayout record).read none (.object [("name", .string name)]) = .ok (some name) := by
    show (namedLayout record).enterMembers [] none [(.text "name", .string name)] = _
    rw [Layout.enterMembers_field rfl rfl (RecordField.enter_required (text_string name))]
    rfl
  rw [readNamed, hread]
  rfl

theorem readNamed_enumValue (name : String) :
    readNamed "EnumValue" (enumValueToJson name) = .ok name :=
  readNamed_object "EnumValue" name

/-- A type is read back: its kind and name, and each of its three lists in order. -/
theorem NamedType.read_toJson (type : NamedType) : NamedType.read type.toJson = .ok type := by
  have hread : layout.read {} type.toJson
      = .ok ⟨some type.kind, some type.name, type.fields, type.inputFields, type.enumValues⟩ := by
    show layout.enterMembers [] {} [(.text "kind", .string type.kind.text),
      (.text "name", .string type.name),
      (.text "fields", .array (type.fields.map Field.toJson)),
      (.text "inputFields", .array (type.inputFields.map InputValue.toJson)),
      (.text "enumValues", .array (type.enumValues.map enumValueToJson))] = _
    rw [Layout.enterMembers_field rfl rfl (RecordField.enter_required type.kind.read_text),
      Layout.enterMembers_field rfl rfl (RecordField.enter_required (text_string _)),
      Layout.enterMembers_field rfl rfl
        (RecordField.enter_optional (readList_array Field.read_toJson type.fields)),
      Layout.enterMembers_field rfl rfl
        (RecordField.enter_optional (readList_array InputValue.read_toJson type.inputFields)),
      Layout.enterMembers_field rfl rfl
        (RecordField.enter_optional (readList_array readNamed_enumValue type.enumValues))]
    rfl
  rw [read, hread]
  rfl

/-- An operation is read back. Its type may be missing, and is written as null then, which the type
that is there never is. -/
theorem Operation.read_toJson (operation : Operation) :
    Operation.read operation.toJson = .ok operation := by
  have htype : nullable TypeRef.read ((operation.type.map TypeRef.toJson).getD .null)
      = .ok operation.type := by
    cases operation.type with
    | none => rfl
    | some type =>
        have hpresent : Node.isAbsent type.toJson = false := by
          cases type <;> rfl
        show nullable TypeRef.read type.toJson = _
        rw [nullable, hpresent, type.read_toJson]
        rfl
  have hread : layout.read {} operation.toJson
      = .ok ⟨some operation.name, operation.args, operation.type⟩ := by
    show layout.enterMembers [] {} [(.text "name", .string operation.name),
      (.text "args", .array (operation.args.map InputValue.toJson)),
      (.text "type", (operation.type.map TypeRef.toJson).getD .null)] = _
    rw [Layout.enterMembers_field rfl rfl (RecordField.enter_required (text_string _)),
      Layout.enterMembers_field rfl rfl
        (RecordField.enter_optional (readList_array InputValue.read_toJson operation.args)),
      Layout.enterMembers_field rfl rfl (RecordField.enter_optional htype)]
    rfl
  rw [read, hread]
  rfl

/-- A schema is read back as a whole, so what is known of its written form is known of the schema.
-/
theorem Schema.read_toJson (schema : Schema) : Schema.read schema.toJson = .ok schema := by
  show layout.enterMembers [] ⟨[], []⟩ [
    (.text "types", .array (schema.types.map NamedType.toJson)),
    (.text "queries", .array (schema.operations.map Operation.toJson))] = _
  rw [Layout.enterMembers_field rfl rfl
      (RecordField.enter_optional (sequence_array NamedType.read_toJson schema.types)),
    Layout.enterMembers_field rfl rfl
      (RecordField.enter_optional (sequence_array Operation.read_toJson schema.operations))]
  rfl

end CrudGraph
