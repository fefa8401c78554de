/-
Schemas written less strictly. The written form of a schema names every member and nothing else.
Those who produce schemas do not keep to it: they add members of their own, write null for an empty
list, and leave out what is null or empty. None of this may change the schema that is read.

# What is shown

Each change makes one value out of another (`Loosens`), at the top or in any record below it, and
whatever was read of a record is read of the changed one (`Loosens.read_of_read`). So a schema is
read from its written form after any number of changes (`Schema.read_loosened`).

# How

The records of a schema are of seven kinds (`Part`), and each kind is read by entering members into
a draft (`Part.read_object`); references have a reader of their own, which is shown to do the same.
A change is then a change to one member. One that is added is unknown; a null that is left out sets
what is set from the start, or was never there since it would have been refused
(`Part.mayDrop_null`); and one that holds records is entered after a change to them as it was before,
because they are read as they were (`Part.Inner.enterMember`, `Part.Element.enterMember`).
-/
import CrudGraph.Proofs.Record
import CrudGraph.Proofs.Written
import Mathlib.Logic.Relation

namespace CrudGraph

open Reading

-- ============================================================= references

namespace TypeRef

/-- How a reference is written, as for other records. -/
def layout : Layout Json Draft where
  name := "TypeRef"
  isClosed := false
  fields := [
    .required "kind" TypeKind.read fun draft kind => { draft with kind := some kind },
    .optional "name" (Reading.nullable text) fun draft name => { draft with name := name },
    .optional "ofType" (Reading.nullable read) fun draft inner => { draft with inner := inner }]

/-- The reader of references enters one member as other readers do, and goes on. -/
theorem readMembers_cons (draft : Draft) (name : String) (value : Json) (rest : Table Json) :
    readMembers draft ((name, value) :: rest)
      = layout.enterMember draft (name, value) >>= fun next => readMembers next rest := by
  by_cases hkind : name = "kind"
  · subst hkind
    rw [readMembers]
    show _ = within _ (TypeKind.read value >>= _) >>= _
    cases TypeKind.read value <;> rfl
  by_cases hname : name = "name"
  · subst hname
    rw [readMembers]
    show _ = within _ (Reading.nullable text value >>= _) >>= _
    cases Reading.nullable text value <;> rfl
  by_cases hinner : name = "ofType"
  · subst hinner
    -- The reader tells null from other values before it says in which member it is.
    have hnext : readMembers draft (("ofType", value) :: rest)
        = within (.member "ofType") (Reading.nullable read value) >>= fun inner =>
            readMembers { draft with inner := inner } rest := by
      cases value with
      | null => rfl
      | bool | integer | double | string | array | object =>
          rw [readMembers]
          · rfl
          · intro hnull
            cases hnull
    rw [hnext]
    show _ = within _ (Reading.nullable read value >>= _) >>= _
    cases Reading.nullable read value <;> rfl
  · have hunknown : name ∉ layout.names := by
      simp [Layout.names, layout, hkind, hname, hinner]
    rw [Layout.enterMember_unknown hunknown, readMembers]
    · rfl
    · exact fun value hmember => hkind (congrArg Prod.fst hmember)
    · exact fun value hmember => hname (congrArg Prod.fst hmember)
    · exact fun value hmember => hinner (congrArg Prod.fst hmember)

/-- So it enters all members as they do, one after the other. -/
theorem readMembers_eq_foldlM (draft : Draft) (members : Table Json) :
    readMembers draft members = members.foldlM layout.enterMember draft := by
  induction members generalizing draft with
  | nil => rfl
  | cons member rest ih =>
      rw [readMembers_cons, List.foldlM_cons]
      exact bind_congr fun next => ih next

end TypeRef

-- =========================================================== null members

section nulls

variable {name : String}

/-- The two lists of a schema may not be null, so no null was there to be left out. -/
theorem Schema.mayDrop_null (h : name ∈ layout.names) : layout.MayDrop ⟨[], []⟩ name .null := by
  have hnames : name ∈ ["types", "queries"] := h
  simp only [List.mem_cons, List.not_mem_nil, or_false] at hnames
  rcases hnames with rfl | rfl
  · exact .of_refused fun _ _ => nofun
  · exact .of_refused fun _ _ => nofun

/-- Of a type the three lists may be null, which is what they are without a member. -/
theorem NamedType.mayDrop_null (h : name ∈ layout.names) : layout.MayDrop {} name .null := by
  have hnames : name ∈ ["kind", "name", "fields", "inputFields", "enumValues"] := h
  simp only [List.mem_cons, List.not_mem_nil, or_false] at hnames
  rcases hnames with rfl | rfl | rfl | rfl | rfl
  · exact .of_refused fun _ _ => nofun
  · exact .of_refused fun _ _ => nofun
  · exact .of_optional Draft.fields rfl (fun _ _ => rfl) (fun _ => rfl) (by simp [layout]) rfl
  · exact .of_optional Draft.inputFields rfl (fun _ _ => rfl) (fun _ => rfl) (by simp [layout]) rfl
  · exact .of_optional Draft.enumValues rfl (fun _ _ => rfl) (fun _ => rfl) (by simp [layout]) rfl

/-- Of an operation the arguments and the type may be null. -/
theorem Operation.mayDrop_null (h : name ∈ layout.names) : layout.MayDrop {} name .null := by
  have hnames : name ∈ ["name", "args", "type"] := h
  simp only [List.mem_cons, List.not_mem_nil, or_false] at hnames
  rcases hnames with rfl | rfl | rfl
  · exact .of_refused fun _ _ => nofun
  · exact .of_optional Draft.args rfl (fun _ _ => rfl) (fun _ => rfl) (by simp [layout]) rfl
  · exact .of_optional Draft.type rfl (fun _ _ => rfl) (fun _ => rfl) (by simp [layout]) rfl

/-- Of a field only the arguments may be null. -/
theorem Field.mayDrop_null (h : name ∈ layout.names) : layout.MayDrop {} name .null := by
  have hnames : name ∈ ["name", "args", "type"] := h
  simp only [List.mem_cons, List.not_mem_nil, or_false] at hnames
  rcases hnames with rfl | rfl | rfl
  · exact .of_refused fun _ _ => nofun
  · exact .of_optional Draft.args rfl (fun _ _ => rfl) (fun _ => rfl) (by simp [layout]) rfl
  · exact .of_refused fun _ _ => nofun

/-- Of an argument or an input field only the default value may be null. -/
theorem InputValue.mayDrop_null (h : name ∈ layout.names) : layout.MayDrop {} name .null := by
  have hnames : name ∈ ["name", "type", "defaultValue"] := h
  simp only [List.mem_cons, List.not_mem_nil, or_false] at hnames
  rcases hnames with rfl | rfl | rfl
  · exact .of_refused fun _ _ => nofun
  · exact .of_refused fun _ _ => nofun
  · exact .of_optional Draft.defaultValue rfl (fun _ _ => rfl) (fun _ => rfl) (by simp [layout]) rfl

/-- A record that has only a name has no null. -/
theorem namedLayout_mayDrop_null {record : String} (h : name ∈ (namedLayout record).names) :
    (namedLayout record).MayDrop none name .null := by
  have hname : name ∈ ["name"] := h
  cases List.mem_singleton.1 hname
  exact .of_refused fun _ _ => nofun

/-- A reference has a kind always; its name may be null, and so may what it is around. -/
theorem TypeRef.mayDrop_null (h : name ∈ layout.names) : layout.MayDrop {} name .null := by
  have hnames : name ∈ ["kind", "name", "ofType"] := h
  simp only [List.mem_cons, List.not_mem_nil, or_false] at hnames
  rcases hnames with rfl | rfl | rfl
  · exact .of_refused fun _ _ => nofun
  · exact .of_optional Draft.name rfl (fun _ _ => rfl) (fun _ => rfl) (by simp [layout]) rfl
  · exact .of_optional Draft.inner rfl (fun _ _ => rfl) (fun _ => rfl) (by simp [layout]) rfl

end nulls

-- ================================================================= parts

/-- A record of a schema. -/
inductive Part where
  | schema
  | namedType
  | operation
  | field
  | inputValue
  | enumValue
  | reference

namespace Part

/-- What is read of a part. -/
def Value : Part → Type
  | schema => Schema
  | namedType => NamedType
  | operation => Operation
  | field => Field
  | inputValue => InputValue
  | enumValue => String
  | reference => TypeRef

/-- Reads a part. -/
def read : (part : Part) → Reader Json part.Value
  | schema => Schema.read
  | namedType => NamedType.read
  | operation => Operation.read
  | field => Field.read
  | inputValue => InputValue.read
  | enumValue => readNamed "EnumValue"
  | reference => TypeRef.read

/-- The draft of a part. -/
def Draft : Part → Type
  | schema => Schema
  | namedType => NamedType.Draft
  | operation => Operation.Draft
  | field => Field.Draft
  | inputValue => InputValue.Draft
  | enumValue => Option String
  | reference => TypeRef.Draft

/-- The draft at the start. -/
def initial : (part : Part) → part.Draft
  | schema => ⟨[], []⟩
  | namedType => ({} : NamedType.Draft)
  | operation => ({} : Operation.Draft)
  | field => ({} : Field.Draft)
  | inputValue => ({} : InputValue.Draft)
  | enumValue => none
  | reference => ({} : TypeRef.Draft)

/-- How a part is written. -/
def layout : (part : Part) → Layout Json part.Draft
  | schema => Schema.layout
  | namedType => NamedType.layout
  | operation => Operation.layout
  | field => Field.layout
  | inputValue => InputValue.layout
  | enumValue => namedLayout "EnumValue"
  | reference => TypeRef.layout

/-- A part is read by entering its members into a draft. -/
theorem read_object (part : Part) : ∃ finish : part.Draft → Except Failure part.Value,
    ∀ {members : Table Json}, (Table.keys members).Nodup →
      part.read (.object members)
        = members.foldlM part.layout.enterMember part.initial >>= finish := by
  cases part with
  | schema =>
      refine ⟨.ok, fun {members} hproper => ?_⟩
      show Schema.layout.read ⟨[], []⟩ (.object members) = _
      rw [Layout.read_object rfl hproper]
      exact (bind_pure _).symm
  | reference =>
      refine ⟨TypeRef.Draft.finish, fun {members} _ => ?_⟩
      show TypeRef.read _ = _
      rw [TypeRef.read, TypeRef.readMembers_eq_foldlM]
      rfl
  | namedType | operation | field | inputValue | enumValue =>
      exact ⟨_, fun hproper => congrArg (· >>= _) (Layout.read_object rfl hproper)⟩

/-- What is read of an object is read of another one that leaves the same draft. -/
theorem read_of_entered {part : Part} {members others : Table Json}
    (hmembers : (Table.keys members).Nodup) (hothers : (Table.keys others).Nodup)
    (h : ∀ {draft}, members.foldlM part.layout.enterMember part.initial = .ok draft →
      others.foldlM part.layout.enterMember part.initial = .ok draft) {a : part.Value}
    (hread : part.read (.object members) = .ok a) : part.read (.object others) = .ok a := by
  obtain ⟨finish, hfold⟩ := part.read_object
  rw [hfold hmembers, bind_eq_ok_iff] at hread
  rw [hfold hothers, bind_eq_ok_iff]
  obtain ⟨draft, hdraft, hfinish⟩ := hread
  exact ⟨draft, h hdraft, hfinish⟩

/-- A member may be replaced by one that is entered alike. -/
theorem read_replace {part : Part} {name : String} {value other : Json} {front behind : Table Json}
    (hproper : (Table.keys (front ++ (name, value) :: behind)).Nodup)
    (h : ∀ {draft last}, part.layout.enterMember draft (name, value) = .ok last →
      part.layout.enterMember draft (name, other) = .ok last) {a : part.Value}
    (hread : part.read (.object (front ++ (name, value) :: behind)) = .ok a) :
    part.read (.object (front ++ (name, other) :: behind)) = .ok a := by
  have hothers : (Table.keys (front ++ (name, other) :: behind)).Nodup :=
    Layout.nodup_keys_middle.2 (Layout.nodup_keys_middle.1 hproper)
  exact read_of_entered hproper hothers (Layout.foldlM_replace h) hread

/-- Where a record stands in a record. -/
inductive Inner : Part → String → Part → Prop
  | operationType : Inner operation "type" reference
  | fieldType : Inner field "type" reference
  | inputType : Inner inputValue "type" reference
  | wrapped : Inner reference "ofType" reference

/-- Where a list of records stands in a record. -/
inductive Element : Part → String → Part → Prop
  | types : Element schema "types" namedType
  | queries : Element schema "queries" operation
  | fields : Element namedType "fields" field
  | inputFields : Element namedType "inputFields" inputValue
  | enumValues : Element namedType "enumValues" enumValue
  | operationArgs : Element operation "args" inputValue
  | fieldArgs : Element field "args" inputValue

/-- The lists that may be null. -/
def listNames : List String :=
  ["args", "fields", "inputFields", "enumValues"]

variable {part : Part} {name : String} {draft last : part.Draft}

/-- An empty list and a null are entered alike where both may stand. -/
theorem enterMember_empty (h : name ∈ listNames) :
    part.layout.enterMember draft (name, .array [])
      = part.layout.enterMember draft (name, .null) := by
  have hnames : name = "args" ∨ name = "fields" ∨ name = "inputFields" ∨ name = "enumValues" := by
    simpa [listNames] using h
  rcases hnames with rfl | rfl | rfl | rfl <;> cases part <;> rfl

/-- A null may be left out, whatever its name. -/
theorem mayDrop_null (part : Part) (name : String) :
    part.layout.MayDrop part.initial name .null := by
  by_cases hname : name ∈ part.layout.names
  · cases part with
    | schema => exact Schema.mayDrop_null hname
    | namedType => exact NamedType.mayDrop_null hname
    | operation => exact Operation.mayDrop_null hname
    | field => exact Field.mayDrop_null hname
    | inputValue => exact InputValue.mayDrop_null hname
    | enumValue => exact namedLayout_mayDrop_null hname
    | reference => exact TypeRef.mayDrop_null hname
  · exact .of_unknown hname

/-- A record in a record may change as long as the same is read of it. -/
theorem Inner.enterMember {inner : Part} {members others : Table Json}
    (h : Inner part name inner)
    (hread : ∀ {a}, inner.read (.object members) = .ok a → inner.read (.object others) = .ok a)
    (henter : part.layout.enterMember draft (name, .object members) = .ok last) :
    part.layout.enterMember draft (name, .object others) = .ok last := by
  cases h with
  | operationType | wrapped =>
      refine Layout.enterMember_replace rfl ?_ henter
      exact RecordField.sets_optional.replace (nullable_replace hread)
  | fieldType | inputType =>
      refine Layout.enterMember_replace rfl ?_ henter
      exact RecordField.sets_required.replace hread

/-- So may a record in a list. -/
theorem Element.enterMember {element : Part} {value other : Json} {before after : List Json}
    (h : Element part name element)
    (hread : ∀ {a}, element.read value = .ok a → element.read other = .ok a)
    (henter : part.layout.enterMember draft (name, .array (before ++ value :: after)) = .ok last) :
    part.layout.enterMember draft (name, .array (before ++ other :: after)) = .ok last := by
  cases h with
  | types | queries | fields | inputFields | enumValues | operationArgs | fieldArgs =>
      refine Layout.enterMember_replace rfl ?_ henter
      exact RecordField.sets_optional.replace fun hlist => elementsFrom_replace hread hlist

end Part

-- =============================================================== changes

open CrudGraph.Part in
/-- A change to the JSON form of a part, or of a part of it. -/
inductive Loosens : Part → Json → Json → Prop
  /-- A member is added that is no field. -/
  | added {part : Part} {name : String} {value : Json} {front behind : Table Json}
      (hname : name ∉ part.layout.names)
      (hproper : (Table.keys (front ++ (name, value) :: behind)).Nodup) :
      Loosens part (.object (front ++ behind)) (.object (front ++ (name, value) :: behind))
  /-- A member changes that is no field. -/
  | changed {part : Part} {name : String} {value other : Json} {front behind : Table Json}
      (hname : name ∉ part.layout.names)
      (hproper : (Table.keys (front ++ (name, value) :: behind)).Nodup) :
      Loosens part (.object (front ++ (name, value) :: behind))
        (.object (front ++ (name, other) :: behind))
  /-- An empty list is written as null. -/
  | emptied {part : Part} {name : String} {front behind : Table Json} (hname : name ∈ listNames)
      (hproper : (Table.keys (front ++ (name, .array []) :: behind)).Nodup) :
      Loosens part (.object (front ++ (name, .array []) :: behind))
        (.object (front ++ (name, .null) :: behind))
  /-- A null or an empty list is left out. -/
  | dropped {part : Part} {name : String} {value : Json} {front behind : Table Json}
      (hvalue : value = .null ∨ name ∈ listNames ∧ value = .array [])
      (hproper : (Table.keys (front ++ (name, value) :: behind)).Nodup) :
      Loosens part (.object (front ++ (name, value) :: behind)) (.object (front ++ behind))
  /-- A part of the part changes. -/
  | inner {part inner : Part} {name : String} {value other : Json} {front behind : Table Json}
      (hinner : Inner part name inner) (hchange : Loosens inner value other)
      (hproper : (Table.keys (front ++ (name, value) :: behind)).Nodup) :
      Loosens part (.object (front ++ (name, value) :: behind))
        (.object (front ++ (name, other) :: behind))
  /-- A part in a list of the part changes. -/
  | element {part element : Part} {name : String} {value other : Json} {before after : List Json}
      {front behind : Table Json}
      (helement : Element part name element) (hchange : Loosens element value other)
      (hproper : (Table.keys
        (front ++ (name, .array (before ++ value :: after)) :: behind)).Nodup) :
      Loosens part (.object (front ++ (name, .array (before ++ value :: after)) :: behind))
        (.object (front ++ (name, .array (before ++ other :: after)) :: behind))

namespace Loosens

variable {part : Part} {json other : Json}

/-- Both sides of a change are objects. -/
theorem objects (h : Loosens part json other) :
    ∃ members others, json = .object members ∧ other = .object others := by
  cases h with
  | added | changed | emptied | dropped | inner | element => exact ⟨_, _, rfl, rfl⟩

/-- Whatever is read of a part is read of the changed one. -/
theorem read_of_read (h : Loosens part json other) {a : part.Value} (hread : part.read json = .ok a) :
    part.read other = .ok a := by
  induction h with
  | added hname hproper =>
      refine Part.read_of_entered (Layout.nodup_keys_middle.1 hproper).2 hproper ?_ hread
      exact fun hfold => (Layout.foldlM_unknown hname).trans hfold
  | changed hname hproper =>
      refine Part.read_replace hproper (fun henter => ?_) hread
      rw [Layout.enterMember_unknown hname] at henter ⊢
      exact henter
  | emptied hname hproper =>
      exact Part.read_replace hproper (fun henter => (Part.enterMember_empty hname).symm.trans henter)
        hread
  | @dropped part name value front behind hvalue hproper =>
      -- An empty list is entered as null is, so it is enough that nulls may be left out.
      have hnull : ∀ {draft last}, part.layout.enterMember draft (name, value) = .ok last →
          part.layout.enterMember draft (name, .null) = .ok last := by
        intro draft last henter
        rcases hvalue with rfl | ⟨hname, rfl⟩
        · exact henter
        · exact (Part.enterMember_empty hname).symm.trans henter
      obtain ⟨hother, hrest⟩ := Layout.nodup_keys_middle.1 hproper
      refine Part.read_of_entered hproper hrest (fun {draft} hfold => ?_) hread
      exact part.mayDrop_null name front behind draft hother.1 (Layout.foldlM_replace hnull hfold)
  | inner hinner hchange hproper ih =>
      obtain ⟨members, others, rfl, rfl⟩ := hchange.objects
      exact Part.read_replace hproper (hinner.enterMember ih) hread
  | element helement hchange hproper ih =>
      exact Part.read_replace hproper (helement.enterMember ih) hread

/-- So it is after any number of changes. -/
theorem read_of_reflTransGen (h : Relation.ReflTransGen (Loosens part) json other)
    {a : part.Value} (hread : part.read json = .ok a) : part.read other = .ok a := by
  induction h with
  | refl => exact hread
  | tail _ hchange ih => exact hchange.read_of_read ih

end Loosens

namespace Schema

/-- The written form of a schema loses nothing: the schema is read of it, whatever it is, and of
everything that comes of it by changes. -/
theorem read_loosened (schema : Schema) :
    Schema.read schema.toJson = .ok schema
      ∧ ∀ json, Relation.ReflTransGen (Loosens .schema) schema.toJson json →
        Schema.read json = .ok schema := by
  have hwritten := schema.read_toJson
  exact ⟨hwritten, fun json h => Loosens.read_of_reflTransGen h hwritten⟩

/-- A type whose lists are empty, and an operation whose argument has no default. -/
def loans : Schema where
  types := [⟨.scalar, "Date", [], [], []⟩]
  operations := [⟨"due", [⟨"loan", .named .scalar "ID", none⟩], none⟩]

/-- How the two may be written, up to the fields of the type and the argument of the operation. -/
def loansJson (fields argument : Json) : Json :=
  .object [
    ("types", .array [.object [
      ("kind", .string "SCALAR"), ("name", .string "Date"), ("fields", fields),
      ("inputFields", .array []), ("enumValues", .array [])]]),
    ("queries", .array [.object [
      ("name", .string "due"), ("args", .array [argument]), ("type", .null)]])]

/-- A change to the one argument is a change to the whole schema. -/
theorem loosens_argument {fields value other : Json} (h : Loosens .inputValue value other) :
    Loosens .schema (loansJson fields value) (loansJson fields other) := by
  have hmembers : ["name", "args", "type"].Nodup := by decide
  have hoperation := @Loosens.element _ _ _ _ _ [] [] [("name", .string "due")] [("type", .null)]
    .operationArgs h hmembers
  have hparts : ["types", "queries"].Nodup := by decide
  exact @Loosens.element _ _ _ _ _ [] [] [_] [] .queries hoperation hparts

/-- The schema is read as before with a null list and with an argument that has a description. -/
theorem read_loosened_loans :
    Schema.read (loansJson .null (.object [("name", .string "loan"),
      ("description", .string "What was lent."), ("type", (TypeRef.named .scalar "ID").toJson)]))
      = .ok loans := by
  refine (read_loosened loans).2 _ ?_
  have hempty : Loosens .schema loans.toJson (loansJson .null _) :=
    @Loosens.element _ _ _ _ _ [] [] [] [_] .types
      (@Loosens.emptied .namedType "fields" [_, _] [_, _] (by decide) (by decide)) (by decide)
  have hdefault := @Loosens.dropped .inputValue "defaultValue" .null
    [("name", .string "loan"), ("type", (TypeRef.named .scalar "ID").toJson)] [] (.inl rfl)
    (by decide)
  have hdescription := @Loosens.added .inputValue "description" (.string "What was lent.")
    [("name", .string "loan")] [("type", (TypeRef.named .scalar "ID").toJson)] (by decide)
    (by decide)
  exact .head hempty (.head (loosens_argument hdefault) (.single (loosens_argument hdescription)))

end Schema

end CrudGraph
