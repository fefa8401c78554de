/-
Records that are read, changed and written back. A record comes back under the keys of its
selections, and a caller that edits it hands in data under the same keys; the update puts into its
patch what stands under the names of the patch's fields. So the two agree on a field if its value
comes back under the field's own name, and every selection has such a key but one: the identity of a
resource whose key needs an alias comes back under the uniform identifier.

A patch may have a field of that name, and the value that it gets then is the identity's
(`Context.yields_of_mem_patch`). Nothing is written to a wrong field otherwise, so it can be said
exactly when an update writes back what was read (`Builder.build_writesBack_iff`).
-/
import CrudGraph.Proofs.Build
import CrudGraph.Proofs.Page
import CrudGraph.Proofs.Selection.Leaves
import CrudGraph.Proofs.Single

namespace CrudGraph

-- ====================================================== what is to be shown

/-- The selections of the records that a request answers with: those of its root fields. -/
def Envelope.selected (envelope : Envelope) : List Selection :=
  envelope.document.operations.flatMap fun definition =>
    definition.selections.flatMap Selection.selections

/-- A value comes from a field: in a record that has come back for some selections, it stands under
the key of one that selects the field. -/
def Selection.Yields (selections : List Selection) (record : Table Json) (field : String)
    (value : Json) : Prop :=
  ∃ s ∈ selections, s.name.text = field ∧ Table.find? record s.responseKey.text = some value

/-- A patch writes back what was read: every value in it comes from the field that it is written
to. -/
def Selection.WritesBack (selections : List Selection) (record patch : Table Json) : Prop :=
  ∀ entry ∈ patch, Selection.Yields selections record entry.1 entry.2

/-- The field that a key of a record stands for. -/
def PrimaryKey.fieldOf (key : PrimaryKey) (naming : Naming) (responseKey : String) : String :=
  if responseKey = naming.identifierName then key.identityField else responseKey

namespace Context

variable (c : Context)

/-- No value of the resource is coerced when it is written. -/
def Uncoerced : Prop :=
  ∀ field ∈ c.resourceType.fields, ∀ type ∈ field.type.baseName, ∀ value,
    c.strategies.coerce? type value = none

/-- An update takes what it is given under a name: its patch has a field of the name, or there is no
type that says which fields it has. -/
def Takes (name : String) : Prop :=
  ∀ type ∈ c.patchType c.key.updateOperation, (type.inputField? name).isSome = true

end Context

-- ================================================================ patches

namespace Context

variable {c : Context}

/-- A value that is not coerced is written as it is. -/
theorem inputValue_eq (h : c.Uncoerced) (name : String) (value : Json) :
    c.inputValue name value = value := by
  unfold inputValue
  have hnone : (c.resourceType.field? name >>= (·.type.baseName) >>= fun type =>
      c.strategies.coerce? type value) = none := by
    cases hfield : c.resourceType.field? name with
    | none => rfl
    | some field =>
        show (field.type.baseName >>= fun type => c.strategies.coerce? type value) = none
        cases htype : field.type.baseName with
        | none => rfl
        | some type => exact h field (List.mem_of_find?_eq_some hfield) type htype value
  rw [hnone, Option.getD_none]

/-- What is written is the data for the fields that the input has, field by field. -/
theorem mem_inputData_iff (h : c.Uncoerced) {type : Option NamedType} {data : Table Json}
    (hdistinct : (Table.keys data).Nodup) {name : String} {value : Json} :
    (name, value) ∈ c.inputData type data
      ↔ Table.find? data name = some value
        ∧ ∀ known ∈ type, (known.inputField? name).isSome = true := by
  cases type with
  | none =>
      have hsame : c.inputData none data = data := by
        show data.map (fun entry => (entry.1, c.inputValue entry.1 entry.2)) = data
        simp only [inputValue_eq h, Prod.eta, List.map_id']
      rw [hsame, ← Table.find?_eq_some_iff hdistinct]
      exact (and_iff_left fun known hknown => by cases hknown).symm
  | some type =>
      -- Without coercions the values are those that are given, under the names of the input fields.
      let entries := type.inputFields.filterMap fun field =>
        (Table.find? data field.name).map fun value => (field.name, value)
      have hentries : c.inputData (some type) data = Table.ofList entries := by
        show Table.ofList (type.inputFields.filterMap fun field =>
          (Table.find? data field.name).map fun value =>
            (field.name, c.inputValue field.name value)) = _
        simp only [inputValue_eq h, entries]
      have hmem : ∀ entry : String × Json, entry ∈ entries
          ↔ Table.find? data entry.1 = some entry.2
            ∧ (type.inputField? entry.1).isSome = true := by
        intro entry
        rw [List.mem_filterMap, NamedType.inputField?, List.find?_isSome]
        constructor
        · intro hmade
          obtain ⟨field, hfield, hmade⟩ := hmade
          obtain ⟨value, hvalue, rfl⟩ := Option.map_eq_some_iff.1 hmade
          exact ⟨hvalue, field, hfield, beq_self_eq_true _⟩
        · intro hgiven
          obtain ⟨hvalue, field, hfield, hname⟩ := hgiven
          refine ⟨field, hfield, ?_⟩
          rw [eq_of_beq hname, hvalue]
          rfl
      rw [hentries, Table.mem_ofList_iff, hmem]
      · exact and_congr_right fun _ => ⟨fun hknown known heq => (by cases heq; exact hknown),
          fun hknown => hknown type rfl⟩
      -- A field that is declared twice would be written twice, but with the same value.
      · intro one hone other hother hsame
        obtain ⟨hone, -⟩ := (hmem one).1 hone
        obtain ⟨hother, -⟩ := (hmem other).1 hother
        rw [hsame] at hone
        exact Prod.ext hsame (Option.some.inj (hone.symm.trans hother))

/-- The names under which something is written. -/
theorem mem_keys_inputData_iff (h : c.Uncoerced) {type : Option NamedType} {data : Table Json}
    (hdistinct : (Table.keys data).Nodup) {name : String} :
    name ∈ Table.keys (c.inputData type data)
      ↔ name ∈ Table.keys data ∧ ∀ known ∈ type, (known.inputField? name).isSome = true := by
  constructor
  · intro hwritten
    obtain ⟨⟨_, value⟩, hmem, rfl⟩ := List.mem_map.1 hwritten
    obtain ⟨hvalue, htaken⟩ := (mem_inputData_iff h hdistinct).1 hmem
    exact ⟨List.mem_map_of_mem (Table.mem_of_find? hvalue), htaken⟩
  · intro hgiven
    obtain ⟨⟨_, value⟩, hmem, rfl⟩ := List.mem_map.1 hgiven.1
    have hvalue := (Table.find?_eq_some_iff hdistinct).2 hmem
    exact List.mem_map_of_mem ((mem_inputData_iff h hdistinct).2 ⟨hvalue, hgiven.2⟩)

-- ================================================================ requests

/-- The record that is read has the selections of the resource. -/
theorem selected_of_getOne {params : Params} {envelope : Envelope}
    (h : (c.getOne params).EndsWith envelope) : c.select.EndsWith envelope.selected := by
  obtain ⟨raw, type, selections, operation, argument, -, -, hselect, -, -, rfl⟩ := getOne_eq_ok h
  have hselected : Envelope.selected
      (.ofDraft (.ofCall .query operation argument type (c.encodeId raw) selections)
        (.record operation.text)) = selections := by
    show (selections ++ []) ++ [] = selections
    rw [List.append_nil, List.append_nil]
  rw [hselected]
  exact hselect

/-- An update sends the data that its patch takes. -/
theorem patch_of_update {params : Params} {envelope : Envelope}
    (h : (c.update params).EndsWith envelope) :
    ∃ input, envelope.Sends "input" (.object input)
      ∧ Table.find? input "patch"
        = some (.object (c.inputData (c.patchType c.key.updateOperation) params.data)) := by
  unfold update at h
  obtain ⟨raw, -, h⟩ := h.of_lift_bind
  obtain ⟨_, -, h⟩ := h.of_lift_bind
  obtain ⟨type, selections, operation, argument, record, -, -, hargument, -, rfl⟩ :=
    writeRecord_eq_ok h
  refine ⟨Table.ofList [(c.key.idArgumentName, c.encodeId raw), ("patch", .object
    (c.inputData (c.patchType c.key.updateOperation) params.data))], ?_,
    Table.find?_insert_self [(c.key.idArgumentName, c.encodeId raw)] _ _⟩
  exact Draft.sends_ofArguments.2 (if_pos hargument)

-- ======================================================= reading and writing

/-- A selection comes back under a key that stands for its field. -/
theorem name_of_select (halias : c.key.aliasRequired = true) {selections : List Selection}
    (h : c.select.EndsWith selections) {s : Selection} (hs : s ∈ selections) :
    s.name.text = c.key.fieldOf c.configuration.naming s.responseKey.text
      ∧ (s.name.text = c.configuration.naming.identifierName →
        c.key.identityField = c.configuration.naming.identifierName) := by
  obtain ⟨-, type, -, hchosen⟩ := (Projector.settles_select _ _ _).of_eq_ok h
  obtain ⟨field, -, hname, hpassed⟩ := hchosen.exists_passed s hs
  have hkey := hpassed.keyOf_eq hname
  rw [← hname] at hkey
  refine ⟨?_, fun hidentifier => ?_⟩
  · unfold PrimaryKey.fieldOf
    split
    · next hidentifier => exact Projector.eq_identity_of_keyOf halias hkey (.inl hidentifier)
    · next hother =>
      simp only [Projector.keyOf, halias, if_true] at hkey
      split at hkey
      · exact absurd (Option.some.inj hkey).symm hother
      · split at hkey
        · cases hkey
        · exact Option.some.inj hkey
  · exact (Projector.eq_identity_of_keyOf halias hkey (.inr hidentifier)).symm.trans hidentifier

section

variable {selections : List Selection} {type : Option NamedType} {data : Table Json}

/-- What is written of a record comes from the field that its key stands for. -/
theorem yields_of_mem_inputData (halias : c.key.aliasRequired = true) (hplain : c.Uncoerced)
    (hselect : c.select.EndsWith selections) (hdistinct : (Table.keys data).Nodup)
    (hkeyed : ∀ key ∈ Table.keys data, ∃ s ∈ selections, s.responseKey.text = key)
    {entry : String × Json} (h : entry ∈ c.inputData type data) :
    Selection.Yields selections data (c.key.fieldOf c.configuration.naming entry.1) entry.2 := by
  obtain ⟨name, value⟩ := entry
  obtain ⟨hvalue, -⟩ := (mem_inputData_iff hplain hdistinct).1 h
  obtain ⟨s, hs, rfl⟩ := hkeyed name (List.mem_map_of_mem (Table.mem_of_find? hvalue))
  exact ⟨s, hs, (name_of_select halias hselect hs).1, hvalue⟩

/-- What is written is written back, unless the uniform identifier is written and is not a field of
its own. -/
theorem writesBack_inputData_iff (halias : c.key.aliasRequired = true) (hplain : c.Uncoerced)
    (hselect : c.select.EndsWith selections) (hdistinct : (Table.keys data).Nodup)
    (hkeyed : ∀ key ∈ Table.keys data, ∃ s ∈ selections, s.responseKey.text = key) :
    Selection.WritesBack selections data (c.inputData type data)
      ↔ c.key.identityField = c.configuration.naming.identifierName
        ∨ c.configuration.naming.identifierName ∉ Table.keys (c.inputData type data) := by
  constructor
  · intro hback
    refine or_iff_not_imp_right.2 fun hwritten => ?_
    obtain ⟨entry, hentry, hname⟩ := List.mem_map.1 (not_not.1 hwritten)
    obtain ⟨s, hs, hfield, -⟩ := hback entry hentry
    exact (name_of_select halias hselect hs).2 (hfield.trans hname)
  · intro h entry hentry
    have hyields := yields_of_mem_inputData halias hplain hselect hdistinct hkeyed hentry
    have hfield : c.key.fieldOf c.configuration.naming entry.1 = entry.1 := by
      unfold PrimaryKey.fieldOf
      split
      · next hidentifier =>
        rcases h with hidentity | hunwritten
        · exact hidentity.trans hidentifier.symm
        · exact absurd (hidentifier ▸ List.mem_map_of_mem hentry) hunwritten
      · rfl
    rwa [hfield] at hyields

end

end Context

namespace Builder

/-- An update writes back what was read. Where records that come back under an alias are read and
then updated with data under the same keys, every value in the patch comes from the field that its
key stands for; and that is the field that it is written to, unless the identity comes back under
another name than its own, the data has the uniform identifier, and the patch takes it. -/
theorem build_writesBack_iff (builder : Builder) {read write resource : String} {c : Context}
    (hcontext : builder.context read resource = .ok c) (hread : c.verb = .getOne)
    (hwrite : Verb.parse write = .ok .update) (halias : c.key.aliasRequired = true)
    (hplain : c.Uncoerced) {asked given : Params} {reading writing : Envelope}
    {omissions omitted : List Omission}
    (hreading : (builder.build read resource asked).1 = .ok (reading, omissions))
    (hwriting : (builder.build write resource given).1 = .ok (writing, omitted))
    (hdistinct : (Table.keys given.data).Nodup)
    (hkeyed : ∀ key ∈ Table.keys given.data,
      ∃ s ∈ reading.selected, s.responseKey.text = key) :
    ∃ input patch, writing.Sends "input" (.object input)
      ∧ Table.find? input "patch" = some (.object patch)
      ∧ (∀ entry ∈ patch, Selection.Yields reading.selected given.data
          (c.key.fieldOf c.configuration.naming entry.1) entry.2)
      ∧ (Selection.WritesBack reading.selected given.data patch
        ↔ c.key.identityField = c.configuration.naming.identifierName
          ∨ c.configuration.naming.identifierName ∉ Table.keys given.data
          ∨ ¬c.Takes c.configuration.naming.identifierName) := by
  obtain ⟨c', hcontext', hreading, -⟩ := builder.build_eq_ok_iff.1 hreading
  cases hcontext.symm.trans hcontext'
  obtain ⟨d, hcontext', hwriting, -⟩ := builder.build_eq_ok_iff.1 hwriting
  cases (builder.context_of_parse hcontext hwrite).symm.trans hcontext'
  rw [request, hread] at hreading
  have hselect := Context.selected_of_getOne hreading
  obtain ⟨input, hsent, hpatch⟩ := Context.patch_of_update hwriting
  refine ⟨input, c.inputData (c.patchType c.key.updateOperation) given.data, hsent, hpatch,
    fun entry hentry => ?_, ?_⟩
  · exact Context.yields_of_mem_inputData halias hplain hselect hdistinct hkeyed hentry
  · rw [Context.writesBack_inputData_iff halias hplain hselect hdistinct hkeyed,
      Context.mem_keys_inputData_iff hplain hdistinct, not_and_or]
    rfl

-- ============================================================== at work

/-- An archive whose books are known by their `isbn` and addressed by their `nodeId`. They have a
number `id` of their own, which an update may change. -/
def archive : Builder := .new {
    operations := [
      ⟨"book", [⟨"isbn", .nonNullOf (.named .scalar "String"), none⟩],
        some (.named .object "Book")⟩,
      ⟨"bookByNodeId", [⟨"nodeId", .nonNullOf (.named .scalar "ID"), none⟩],
        some (.named .object "Book")⟩,
      ⟨"updateBookByNodeId", [⟨"input", .nonNullOf (.named .inputObject "UpdateBookInput"), none⟩],
        some (.named .object "UpdateBookPayload")⟩]
    types := [
      { kind := .object, name := "Book", inputFields := [], enumValues := []
        fields := [
          ⟨"nodeId", [], .nonNullOf (.named .scalar "ID")⟩,
          ⟨"isbn", [], .nonNullOf (.named .scalar "String")⟩,
          ⟨"id", [], .named .scalar "Int"⟩,
          ⟨"title", [], .named .scalar "String"⟩] },
      { kind := .inputObject, name := "BookPatch", fields := [], enumValues := []
        inputFields := [
          ⟨"isbn", .named .scalar "String", none⟩,
          ⟨"id", .named .scalar "Int", none⟩,
          ⟨"title", .named .scalar "String", none⟩] }] } {} []

/-- The context of a request on its books. -/
def archivedContext (verb : Verb) : Context where
  schema := archive.schema
  configuration := archive.configuration
  strategies := archive.strategies
  resource := ⟨"Book", "book", "books"⟩
  resourceType := {
    kind := .object, name := "Book", inputFields := [], enumValues := []
    fields := [
      ⟨"nodeId", [], .nonNullOf (.named .scalar "ID")⟩,
      ⟨"isbn", [], .nonNullOf (.named .scalar "String")⟩,
      ⟨"id", [], .named .scalar "Int"⟩,
      ⟨"title", [], .named .scalar "String"⟩] }
  key := {
    fieldName := "isbn", scalarType := "String"
    idArgumentName := "nodeId", idArgumentType := "ID"
    singleOperation := "bookByNodeId", deleteOperation := "deleteBookByNodeId"
    updateOperation := "updateBookByNodeId"
    aliasRequired := true, identityField := "nodeId" }
  verb := verb

theorem archive_read : archive.context "GET_ONE" "book" = .ok (archivedContext .getOne) :=
  archive.context_eq_ok ofName_book rfl rfl (Verb.parse_text .getOne)

theorem archive_write : archive.context "UPDATE" "book" = .ok (archivedContext .update) :=
  archive.context_of_parse archive_read (Verb.parse_text .update)

/-- A book can be read and updated with any data; it is read under the keys `id`, `isbn` and
`title`. -/
theorem exists_archived (id : String) (data : Table Json) :
    ∃ reading writing omissions omitted,
      (archive.build "GET_ONE" "book" { id := some (.string id) }).1 = .ok (reading, omissions)
        ∧ (archive.build "UPDATE" "book" { id := some (.string id), data }).1
          = .ok (writing, omitted)
        ∧ ∀ key ∈ ["id", "isbn", "title"],
            ∃ s ∈ reading.selected, s.responseKey.text = key := by
  have htype : archive.schema.type? "Book" = some (archivedContext .getOne).resourceType := rfl
  have hshown : Table.find? archive.strategies "Book" = none := rfl
  have hleaves : ∀ field ∈ (archivedContext .getOne).resourceType.fields, field.IsLeaf := by
    decide
  have hidentifier : isName archive.configuration.naming.identifierName.toList = true := by
    decide
  have hsome : ∃ field ∈ (archivedContext .getOne).resourceType.fields, field.name = "nodeId"
      ∨ field.name ≠ archive.configuration.naming.identifierName := by
    decide
  have hselected : ∀ verb, ∃ selections, (archivedContext verb).select.EndsWith selections :=
    fun verb => Projector.select_isOk htype hshown hidentifier hleaves hsome
  obtain ⟨reading, hreading⟩ := @Context.getOne_isOk (archivedContext .getOne)
    { id := some (.string id) } ⟨_, rfl⟩ rfl (hselected _) ⟨_, rfl⟩ (by decide) (by decide)
  have hupdate : ∃ writing, ((archivedContext .update).update
      { id := some (.string id), data }).EndsWith writing := by
    have hid : (archivedContext .update).requireId { id := some (.string id), data }
        = .ok (.string id) := rfl
    have hknown : (archivedContext .update).requireOperation "updateBookByNodeId" = .ok () := rfl
    refine Reported.exists_lift_bind hid ?_
    refine Reported.exists_lift_bind hknown ?_
    exact Context.writeRecord_isOk (hselected _) ⟨_, rfl⟩ (by decide) (by decide)
  obtain ⟨writing, hwriting⟩ := hupdate
  refine ⟨reading, writing, _, _, archive.build_eq_ok_iff.2 ⟨_, archive_read, hreading, rfl⟩,
    archive.build_eq_ok_iff.2 ⟨_, archive_write, hwriting, rfl⟩, fun key hkey => ?_⟩
  -- Each of the three keys is that of a field which is not left out.
  have hfield : ∃ field ∈ (archivedContext .getOne).resourceType.fields,
      (field.name = "nodeId" ∨ field.name ≠ archive.configuration.naming.identifierName)
        ∧ Projector.keyOf
          ⟨archive.schema, archive.strategies, archive.configuration.naming, .getOne⟩
          (some (archivedContext .getOne).key) field.name = some key := by
    revert key
    decide
  obtain ⟨field, hfield, hname, hresponse⟩ := hfield
  obtain ⟨s, hs, hkeyed⟩ := Projector.exists_selection_of_leaf htype hshown
    (Context.selected_of_getOne hreading) hfield (hleaves field hfield) hname
  exact ⟨s, hs, Option.some.inj (hkeyed.symm.trans hresponse)⟩

theorem archive_uncoerced : (archivedContext .getOne).Uncoerced := by
  have hnone : ∀ field ∈ (archivedContext .getOne).resourceType.fields,
      ∀ type ∈ field.type.baseName, (Table.find? archive.strategies type).isNone = true := by
    decide
  intro field hfield type htype value
  show (Table.find? archive.strategies type >>= _) = none
  rw [Option.isNone_iff_eq_none.1 (hnone field hfield type htype)]
  rfl

/-- A book that is read and handed in without its identifier is written back. -/
theorem build_writesBack_iff_archive :
    ∃ reading writing omissions omitted input patch,
      (archive.build "GET_ONE" "book" { id := some (.string "a") }).1 = .ok (reading, omissions)
        ∧ (archive.build "UPDATE" "book" {
            id := some (.string "a")
            data := [("title", .string "Dune"), ("isbn", .string "1")] }).1
          = .ok (writing, omitted)
        ∧ writing.Sends "input" (.object input)
        ∧ Table.find? input "patch" = some (.object patch)
        ∧ Selection.WritesBack reading.selected
            [("title", .string "Dune"), ("isbn", .string "1")] patch := by
  let data : Table Json := [("title", .string "Dune"), ("isbn", .string "1")]
  obtain ⟨reading, writing, omissions, omitted, hreading, hwriting, hkeys⟩ :=
    exists_archived "a" data
  have hkeyed : ∀ key ∈ Table.keys data, ∃ s ∈ reading.selected, s.responseKey.text = key :=
    fun key hkey => hkeys key ((by decide : Table.keys data ⊆ ["id", "isbn", "title"]) hkey)
  obtain ⟨input, patch, hsent, hpatch, -, hback⟩ := build_writesBack_iff archive archive_read rfl
    (Verb.parse_text .update) rfl archive_uncoerced hreading hwriting (by decide) hkeyed
  exact ⟨reading, writing, omissions, omitted, input, patch, hreading, hwriting, hsent, hpatch,
    hback.2 (.inr (.inl (by decide)))⟩

/-- But a book that is handed in as it was read is not: what came back as its identifier, its
`nodeId`, is written to its number. -/
theorem not_writesBack_archive :
    (archivedContext .getOne).key.aliasRequired = true ∧ (archivedContext .getOne).Uncoerced
      ∧ ∃ reading writing omissions omitted input patch,
        (archive.build "GET_ONE" "book" { id := some (.string "a") }).1 = .ok (reading, omissions)
          ∧ (archive.build "UPDATE" "book" {
              id := some (.string "a")
              data := [("id", .string "a"), ("isbn", .string "1"), ("title", .string "Dune")]
              }).1 = .ok (writing, omitted)
          ∧ (∀ key ∈ ["id", "isbn", "title"],
            ∃ s ∈ reading.selected, s.responseKey.text = key)
          ∧ writing.Sends "input" (.object input)
          ∧ Table.find? input "patch" = some (.object patch)
          ∧ Table.find? patch "id" = some (.string "a")
          ∧ ¬∃ s ∈ reading.selected, s.name.text = "id" := by
  let data : Table Json :=
    [("id", .string "a"), ("isbn", .string "1"), ("title", .string "Dune")]
  obtain ⟨reading, writing, omissions, omitted, hreading, hwriting, hkeys⟩ :=
    exists_archived "a" data
  obtain ⟨c, hcontext, hread, -⟩ := archive.build_eq_ok_iff.1 hreading
  cases archive_read.symm.trans hcontext
  obtain ⟨d, hcontext, hwrite, -⟩ := archive.build_eq_ok_iff.1 hwriting
  cases archive_write.symm.trans hcontext
  obtain ⟨input, hsent, hpatch⟩ := Context.patch_of_update hwrite
  refine ⟨rfl, archive_uncoerced, reading, writing, omissions, omitted, input, _, hreading,
    hwriting, hkeys, hsent, hpatch, rfl, ?_⟩
  -- The field of that name is left out for the uniform identifier.
  rintro ⟨s, hs, hname⟩
  have hidentity := (Context.name_of_select rfl (Context.selected_of_getOne hread) hs).2 hname
  revert hidentity
  decide

end Builder

end CrudGraph
