/-
Parameters that are read and written again. They arrive in many forms: as an object or as the
sequence of its members, with nulls or without, with an order that lacks its direction or names no
field at all. A request that is to be repeated is written down as what was read of it, so the written
form must be read as just that.

# What is shown

What is read of each parameter is what stands under its name, null and nothing being the same, in
the order in which it stands there; an order is asked for just where it names a field, and ascends
unless it says otherwise (`Params.ReadFrom`). Whatever was read is read again from what is written
of it, and a member that is null may as well be absent (`Params.read_normal`).

# How

Each parameter is a part of the draft that one field alone sets (`Params.holds`), so each is
followed by itself, whatever stands around it. What was read is in normal form: no identifier is a
null that is there, and no order is without its field; and these are all that the way through the
written form needs (`Params.read_toJson`).
-/
import CrudGraph.Proofs.Record
import CrudGraph.Proofs.Written
import CrudGraph.Request.Params

namespace CrudGraph

open Reading

-- ================================================================ values

/-- The value, unless it is null. -/
def Json.present? : Json → Option Json
  | .null => none
  | value => some value

/-- So what is taken from a member is in normal form: null does not come out of it. -/
theorem Json.present?_ne_null {value : Json} : value.present? ≠ some .null := by
  cases value <;> exact nofun

namespace Reading

/-- Values of any kind are taken as they are, but a null is nothing. -/
theorem nullable_anything (value : Json) : nullable anything value = .ok value.present? := by
  cases value <;> rfl

/-- A text, or none, is read of one form only. -/
theorem nullable_text_eq_ok_iff {value : Json} {s : Option String} :
    nullable text value = .ok s ↔ value = Json.textOrNull s := by
  constructor
  · intro h
    cases value <;> cases h <;> rfl
  · intro h
    rw [h, nullable_text]

/-- A list of identifiers is read with its nulls, which are left out by the request and not here. -/
theorem sequence_anything (values : List Json) :
    sequence anything (.array values) = .ok values := by
  have helements : sequence anything (.array (values.map id)) = .ok values :=
    sequence_array (fun _ => rfl) values
  rwa [List.map_id] at helements

/-- A list is read of null or of an array, and of nothing else. -/
theorem orDefault_sequence_anything {value : Json} {values : List Json}
    (h : orDefault [] (sequence anything) value = .ok values) :
    value = .null ∧ values = [] ∨ value = .array values := by
  cases value with
  | null =>
      cases h
      exact .inl ⟨rfl, rfl⟩
  | array items =>
      have hitems : sequence anything (.array items) = .ok values := h
      rw [sequence_anything] at hitems
      cases hitems
      exact .inr rfl
  | bool | integer | double | string | object => cases h

theorem orDefault_object (members : Table Json) :
    orDefault [] readMembers (.object members) = .ok members := rfl

/-- A table is read of null or of an object, and of nothing else. -/
theorem orDefault_readMembers {value : Json} {members : Table Json}
    (h : orDefault [] readMembers value = .ok members) :
    value = .null ∧ members = [] ∨ value = .object members := by
  cases value with
  | null =>
      cases h
      exact .inl ⟨rfl, rfl⟩
  | object members =>
      cases h
      exact .inr rfl
  | bool | integer | double | string | array => cases h

/-- A number that is kept in 64 bits is read back from its integer. -/
theorem unsigned64_toNat (n : UInt64) : unsigned64 (.integer n.toNat) = .ok n := by
  have hfits : Width.fitsUnsigned 64 n.toNat = true := by
    rw [Width.fitsUnsigned_iff]
    exact ⟨Int.natCast_nonneg _, Int.ofNat_lt.2 n.toNat_lt⟩
  rw [unsigned64, Json.unsigned64?, if_pos hfits, Int.toNat_natCast, UInt64.ofNat_toNat]

/-- And whatever is read as such a number is its integer: a double never is. -/
theorem eq_of_unsigned64 {value : Json} {n : UInt64} (h : unsigned64 value = .ok n) :
    value = .integer n.toNat := by
  cases value with
  | integer value =>
      unfold unsigned64 Json.unsigned64? at h
      dsimp only at h
      cases hfits : Width.fitsUnsigned 64 value with
      | true =>
          rw [hfits] at h
          cases h
          obtain ⟨hpos, hlt⟩ := Width.fitsUnsigned_iff.1 hfits
          have hlt : value.toNat < 2 ^ 64 := by
            have hsize : Width.values 64 = 2 ^ 64 := rfl
            omega
          rw [UInt64.toNat_ofNat', Nat.mod_eq_of_lt hlt, Int.toNat_of_nonneg hpos]
      | false =>
          rw [hfits] at h
          cases h
  | null | bool | double | string | array | object => cases h

theorem eq_of_given {α : Type} {name : String} {entered : Option α} {value : α}
    (h : given name entered = .ok value) : entered = some value := by
  cases entered <;> cases h
  rfl

end Reading

-- ================================================================= orders

namespace SortBy

/-- The order that is asked for: it names a field, and ascends unless it says otherwise. -/
structure AskedIn (sort : Json) (asked : SortBy) : Prop where
  field : layout.valueAt sort "field" = .string asked.field
  named : asked.field ≠ ""
  order : asked.order = (layout.valueAt sort "order").text?.getD "ASC"

/-- The name of the field is set by the member `field` alone. -/
theorem holds_field : layout.Holds "field" (nullable text) fun draft => draft.field.join :=
  .of_field rfl (RecordField.sets_required.fills fun _ _ _ h => h)
    (by simp [layout])

theorem holds_order : layout.Holds "order" (nullable text) fun draft => draft.order.join :=
  .of_field rfl (RecordField.sets_required.fills fun _ _ _ h => h)
    (by simp [layout])

/-- A draft becomes an order where it has the name of a field, and an empty name is none. -/
theorem finish_eq_some_iff {draft : SortBy.Partial} {asked : SortBy} :
    draft.finish = some asked ↔ draft.field.join = some asked.field ∧ asked.field ≠ ""
      ∧ asked.order = draft.order.join.getD "ASC" := by
  unfold Partial.finish
  cases hfield : draft.field.join with
  | none => exact iff_of_false (fun h => (by cases h)) fun h => (by cases h.1)
  | some field =>
      dsimp only
      constructor
      · intro h
        split at h
        · cases h
        · next hnamed =>
          cases h
          exact ⟨rfl, fun hempty => hnamed (String.isEmpty_iff.2 hempty), rfl⟩
      · intro h
        obtain ⟨hsame, hnamed, horder⟩ := h
        cases hsame
        rw [if_neg fun hempty => hnamed (String.isEmpty_iff.1 hempty), ← horder]

/-- What is read of an order: both of its texts, where they are. -/
theorem of_read {sort : Json} {found : Option SortBy} (h : SortBy.read sort = .ok found) :
    ∃ draft : SortBy.Partial, found = draft.finish
      ∧ layout.valueAt sort "field" = Json.textOrNull draft.field.join
      ∧ layout.valueAt sort "order" = Json.textOrNull draft.order.join := by
  unfold SortBy.read at h
  split at h
  · next hnull =>
    cases h
    cases sort <;> cases hnull
    exact ⟨{}, rfl, rfl, rfl⟩
  · cases hread : layout.read {} sort with
    | error failure =>
        rw [hread] at h
        cases h
    | ok draft =>
        rw [hread] at h
        cases h
        refine ⟨draft, rfl, ?_, ?_⟩
        · exact nullable_text_eq_ok_iff.1 (holds_field.read_valueAt rfl (by decide) rfl hread)
        · exact nullable_text_eq_ok_iff.1 (holds_order.read_valueAt rfl (by decide) rfl hread)

theorem text?_textOrNull (s : Option String) : (Json.textOrNull s).text? = s := by
  cases s <;> rfl

/-- The written form is a text just where there is one. -/
theorem textOrNull_eq_string_iff {s : Option String} {t : String} :
    Json.textOrNull s = .string t ↔ s = some t := by
  cases s with
  | none => exact iff_of_false (fun h => (by cases h)) fun h => (by cases h)
  | some _ => exact ⟨fun h => congrArg some (Json.string.inj h), fun h => congrArg _ h⟩

/-- The order that is read is the one that is asked for. -/
theorem eq_some_iff_askedIn {sort : Json} {found : Option SortBy} (h : SortBy.read sort = .ok found)
    {asked : SortBy} : found = some asked ↔ AskedIn sort asked := by
  obtain ⟨draft, rfl, hfield, horder⟩ := of_read h
  rw [finish_eq_some_iff]
  constructor
  · intro h
    obtain ⟨hsame, hnamed, hdirection⟩ := h
    refine ⟨by rw [hfield, hsame]; rfl, hnamed, ?_⟩
    rw [horder, text?_textOrNull, hdirection]
  · intro h
    refine ⟨textOrNull_eq_string_iff.1 (hfield.symm.trans h.field), h.named, ?_⟩
    rw [h.order, horder, text?_textOrNull]

/-- An order is read just where one names its field. -/
theorem isSome_iff {sort : Json} {found : Option SortBy} (h : SortBy.read sort = .ok found) :
    found.isSome = true ↔ ∃ field, layout.valueAt sort "field" = .string field ∧ field ≠ "" := by
  obtain ⟨draft, hfinish, hfield, -⟩ := of_read h
  rw [Option.isSome_iff_exists]
  constructor
  · intro hsome
    obtain ⟨asked, hasked⟩ := hsome
    have hin := (eq_some_iff_askedIn h).1 hasked
    exact ⟨asked.field, hin.field, hin.named⟩
  · intro hnamed
    obtain ⟨field, hstands, hnamed⟩ := hnamed
    have hsame := textOrNull_eq_string_iff.1 (hfield.symm.trans hstands)
    refine ⟨⟨field, draft.order.join.getD "ASC"⟩, ?_⟩
    rw [hfinish]
    exact finish_eq_some_iff.2 ⟨hsame, hnamed, rfl⟩

/-- An order that names its field is read again from what is written of it. -/
theorem read_toJson {asked : SortBy} (h : asked.field ≠ "") :
    SortBy.read asked.toJson = .ok (some asked) := by
  have hread : layout.read {} asked.toJson
      = .ok ⟨some (some asked.field), some (some asked.order)⟩ := rfl
  have hfinish : Partial.finish ⟨some (some asked.field), some (some asked.order)⟩ = some asked :=
    finish_eq_some_iff.2 ⟨rfl, h, rfl⟩
  show Partial.finish <$> layout.read {} asked.toJson = _
  rw [hread]
  exact congrArg Except.ok hfinish

end SortBy

-- ================================================================== pages

namespace Pagination

/-- The number of a page is set by its own member alone. -/
theorem holds_page : layout.Holds "page" (fun value => some <$> unsigned64 value) Draft.page :=
  .of_field rfl (RecordField.sets_required.fills fun _ _ _ h => congrArg (some <$> ·) h)
    (by simp [layout])

theorem holds_perPage :
    layout.Holds "perPage" (fun value => some <$> unsigned64 value) Draft.perPage :=
  .of_field rfl (RecordField.sets_required.fills fun _ _ _ h => congrArg (some <$> ·) h)
    (by simp [layout])

/-- The page that is written in a record. -/
structure StandsIn (record : Json) (page : Pagination) : Prop where
  number : layout.valueAt record "page" = .integer page.page.toNat
  length : layout.valueAt record "perPage" = .integer page.perPage.toNat

/-- The page that is read is the one that is written. -/
theorem of_read {record : Json} {page : Pagination} (h : Pagination.read record = .ok page) :
    StandsIn record page := by
  obtain ⟨draft, hread, h⟩ := bind_eq_ok_iff.1 h
  obtain ⟨number, hnumber, h⟩ := bind_eq_ok_iff.1 h
  obtain ⟨count, hcount, h⟩ := bind_eq_ok_iff.1 h
  cases h
  exact ⟨eq_of_unsigned64 (holds_page.read_given rfl (by decide) rfl hread (eq_of_given hnumber)),
    eq_of_unsigned64 (holds_perPage.read_given rfl (by decide) rfl hread (eq_of_given hcount))⟩

/-- A page may be null, and then there is none; otherwise both of its numbers stand there. -/
theorem of_nullable {record : Json} {found : Option Pagination}
    (h : nullable Pagination.read record = .ok found) :
    record = .null ∧ found = none ∨ ∃ page, found = some page ∧ StandsIn record page := by
  unfold nullable at h
  split at h
  · next hnull =>
    cases h
    cases record <;> cases hnull
    exact .inl ⟨rfl, rfl⟩
  · cases hread : Pagination.read record with
    | error failure =>
        rw [hread] at h
        cases h
    | ok page =>
        rw [hread] at h
        cases h
        exact .inr ⟨page, rfl, of_read hread⟩

/-- A page is read again from what is written of it, its two numbers being all there is. -/
theorem read_toJson (page : Pagination) : Pagination.read page.toJson = .ok page := by
  have hread : layout.read {} page.toJson = .ok ⟨some page.page, some page.perPage⟩ := by
    show layout.enterMembers [] {} [(.text "page", .integer page.page.toNat),
      (.text "perPage", .integer page.perPage.toNat)] = _
    rw [Layout.enterMembers_field rfl rfl (RecordField.enter_required (unsigned64_toNat _)),
      Layout.enterMembers_field rfl rfl (RecordField.enter_required (unsigned64_toNat _))]
    rfl
  rw [read, hread]
  rfl

end Pagination

-- ============================================================= parameters

namespace Params

/-- What parameters are read of a record: what stands under their names, where null is nothing. -/
structure ReadFrom (record : Json) (params : Params) : Prop where
  id : params.id = (layout.valueAt record "id").present?
  ids : layout.valueAt record "ids" = .null ∧ params.ids = []
    ∨ layout.valueAt record "ids" = .array params.ids
  filter : layout.valueAt record "filter" = .null ∧ params.filter = []
    ∨ layout.valueAt record "filter" = .object params.filter
  sort : ∀ asked, params.sort = some asked ↔ SortBy.AskedIn (layout.valueAt record "sort") asked
  sorted : params.sort.isSome = true ↔
    ∃ field, SortBy.layout.valueAt (layout.valueAt record "sort") "field" = .string field
      ∧ field ≠ ""
  pagination : layout.valueAt record "pagination" = .null ∧ params.pagination = none
    ∨ ∃ page, params.pagination = some page
      ∧ Pagination.StandsIn (layout.valueAt record "pagination") page
  data : layout.valueAt record "data" = .null ∧ params.data = []
    ∨ layout.valueAt record "data" = .object params.data
  previousData : params.previousData = (layout.valueAt record "previousData").present?
  target : layout.valueAt record "target" = Json.textOrNull params.target

/-- Each parameter is set by the one field of its name, and by no other. -/
theorem holds :
    layout.Holds "id" (nullable anything) Params.id
      ∧ layout.Holds "ids" (orDefault [] (sequence anything)) Params.ids
      ∧ layout.Holds "filter" (orDefault [] readMembers) Params.filter
      ∧ layout.Holds "sort" SortBy.read Params.sort
      ∧ layout.Holds "pagination" (nullable Pagination.read) Params.pagination
      ∧ layout.Holds "data" (orDefault [] readMembers) Params.data
      ∧ layout.Holds "previousData" (nullable anything) Params.previousData
      ∧ layout.Holds "target" (nullable text) Params.target := by
  refine ⟨?_, ?_, ?_, ?_, ?_, ?_, ?_, ?_⟩ <;>
    exact .of_optional _ rfl (fun _ _ => rfl) (by simp [layout])

variable {record : Json} {params : Params}

/-- What is read of a record is what stands under the names: each parameter is followed through the
members by itself. -/
theorem readFrom_of_read (h : read record = .ok params) : ReadFrom record params := by
  obtain ⟨hid, hids, hfilter, hsort, hpagination, hdata, hprevious, htarget⟩ := holds
  have hnames : layout.names.Nodup := by decide
  have hsorted := hsort.read_valueAt rfl hnames rfl h
  refine ⟨?_, ?_, ?_, ?_, ?_, ?_, ?_, ?_, ?_⟩
  · have hvalue := hid.read_valueAt rfl hnames rfl h
    rw [nullable_anything] at hvalue
    exact (Except.ok.inj hvalue).symm
  · exact orDefault_sequence_anything (hids.read_valueAt rfl hnames rfl h)
  · exact orDefault_readMembers (hfilter.read_valueAt rfl hnames rfl h)
  · exact fun asked => SortBy.eq_some_iff_askedIn hsorted
  · exact SortBy.isSome_iff hsorted
  · exact Pagination.of_nullable (hpagination.read_valueAt rfl hnames rfl h)
  · exact orDefault_readMembers (hdata.read_valueAt rfl hnames rfl h)
  · have hvalue := hprevious.read_valueAt rfl hnames rfl h
    rw [nullable_anything] at hvalue
    exact (Except.ok.inj hvalue).symm
  · exact nullable_text_eq_ok_iff.1 (htarget.read_valueAt rfl hnames rfl h)

-- ---------------------------------------------------------- written form

/-- An absent value is written as null, and it comes back as absent; only a null that is there would
not come back. -/
theorem nullable_getD {value : Option Json} (h : value ≠ some .null) :
    nullable anything (value.getD .null) = .ok value := by
  rw [nullable_anything]
  cases value with
  | none => rfl
  | some value =>
      cases value with
      | null => exact absurd rfl h
      | bool | integer | double | string | array | object => rfl

/-- Parameters in normal form are read again from what is written of them. -/
theorem read_toJson (hid : params.id ≠ some .null) (hprevious : params.previousData ≠ some .null)
    (hsort : ∀ asked, params.sort = some asked → asked.field ≠ "") :
    read params.toJson = .ok params := by
  have htarget : nullable text ((params.target.map Json.string).getD .null) = .ok params.target := by
    cases params.target <;> rfl
  have hids : orDefault [] (sequence anything) (.array params.ids) = .ok params.ids :=
    sequence_anything params.ids
  have hsorted : SortBy.read ((params.sort.map SortBy.toJson).getD .null) = .ok params.sort := by
    cases hasked : params.sort with
    | none => rfl
    | some asked => exact SortBy.read_toJson (hsort asked hasked)
  have hpage : nullable Pagination.read ((params.pagination.map Pagination.toJson).getD .null)
      = .ok params.pagination := by
    cases params.pagination with
    | none => rfl
    | some page =>
        show some <$> Pagination.read page.toJson = _
        rw [Pagination.read_toJson]
        rfl
  show layout.enterMembers [] {} [(.text "id", params.id.getD .null),
    (.text "ids", .array params.ids), (.text "filter", .object params.filter),
    (.text "sort", (params.sort.map SortBy.toJson).getD .null),
    (.text "pagination", (params.pagination.map Pagination.toJson).getD .null),
    (.text "data", .object params.data), (.text "previousData", params.previousData.getD .null),
    (.text "target", (params.target.map Json.string).getD .null)] = _
  rw [Layout.enterMembers_field rfl rfl (RecordField.enter_optional (nullable_getD hid)),
    Layout.enterMembers_field rfl rfl (RecordField.enter_optional hids),
    Layout.enterMembers_field rfl rfl (RecordField.enter_optional (orDefault_object _)),
    Layout.enterMembers_field rfl rfl (RecordField.enter_optional hsorted),
    Layout.enterMembers_field rfl rfl (RecordField.enter_optional hpage),
    Layout.enterMembers_field rfl rfl (RecordField.enter_optional (orDefault_object _)),
    Layout.enterMembers_field rfl rfl (RecordField.enter_optional (nullable_getD hprevious)),
    Layout.enterMembers_field rfl rfl (RecordField.enter_optional htarget)]
  rfl

/-- What was read has the normal form that the way back needs. -/
theorem ReadFrom.read_toJson (h : ReadFrom record params) : read params.toJson = .ok params := by
  refine Params.read_toJson ?_ ?_ fun asked hasked => ((h.sort asked).1 hasked).named
  · exact h.id ▸ Json.present?_ne_null
  · exact h.previousData ▸ Json.present?_ne_null

-- ----------------------------------------------------------------- nulls

/-- A null sets every parameter to what it is without the member. -/
theorem idle_null {name : String} (hname : name ∈ layout.names) : layout.Idle {} name .null := by
  obtain ⟨hid, hids, hfilter, hsort, hpagination, hdata, hprevious, htarget⟩ := holds
  have hnames : name = "id" ∨ name = "ids" ∨ name = "filter" ∨ name = "sort"
      ∨ name = "pagination" ∨ name = "data" ∨ name = "previousData" ∨ name = "target" := by
    simpa [Layout.names, layout] using hname
  rcases hnames with rfl | rfl | rfl | rfl | rfl | rfl | rfl | rfl
  · exact hid.idle rfl (fun _ => rfl) rfl
  · exact hids.idle rfl (fun _ => rfl) rfl
  · exact hfilter.idle rfl (fun _ => rfl) rfl
  · exact hsort.idle rfl (fun _ => rfl) rfl
  · exact hpagination.idle rfl (fun _ => rfl) rfl
  · exact hdata.idle rfl (fun _ => rfl) rfl
  · exact hprevious.idle rfl (fun _ => rfl) rfl
  · exact htarget.idle rfl (fun _ => rfl) rfl

/-- A null is as good as no member at all. -/
theorem read_null {name : String} {front behind : Table Json} (hname : name ∈ layout.names)
    (hproper : (Table.keys (front ++ (name, .null) :: behind)).Nodup) :
    read (.object (front ++ (name, .null) :: behind)) = read (.object (front ++ behind)) := by
  obtain ⟨hother, hrest⟩ := Layout.nodup_keys_middle.1 hproper
  rw [read, Layout.read_object rfl hproper, Layout.read_object rfl hrest]
  exact (idle_null hname).foldlM_drop hother.1

-- ----------------------------------------------------------- normal forms

/-- Reading parameters is a normalization. What is read of a record is what stands under the names
of the parameters, and it is read again from what is written of it. Of two records of which one has
a null where the other has nothing, the same is read, or they are refused alike. -/
theorem read_normal :
    (∀ record params, read record = .ok params →
      read params.toJson = .ok params ∧ ReadFrom record params)
      ∧ ∀ name front behind, name ∈ layout.names →
        (Table.keys (front ++ (name, .null) :: behind)).Nodup →
        read (.object (front ++ (name, .null) :: behind)) = read (.object (front ++ behind)) := by
  refine ⟨fun record params h => ?_, fun name front behind => read_null⟩
  have hfrom := readFrom_of_read h
  exact ⟨hfrom.read_toJson, hfrom⟩

/-- An order without its direction, a page written as a sequence, and a filter that is null. -/
def byTitle : Json :=
  .object [
    ("ids", .array [.integer 2, .null, .integer 1]),
    ("sort", .object [("field", .string "title")]),
    ("filter", .null),
    ("pagination", .array [.integer 3, .integer 25])]

/-- What is read of it. -/
def askedByTitle : Params where
  ids := [.integer 2, .null, .integer 1]
  sort := some ⟨"title", "ASC"⟩
  pagination := some ⟨3, 25⟩

/-- This record is read, written and read again, and its null filter can be dropped. -/
theorem read_normal_byTitle :
    read byTitle = .ok askedByTitle
      ∧ (read askedByTitle.toJson = .ok askedByTitle ∧ ReadFrom byTitle askedByTitle)
      ∧ read byTitle = read (.object [
        ("ids", .array [.integer 2, .null, .integer 1]),
        ("sort", .object [("field", .string "title")]),
        ("pagination", .array [.integer 3, .integer 25])]) := by
  refine ⟨rfl, read_normal.1 byTitle askedByTitle rfl, ?_⟩
  exact read_normal.2 "filter" [("ids", .array [.integer 2, .null, .integer 1]),
    ("sort", .object [("field", .string "title")])]
    [("pagination", .array [.integer 3, .integer 25])] (by decide) (by decide)

end Params

end CrudGraph
