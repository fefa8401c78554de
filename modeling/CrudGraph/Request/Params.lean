/-
The parameters of a request: which records, in which order, which page, and what to write. A null
stands for an absent value. Written out, every parameter is there; read, none has to be.
-/
import CrudGraph.Reading.Layout

namespace CrudGraph

open Reading

-- ================================================================= parts

/-- A requested order. -/
structure SortBy where
  field : String
  order : String
deriving DecidableEq, Repr

/-- A requested page, counted from one. -/
structure Pagination where
  page : UInt64
  perPage : UInt64
deriving DecidableEq, Repr

namespace Pagination

/-- The first ten records. -/
def first : Pagination :=
  ⟨1, 10⟩

/-- How many records come before the page, when the number fits in 64 bits. Page zero is the first
one too. -/
def offset? (pagination : Pagination) : Option UInt64 :=
  let offset := (pagination.page.toNat - 1) * pagination.perPage.toNat
  if Width.fitsUnsigned 64 offset then some (UInt64.ofNat offset) else none

end Pagination

/-- The parameters of a request. -/
structure Params where
  /-- The identifier of the one record asked for. -/
  id : Option Json := none
  /-- The identifiers of many records. -/
  ids : List Json := []
  filter : Table Json := []
  sort : Option SortBy := none
  pagination : Option Pagination := none
  /-- The data of a record to write. -/
  data : Table Json := []
  previousData : Option Json := none
  /-- The field that relates the records asked for to the one identified. -/
  target : Option String := none

-- =============================================================== reading

/-- An order as it is written, of which both parts may be absent. -/
structure SortBy.Partial where
  field : Option (Option String) := none
  order : Option (Option String) := none

/-- How an order is written. -/
def SortBy.layout : Layout Json SortBy.Partial where
  name := "PartialSort"
  isClosed := false
  fields := [
    .required "field" (nullable text) fun draft s => { draft with field := some s },
    .required "order" (nullable text) fun draft s => { draft with order := some s }]

/-- The order that is asked for. Without a field there is none; it ascends unless it says
otherwise. -/
def SortBy.Partial.finish (draft : SortBy.Partial) : Option SortBy :=
  match draft.field.join with
  | some field =>
    if field.isEmpty then none else some ⟨field, draft.order.join.getD "ASC"⟩
  | none => none

/-- Reads an order that may be absent. -/
def SortBy.read : Reader Json (Option SortBy) := fun value =>
  if value.isNull then .ok none else SortBy.Partial.finish <$> SortBy.layout.read {} value

namespace Pagination

/-- What is read of a page. -/
structure Draft where
  page : Option UInt64 := none
  perPage : Option UInt64 := none

/-- How a page is written. -/
def layout : Layout Json Draft where
  name := "Pagination"
  isClosed := false
  fields := [
    .required "page" unsigned64 fun draft n => { draft with page := some n },
    .required "perPage" unsigned64 fun draft n => { draft with perPage := some n }]

/-- Reads a page. -/
def read : Reader Json Pagination := fun value => do
  let draft ← layout.read {} value
  return ⟨← given "page" draft.page, ← given "perPage" draft.perPage⟩

end Pagination

/-- Reads the members of an object as they are, in order. -/
def readMembers : Reader Json (Table Json) := fun value =>
  match value.members? with
  | some members => .ok members
  | none => mismatch value "a map"

namespace Params

/-- How parameters are written. -/
def layout : Layout Json Params where
  name := "RequestParams"
  isClosed := false
  fields := [
    .optional "id" (nullable anything) fun draft id => { draft with id := id },
    .optional "ids" (orDefault [] (sequence anything)) fun draft ids => { draft with ids := ids },
    .optional "filter" (orDefault [] readMembers) fun draft filter =>
      { draft with filter := filter },
    .optional "sort" SortBy.read fun draft sort => { draft with sort := sort },
    .optional "pagination" (nullable Pagination.read) fun draft pagination =>
      { draft with pagination := pagination },
    .optional "data" (orDefault [] readMembers) fun draft data => { draft with data := data },
    .optional "previousData" (nullable anything) fun draft data =>
      { draft with previousData := data },
    .optional "target" (nullable text) fun draft target => { draft with target := target }]

/-- Reads parameters. -/
def read : Reader Json Params :=
  layout.read {}

end Params

-- =============================================================== writing

/-- Writes an order. -/
def SortBy.toJson (sort : SortBy) : Json :=
  .object [("field", .string sort.field), ("order", .string sort.order)]

/-- Writes a page. -/
def Pagination.toJson (pagination : Pagination) : Json :=
  .object [
    ("page", .integer pagination.page.toNat), ("perPage", .integer pagination.perPage.toNat)]

/-- Writes parameters. -/
def Params.toJson (params : Params) : Json :=
  .object [
    ("id", params.id.getD .null),
    ("ids", .array params.ids),
    ("filter", .object params.filter),
    ("sort", (params.sort.map SortBy.toJson).getD .null),
    ("pagination", (params.pagination.map Pagination.toJson).getD .null),
    ("data", .object params.data),
    ("previousData", params.previousData.getD .null),
    ("target", (params.target.map Json.string).getD .null)]

end CrudGraph
