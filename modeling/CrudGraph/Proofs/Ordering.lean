/-
The ordering that a list is asked for in. A list is sent with an ordering wherever its operation
takes one that has anything to offer besides the natural order. The key that is asked for is looked
up among the values of the ordering, and gives way to the natural order if it is not among them; but
the natural order is looked up nowhere. It is what the configuration calls it, and an ordering need
not have a value of that name.

# What is shown

`Context.Orders` says which key is sent, and what is reported. The key is the one that was asked for
where the ordering has it, and the natural one elsewhere; a report is made for a key that was asked
for in vain, and for no other reason. So a key that is sent is a value of the ordering just where
the natural order is one, or the key that was asked for (`known_iff`). Where neither is, a key is
sent all the same, and it is one that nobody declared (`not_known_bookcase`).

# How

A list and the list of the records related to one are both pages by some filter
(`exists_getListBy`), and neither the filter nor what is selected has a say in the ordering: none of
their reports is on a sort key (`sortKeys_of_getListBy`). What is left is the one step that decides
on the ordering, case by case (`orders_of_orderBy`).
-/
import CrudGraph.Proofs.Capability

namespace CrudGraph

/-- Whether an omission reports a key that an ordering does not have. -/
def Omission.isUnknownSortKey : Omission → Bool
  | .unknownSortKey _ _ => true
  | _ => false

-- ================================================================= reports

namespace Context

variable {c : Context} {params : Params} {sort : Option SortBy} {envelope : Envelope}
  {omissions : List Omission}

/-- Of all that a page reports, only its ordering is on a sort key. -/
theorem sortKeys_of_getListBy {filter : Table Json}
    (h : (c.getListBy params filter).Reports omissions envelope) :
    omissions.filter Omission.isUnknownSortKey
      = (c.orderBy params.sort).omissions.filter Omission.isUnknownSortKey := by
  obtain ⟨compiled, order, first, offset, bindings, selections, -, -, rfl⟩ := reports_getListBy h
  -- A filter reports on keys, a selection on fields, and what is passed on on arguments.
  have hfilter : (Filter.compile c.configuration.filters c.resourceType filter).omissions.filter
      Omission.isUnknownSortKey = [] := by
    refine List.filter_eq_nil_iff.2 fun omission homission => ?_
    obtain ⟨key, hkey⟩ := Filter.filterKey?_of_compile homission
    cases omission with
    | unknownSortKey => cases hkey
    | _ => exact Bool.false_ne_true
  have hselect : c.select.omissions.filter Omission.isUnknownSortKey = [] := by
    refine List.filter_eq_nil_iff.2 fun omission homission => ?_
    obtain ⟨names, hnames⟩ := Projector.field?_of_mem_select _ homission
    cases omission with
    | unknownSortKey => cases hnames
    | _ => exact Bool.false_ne_true
  have hunsupported : ∀ given,
      (c.unsupported c.resource.plural given).filter Omission.isUnknownSortKey = [] := by
    refine fun given => List.filter_eq_nil_iff.2 fun omission homission => ?_
    have hargument := List.filter_eq_self.1 (filter_unsupported c.resource.plural given) omission
      homission
    cases omission with
    | unknownSortKey => cases hargument
    | _ => exact Bool.false_ne_true
  rw [List.filter_append, List.filter_append, List.filter_append, hfilter, hselect, hunsupported,
    List.nil_append, List.nil_append, List.append_nil]

-- =============================================================== which key

variable (c) in
/-- The key of an ordering that a request asks for: the words of the field in capital letters and
the direction. -/
inductive Requested : Option SortBy → String → Prop
  /-- The key field is meant where the uniform identifier only stands for it. -/
  | key {sort : SortBy} (aliased : c.key.aliasRequired = true)
      (uniform : sort.field = c.configuration.naming.identifierName) :
      Requested (some sort)
        (SortKey.capitalized c.key.fieldName ++ "_" ++ Text.toUpper sort.order)
  /-- The field itself is meant elsewhere. -/
  | own {sort : SortBy} (other : c.key.aliasRequired = true →
        sort.field ≠ c.configuration.naming.identifierName) :
      Requested (some sort) (SortKey.capitalized sort.field ++ "_" ++ Text.toUpper sort.order)

/-- A request with a sort asks for the key of this sort. -/
theorem requested_sortKey (given : SortBy) : c.Requested (some given) (c.sortKey given) := by
  unfold sortKey
  split
  · next huniform =>
    obtain ⟨haliased, huniform⟩ := Bool.and_eq_true_iff.1 huniform
    exact .key haliased (beq_iff_eq.1 huniform)
  · next hother => exact .own (by simpa using hother)

/-- It asks for no other. -/
theorem Requested.eq_sortKey {given : SortBy} {asked : String}
    (h : c.Requested (some given) asked) : asked = c.sortKey given := by
  unfold sortKey
  cases h with
  | key aliased uniform =>
    rw [if_pos (by simp [aliased, uniform])]
    rfl
  | own other =>
    rw [if_neg (by simpa using other)]
    rfl

variable (c) in
/-- A key of the ordering of a list is sent, where the given one is asked for if any is. -/
structure Orders (sort : Option SortBy) (ordering : NamedType) (key : String)
    (omissions : List Omission) : Prop where
  /-- The ordering is the one that the operation declares. -/
  declared : c.schema.argumentType? c.resource.plural "orderBy" = some ordering
  enumeration : ordering.kind = .enum
  /-- The key that is asked for is sent where the ordering has it. -/
  requested : ∀ asked, c.Requested sort asked → asked ∈ ordering.enumValues → key = asked
  /-- Elsewhere the natural one is. -/
  natural : (∀ asked, c.Requested sort asked → asked ∉ ordering.enumValues) →
    key = c.configuration.naming.naturalOrdering
  /-- A key that is asked for in vain is reported, once. -/
  reported : ∀ asked, c.Requested sort asked → asked ∉ ordering.enumValues →
    omissions.filter Omission.isUnknownSortKey = [.unknownSortKey c.resource.plural asked]
  /-- Nothing else is reported on keys of orderings. -/
  unreported : (∀ asked, c.Requested sort asked → asked ∈ ordering.enumValues) →
    omissions.filter Omission.isUnknownSortKey = []
  /-- What is sent is a value of the ordering just where one of the two is. -/
  known_iff : key ∈ ordering.enumValues
    ↔ c.configuration.naming.naturalOrdering ∈ ordering.enumValues
      ∨ ∃ asked, c.Requested sort asked ∧ asked ∈ ordering.enumValues

/-- An ordering that is asked about is an enumeration that the operation declares. -/
theorem argumentType?_of_ordering? {ordering : NamedType} (h : c.ordering? = some ordering) :
    c.schema.argumentType? c.resource.plural "orderBy" = some ordering
      ∧ ordering.kind = .enum := by
  obtain ⟨htype, hoffers⟩ := Option.filter_eq_some_iff.1 h
  exact ⟨htype, of_decide_eq_true (Bool.and_eq_true_iff.1 hoffers).1⟩

section

variable {ordering : NamedType} (hordering : c.ordering? = some ordering)

include hordering

/-- Where no key is asked for, none is asked for in vain. -/
theorem orders_none : c.Orders none ordering c.configuration.naming.naturalOrdering [] where
  declared := (argumentType?_of_ordering? hordering).1
  enumeration := (argumentType?_of_ordering? hordering).2
  requested _ hasked := by cases hasked
  natural _ := rfl
  reported _ hasked := by cases hasked
  unreported _ := rfl
  known_iff := by
    rw [or_iff_left]
    rintro ⟨asked, hasked, -⟩
    cases hasked

theorem orders_of_mem {given : SortBy} (hknown : c.sortKey given ∈ ordering.enumValues) :
    c.Orders (some given) ordering (c.sortKey given) [] where
  declared := (argumentType?_of_ordering? hordering).1
  enumeration := (argumentType?_of_ordering? hordering).2
  requested _ hasked _ := hasked.eq_sortKey.symm
  natural hnone := absurd hknown (hnone _ (requested_sortKey given))
  reported _ hasked hunknown := absurd (hasked.eq_sortKey ▸ hknown) hunknown
  unreported _ := rfl
  known_iff := iff_of_true hknown (.inr ⟨_, requested_sortKey given, hknown⟩)

theorem orders_of_not_mem {given : SortBy} (hunknown : c.sortKey given ∉ ordering.enumValues) :
    c.Orders (some given) ordering c.configuration.naming.naturalOrdering
      [.unknownSortKey c.resource.plural (c.sortKey given)] where
  declared := (argumentType?_of_ordering? hordering).1
  enumeration := (argumentType?_of_ordering? hordering).2
  requested asked hasked hknown := absurd (hasked.eq_sortKey ▸ hknown) hunknown
  natural _ := rfl
  reported asked hasked _ := by
    rw [hasked.eq_sortKey]
    rfl
  unreported hall := absurd (hall _ (requested_sortKey given)) hunknown
  known_iff := by
    rw [or_iff_left]
    rintro ⟨asked, hasked, hknown⟩
    exact hunknown (hasked.eq_sortKey ▸ hknown)

end

/-- An ordering that is sent is sent by one key, and this is the one that it should be. -/
theorem orders_of_orderBy {sent : Json} (h : (c.orderBy sort).EndsWith (some sent)) :
    ∃ ordering key, sent = .array [.string key]
      ∧ c.Orders sort ordering key (c.orderBy sort).omissions := by
  cases hordering : c.ordering? with
  | none =>
    rw [orderBy_of_unordered hordering] at h
    cases h
  | some ordering =>
    cases sort with
    | none =>
      rw [orderBy_none hordering] at h ⊢
      cases h
      exact ⟨ordering, _, rfl, orders_none hordering⟩
    | some given =>
      by_cases hknown : c.sortKey given ∈ ordering.enumValues
      · rw [orderBy_some_of_mem hordering hknown] at h ⊢
        cases h
        exact ⟨ordering, _, rfl, orders_of_mem hordering hknown⟩
      · rw [orderBy_some_of_not_mem hordering hknown] at h ⊢
        cases h
        exact ⟨ordering, _, rfl, orders_of_not_mem hordering hknown⟩

-- ================================================================== a list

/-- A list, and the list of the records related to one, are pages by some filter. -/
theorem exists_getListBy (hverb : c.verb = .getList ∨ c.verb = .getManyReference)
    (h : (Builder.request c params).Reports omissions envelope) :
    ∃ filter, (c.getListBy params filter).Reports omissions envelope := by
  rcases hverb with hverb | hverb
  · rw [Builder.request, hverb] at h
    exact ⟨params.filter, h⟩
  · rw [Builder.request, hverb] at h
    dsimp only at h
    unfold getManyReference at h
    split at h
    · cases h
    · obtain ⟨id, -, h⟩ := h.of_lift_bind
      exact ⟨_, h⟩

/-- A page sends the ordering that is decided on. -/
theorem sends_orderBy_iff {filter : Table Json}
    (h : (c.getListBy params filter).EndsWith envelope) {sent : Json} :
    envelope.Sends "orderBy" sent ↔ (c.orderBy params.sort).EndsWith (some sent) := by
  obtain ⟨compiled, order, first, offset, bindings, selections, hpage⟩ := getListBy_eq_ok h
  have hmem : ("orderBy", order) ∈
      [("filter", compiled), ("condition", c.condition filter), ("orderBy", order)] :=
    List.mem_cons_of_mem _ (List.mem_cons_of_mem _ List.mem_cons_self)
  rw [hpage.sends_iff hmem]
  constructor
  · rintro ⟨-, rfl⟩
    exact hpage.ordered
  · intro horder
    exact ⟨supportsArgument_of_orderBy horder, Except.ok.inj (hpage.ordered.symm.trans horder)⟩

end Context

namespace Builder

/-- A list that is asked for with an ordering is asked for by one key. It is the key that the
request asks for where the ordering has it, and the natural one elsewhere, which the ordering may
have or not; a key that is asked for in vain is reported. -/
theorem build_orders (builder : Builder) {verb resource : String} {c : Context}
    (hcontext : builder.context verb resource = .ok c)
    (hverb : c.verb = .getList ∨ c.verb = .getManyReference)
    {params : Params} {envelope : Envelope} {omissions : List Omission}
    (hbuilt : (builder.build verb resource params).1 = .ok (envelope, omissions))
    {sent : Json} (hsent : envelope.Sends "orderBy" sent) :
    ∃ ordering key, sent = .array [.string key]
      ∧ c.Orders params.sort ordering key omissions := by
  obtain ⟨filter, hlist⟩ :=
    Context.exists_getListBy hverb (builder.reports_of_build hcontext hbuilt)
  have horder := (Context.sends_orderBy_iff hlist.endsWith).1 hsent
  obtain ⟨ordering, key, hkey, horders⟩ := Context.orders_of_orderBy horder
  have hreports := Context.sortKeys_of_getListBy hlist
  refine ⟨ordering, key, hkey, { horders with reported := ?_, unreported := ?_ }⟩
  · rw [hreports]
    exact horders.reported
  · rw [hreports]
    exact horders.unreported

-- ================================================================== at work

/-- A library whose books can be listed by their titles, and in no order of their own. -/
def bookcase : Builder := .new {
    operations := [
      ⟨"book", [⟨"id", .nonNullOf (.named .scalar "Int"), none⟩], some (.named .object "Book")⟩,
      ⟨"books", [⟨"first", .named .scalar "Int", none⟩, ⟨"offset", .named .scalar "Int", none⟩,
        ⟨"orderBy", .listOf (.nonNullOf (.named .enum "BooksOrderBy")), none⟩],
        some (.named .object "BooksConnection")⟩]
    types := [
      shelvesContext.resourceType,
      { kind := .object, name := "BooksConnection", inputFields := [], enumValues := []
        fields := [⟨"nodes", [], .listOf (.named .object "Book")⟩] },
      { kind := .enum, name := "BooksOrderBy", fields := [], inputFields := []
        enumValues := ["TITLE_ASC", "TITLE_DESC"] }] } {} []

/-- The context of a request for a list of these books. -/
def bookcaseContext : Context :=
  { shelvesContext with schema := bookcase.schema }

theorem bookcase_context : bookcase.context "GET_LIST" "book" = .ok bookcaseContext :=
  bookcase.context_eq_ok ofName_book rfl rfl (Verb.parse_text .getList)

/-- They can be listed whatever they are sorted by, in the order that is decided on. -/
theorem exists_bookcase (sort : Option SortBy) :
    ∃ envelope omissions,
      (bookcase.build "GET_LIST" "book" { sort }).1 = .ok (envelope, omissions)
        ∧ ∀ sent, (bookcaseContext.orderBy sort).EndsWith (some sent) →
          envelope.Sends "orderBy" sent := by
  have htype : bookcase.schema.type? "Book" = some bookcaseContext.resourceType := rfl
  have hshown : Table.find? bookcase.strategies "Book" = none := rfl
  have hselected : ∃ selections, bookcaseContext.select.EndsWith selections :=
    Projector.select_isOk htype hshown (by decide) (by decide) (by decide)
  have htyped : ∀ argument ∈ ["filter", "condition", "orderBy"],
      ∀ declared ∈ bookcase.schema.argument? "books" argument,
        ∃ type, declared.type.toExpr = .ok type := by
    intro argument hargument declared hdeclared
    have hordering : declared.type = .listOf (.nonNullOf (.named .enum "BooksOrderBy")) := by
      revert declared argument
      decide
    exact ⟨_, by rw [hordering]; rfl⟩
  obtain ⟨hsized, hplaced⟩ := @Context.pageNumber_isOk_of_none { sort } rfl
  obtain ⟨envelope, hrequest⟩ := @Context.getListBy_isOk bookcaseContext { sort } [] rfl (by decide)
    ⟨none, rfl⟩ hselected hsized hplaced htyped
  exact ⟨envelope, _, bookcase.build_eq_ok_iff.2 ⟨_, bookcase_context, hrequest, rfl⟩,
    fun sent => (Context.sends_orderBy_iff hrequest).2⟩

/-- The ordering of these books. -/
theorem bookcase_ordering : bookcaseContext.ordering? = some {
    kind := .enum, name := "BooksOrderBy", fields := [], inputFields := []
    enumValues := ["TITLE_ASC", "TITLE_DESC"] } := rfl

/-- By their titles they are asked for as their ordering says, and nothing is reported. -/
theorem build_orders_bookcase :
    ∃ envelope omissions,
      (bookcase.build "GET_LIST" "book" { sort := some ⟨"title", "asc"⟩ }).1
          = .ok (envelope, omissions)
        ∧ envelope.Sends "orderBy" (.array [.string "TITLE_ASC"])
        ∧ omissions.filter Omission.isUnknownSortKey = [] := by
  obtain ⟨envelope, omissions, hbuilt, hsends⟩ := exists_bookcase (some ⟨"title", "asc"⟩)
  have hkey : bookcaseContext.sortKey ⟨"title", "asc"⟩ = "TITLE_ASC" := by decide +kernel
  have hknown : bookcaseContext.sortKey ⟨"title", "asc"⟩ ∈ ["TITLE_ASC", "TITLE_DESC"] := by
    rw [hkey]
    decide
  have horder : (bookcaseContext.orderBy (some ⟨"title", "asc"⟩)).EndsWith
      (some (.array [.string "TITLE_ASC"])) := by
    rw [Context.orderBy_some_of_mem bookcase_ordering hknown, hkey]
    rfl
  obtain ⟨ordering, key, -, horders⟩ :=
    build_orders bookcase bookcase_context (.inl rfl) hbuilt (hsends _ horder)
  refine ⟨envelope, omissions, hbuilt, hsends _ horder, horders.unreported ?_⟩
  intro asked hasked
  cases hasked.eq_sortKey
  cases (Context.argumentType?_of_ordering? bookcase_ordering).1.symm.trans horders.declared
  exact hknown

/-- But where nothing is asked for they are asked for in their natural order, which their ordering
does not have. -/
theorem not_known_bookcase :
    ∃ envelope omissions,
      (bookcase.build "GET_LIST" "book" {}).1 = .ok (envelope, omissions)
        ∧ envelope.Sends "orderBy" (.array [.string "NATURAL"])
        ∧ ∃ ordering, bookcase.schema.argumentType? "books" "orderBy" = some ordering
          ∧ ordering.kind = .enum ∧ "NATURAL" ∉ ordering.enumValues := by
  obtain ⟨envelope, omissions, hbuilt, hsends⟩ := exists_bookcase none
  refine ⟨envelope, omissions, hbuilt, hsends _ ?_, _, rfl, rfl, by decide⟩
  rw [Context.orderBy_none bookcase_ordering]
  rfl

end Builder

end CrudGraph
