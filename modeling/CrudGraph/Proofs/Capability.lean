/-
What a list operation is asked with. Besides the numbers of the page there are a filter, a condition
and an ordering, and for each of them two things are found out one by one: whether there is anything
to send (`Offered`), and whether the operation declares the argument. The ordering is the one that
is asked about earlier than the others, since it takes the values of an enumeration to know what to
send; so the report on it comes from another place, and what has to be seen is that between the two
places no report is missing and none is made twice.

`offered_iff` compares what is offered with what the page passes on, argument by argument. The rest
is the page by its parts: the names, the types and the values of its variables (`Pages`), and its
reports, of which those of the filter and of the selections are of other kinds.
-/
import CrudGraph.Proofs.Build
import CrudGraph.Proofs.Conjunction
import CrudGraph.Proofs.Page
import CrudGraph.Proofs.Quiet
import CrudGraph.Proofs.Selection.Leaves
import CrudGraph.Proofs.Selection.Walk
import Mathlib.Data.List.Sublists

namespace CrudGraph

/-- Whether an omission reports an argument that an operation does not declare. -/
def Omission.isUnsupportedArgument : Omission → Bool
  | .unsupportedArgument _ _ => true
  | _ => false

namespace Context

variable (c : Context)

-- =================================================================== offers

/-- The arguments that not every list operation has. -/
def optionalArguments : List String := ["filter", "condition", "orderBy"]

/-- The ordering of the list operation, if it has any value besides the natural one. -/
def ordering? : Option NamedType :=
  c.schema.orderingEnum? c.resource.plural "orderBy" c.configuration.naming.naturalOrdering

/-- What there is to send through these arguments, if the filter has the given clauses. -/
inductive Offered (params : Params) (clauses : List Json) : String → Json → Prop
  | filter : clauses ≠ [] → Offered params clauses "filter" (.object [("and", .array clauses)])
  | condition {value} :
      Table.find? params.filter c.configuration.filters.conditionKey = some value →
      value.isNull = false →
      Offered params clauses "condition" value
  /-- The ordering that is asked for, if it is one. -/
  | sorted {ordering sort} :
      c.ordering? = some ordering →
      params.sort = some sort →
      ordering.hasEnumValue (c.sortKey sort) = true →
      Offered params clauses "orderBy" (.array [.string (c.sortKey sort)])
  /-- The natural ordering elsewhere. -/
  | natural {ordering} :
      c.ordering? = some ordering →
      (∀ sort, params.sort = some sort → ordering.hasEnumValue (c.sortKey sort) = false) →
      Offered params clauses "orderBy"
        (.array [.string c.configuration.naming.naturalOrdering])

/-- A request for a list, by the one field that it selects at its root. -/
structure Lists (params : Params) (clauses : List Json) (definition : OperationDefinition)
    (root : Selection) (values : Table Json) (omissions : List Omission) : Prop where
  named : root.name.text = c.resource.plural
  /-- Each argument refers to the variable of its own name. -/
  bound : root.arguments
    = definition.declarations.map fun declared => (declared.name, .reference declared.name)
  /-- The arguments are those of the page, and then those of the others, in their order, that the
  operation declares and that there is something to send through. -/
  taken : ∃ others, root.arguments.map (·.1.text) = "first" :: "offset" :: others
    ∧ others.Sublist optionalArguments
    ∧ ∀ argument ∈ optionalArguments, argument ∈ others
      ↔ c.schema.supportsArgument c.resource.plural argument = true
        ∧ ∃ value, c.Offered params clauses argument value
  /-- Of these, each variable has the type of its argument. -/
  typed : ∀ declared ∈ definition.declarations, declared.name.text ∈ optionalArguments →
    c.HasArgument c.resource.plural declared.name.text declared.type
  /-- And it has the value that there is to send, which is not null; a filter has clauses, and an
  ordering has a value. -/
  valued : ∀ declared ∈ definition.declarations, declared.name.text ∈ optionalArguments →
    ∃ value, Table.find? values declared.name.text = some value
      ∧ c.Offered params clauses declared.name.text value ∧ value ≠ .null
      ∧ (declared.name.text = "filter" → value ≠ .object [("and", .array [])])
      ∧ (declared.name.text = "orderBy" → value ≠ .array [])
  /-- Reported are an ordering that is asked for where there is none, and a filter and a condition
  that the operation does not declare. -/
  reported : omissions.filter Omission.isUnsupportedArgument
    = (if params.sort.isSome ∧ c.ordering? = none then
        [.unsupportedArgument c.resource.plural "orderBy"] else [])
      ++ (if clauses ≠ [] ∧ c.schema.supportsArgument c.resource.plural "filter" = false then
        [.unsupportedArgument c.resource.plural "filter"] else [])
      ++ (if (c.condition params.filter).isSome
          ∧ c.schema.supportsArgument c.resource.plural "condition" = false then
        [.unsupportedArgument c.resource.plural "condition"] else [])

variable {c} {params : Params} {clauses : List Json} {argument : String} {value : Json}

/-- Nothing is sent that could as well be left out, unless a condition is given so. -/
theorem Offered.substantial (h : c.Offered params clauses argument value) :
    value ≠ .null ∧ (argument = "filter" → value ≠ .object [("and", .array [])])
      ∧ (argument = "orderBy" → value ≠ .array []) := by
  cases h with
  | filter hsome =>
    refine ⟨fun h => (by cases h), fun _ h => hsome ?_, fun h => absurd h (by decide)⟩
    simpa using h
  | condition _ hgiven =>
    refine ⟨?_, fun h => absurd h (by decide), fun h => absurd h (by decide)⟩
    rintro rfl
    cases hgiven
  | sorted | natural =>
    exact ⟨fun h => (by cases h), fun h => absurd h (by decide), fun _ h => (by cases h)⟩

/-- An ordering that an operation has is that of an argument that it declares. -/
theorem supportsArgument_of_ordering? {ordering : NamedType} (h : c.ordering? = some ordering) :
    c.schema.supportsArgument c.resource.plural "orderBy" = true := by
  obtain ⟨htype, -⟩ := Option.filter_eq_some_iff.1 h
  obtain ⟨declared, hdeclared, -⟩ := Option.bind_eq_some_iff.1 htype
  rw [Schema.supportsArgument, hdeclared]
  rfl

/-- Where there is no ordering none is sent, and it is reported if one is asked for. -/
theorem orderBy_of_unordered (h : c.ordering? = none) (sort : Option SortBy) :
    c.orderBy sort = ⟨if sort.isSome then [.unsupportedArgument c.resource.plural "orderBy"] else [],
      .ok none⟩ := by
  rw [ordering?] at h
  unfold orderBy
  dsimp only
  rw [h]
  cases sort <;> rfl

section

variable {ordering : NamedType} (hordering : c.ordering? = some ordering)

include hordering

/-- Where no key is asked for, the natural one is sent. -/
theorem orderBy_none : c.orderBy none
    = pure (some (.array [.string c.configuration.naming.naturalOrdering])) := by
  rw [ordering?] at hordering
  unfold orderBy
  dsimp only
  rw [hordering]

/-- A key that the ordering has is sent. -/
theorem orderBy_some_of_mem {given : SortBy} (hknown : c.sortKey given ∈ ordering.enumValues) :
    c.orderBy (some given) = pure (some (.array [.string (c.sortKey given)])) := by
  rw [ordering?] at hordering
  unfold orderBy
  dsimp only
  rw [hordering]
  exact if_pos (List.contains_iff_mem.2 hknown)

/-- A key that it does not have is reported, and the natural one is sent. -/
theorem orderBy_some_of_not_mem {given : SortBy}
    (hunknown : c.sortKey given ∉ ordering.enumValues) :
    c.orderBy (some given) = ⟨[.unknownSortKey c.resource.plural (c.sortKey given)],
      .ok (some (.array [.string c.configuration.naming.naturalOrdering]))⟩ := by
  rw [ordering?] at hordering
  unfold orderBy
  dsimp only
  rw [hordering]
  exact if_neg (mt List.contains_iff_mem.1 hunknown)

end

/-- The ordering of a page is the one that there is to send. -/
theorem orderBy_iff {order : Option Json} (h : (c.orderBy params.sort).EndsWith order) :
    order = some value ↔ c.Offered params clauses "orderBy" value := by
  constructor
  · rintro rfl
    cases hordering : c.ordering? with
    | none =>
      rw [orderBy_of_unordered hordering] at h
      cases h
    | some ordering =>
      cases hsort : params.sort with
      | none =>
        rw [hsort, orderBy_none hordering] at h
        cases h
        exact .natural hordering fun sort h => by cases hsort.symm.trans h
      | some sort =>
        by_cases hknown : c.sortKey sort ∈ ordering.enumValues
        · rw [hsort, orderBy_some_of_mem hordering hknown] at h
          cases h
          exact .sorted hordering hsort (List.contains_iff_mem.2 hknown)
        · rw [hsort, orderBy_some_of_not_mem hordering hknown] at h
          cases h
          refine .natural hordering fun other h => ?_
          cases hsort.symm.trans h
          exact Bool.eq_false_iff.2 (mt List.contains_iff_mem.1 hknown)
  · intro hoffered
    -- The name of the argument has to be a variable for the cases to be taken apart.
    generalize hargument : "orderBy" = argument at hoffered
    cases hoffered with
    | filter | condition => exact absurd hargument (by decide)
    | sorted hordering hsort hvalue =>
      rw [hsort, orderBy_some_of_mem hordering (List.contains_iff_mem.1 hvalue)] at h
      cases h
      rfl
    | natural hordering hother =>
      cases hsort : params.sort with
      | none =>
        rw [hsort, orderBy_none hordering] at h
        cases h
        rfl
      | some sort =>
        have hunknown := mt List.contains_iff_mem.2 (Bool.eq_false_iff.1 (hother sort hsort))
        rw [hsort, orderBy_some_of_not_mem hordering hunknown] at h
        cases h
        rfl

/-- Before the arguments are passed on, an ordering is reported if there is none. -/
theorem unsupported_of_orderBy (sort : Option SortBy) :
    (c.orderBy sort).omissions.filter Omission.isUnsupportedArgument
      = if sort.isSome ∧ c.ordering? = none then
          [.unsupportedArgument c.resource.plural "orderBy"] else [] := by
  cases hordering : c.ordering? with
  | none =>
    rw [orderBy_of_unordered hordering]
    cases sort <;> rfl
  | some ordering =>
    rw [if_neg (by simp)]
    cases sort with
    | none =>
      rw [orderBy_none hordering]
      rfl
    | some sort =>
      by_cases hknown : c.sortKey sort ∈ ordering.enumValues
      · rw [orderBy_some_of_mem hordering hknown]
        rfl
      · rw [orderBy_some_of_not_mem hordering hknown]
        rfl

/-- An ordering that is sent is that of an argument that the operation declares. -/
theorem supportsArgument_of_orderBy {sort : Option SortBy}
    (h : (c.orderBy sort).EndsWith (some value)) :
    c.schema.supportsArgument c.resource.plural "orderBy" = true := by
  cases hordering : c.ordering? with
  | some ordering => exact supportsArgument_of_ordering? hordering
  | none =>
    rw [orderBy_of_unordered hordering] at h
    cases h

-- ============================================================== passing on

variable (c) in
/-- What a page has for these arguments, if it has anything. -/
def given (params : Params) (clauses : List Json) (order : Option Json) :
    List (String × Option Json) :=
  [("filter", Filter.conjunction clauses), ("condition", c.condition params.filter),
    ("orderBy", order)]

/-- What there is to send is what a page has. -/
theorem offered_iff {order : Option Json} (horder : (c.orderBy params.sort).EndsWith order) :
    (argument, some value) ∈ c.given params clauses order
      ↔ c.Offered params clauses argument value := by
  simp only [given, List.mem_cons, Prod.mk.injEq, List.not_mem_nil, or_false]
  constructor
  · intro h
    rcases h with ⟨rfl, h⟩ | ⟨rfl, h⟩ | ⟨rfl, h⟩
    · obtain ⟨hsome, rfl⟩ := Filter.conjunction_eq_some_iff.1 h.symm
      exact .filter hsome
    · obtain ⟨hfound, hgiven⟩ := Option.filter_eq_some_iff.1 h.symm
      exact .condition hfound (by simpa using hgiven)
    · exact (orderBy_iff horder).1 h.symm
  · intro h
    have hsame := h
    cases h with
    | filter hsome => exact .inl ⟨rfl, (Filter.conjunction_eq_some_iff.2 ⟨hsome, rfl⟩).symm⟩
    | condition hfound hgiven =>
      refine .inr (.inl ⟨rfl, (Option.filter_eq_some_iff.2 ⟨hfound, ?_⟩).symm⟩)
      rw [hgiven]
      rfl
    | sorted | natural => exact .inr (.inr ⟨rfl, ((orderBy_iff horder).2 hsame).symm⟩)

/-- It is passed on where the operation declares the argument. -/
theorem mem_passed_given_iff {order : Option Json}
    (horder : (c.orderBy params.sort).EndsWith order) :
    (argument, value) ∈ c.passed c.resource.plural (c.given params clauses order)
      ↔ c.schema.supportsArgument c.resource.plural argument = true
        ∧ c.Offered params clauses argument value := by
  rw [mem_passed, offered_iff horder]

/-- And it is reported elsewhere; but an ordering is there only with its argument. -/
theorem unsupported_given {order : Option Json} (horder : (c.orderBy params.sort).EndsWith order) :
    c.unsupported c.resource.plural (c.given params clauses order)
      = (if clauses ≠ [] ∧ c.schema.supportsArgument c.resource.plural "filter" = false then
          [.unsupportedArgument c.resource.plural "filter"] else [])
        ++ (if (c.condition params.filter).isSome
            ∧ c.schema.supportsArgument c.resource.plural "condition" = false then
          [.unsupportedArgument c.resource.plural "condition"] else []) := by
  have hfilter : (Filter.conjunction clauses).isSome = true ↔ clauses ≠ [] := by
    rw [Option.isSome_iff_exists]
    simp only [Filter.conjunction_eq_some_iff, exists_and_left, exists_eq, and_true]
  have horderBy : ¬(order.isSome = true
      ∧ c.schema.supportsArgument c.resource.plural "orderBy" = false) := by
    intro h
    obtain ⟨hsome, hundeclared⟩ := h
    obtain ⟨value, rfl⟩ := Option.isSome_iff_exists.1 hsome
    cases (supportsArgument_of_orderBy horder).symm.trans hundeclared
  rw [given, unsupported_cons, unsupported_cons, unsupported_cons, if_neg horderBy]
  simp only [hfilter]
  exact congrArg _ (List.append_nil _)

theorem filter_unsupported (operation : String) (given : List (String × Option Json)) :
    (c.unsupported operation given).filter Omission.isUnsupportedArgument
      = c.unsupported operation given := by
  refine List.filter_eq_self.2 fun omission homission => ?_
  obtain ⟨entry, -, h⟩ := List.mem_filterMap.1 homission
  split at h
  · cases h
  · obtain ⟨_, -, rfl⟩ := Option.map_eq_some_iff.1 h
    rfl

/-- The compilation of a filter reports on keys, and not on arguments. -/
theorem unsupported_of_compile (filter : Table Json) :
    (Filter.compile c.configuration.filters c.resourceType filter).omissions.filter
      Omission.isUnsupportedArgument = [] := by
  refine List.filter_eq_nil_iff.2 fun omission homission => ?_
  obtain ⟨key, hkey⟩ := Filter.filterKey?_of_compile homission
  cases omission with
  | unsupportedArgument => cases hkey
  | _ => exact Bool.false_ne_true

/-- Selections report on fields. -/
theorem unsupported_of_select :
    c.select.omissions.filter Omission.isUnsupportedArgument = [] := by
  refine List.filter_eq_nil_iff.2 fun omission homission => ?_
  obtain ⟨names, hnames⟩ := Projector.field?_of_mem_select _ homission
  cases omission with
  | unsupportedArgument => cases hnames
  | _ => exact Bool.false_ne_true

-- ============================================================== variables

/-- The variables of a page are those of its two numbers and one for each value that is passed
on. -/
theorem Pages.exists_bindings_eq {envelope : Envelope} {order : Option Json} {first offset : Json}
    {bindings : List Variable} {selections : List Selection}
    (h : c.Pages params params.filter envelope (Filter.conjunction clauses) order first offset
      bindings selections) :
    ∃ firstVariable offsetVariable extra,
      bindings = firstVariable :: offsetVariable :: extra
        ∧ firstVariable.name.text = "first" ∧ offsetVariable.name.text = "offset"
        ∧ extra.map (fun declared => (declared.name.text, declared.value))
            = c.passed c.resource.plural (c.given params clauses order) := by
  obtain ⟨firstVariable, behind, rfl, hfirst, hbehind⟩ := List.map_eq_cons_iff.1 h.sent
  obtain ⟨offsetVariable, extra, rfl, hoffset, hextra⟩ := List.map_eq_cons_iff.1 hbehind
  exact ⟨firstVariable, offsetVariable, extra, rfl, congrArg Prod.fst hfirst,
    congrArg Prod.fst hoffset, hextra⟩

section

variable {order : Option Json} {extra : List Variable}
  (hextra : extra.map (fun declared => (declared.name.text, declared.value))
    = c.passed c.resource.plural (c.given params clauses order))

include hextra

theorem names_eq_keys_passed : extra.map (·.name.text)
    = Table.keys (c.passed c.resource.plural (c.given params clauses order)) := by
  rw [← hextra, Table.keys, List.map_map]
  rfl

theorem names_sublist : (extra.map (·.name.text)).Sublist optionalArguments := by
  rw [names_eq_keys_passed hextra]
  exact keys_passed_sublist

variable (horder : (c.orderBy params.sort).EndsWith order)

include horder

/-- A value is passed on for each argument that is declared and that there is something to send
through. -/
theorem mem_names_iff : argument ∈ extra.map (·.name.text)
    ↔ c.schema.supportsArgument c.resource.plural argument = true
      ∧ ∃ value, c.Offered params clauses argument value := by
  rw [names_eq_keys_passed hextra]
  constructor
  · intro h
    obtain ⟨entry, hentry, rfl⟩ := List.mem_map.1 h
    obtain ⟨hsupported, hoffered⟩ := (mem_passed_given_iff horder).1 hentry
    exact ⟨hsupported, entry.2, hoffered⟩
  · intro h
    obtain ⟨hsupported, value, hoffered⟩ := h
    have hentry := (mem_passed_given_iff horder).2 ⟨hsupported, hoffered⟩
    exact List.mem_map_of_mem (f := Prod.fst) hentry

theorem offered_of_mem {declared : Variable} (h : declared ∈ extra) :
    c.Offered params clauses declared.name.text declared.value := by
  have hentry : (declared.name.text, declared.value)
      ∈ c.passed c.resource.plural (c.given params clauses order) := by
    rw [← hextra]
    exact List.mem_map_of_mem h
  exact ((mem_passed_given_iff horder).1 hentry).2

end

-- ================================================================ the list

/-- A page of a list takes its arguments, and reports those that it cannot take. -/
theorem lists_of_getList {envelope : Envelope} {omissions : List Omission}
    (h : (c.getList params).Reports omissions envelope) :
    ∃ clauses definition root,
      (Filter.clauses c.configuration.filters c.resourceType params.filter).result = .ok clauses
        ∧ envelope.document.operations = [definition] ∧ definition.selections = [root]
        ∧ c.Lists params clauses definition root envelope.values omissions := by
  obtain ⟨compiled, order, first, offset, bindings, selections, hpage, htyped, homissions⟩ :=
    reports_getListBy h
  obtain ⟨clauses, hclauses, rfl⟩ := Filter.reports_compile_iff.1 hpage.filtered.reports
  obtain ⟨operation, nodes, totals, hoperation, -, -, rfl⟩ := hpage.finished
  obtain ⟨firstVariable, offsetVariable, extra, rfl, hfirst, hoffset, hextra⟩ :=
    hpage.exists_bindings_eq
  have hsub := names_sublist hextra
  -- The two variables of the page are not optional, so the optional ones are behind them.
  have hmem : ∀ declared ∈ firstVariable :: offsetVariable :: extra,
      declared.name.text ∈ optionalArguments → declared ∈ extra := by
    intro declared hdeclared hoptional
    rcases List.mem_cons.1 hdeclared with rfl | hdeclared
    · rw [hfirst] at hoptional
      exact absurd hoptional (by decide)
    rcases List.mem_cons.1 hdeclared with rfl | hdeclared
    · rw [hoffset] at hoptional
      exact absurd hoptional (by decide)
    exact hdeclared
  refine ⟨clauses, _, _, hclauses.endsWith, rfl, rfl, ?_⟩
  constructor
  case named => exact hoperation
  case bound =>
    show List.map _ _ = List.map _ (List.map _ _)
    rw [List.map_map]
    rfl
  case taken =>
    refine ⟨extra.map (·.name.text), ?_, hsub, fun _ _ => mem_names_iff hextra hpage.ordered⟩
    show List.map _ (List.map _ _) = _
    rw [List.map_map, List.map_cons, List.map_cons]
    exact congrArg₂ _ hfirst (congrArg₂ _ hoffset rfl)
  case typed =>
    intro definition hdefinition hoptional
    obtain ⟨declared, hdeclared, rfl⟩ := List.mem_map.1 hdefinition
    exact htyped declared (hmem declared hdeclared hoptional)
  case valued =>
    intro definition hdefinition hoptional
    obtain ⟨declared, hdeclared, rfl⟩ := List.mem_map.1 hdefinition
    have hoffered := offered_of_mem hextra hpage.ordered (hmem declared hdeclared hoptional)
    refine ⟨declared.value, ?_, hoffered, hoffered.substantial⟩
    refine (Table.find?_eq_some_iff ?_).2 (List.mem_map_of_mem hdeclared)
    -- The names of all variables are a part of five different ones.
    have hdistinct := ((hsub.cons_cons "offset").cons_cons "first").nodup (by decide)
    rw [← hfirst, ← hoffset] at hdistinct
    show (List.map _ (List.map _ _)).Nodup
    rw [List.map_map]
    exact hdistinct
  case reported =>
    rw [homissions, List.filter_append, List.filter_append, List.filter_append,
      unsupported_of_compile params.filter, unsupported_of_select, unsupported_of_orderBy]
    change _ ++ List.filter _ (c.unsupported c.resource.plural (c.given params clauses order)) = _
    rw [filter_unsupported, unsupported_given hpage.ordered, ← List.append_assoc]
    rfl

end Context

namespace Builder

/-- What is built for a list asks with the numbers of the page and with those of a filter, a
condition and an ordering that the operation declares and that there is something to send through,
each in a variable of its own name and of the declared type. What there is to send and cannot be is
reported once, and so is an ordering that is asked for where there is none. -/
theorem build_lists (builder : Builder) {verb resource : String} {c : Context}
    (hcontext : builder.context verb resource = .ok c) (hverb : c.verb = .getList)
    {params : Params} {envelope : Envelope} {omissions : List Omission}
    (hbuilt : (builder.build verb resource params).1 = .ok (envelope, omissions)) :
    ∃ clauses definition root,
      (Filter.clauses c.configuration.filters c.resourceType params.filter).result = .ok clauses
        ∧ envelope.document.operations = [definition] ∧ definition.selections = [root]
        ∧ c.Lists params clauses definition root envelope.values omissions := by
  obtain ⟨c', hcontext', hrequest, homissions⟩ := builder.build_eq_ok_iff.1 hbuilt
  cases hcontext.symm.trans hcontext'
  rw [request, hverb] at hrequest homissions
  apply Context.lists_of_getList
  rw [← homissions]
  exact Reported.EndsWith.reports hrequest

/-- A library whose books are listed with a condition and in an order, but not with a filter. -/
def shelves : Builder := .new {
    operations := [
      ⟨"book", [⟨"id", .nonNullOf (.named .scalar "Int"), none⟩], some (.named .object "Book")⟩,
      ⟨"books", [⟨"first", .named .scalar "Int", none⟩, ⟨"offset", .named .scalar "Int", none⟩,
        ⟨"condition", .named .inputObject "BookCondition", none⟩,
        ⟨"orderBy", .listOf (.named .enum "BooksOrderBy"), none⟩],
        some (.named .object "BooksConnection")⟩]
    types := [
      { kind := .object, name := "Book", inputFields := [], enumValues := []
        fields := [⟨"id", [], .nonNullOf (.named .scalar "Int")⟩,
          ⟨"title", [], .named .scalar "String"⟩] },
      { kind := .object, name := "BooksConnection", inputFields := [], enumValues := []
        fields := [⟨"nodes", [], .listOf (.named .object "Book")⟩] },
      { kind := .enum, name := "BooksOrderBy", fields := [], inputFields := []
        enumValues := ["NATURAL", "TITLE_ASC"] }] } {} []

/-- The context of a request for a list of books. -/
def shelvesContext : Context where
  schema := shelves.schema
  configuration := shelves.configuration
  strategies := shelves.strategies
  resource := ⟨"Book", "book", "books"⟩
  resourceType := {
    kind := .object, name := "Book", inputFields := [], enumValues := []
    fields := [⟨"id", [], .nonNullOf (.named .scalar "Int")⟩,
      ⟨"title", [], .named .scalar "String"⟩] }
  key := .direct ⟨"Book", "book", "books"⟩ "id" "Int"
  verb := .getList

theorem shelves_context : shelves.context "GET_LIST" "book" = .ok shelvesContext :=
  shelves.context_eq_ok ofName_book rfl rfl (Verb.parse_text .getList)

/-- Books can be listed with every filter that can be compiled. -/
theorem exists_shelved {sort : Option SortBy} {filter : Table Json} (hcompiled : ∃ compiled,
      (Filter.compile shelves.configuration.filters shelvesContext.resourceType filter).EndsWith
        compiled) :
    ∃ envelope omissions,
      (shelves.build "GET_LIST" "book" { sort, filter }).1 = .ok (envelope, omissions) := by
  have htype : shelves.schema.type? "Book" = some shelvesContext.resourceType := rfl
  have hshown : Table.find? shelves.strategies "Book" = none := rfl
  have hselected : ∃ selections, shelvesContext.select.EndsWith selections :=
    Projector.select_isOk htype hshown (by decide) (by decide) (by decide)
  have htyped : ∀ argument ∈ ["filter", "condition", "orderBy"],
      ∀ declared ∈ shelves.schema.argument? "books" argument,
        ∃ type, declared.type.toExpr = .ok type := by
    intro argument hargument declared hdeclared
    have hknown : declared.type = .named .inputObject "BookCondition"
        ∨ declared.type = .listOf (.named .enum "BooksOrderBy") := by
      revert declared argument
      decide
    rcases hknown with htype | htype
    · exact ⟨_, by rw [htype]; rfl⟩
    · exact ⟨_, by rw [htype]; rfl⟩
  obtain ⟨hsized, hplaced⟩ := @Context.pageNumber_isOk_of_none { sort, filter } rfl
  obtain ⟨envelope, hrequest⟩ := @Context.getListBy_isOk shelvesContext { sort, filter } filter rfl
    (by decide) hcompiled hselected hsized hplaced htyped
  exact ⟨envelope, _, shelves.build_eq_ok_iff.2 ⟨_, shelves_context, hrequest, rfl⟩⟩

/-- Books are asked for with a condition and in the order of their titles; the filter on the titles
cannot be sent, and is reported. -/
theorem build_lists_shelves :
    ∃ envelope omissions definition root,
      (shelves.build "GET_LIST" "book" {
          sort := some ⟨"title", "asc"⟩
          filter := [("title", .string "Dune"), ("$condition", .object [("id", .integer 3)])] }).1
          = .ok (envelope, omissions)
        ∧ envelope.document.operations = [definition] ∧ definition.selections = [root]
        ∧ root.arguments.map (·.1.text) = ["first", "offset", "condition", "orderBy"]
        ∧ omissions.filter Omission.isUnsupportedArgument
          = [.unsupportedArgument "books" "filter"] := by
  have hcompiled : (Filter.compile shelves.configuration.filters shelvesContext.resourceType
      [("title", .string "Dune"), ("$condition", .object [("id", .integer 3)])]).result
        = .ok (some (.object [("and", .array
          [Filter.clauseOf "title" "includesInsensitive" (.string "Dune")])])) := rfl
  obtain ⟨envelope, omissions, hbuilt⟩ := exists_shelved ⟨_, hcompiled⟩
  obtain ⟨clauses, definition, root, hclauses, hdefinition, hroot, hlists⟩ :=
    build_lists shelves shelves_context rfl hbuilt
  have hown : clauses = [Filter.clauseOf "title" "includesInsensitive" (.string "Dune")] := by
    cases hclauses
    rfl
  refine ⟨envelope, omissions, definition, root, hbuilt, hdefinition, hroot, ?_, ?_⟩
  · obtain ⟨others, harguments, hsub, htaken⟩ := hlists.taken
    have hfilter : "filter" ∉ others := by
      intro h
      exact absurd ((htaken "filter" (by decide)).1 h).1 (by decide)
    have hcondition : "condition" ∈ others :=
      (htaken "condition" (by decide)).2 ⟨rfl, _, .condition rfl rfl⟩
    have hsorted : "orderBy" ∈ others :=
      (htaken "orderBy" (by decide)).2 ⟨rfl, _, .sorted rfl rfl (by decide +kernel)⟩
    -- Of all that the optional arguments could be, only these two are left.
    have hknown := List.mem_sublists.2 hsub
    have hothers : ∀ others ∈ Context.optionalArguments.sublists, "filter" ∉ others →
        "condition" ∈ others → "orderBy" ∈ others → others = ["condition", "orderBy"] := by decide
    rw [harguments, hothers others hknown hfilter hcondition hsorted]
  · rw [hlists.reported, hown]
    rfl

/-- But a condition is sent as it is given, be it an empty conjunction. -/
theorem sends_emptyCondition_shelves :
    ∃ envelope omissions,
      (shelves.build "GET_LIST" "book" {
          filter := [("$condition", .object [("and", .array [])])] }).1 = .ok (envelope, omissions)
        ∧ envelope.Sends "condition" (.object [("and", .array [])]) := by
  have hcompiled : (Filter.compile shelves.configuration.filters shelvesContext.resourceType
      [("$condition", .object [("and", .array [])])]).result = .ok none := rfl
  obtain ⟨envelope, omissions, hbuilt⟩ := @exists_shelved none _ ⟨_, hcompiled⟩
  refine ⟨envelope, omissions, hbuilt, ?_⟩
  obtain ⟨c, hcontext, hrequest, -⟩ := shelves.build_eq_ok_iff.1 hbuilt
  cases shelves_context.symm.trans hcontext
  obtain ⟨compiled, order, first, offset, bindings, selections, hpage⟩ :=
    Context.getListBy_eq_ok hrequest
  exact (hpage.sends_iff (List.mem_cons_of_mem _ List.mem_cons_self)).2 ⟨rfl, rfl⟩

end Builder

end CrudGraph
