/-
Requests for related records. The relation is an entry of the filter, the encoded identifier under
the field that relates, and the caller's own entries come on top of it. That is one table, in which
giving a name again replaces its value: a caller that names the field as well replaces the relation.

So there are two cases (`getManyReference_relates_iff`). Where the caller's filter does not name the
field, the clause of the relation is sent, in front of the clauses of the filter. Where it does,
nothing is sent but clauses of the filter, and that may be none at all: records of all parents are
asked for.
-/
import CrudGraph.Proofs.Build
import CrudGraph.Proofs.Clauses
import CrudGraph.Proofs.Page
import CrudGraph.Proofs.Selection.Leaves

namespace CrudGraph

-- ============================================================= identifiers

namespace Identifier

/-- A text or a number is encoded as one of the two, where no coercion steps in. -/
theorem isTextOrNumber_encode {identifiers : Identifiers} {strategies : Strategies}
    {scalar : String} {raw : Json} (h : raw.isTextOrNumber = true)
    (hcoercion : strategies.coerce? scalar raw = none) :
    (encode identifiers strategies scalar raw).isTextOrNumber = true := by
  rw [encode, hcoercion, Option.getD_none]
  unfold encodePlain
  split
  · exact h
  · split
    · next s =>
      cases ofDigits? s with
      | none => rfl
      | some n => rfl
    · exact h

end Identifier

namespace Context

variable (c : Context)

-- ================================================================= relations

/-- The value that records related to an identified one have in the field that relates them. -/
def related (field : Field) (id : Json) : Json :=
  match field.type.baseName with
  | some scalar => c.encode scalar id
  | none => id

variable {c}

theorem isTextOrNumber_related {field : Field} {id : Json} (h : id.isTextOrNumber = true)
    (hcoercion : ∀ scalar ∈ field.type.baseName, c.strategies.coerce? scalar id = none) :
    (c.related field id).isTextOrNumber = true := by
  unfold related
  split
  · next scalar hscalar => exact Identifier.isTextOrNumber_encode h (hcoercion scalar hscalar)
  · exact h

variable (c) in
/-- The filter of a relation has the field that relates first, with the caller's value where the
caller names it and with one value elsewhere, which is the related one if the type has the field. -/
theorem exists_relationFilter_eq (target : String) (id : Json) :
    ∃ value, (∀ field ∈ c.resourceType.field? target, value = c.related field id)
      ∧ ∀ filter, c.relationFilter target id filter
        = (target, (Table.find? (Table.ofList filter) target).getD value)
          :: Table.erase (Table.ofList filter) target := by
  obtain ⟨value, hvalue, hmerged⟩ : ∃ value,
      (∀ field ∈ c.resourceType.field? target, value = c.related field id)
        ∧ ∀ filter,
          c.relationFilter target id filter = Table.ofList ((target, value) :: filter) := by
    refine ⟨_, fun field hfield => ?_, fun filter => rfl⟩
    rw [Option.mem_def.1 hfield]
    rfl
  refine ⟨value, hvalue, fun filter => ?_⟩
  rw [hmerged, Table.ofList_cons]

theorem relationFilter_eq {target : String} {field : Field}
    (hfield : c.resourceType.field? target = some field) (id : Json) (filter : Table Json) :
    c.relationFilter target id filter
      = (target, (Table.find? (Table.ofList filter) target).getD (c.related field id))
        :: Table.erase (Table.ofList filter) target := by
  obtain ⟨value, hvalue, hfilter⟩ := c.exists_relationFilter_eq target id
  rw [hfilter, hvalue field hfield]

/-- Related records are asked for by a page of those that the filter of the relation leaves. -/
theorem getListBy_of_getManyReference {params : Params} {envelope : Envelope}
    {target : String} {id : Json} (htarget : params.target = some target)
    (hid : params.id = some id) (h : (c.getManyReference params).EndsWith envelope) :
    (c.getListBy params (c.relationFilter target id params.filter)).EndsWith envelope := by
  unfold getManyReference at h
  split at h
  · cases h
  · next found hfound =>
    obtain ⟨raw, hraw, h⟩ := h.of_lift_bind
    obtain ⟨hsome, -⟩ := Option.filter_eq_some_iff.1 hfound
    cases htarget.symm.trans hsome
    cases hid.symm.trans ((c.settles_requireId params).of_eq_ok hraw).1
    exact h

/-- They can be asked for where that page can be. -/
theorem getManyReference_isOk {params : Params} {target : String} {id : Json}
    (htarget : params.target = some target) (hsome : target.isEmpty = false)
    (hid : params.id = some id) (hgiven : id.isNull = false)
    (h : ∃ envelope,
      (c.getListBy params (c.relationFilter target id params.filter)).EndsWith envelope) :
    ∃ envelope, (c.getManyReference params).EndsWith envelope := by
  have hfound : params.target.filter (fun target => !target.isEmpty) = some target := by
    rw [htarget, Option.filter_some, hsome]
    rfl
  have hraw : c.requireId params = .ok id := by
    rw [requireId, hid, Option.filter_some, hgiven]
    rfl
  unfold getManyReference
  rw [hfound]
  exact Reported.exists_lift_bind hraw h

variable (c) in
/-- The relation holds in a request: a filter is sent, and one of its clauses is that of the field
that relates with the related value. -/
def Relates (envelope : Envelope) (target : String) (field : Field) (id : Json) : Prop :=
  ∃ spec clauses,
    Filter.defaultSpec c.configuration.filters field (c.related field id) = .ok spec
      ∧ envelope.Sends "filter" (.object [("and", .array clauses)])
      ∧ Filter.clauseOf target spec.operator spec.value ∈ clauses

variable (c) in
/-- A filter says itself that the relation holds: one of its entries has the clause of the
relation. -/
def Restates (filter : Table Json) (target : String) (field : Field) (id : Json) : Prop :=
  ∃ spec, Filter.defaultSpec c.configuration.filters field (c.related field id) = .ok spec
    ∧ ∃ entry ∈ filter,
      (Filter.compileEntry c.configuration.filters c.resourceType entry.1 entry.2).result
        = .ok (some (Filter.clauseOf target spec.operator spec.value))

variable {params : Params} {envelope : Envelope} {target : String} {id : Json} {field : Field}

/-- Where the caller's filter does not name the field, the relation is sent in front of the clauses
of the filter. -/
theorem relates_of_free (hplain : id.isTextOrNumber = true)
    (hfield : c.resourceType.field? target = some field)
    (hcondition : target ≠ c.configuration.filters.conditionKey)
    (hcoercion : ∀ scalar ∈ field.type.baseName, c.strategies.coerce? scalar id = none)
    (hfree : Table.find? params.filter target = none) {clauses : List Json}
    (h : (Filter.clauses c.configuration.filters c.resourceType
      (c.relationFilter target id params.filter)).result = .ok clauses) :
    ∃ spec own,
      Filter.defaultSpec c.configuration.filters field (c.related field id) = .ok spec
        ∧ (Filter.clauses c.configuration.filters c.resourceType
          (Table.ofList params.filter)).result = .ok own
        ∧ clauses = Filter.clauseOf target spec.operator spec.value :: own := by
  have hown : Table.find? (Table.ofList params.filter) target = none :=
    (Table.find?_ofList_eq_none_iff _ _).2 hfree
  rw [relationFilter_eq hfield, hown, Option.getD_none, Table.erase_eq_self hown] at h
  obtain ⟨first, own, hfirst, hown, rfl⟩ := Filter.clauses_cons_eq_ok_iff.1 h
  obtain ⟨spec, hspec, rfl⟩ := Filter.compileEntry_plain hcondition hfield
    (isTextOrNumber_related hplain hcoercion) hfirst
  exact ⟨spec, own, hspec, hown, rfl⟩

/-- Where the caller's filter names the field, the entries that are compiled are its own. -/
theorem mem_relationFilter_iff (hfield : c.resourceType.field? target = some field)
    (hnamed : Table.find? params.filter target ≠ none) (entry : String × Json) :
    entry ∈ c.relationFilter target id params.filter ↔ entry ∈ Table.ofList params.filter := by
  cases hgiven : Table.find? (Table.ofList params.filter) target with
  | none => exact absurd ((Table.find?_ofList_eq_none_iff _ _).1 hgiven) hnamed
  | some given =>
      have hmem := Table.mem_of_find? hgiven
      rw [relationFilter_eq hfield, hgiven, Option.getD_some, List.mem_cons, Table.erase,
        List.mem_filter]
      constructor
      · rintro (rfl | hentry)
        · exact hmem
        · exact hentry.1
      · intro hentry
        by_cases hkey : entry.1 = target
        · left
          have hsome := (Table.find?_eq_some_iff (Table.nodup_keys_ofList _)).2 hentry
          rw [hkey] at hsome
          cases hgiven.symm.trans hsome
          exact Prod.ext hkey rfl
        · exact .inr ⟨hentry, decide_eq_true hkey⟩

/-- A request for related records holds the relation exactly where the caller's filter does not name
the field, or says the same itself. -/
theorem getManyReference_relates_iff (htarget : params.target = some target)
    (hid : params.id = some id) (hplain : id.isTextOrNumber = true)
    (hfield : c.resourceType.field? target = some field)
    (hcondition : target ≠ c.configuration.filters.conditionKey)
    (hcoercion : ∀ scalar ∈ field.type.baseName, c.strategies.coerce? scalar id = none)
    (hfilter : c.schema.supportsArgument c.resource.plural "filter" = true)
    (h : (c.getManyReference params).EndsWith envelope) :
    (c.Relates envelope target field id
        ↔ Table.find? params.filter target = none
          ∨ c.Restates (Table.ofList params.filter) target field id)
      ∧ (Table.find? params.filter target = none → ∃ spec own,
        Filter.defaultSpec c.configuration.filters field (c.related field id) = .ok spec
          ∧ (Filter.clauses c.configuration.filters c.resourceType
            (Table.ofList params.filter)).result = .ok own
          ∧ envelope.Sends "filter" (.object [("and", .array
            (Filter.clauseOf target spec.operator spec.value :: own))])) := by
  obtain ⟨compiled, order, first, offset, bindings, selections, hpage⟩ :=
    getListBy_eq_ok (getListBy_of_getManyReference htarget hid h)
  obtain ⟨clauses, hclauses, hsent⟩ := Filter.compile_eq_ok hpage.filtered
  -- what is sent as the filter, and what it means for the clauses of it
  have hsends : ∀ sent, envelope.Sends "filter" sent
      ↔ clauses ≠ [] ∧ sent = .object [("and", .array clauses)] := by
    intro sent
    rw [hpage.sends_iff List.mem_cons_self, hsent, and_iff_right hfilter]
  have hrelates : c.Relates envelope target field id ↔ ∃ spec,
      Filter.defaultSpec c.configuration.filters field (c.related field id) = .ok spec
        ∧ Filter.clauseOf target spec.operator spec.value ∈ clauses := by
    constructor
    · intro h
      obtain ⟨spec, sent, hspec, hsent, hmem⟩ := h
      cases ((hsends _).1 hsent).2
      exact ⟨spec, hspec, hmem⟩
    · intro h
      obtain ⟨spec, hspec, hmem⟩ := h
      exact ⟨spec, clauses, hspec, (hsends _).2 ⟨List.ne_nil_of_mem hmem, rfl⟩, hmem⟩
  -- The relation is in front of a filter that leaves it free; otherwise the entry has replaced it.
  by_cases hfree : Table.find? params.filter target = none
  · obtain ⟨spec, own, hspec, hown, rfl⟩ :=
      relates_of_free hplain hfield hcondition hcoercion hfree hclauses
    refine ⟨iff_of_true (hrelates.2 ⟨spec, hspec, List.mem_cons_self⟩) (.inl hfree), fun _ => ?_⟩
    exact ⟨spec, own, hspec, hown, (hsends _).2 ⟨List.cons_ne_nil _ _, rfl⟩⟩
  · refine ⟨?_, fun h => absurd h hfree⟩
    rw [hrelates, or_iff_right hfree]
    refine exists_congr fun spec => and_congr_right fun _ => ?_
    rw [Filter.mem_clauses_iff hclauses]
    refine exists_congr fun entry => and_congr_left fun _ => ?_
    exact mem_relationFilter_iff hfield hfree entry

end Context

namespace Builder

/-- What is built for related records holds the relation exactly where the caller's filter does not
name the field that relates, or says the same as the relation. Without an entry for that field the
filter only adds to the relation: its clauses are sent behind that of the relation. -/
theorem build_relates_iff (builder : Builder) {verb resource : String} {c : Context}
    (hcontext : builder.context verb resource = .ok c) (hverb : c.verb = .getManyReference)
    {params : Params} {target : String} {id : Json} {field : Field}
    (htarget : params.target = some target) (hid : params.id = some id)
    (hplain : id.isTextOrNumber = true) (hfield : c.resourceType.field? target = some field)
    (hcondition : target ≠ c.configuration.filters.conditionKey)
    (hcoercion : ∀ scalar ∈ field.type.baseName, c.strategies.coerce? scalar id = none)
    (hfilter : c.schema.supportsArgument c.resource.plural "filter" = true)
    {envelope : Envelope} {omissions : List Omission}
    (hbuilt : (builder.build verb resource params).1 = .ok (envelope, omissions)) :
    (c.Relates envelope target field id
        ↔ Table.find? params.filter target = none
          ∨ c.Restates (Table.ofList params.filter) target field id)
      ∧ (Table.find? params.filter target = none → ∃ spec own,
        Filter.defaultSpec c.configuration.filters field (c.related field id) = .ok spec
          ∧ (Filter.clauses c.configuration.filters c.resourceType
            (Table.ofList params.filter)).result = .ok own
          ∧ envelope.Sends "filter" (.object [("and", .array
            (Filter.clauseOf target spec.operator spec.value :: own))])) := by
  obtain ⟨c', hcontext', hrequest, -⟩ := builder.build_eq_ok_iff.1 hbuilt
  cases hcontext.symm.trans hcontext'
  rw [request, hverb] at hrequest
  exact Context.getManyReference_relates_iff htarget hid hplain hfield hcondition hcoercion
    hfilter hrequest

-- ============================================================== at work

/-- A catalogue whose books are listed with a filter; every book has an author. -/
def catalogue : Builder := .new {
    operations := [
      ⟨"book", [⟨"id", .nonNullOf (.named .scalar "Int"), none⟩], some (.named .object "Book")⟩,
      ⟨"books", [⟨"first", .named .scalar "Int", none⟩, ⟨"offset", .named .scalar "Int", none⟩,
        ⟨"filter", .named .inputObject "BookFilter", none⟩],
        some (.named .object "BooksConnection")⟩]
    types := [
      { kind := .object, name := "Book", inputFields := [], enumValues := []
        fields := [
          ⟨"id", [], .nonNullOf (.named .scalar "Int")⟩,
          ⟨"authorId", [], .named .scalar "Int"⟩,
          ⟨"title", [], .named .scalar "String"⟩] },
      { kind := .object, name := "BooksConnection", inputFields := [], enumValues := []
        fields := [
          ⟨"nodes", [], .listOf (.named .object "Book")⟩,
          ⟨"totalCount", [], .nonNullOf (.named .scalar "Int")⟩] }] } {} []

/-- The books of an author, with those filters of its own that a caller has. -/
def byAuthor (filter : Table Json) : Params :=
  { id := some (.string "3"), target := some "authorId", filter }

/-- The context of a request for related books. -/
def catalogueContext : Context where
  schema := catalogue.schema
  configuration := catalogue.configuration
  strategies := catalogue.strategies
  resource := ⟨"Book", "book", "books"⟩
  resourceType := {
    kind := .object, name := "Book", inputFields := [], enumValues := []
    fields := [
      ⟨"id", [], .nonNullOf (.named .scalar "Int")⟩,
      ⟨"authorId", [], .named .scalar "Int"⟩,
      ⟨"title", [], .named .scalar "String"⟩] }
  key := .direct ⟨"Book", "book", "books"⟩ "id" "Int"
  verb := .getManyReference

theorem catalogue_context :
    catalogue.context "GET_MANY_REFERENCE" "book" = .ok catalogueContext :=
  catalogue.context_eq_ok ofName_book rfl rfl (Verb.parse_text .getManyReference)

/-- Related books can be asked for with every filter that can be compiled. -/
theorem exists_related {params : Params} {target : String} {id : Json}
    (hfirst : params.pagination = none) (htarget : params.target = some target)
    (hsome : target.isEmpty = false) (hid : params.id = some id) (hgiven : id.isNull = false)
    (hcompiled : ∃ compiled,
      (Filter.compile catalogue.configuration.filters catalogueContext.resourceType
        (catalogueContext.relationFilter target id params.filter)).EndsWith compiled) :
    ∃ envelope omissions,
      (catalogue.build "GET_MANY_REFERENCE" "book" params).1 = .ok (envelope, omissions) := by
  have htype : catalogue.schema.type? "Book" = some catalogueContext.resourceType := rfl
  have hshown : Table.find? catalogue.strategies "Book" = none := rfl
  have hselected : ∃ selections, catalogueContext.select.EndsWith selections :=
    Projector.select_isOk htype hshown (by decide) (by decide) (by decide)
  obtain ⟨hsized, hplaced⟩ := Context.pageNumber_isOk_of_none hfirst
  have htyped : ∀ argument ∈ ["filter", "condition", "orderBy"],
      ∀ declared ∈ catalogue.schema.argument? "books" argument,
        ∃ type, declared.type.toExpr = .ok type := by
    intro argument hargument declared hdeclared
    have hfilter : argument = "filter" ∧ declared.type = .named .inputObject "BookFilter" := by
      revert declared argument
      decide
    exact ⟨_, by rw [hfilter.2]; rfl⟩
  have hpage := @Context.getListBy_isOk catalogueContext params _ rfl (by decide) hcompiled
    hselected hsized hplaced htyped
  obtain ⟨envelope, hrequest⟩ := Context.getManyReference_isOk htarget hsome hid hgiven hpage
  exact ⟨envelope, _, catalogue.build_eq_ok_iff.2 ⟨_, catalogue_context, hrequest, rfl⟩⟩

/-- So can the books of an author. -/
theorem exists_byAuthor {filter : Table Json} (hcompiled : ∃ compiled,
      (Filter.compile catalogue.configuration.filters catalogueContext.resourceType
        (catalogueContext.relationFilter "authorId" (.string "3") filter)).EndsWith compiled) :
    ∃ envelope omissions,
      (catalogue.build "GET_MANY_REFERENCE" "book" (byAuthor filter)).1
        = .ok (envelope, omissions) :=
  exists_related rfl rfl (by decide) rfl rfl hcompiled

/-- The books of an author are asked for with the author in front of the title. -/
theorem build_relates_iff_catalogue :
    ∃ envelope omissions,
      (catalogue.build "GET_MANY_REFERENCE" "book"
          (byAuthor [("title", .string "Dune")])).1 = .ok (envelope, omissions)
        ∧ catalogueContext.Relates envelope "authorId" ⟨"authorId", [], .named .scalar "Int"⟩
          (.string "3")
        ∧ envelope.Sends "filter" (.object [("and", .array [
            Filter.clauseOf "authorId" "equalTo" (.integer 3),
            Filter.clauseOf "title" "includesInsensitive" (.string "Dune")])]) := by
  obtain ⟨compiled, hcompiled, -⟩ : ∃ compiled,
      (Filter.compile catalogue.configuration.filters catalogueContext.resourceType
        (catalogueContext.relationFilter "authorId" (.string "3")
          [("title", .string "Dune")])).result = .ok compiled ∧ compiled.isSome = true :=
    ⟨_, rfl, rfl⟩
  obtain ⟨envelope, omissions, hbuilt⟩ := exists_byAuthor ⟨compiled, hcompiled⟩
  have hcoercion : ∀ scalar ∈ (TypeRef.named .scalar "Int").baseName,
      catalogue.strategies.coerce? scalar (.string "3") = none := by
    intro scalar h
    cases h
    rfl
  have hfield : catalogueContext.resourceType.field? "authorId"
      = some ⟨"authorId", [], .named .scalar "Int"⟩ := rfl
  obtain ⟨hrelates, hsends⟩ := build_relates_iff catalogue catalogue_context rfl rfl rfl rfl hfield
    (by decide) hcoercion rfl hbuilt
  obtain ⟨spec, own, hspec, hown, hsends⟩ := hsends rfl
  have hclause : ((Filter.defaultSpec {} ⟨"authorId", [], .named .scalar "Int"⟩ (.integer 3)).map
      fun spec => (spec.operator, spec.value)).toOption = some ("equalTo", .integer 3) := rfl
  have hrelated : catalogueContext.related ⟨"authorId", [], .named .scalar "Int"⟩ (.string "3")
      = .integer 3 := rfl
  have hownClauses : (Filter.clauses {} catalogueContext.resourceType
      [("title", .string "Dune")]).result
        = .ok [Filter.clauseOf "title" "includesInsensitive" (.string "Dune")] := rfl
  rw [hrelated] at hspec
  cases hown.symm.trans hownClauses
  obtain ⟨known, hknown, hclause⟩ := exists_eq_ok_of_map hclause
  cases hspec.symm.trans hknown
  obtain ⟨hoperator, hvalue⟩ := Prod.mk.inj hclause
  rw [hoperator, hvalue] at hsends
  exact ⟨envelope, omissions, hbuilt, hrelates.2 (.inl rfl), hsends⟩

/-- But a filter that has no value for the author takes the author away: books of all authors are
asked for. -/
theorem not_relates_catalogue :
    ∃ envelope omissions,
      (catalogue.build "GET_MANY_REFERENCE" "book" (byAuthor [("authorId", .null)])).1
          = .ok (envelope, omissions)
        ∧ ¬∃ sent, envelope.Sends "filter" sent := by
  have hnothing : (Filter.compile catalogue.configuration.filters catalogueContext.resourceType
      (catalogueContext.relationFilter "authorId" (.string "3") [("authorId", .null)])).result
        = .ok none := rfl
  obtain ⟨envelope, omissions, hbuilt⟩ := exists_byAuthor ⟨none, hnothing⟩
  refine ⟨envelope, omissions, hbuilt, ?_⟩
  rintro ⟨sent, hsent⟩
  obtain ⟨c, hcontext, hrequest, -⟩ := catalogue.build_eq_ok_iff.1 hbuilt
  cases catalogue_context.symm.trans hcontext
  obtain ⟨compiled, order, first, offset, bindings, selections, hpage⟩ :=
    Context.getListBy_eq_ok (Context.getListBy_of_getManyReference rfl rfl hrequest)
  cases hnothing.symm.trans hpage.filtered
  cases ((hpage.sends_iff List.mem_cons_self).1 hsent).2

end Builder

end CrudGraph
