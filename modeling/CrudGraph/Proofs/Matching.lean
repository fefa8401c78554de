/-
How a relation is matched. The value of a relation is an identifier, and two identifiers are the
same or they are not. But it goes into the filter as one more entry, and an entry without an
operator is compared as suits what a person types in: a text in part, a word by its beginning, and
only anything else as a whole.

# What is shown

`Filter.Compares` says how a field is compared with a value that comes without an operator, and
`Filter.MatchesExactly` where this is equality with the value: on a field of text the operator for
texts has to be equality itself, and on one of words the operator for words, with nothing put behind
the value. The clause of a relation is that of equality just there (`Context.related_matches_iff`).
By default it is there for numbers and for every other scalar but two; but on a field of text the
records are asked for that have the identifier anywhere in theirs (`Builder.not_matches_catalogue`).

It is otherwise where many records are asked for by their identifiers: there the operator does not
depend on the scalar at all (`Context.getMany`).

# How

The clause that is sent for a relation is the default of its field, which is known already
(`Context.getManyReference_relates_iff`). What is left is to read this default: it is a choice of
three by the scalar of the field (`Filter.compares_of_defaultSpec`), and each of the three clauses
is compared with that of equality by its operator and its value (`Filter.Compares.exact_iff`).
-/
import CrudGraph.Proofs.Relation

namespace CrudGraph

-- ============================================================== comparisons

namespace Filter

variable {operators : FilterOperators} {field : Field} {value : Json}

/-- The values of a field are of one of these scalars, on their own or in lists. -/
def IsScalarOf (field : Field) (scalars : List String) : Prop :=
  field.type.base.kind = .scalar ∧ field.type.baseText ∈ scalars

/-- The operator and the value that a field is compared by, with a value that has no operator. -/
inductive Compares (operators : FilterOperators) (field : Field) (value : Json) :
    String → Json → Prop
  /-- Texts are compared in part. -/
  | text (text : IsScalarOf field operators.stringScalars) :
      Compares operators field value operators.stringOperator value
  /-- Words are compared by how they begin. -/
  | words (other : ¬IsScalarOf field operators.stringScalars)
      (words : IsScalarOf field operators.fullTextScalars) :
      Compares operators field value operators.fullTextOperator
        (.string (value.token ++ operators.fullTextWildcard))
  /-- All other values are compared as they are. -/
  | whole (other : ¬IsScalarOf field operators.stringScalars)
      (another : ¬IsScalarOf field operators.fullTextScalars) :
      Compares operators field value operators.equalityOperator value

/-- A field that is compared by default has one of these comparisons. -/
theorem compares_of_defaultSpec {spec : FilterSpec}
    (h : defaultSpec operators field value = .ok spec) :
    Compares operators field value spec.operator spec.value := by
  have hscalar : ∀ scalars : List String,
      (decide (field.type.base.kind = .scalar) && scalars.contains field.type.baseText) = true
        ↔ IsScalarOf field scalars := by
    intro scalars
    rw [Bool.and_eq_true, decide_eq_true_iff, List.contains_iff_mem]
    rfl
  unfold defaultSpec at h
  dsimp only at h
  split at h
  · cases h
  · split at h
    · next htext =>
      cases h
      exact .text ((hscalar _).1 htext)
    · next hother =>
      split at h
      · next hwords =>
        cases h
        exact .words (mt (hscalar _).2 hother) ((hscalar _).1 hwords)
      · next hanother =>
        cases h
        exact .whole (mt (hscalar _).2 hother) (mt (hscalar _).2 hanother)

/-- Where a field is compared by equality with the value itself. -/
structure MatchesExactly (operators : FilterOperators) (field : Field) (value : Json) : Prop where
  text : IsScalarOf field operators.stringScalars →
    operators.stringOperator = operators.equalityOperator
  /-- The value that words are compared with is always a text. -/
  words : ¬IsScalarOf field operators.stringScalars → IsScalarOf field operators.fullTextScalars →
    operators.fullTextOperator = operators.equalityOperator
      ∧ operators.fullTextWildcard = "" ∧ ∃ text, value = .string text

/-- Two clauses of a field are the same where they compare it in the same way. -/
theorem clauseOf_eq_iff {target operator other : String} {another : Json} :
    clauseOf target operator value = clauseOf target other another
      ↔ operator = other ∧ value = another := by
  simp [clauseOf]

/-- A text with something behind it is the text where there is nothing behind it. -/
theorem string_token_append_eq_iff {wildcard : String} :
    Json.string (value.token ++ wildcard) = value
      ↔ wildcard = "" ∧ ∃ text, value = .string text := by
  constructor
  · intro h
    have htoken : value.token ++ wildcard = value.token ++ "" := by
      rw [String.append_empty]
      exact congrArg Json.token h
    exact ⟨(String.append_right_inj _).1 htoken, _, h.symm⟩
  · rintro ⟨rfl, text, rfl⟩
    exact congrArg Json.string String.append_empty

/-- The clause of a comparison is that of equality just there. -/
theorem Compares.exact_iff {target operator : String} {compared : Json}
    (h : Compares operators field value operator compared) :
    clauseOf target operator compared = clauseOf target operators.equalityOperator value
      ↔ MatchesExactly operators field value := by
  rw [clauseOf_eq_iff]
  cases h with
  | text htext =>
    constructor
    · exact fun h => ⟨fun _ => h.1, fun hother => absurd htext hother⟩
    · exact fun h => ⟨h.text htext, rfl⟩
  | words hother hwords =>
    rw [string_token_append_eq_iff]
    constructor
    · exact fun h => ⟨fun htext => absurd htext hother, fun _ _ => h⟩
    · exact fun h => h.words hother hwords
  | whole hother hanother =>
    constructor
    · exact fun _ => ⟨fun htext => absurd htext hother, fun _ hwords => absurd hwords hanother⟩
    · exact fun _ => ⟨rfl, rfl⟩

end Filter

namespace Context

variable {c : Context} {params : Params} {envelope : Envelope} {target : String} {id : Json}
  {field : Field}

/-- Where the caller's filter does not name the field that relates, its clause is sent first, and
it is that of equality just where the field is compared so. -/
theorem related_matches_iff (htarget : params.target = some target)
    (hid : params.id = some id) (hplain : id.isTextOrNumber = true)
    (hfield : c.resourceType.field? target = some field)
    (hcondition : target ≠ c.configuration.filters.conditionKey)
    (hcoercion : ∀ scalar ∈ field.type.baseName, c.strategies.coerce? scalar id = none)
    (hfilter : c.schema.supportsArgument c.resource.plural "filter" = true)
    (hfree : Table.find? params.filter target = none)
    (h : (c.getManyReference params).EndsWith envelope) :
    ∃ operator compared own,
      Filter.Compares c.configuration.filters field (c.related field id) operator compared
        ∧ envelope.Sends "filter" (.object [("and", .array
          (Filter.clauseOf target operator compared :: own))])
        ∧ (Filter.clauseOf target operator compared
            = Filter.clauseOf target c.configuration.filters.equalityOperator (c.related field id)
          ↔ Filter.MatchesExactly c.configuration.filters field (c.related field id)) := by
  obtain ⟨spec, own, hspec, -, hsends⟩ := (getManyReference_relates_iff htarget hid hplain hfield
    hcondition hcoercion hfilter h).2 hfree
  have hcompares := Filter.compares_of_defaultSpec hspec
  exact ⟨spec.operator, spec.value, own, hcompares, hsends, hcompares.exact_iff⟩

end Context

namespace Builder

/-- What is built for the records related to one sends the clause of the relation first, with the
operator that the field is compared by where none is given. It is the clause of equality with the
identifier just where that operator is equality and nothing is put behind the identifier, as on
numbers; on texts and on words it is another one, unless the configuration says otherwise. -/
theorem build_matches_iff (builder : Builder) {verb resource : String} {c : Context}
    (hcontext : builder.context verb resource = .ok c) (hverb : c.verb = .getManyReference)
    {params : Params} {target : String} {id : Json} {field : Field}
    (htarget : params.target = some target) (hid : params.id = some id)
    (hplain : id.isTextOrNumber = true) (hfield : c.resourceType.field? target = some field)
    (hcondition : target ≠ c.configuration.filters.conditionKey)
    (hcoercion : ∀ scalar ∈ field.type.baseName, c.strategies.coerce? scalar id = none)
    (hfilter : c.schema.supportsArgument c.resource.plural "filter" = true)
    (hfree : Table.find? params.filter target = none)
    {envelope : Envelope} {omissions : List Omission}
    (hbuilt : (builder.build verb resource params).1 = .ok (envelope, omissions)) :
    ∃ operator compared own,
      Filter.Compares c.configuration.filters field (c.related field id) operator compared
        ∧ envelope.Sends "filter" (.object [("and", .array
          (Filter.clauseOf target operator compared :: own))])
        ∧ (Filter.clauseOf target operator compared
            = Filter.clauseOf target c.configuration.filters.equalityOperator (c.related field id)
          ↔ Filter.MatchesExactly c.configuration.filters field (c.related field id)) := by
  have hrequest := (builder.reports_of_build hcontext hbuilt).endsWith
  rw [request, hverb] at hrequest
  exact Context.related_matches_iff htarget hid hplain hfield hcondition hcoercion hfilter hfree
    hrequest

/-- The books of the author 3 are those whose author is 3. -/
theorem build_matches_iff_catalogue :
    ∃ envelope omissions own,
      (catalogue.build "GET_MANY_REFERENCE" "book" (byAuthor [])).1 = .ok (envelope, omissions)
        ∧ envelope.Sends "filter" (.object [("and", .array
          (Filter.clauseOf "authorId" "equalTo" (.integer 3) :: own))]) := by
  have hcompiled : (Filter.compile catalogue.configuration.filters catalogueContext.resourceType
      (catalogueContext.relationFilter "authorId" (.string "3") [])).result
        = .ok (some (.object [("and", .array
          [Filter.clauseOf "authorId" "equalTo" (.integer 3)])])) := rfl
  obtain ⟨envelope, omissions, hbuilt⟩ := exists_byAuthor ⟨_, hcompiled⟩
  have hcoercion : ∀ scalar ∈ (TypeRef.named .scalar "Int").baseName,
      catalogue.strategies.coerce? scalar (.string "3") = none := by
    intro scalar h
    cases h
    rfl
  have hfield : catalogueContext.resourceType.field? "authorId"
      = some ⟨"authorId", [], .named .scalar "Int"⟩ := rfl
  obtain ⟨operator, compared, own, hcompares, hsends, hexact⟩ :=
    build_matches_iff catalogue catalogue_context rfl rfl rfl rfl hfield (by decide) hcoercion rfl
      rfl hbuilt
  have hmatches : Filter.MatchesExactly catalogueContext.configuration.filters
      ⟨"authorId", [], .named .scalar "Int"⟩
      (catalogueContext.related ⟨"authorId", [], .named .scalar "Int"⟩ (.string "3")) := by
    refine ⟨fun htext => absurd htext.2 (by decide), fun _ hwords => absurd hwords.2 (by decide)⟩
  rw [hexact.2 hmatches] at hsends
  exact ⟨envelope, omissions, own, hbuilt, hsends⟩

/-- Books with the title of a film. -/
def byTitle : Params :=
  { id := some (.string "Dune"), target := some "title" }

/-- But the books that a title relates to a film are all those that have it in theirs. -/
theorem not_matches_catalogue :
    ∃ envelope omissions,
      (catalogue.build "GET_MANY_REFERENCE" "book" byTitle).1 = .ok (envelope, omissions)
        ∧ envelope.Sends "filter" (.object [("and", .array
          [Filter.clauseOf "title" "includesInsensitive" (.string "Dune")])])
        ∧ Filter.clauseOf "title" "includesInsensitive" (.string "Dune")
          ≠ Filter.clauseOf "title" catalogue.configuration.filters.equalityOperator
            (catalogueContext.related ⟨"title", [], .named .scalar "String"⟩
              (.string "Dune")) := by
  have hcompiled : (Filter.compile catalogue.configuration.filters catalogueContext.resourceType
      (catalogueContext.relationFilter "title" (.string "Dune") [])).result
        = .ok (some (.object [("and", .array
          [Filter.clauseOf "title" "includesInsensitive" (.string "Dune")])])) := rfl
  obtain ⟨envelope, omissions, hbuilt⟩ :=
    @exists_related byTitle "title" (.string "Dune") rfl rfl (by decide) rfl rfl ⟨_, hcompiled⟩
  have hother : "includesInsensitive" ≠ catalogue.configuration.filters.equalityOperator := by
    decide
  have hrequest := (catalogue.reports_of_build catalogue_context hbuilt).endsWith
  obtain ⟨compiled, order, first, offset, bindings, selections, hpage⟩ :=
    Context.getListBy_eq_ok (Context.getListBy_of_getManyReference rfl rfl hrequest)
  cases hcompiled.symm.trans hpage.filtered
  exact ⟨envelope, omissions, hbuilt, (hpage.sends_iff List.mem_cons_self).2 ⟨rfl, rfl⟩,
    fun hsame => hother (Filter.clauseOf_eq_iff.1 hsame).1⟩

end Builder

end CrudGraph
