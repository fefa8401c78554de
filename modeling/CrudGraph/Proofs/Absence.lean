/-
A null is an absent value. Parameters hold nulls in three places, as the identifier, among the
identifiers of many records and as values of the filter, and a request is made as if they were not
there (`Context.request_withoutNulls`). One null stays: related records are asked for by a filter in
which the caller may name the field that relates, and a null there is not the same as no entry.

For the identifiers this is one equation each, since every verb takes them through the same two
checks. A filter is compiled entry by entry, and an entry with a null gives no clause
(`Filter.clauses_without`); all that is left of it is the report that its key was dropped. No other
step reports on keys of a filter, so the two requests differ in these reports and in nothing else.
-/
import CrudGraph.Proofs.Quiet
import CrudGraph.Proofs.Relation
import Mathlib.Data.List.Nodup

namespace CrudGraph

-- ====================================================== what is to be shown

namespace Params

/-- Whether an entry of a filter stays: it has a value, or it is under the given key. -/
def keeps (kept : Option String) (entry : String × Json) : Bool :=
  !entry.2.isNull || kept = some entry.1

/-- The keys of a filter under which there is a null that does not stay. -/
def nullKeys (params : Params) (kept : Option String) : List String :=
  (params.filter.filter fun entry => !keeps kept entry).map (·.1)

/-- Parameters without their nulls; an entry of the filter under the given key stays. -/
def withoutNulls (params : Params) (kept : Option String) : Params :=
  { params with
    id := params.id.filter fun id => !id.isNull
    ids := params.ids.filter fun id => !id.isNull
    filter := params.filter.filter (keeps kept) }

/-- The key of the filter that stays for a verb: the field that relates, where related records are
asked for. -/
def keptFor (params : Params) : Verb → Option String
  | .getManyReference => params.target
  | _ => none

/-- The key that stays for the verb that a token spells, if it spells one. -/
def keptBy (params : Params) (token : String) : Option String :=
  Verb.ofToken? token >>= params.keptFor

end Params

-- ================================================================ filters

namespace Filter

variable {operators : FilterOperators} {type : NamedType}

/-- An entry that is not among those whose reports are left out keeps its report. -/
theorem compileEntry_without {key : String} {keys : List String} (h : key ∉ keys) (value : Json) :
    (compileEntry operators type key value).without keys
      = compileEntry operators type key value := by
  have hkept : (compileEntry operators type key value).omissions.filter
      (fun omission => !omission.isOf keys)
        = (compileEntry operators type key value).omissions := by
    refine List.filter_eq_self.2 fun omission homission => ?_
    rw [Omission.isOf, filterKey?_of_compileEntry homission, Option.any_some,
      Bool.not_eq_true', ← Bool.not_eq_true, List.contains_iff_mem]
    exact h
  rw [Reported.without, hkept]

/-- An entry with a null gives no clause, and what it reports is on its key. -/
theorem compileEntry_null {key : String} {keys : List String} (h : key ∈ keys) :
    (compileEntry operators type key .null).without keys = pure none := by
  have hresult : (compileEntry operators type key .null).result = .ok none := by
    unfold compileEntry
    split
    · rfl
    · split
      · rfl
      · rfl
  have hnone : (compileEntry operators type key .null).omissions.filter
      (fun omission => !omission.isOf keys) = [] := by
    refine List.filter_eq_nil_iff.2 fun omission homission => ?_
    rw [Omission.isOf, filterKey?_of_compileEntry homission, Option.any_some,
      List.contains_iff_mem.2 h]
    exact Bool.false_ne_true
  rw [Reported.without, hnone, hresult]
  rfl

/-- Leaving entries with nulls out of a filter leaves out the reports on their keys, and changes
nothing else. -/
theorem clauses_without {keys : List String} {keep : String × Json → Bool}
    {entries : List (String × Json)} (hkept : ∀ entry ∈ entries, keep entry = true → entry.1 ∉ keys)
    (hgone : ∀ entry ∈ entries, keep entry = false → entry.1 ∈ keys ∧ entry.2 = .null) :
    clauses operators type (entries.filter keep)
      = (clauses operators type entries).without keys := by
  induction entries with
  | nil => rfl
  | cons entry rest ih =>
      obtain ⟨key, value⟩ := entry
      have ih := ih (fun other hother => hkept other (List.mem_cons_of_mem _ hother))
        (fun other hother => hgone other (List.mem_cons_of_mem _ hother))
      have hpure : ∀ all : List Json, (pure all : Reported (List Json)).without keys = pure all :=
        fun all => (Reported.Quiet.pure all).without_eq keys
      rw [clauses, Reported.without_bind]
      simp only [Reported.without_bind, hpure, ← ih]
      cases hkeep : keep (key, value) with
      | true =>
          rw [List.filter_cons_of_pos hkeep, clauses,
            compileEntry_without (hkept _ List.mem_cons_self hkeep)]
      | false =>
          obtain ⟨hkey, hnull⟩ := hgone _ List.mem_cons_self hkeep
          dsimp only at hkey hnull
          rw [List.filter_cons_of_neg (by simp [hkeep]), hnull, compileEntry_null hkey, pure_bind]
          exact (bind_pure _).symm

/-- So a filter without its cleared keys is compiled as before, less the reports on them. -/
theorem compile_without {keys : List String} {keep : String × Json → Bool} {filter : Table Json}
    (hkept : ∀ entry ∈ filter, keep entry = true → entry.1 ∉ keys)
    (hgone : ∀ entry ∈ filter, keep entry = false → entry.1 ∈ keys ∧ entry.2 = .null) :
    compile operators type (filter.filter keep) = (compile operators type filter).without keys := by
  rw [compile, clauses_without hkept hgone, compile, Reported.without_bind]
  refine bind_congr fun all => ?_
  exact ((Reported.Quiet.pure _).without_eq keys).symm

end Filter

-- ================================================================= tables

/-- A table has the same values without some of its nulls. -/
theorem find?_filter_given {filter : Table Json} (hdistinct : (Table.keys filter).Nodup)
    {keep : String × Json → Bool}
    (hgone : ∀ entry ∈ filter, keep entry = false → entry.2 = .null) (key : String) :
    (Table.find? (filter.filter keep) key).filter (fun value => !value.isNull)
      = (Table.find? filter key).filter fun value => !value.isNull := by
  have hsub : (Table.keys (filter.filter keep)).Nodup :=
    hdistinct.sublist (List.filter_sublist.map _)
  have hmem : ∀ value, Table.find? (filter.filter keep) key = some value
      ↔ Table.find? filter key = some value ∧ keep (key, value) = true := by
    intro value
    rw [Table.find?_eq_some_iff hsub, Table.find?_eq_some_iff hdistinct, List.mem_filter]
  refine Option.ext fun value => ?_
  rw [Option.filter_eq_some_iff, Option.filter_eq_some_iff, hmem]
  constructor
  · intro h
    exact ⟨h.1.1, h.2⟩
  · intro h
    obtain ⟨hvalue, hgiven⟩ := h
    refine ⟨⟨hvalue, ?_⟩, hgiven⟩
    cases hkeep : keep (key, value) with
    | true => rfl
    | false =>
        obtain rfl : value = .null := hgone _ (Table.mem_of_find? hvalue) hkeep
        cases hgiven

namespace Params

variable {params : Params} {kept : Option String}

/-- What is dropped is null, and no key that has to stay. -/
theorem null_of_not_keeps {entry : String × Json} (h : keeps kept entry = false) :
    entry.2 = .null ∧ kept ≠ some entry.1 := by
  obtain ⟨key, value⟩ := entry
  rw [keeps, Bool.or_eq_false_iff, decide_eq_false_iff_not] at h
  obtain ⟨hnull, hkept⟩ := h
  refine ⟨?_, hkept⟩
  cases value with
  | null => rfl
  | bool | integer | double | string | array | object => cases hnull

/-- The keys whose entries are left out are those of no other entries. -/
theorem mem_nullKeys_iff (hdistinct : (Table.keys params.filter).Nodup) {entry : String × Json}
    (hmem : entry ∈ params.filter) :
    entry.1 ∈ params.nullKeys kept ↔ keeps kept entry = false := by
  rw [nullKeys, List.mem_map]
  constructor
  · intro h
    obtain ⟨other, hother, hkey⟩ := h
    obtain ⟨hother, hgone⟩ := List.mem_filter.1 hother
    rw [List.inj_on_of_nodup_map hdistinct hother hmem hkey] at hgone
    simpa using hgone
  · intro h
    exact ⟨entry, List.mem_filter.2 ⟨hmem, by rw [h]; rfl⟩, rfl⟩

end Params

namespace Context

variable (c : Context)

-- =============================================================== requests

/-- The identifier is a parameter of its own, and it stays. -/
theorem requireId_withoutNulls (params : Params) (kept : Option String) :
    c.requireId (params.withoutNulls kept) = c.requireId params := by
  unfold requireId Params.withoutNulls
  rw [Option.filter_filter]
  simp only [Bool.and_self]

/-- The identifiers that are asked for were without nulls already. -/
theorem givenIds_withoutNulls (params : Params) (kept : Option String) :
    givenIds (params.withoutNulls kept) = givenIds params := by
  unfold givenIds Params.withoutNulls
  rw [List.filter_filter]
  simp only [Bool.and_self]

/-- A page of what a filter leaves is not changed by nulls in the filter. -/
theorem getListBy_without {params : Params} {kept : Option String} {filter : Table Json}
    (hdistinct : (Table.keys filter).Nodup) {keys : List String} {keep : String × Json → Bool}
    (hkept : ∀ entry ∈ filter, keep entry = true → entry.1 ∉ keys)
    (hgone : ∀ entry ∈ filter, keep entry = false → entry.1 ∈ keys ∧ entry.2 = .null) :
    c.getListBy (params.withoutNulls kept) (filter.filter keep)
      = (c.getListBy params filter).without keys := by
  unfold getListBy
  dsimp only [Params.withoutNulls]
  rw [Reported.without_bind, (Reported.Quiet.lift _).without_eq]
  refine bind_congr fun _ => ?_
  rw [Reported.without_bind, Filter.compile_without hkept hgone]
  refine bind_congr fun compiled => ?_
  rw [find?_filter_given hdistinct fun entry hentry hkeep => (hgone entry hentry hkeep).2]
  refine (Reported.Quiet.without_eq ?_ keys).symm
  refine .bind c.quiet_select fun selections => .lift_bind fun started => ?_
  refine .lift_bind fun first => .lift_bind fun offset => .lift_bind fun int => ?_
  refine .lift_bind fun declaredFirst => .lift_bind fun declaredOffset => ?_
  refine .bind (c.quiet_orderBy _) fun order => ?_
  refine .bind (c.quiet_passArguments _ _ _) fun passed => .lift_bind fun nodes => ?_
  split
  · refine .lift_bind fun total => .bind (.pure _) fun totals => ?_
    exact .lift_bind fun root => .pure _
  · exact .bind (.pure _) fun totals => .lift_bind fun root => .pure _

/-- Nulls that are left out of the caller's entries are left out of the filter of a relation, as
long as the entry for the field that relates stays. -/
theorem relationFilter_filter {target : String} {id : Json} {filter : Table Json}
    (hdistinct : (Table.keys filter).Nodup) {keep : String × Json → Bool}
    (htarget : ∀ value, keep (target, value) = true) :
    c.relationFilter target id (filter.filter keep)
      = (c.relationFilter target id filter).filter keep := by
  obtain ⟨value, -, hfilter⟩ := c.exists_relationFilter_eq target id
  have hsub : (Table.keys (filter.filter keep)).Nodup :=
    hdistinct.sublist (List.filter_sublist.map _)
  have hvalue : Table.find? (filter.filter keep) target = Table.find? filter target := by
    refine Option.ext fun value => ?_
    rw [Table.find?_eq_some_iff hsub, Table.find?_eq_some_iff hdistinct, List.mem_filter,
      and_iff_left (htarget value)]
  rw [hfilter, hfilter, Table.ofList_eq_self hsub, Table.ofList_eq_self hdistinct, hvalue,
    List.filter_cons_of_pos (htarget _), Table.erase, Table.erase, List.filter_filter,
    List.filter_filter]
  simp only [Bool.and_comm]

/-- Related records are asked for as if there were no nulls in the filter but that for the field
that relates. -/
theorem getManyReference_withoutNulls {params : Params}
    (hdistinct : (Table.keys params.filter).Nodup) :
    c.getManyReference (params.withoutNulls params.target)
      = (c.getManyReference params).without (params.nullKeys params.target) := by
  unfold getManyReference
  rw [show (params.withoutNulls params.target).target = params.target from rfl]
  split
  · exact ((Reported.Quiet.refuse _).without_eq _).symm
  · next target htarget =>
    obtain ⟨htarget, -⟩ := Option.filter_eq_some_iff.1 htarget
    rw [requireId_withoutNulls, Reported.without_bind, (Reported.Quiet.lift _).without_eq]
    refine bind_congr fun id => ?_
    have hstays : ∀ value, Params.keeps params.target (target, value) = true := by
      intro value
      rw [Params.keeps, Bool.or_eq_true, decide_eq_true_iff]
      exact .inr htarget
    rw [show (params.withoutNulls params.target).filter
      = params.filter.filter (Params.keeps params.target) from rfl,
      c.relationFilter_filter hdistinct hstays]
    have hnodup : (Table.keys (c.relationFilter target id params.filter)).Nodup :=
      Table.nodup_keys_foldl _ (by simp [Table.keys])
    have hkey : target ∉ params.nullKeys params.target := by
      intro hmem
      obtain ⟨entry, hentry, rfl⟩ := List.mem_map.1 hmem
      have hgone := (List.mem_filter.1 hentry).2
      rw [hstays entry.2] at hgone
      cases hgone
    -- every entry is the one for the field that relates, which stays, or one of the caller's
    have hentry : ∀ entry ∈ c.relationFilter target id params.filter,
        entry ∈ params.filter ∨ entry.1 = target := by
      obtain ⟨value, -, hfilter⟩ := c.exists_relationFilter_eq target id
      intro entry hentry
      rw [hfilter, Table.ofList_eq_self hdistinct] at hentry
      rcases List.mem_cons.1 hentry with rfl | hentry
      · exact .inr rfl
      · exact .inl (List.mem_filter.1 hentry).1
    refine c.getListBy_without hnodup (fun entry hmem hkeep => ?_) fun entry hmem hgone => ?_
    · rcases hentry entry hmem with hgiven | hrelates
      · rw [Params.mem_nullKeys_iff hdistinct hgiven, Bool.not_eq_false]
        exact hkeep
      · rwa [hrelates]
    · rcases hentry entry hmem with hgiven | hrelates
      · exact ⟨(Params.mem_nullKeys_iff hdistinct hgiven).2 hgone,
          (Params.null_of_not_keeps hgone).1⟩
      · exact absurd (hrelates ▸ htarget) (Params.null_of_not_keeps hgone).2

/-- A request is made as if the nulls of its parameters were not there, without the reports on their
keys. -/
theorem request_withoutNulls {params : Params} (hdistinct : (Table.keys params.filter).Nodup) :
    Builder.request c (params.withoutNulls (params.keptFor c.verb))
      = (Builder.request c params).without (params.nullKeys (params.keptFor c.verb)) := by
  obtain ⟨schema, configuration, strategies, resource, type, key, verb⟩ := c
  cases verb
  case getOne =>
    show getOne _ _ = (getOne _ _).without _
    rw [(quiet_getOne _ params).without_eq, getOne, requireId_withoutNulls]
    rfl
  case getList =>
    -- A list keeps none of its nulls: what is dropped are the keys that are reported as cleared.
    refine getListBy_without _ hdistinct (fun entry hentry hkeep => ?_)
      fun entry hentry hgone => ?_
    · rw [Params.mem_nullKeys_iff hdistinct hentry, Bool.not_eq_false]
      exact hkeep
    · exact ⟨(Params.mem_nullKeys_iff hdistinct hentry).2 hgone, (Params.null_of_not_keeps hgone).1⟩
  case getMany =>
    show getMany _ _ = (getMany _ _).without _
    rw [(quiet_getMany _ params).without_eq, getMany, givenIds_withoutNulls]
    rfl
  case getManyReference => exact getManyReference_withoutNulls _ hdistinct
  case create =>
    exact ((quiet_create _ params).without_eq _).symm
  case update =>
    show update _ _ = (update _ _).without _
    rw [(quiet_update _ params).without_eq, update, requireId_withoutNulls]
    rfl
  case delete =>
    show delete _ _ = (delete _ _).without _
    rw [(quiet_delete _ params).without_eq, delete, requireId_withoutNulls]
    rfl
  case updateMany =>
    show updateMany _ _ = (updateMany _ _).without _
    rw [(quiet_updateMany _ params).without_eq, updateMany, writeMany, givenIds_withoutNulls]
    rfl
  case deleteMany =>
    show deleteMany _ _ = (deleteMany _ _).without _
    rw [(quiet_deleteMany _ params).without_eq, deleteMany, writeMany, givenIds_withoutNulls]
    rfl

end Context

namespace Builder

variable (builder : Builder)

/-- A token is read as the verb of the context. -/
theorem ofToken?_of_context {verb resource : String} {c : Context}
    (h : builder.context verb resource = .ok c) : Verb.ofToken? verb = some c.verb := by
  unfold context at h
  obtain ⟨found, hfound, h⟩ := bind_eq_ok_iff.1 h
  obtain ⟨key, -, h⟩ := bind_eq_ok_iff.1 h
  obtain ⟨-, -, hparsed⟩ := builder.target_eq_ok hfound
  cases h
  unfold Verb.parse at hparsed
  split at hparsed
  · cases hparsed
  · split at hparsed
    · next found hfound =>
      cases hparsed
      exact hfound
    · cases hparsed

/-- What is built, or why it is refused, is the same without the nulls of the parameters; what is
reported besides is that keys with nulls were dropped from the filter. -/
theorem build_withoutNulls (verb resource : String) {params : Params}
    (hdistinct : (Table.keys params.filter).Nodup) :
    (builder.build verb resource (params.withoutNulls (params.keptBy verb))).1
      = (builder.build verb resource params).1.map fun built =>
          (built.1, built.2.filter fun omission =>
            !omission.isOf (params.nullKeys (params.keptBy verb))) := by
  rw [build_eq, build_eq]
  cases hcontext : builder.context verb resource with
  | error refusal => rfl
  | ok c =>
      have hkept : params.keptBy verb = params.keptFor c.verb := by
        rw [Params.keptBy, builder.ofToken?_of_context hcontext]
        rfl
      rw [hkept]
      show Except.map _ (request c _).result = Except.map _ (Except.map _ (request c _).result)
      rw [c.request_withoutNulls hdistinct]
      unfold Reported.without
      cases (request c params).result <;> rfl

/-- Two entries without a value make no difference to the books of an author that are asked for; the
entry for the author itself stays, with a value or without. -/
theorem build_withoutNulls_catalogue :
    ∃ envelope omissions,
      (catalogue.build "GET_MANY_REFERENCE" "book"
          (byAuthor [("year", .null), ("authorId", .null), ("title", .null)])).1
          = .ok (envelope, omissions)
        ∧ (catalogue.build "GET_MANY_REFERENCE" "book" (byAuthor [("authorId", .null)])).1
          = .ok (envelope, omissions.filter fun omission => !omission.isOf ["year", "title"]) := by
  let filter : Table Json := [("year", .null), ("authorId", .null), ("title", .null)]
  have hnothing : (Filter.compile catalogue.configuration.filters catalogueContext.resourceType
      (catalogueContext.relationFilter "authorId" (.string "3") filter)).result = .ok none := by
    decide +kernel
  obtain ⟨envelope, omissions, hbuilt⟩ := exists_byAuthor ⟨none, hnothing⟩
  have hkept : (byAuthor filter).keptBy "GET_MANY_REFERENCE" = some "authorId" := by
    rw [Params.keptBy, show "GET_MANY_REFERENCE" = Verb.getManyReference.text from rfl,
      Verb.ofToken?_text]
    rfl
  have hwithout := @build_withoutNulls catalogue "GET_MANY_REFERENCE" "book" (byAuthor filter)
    (by decide)
  rw [hbuilt, hkept] at hwithout
  exact ⟨envelope, omissions, hbuilt, hwithout⟩

end Builder

end CrudGraph
