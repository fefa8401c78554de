/-
The pages of one list. A page is asked for by its place, counted from one, and by how many records
a page has. What is sent is how many records there are before it and how many are wanted, each an
integer of 32 bits, while the product that the first of them comes from is one of 64 bits and need
not fit in these either.

# What is shown

If some page of a list can be asked for, then every page can whose two numbers are small enough as
whole numbers of any size, and it is asked for by the same request with its own two numbers. Every
other page is refused (`Builder.build_tiles`). So a list falls into pages that leave nothing out
between them, and a record is on exactly the page that its place says (`Pagination.mem_page_iff`).

# How

There are two facts. One is about numbers: a product that is cut off at 64 bits is not among those
that fit in 32, so that nothing which was cut off is ever sent (`Context.pageNumber_eq`). The other
is about requests: no step looks at the value of a variable, only at its name. So to build a request
with other values is to put them into the request that was built (`Context.pageOf_numbered`), and
the pages of a list need not be built anew to know what they are (`Context.exists_getListBy_eq`).
-/
import CrudGraph.Proofs.Build
import CrudGraph.Proofs.Capability
import Mathlib.Algebra.Group.Nat.Defs

namespace CrudGraph

-- ================================================================= numbers

namespace Pagination

/-- How many records come before a page, however many that are. Page zero is the first one too. -/
def skipped (page : Pagination) : Nat :=
  (max page.page.toNat 1 - 1) * page.perPage.toNat

/-- The largest integer that has 32 bits with its sign. -/
def largest : Nat := 2 ^ 31 - 1

/-- Both numbers of a page are integers of 32 bits. -/
def Fits (page : Pagination) : Prop :=
  page.perPage.toNat ≤ largest ∧ page.skipped ≤ largest

/-- A page begins where the one before it ends. -/
theorem skipped_next {page next : Pagination} (hsize : next.perPage = page.perPage)
    (hpage : 1 ≤ page.page.toNat) (hnext : next.page.toNat = page.page.toNat + 1) :
    next.skipped = page.skipped + page.perPage.toNat := by
  have hplace : max next.page.toNat 1 - 1 = (max page.page.toNat 1 - 1) + 1 := by omega
  unfold skipped
  rw [hplace, hsize, Nat.add_mul, Nat.one_mul]

/-- The records of a page are those that the number of pages before them says. -/
theorem mem_page_iff {page : Pagination} (hsize : 0 < page.perPage.toNat) (record : Nat) :
    page.skipped ≤ record ∧ record < page.skipped + page.perPage.toNat
      ↔ record / page.perPage.toNat = max page.page.toNat 1 - 1 := by
  rw [Nat.div_eq_iff hsize]
  unfold skipped
  omega

end Pagination

/-- A step that leaves nothing out leaves nothing out of what is made of its value. -/
theorem Reported.lift_map {α β : Type} (f : α → β) (result : Except Refusal α) :
    (liftM (f <$> result) : Reported β) = f <$> (liftM result : Reported α) := by
  cases result <;> rfl

/-- A step that succeeded is gone from what follows it. -/
theorem Reported.lift_ok_bind {α β : Type} (value : α) (next : α → Reported β) :
    ((liftM (Except.ok value : Except Refusal α) : Reported α) >>= next) = next value :=
  pure_bind value next

/-- A step with a value is its reports, before what goes on from the value. -/
theorem Reported.Reports.bind_eq {α β : Type} {first : Reported α} {omissions : List Omission}
    {value : α} (h : first.Reports omissions value) (next : α → Reported β) :
    first >>= next = (⟨omissions, .ok ()⟩ : Reported Unit) >>= fun _ => next value := by
  cases h
  rfl

/-- Two reports in a row are one. -/
theorem Reported.reports_append {β : Type} (before after : List Omission) (next : Reported β) :
    ((⟨before, .ok ()⟩ : Reported Unit) >>= fun _ =>
        (⟨after, .ok ()⟩ : Reported Unit) >>= fun _ => next)
      = (⟨before ++ after, .ok ()⟩ : Reported Unit) >>= fun _ => next := by
  rw [bind_ok rfl, bind_ok rfl, bind_ok rfl, List.append_assoc]

/-- Making something of the value leaves the reports as they are. -/
theorem Reported.Reports.map {α β : Type} {first : Reported α} {omissions : List Omission}
    {value : α} (h : first.Reports omissions value) (f : α → β) :
    (f <$> first).Reports omissions (f value) := by
  rw [map_eq_pure_bind]
  exact Reported.reports_bind_iff.2 ⟨value, omissions, [], h, rfl, (List.append_nil _).symm⟩

namespace Context

/-- A whole number fits in 32 bits with a sign up to the largest that does. -/
theorem fitsSigned_natCast {n : Nat} :
    Width.fitsSigned 32 (n : Int) = true ↔ n ≤ Pagination.largest := by
  have hvalues : Width.values (32 - 1) = 2 ^ 31 := by decide
  rw [Width.fitsSigned_iff, hvalues, Pagination.largest]
  omega

/-- What is sent for a whole number that is kept in 64 bits where it fits, and is lost elsewhere. A
number that is lost is not among those that can be sent. -/
theorem pageNumber_eq (name : String) {n : Nat} {value : Option UInt64}
    (hvalue : value = if n < 2 ^ 64 then some (UInt64.ofNat n) else none) :
    pageNumber name value = if n ≤ Pagination.largest then .ok (.integer n)
      else .error (.invalidRequest s!"pagination `{name}` does not fit in a GraphQL Int") := by
  subst hvalue
  by_cases hkept : n < 2 ^ 64
  · have hsame : (UInt64.ofNat n).toNat = n := UInt64.toNat_ofNat_of_lt hkept
    rw [if_pos hkept, pageNumber, Option.filter_some, hsame]
    by_cases hfits : n ≤ Pagination.largest
    · rw [if_pos (fitsSigned_natCast.2 hfits), if_pos hfits]
      exact congrArg (fun n : Nat => Except.ok (Json.integer n)) hsame
    · rw [if_neg (mt fitsSigned_natCast.1 hfits), if_neg hfits]
  · have hlarge : ¬n ≤ Pagination.largest := by
      rw [Pagination.largest]
      omega
    rw [if_neg hkept, if_neg hlarge]
    rfl

/-- The length of a page is sent as it is, if it fits. -/
theorem pageNumber_perPage (page : Pagination) :
    pageNumber "perPage" (some page.perPage)
      = if page.perPage.toNat ≤ Pagination.largest then .ok (.integer page.perPage.toNat)
        else .error (.invalidRequest "pagination `perPage` does not fit in a GraphQL Int") := by
  refine pageNumber_eq "perPage" ?_
  rw [if_pos page.perPage.toNat_lt, UInt64.ofNat_toNat]

theorem pageNumber_offset (page : Pagination) :
    pageNumber "offset" page.offset?
      = if page.skipped ≤ Pagination.largest then .ok (.integer page.skipped)
        else .error (.invalidRequest "pagination `offset` does not fit in a GraphQL Int") := by
  refine pageNumber_eq "offset" ?_
  have hplace : page.page.toNat - 1 = max page.page.toNat 1 - 1 := by omega
  have hvalues : Width.values 64 = 2 ^ 64 := by decide
  have hfits : Width.fitsUnsigned 64 (page.skipped : Int) = true ↔ page.skipped < 2 ^ 64 := by
    rw [Width.fitsUnsigned_iff, hvalues]
    omega
  rw [Pagination.offset?, hplace]
  exact if_congr hfits rfl rfl

end Context

-- ================================================================== values

/-- A variable with another value. -/
def Variable.revalue (f : String → Json → Json) (declared : Variable) : Variable :=
  { declared with value := f declared.name.text declared.value }

/-- An operation with other values of its variables. -/
def Draft.revalue (f : String → Json → Json) (draft : Draft) : Draft :=
  { draft with bindings := draft.bindings.map (·.revalue f) }

/-- A request with other values of its variables. -/
def Envelope.revalue (f : String → Json → Json) (envelope : Envelope) : Envelope :=
  { envelope with values := envelope.values.map fun entry => (entry.1, f entry.1 entry.2) }

section

variable (f : String → Json → Json)

/-- At the start there are no values to change. -/
theorem Draft.revalue_of_start {kind : OperationKind} {operation : String} {started : Draft}
    (h : Draft.start kind operation = .ok started) : started.revalue f = started := by
  obtain ⟨name, -, h⟩ := bind_eq_ok_iff.1 h
  cases h
  rfl

/-- A variable is declared by its name, whatever the values of those before it. -/
theorem Draft.declare_revalue (draft : Draft) (variableName : String) (type : TypeExpr)
    (value : Json) :
    (draft.revalue f).declare variableName type (f variableName value)
      = (fun step => (step.1, step.2.revalue f)) <$> draft.declare variableName type value := by
  unfold Draft.declare
  rw [map_bind]
  cases hname : Name.ofText variableName with
  | error refusal => rfl
  | ok name =>
    have htext : name.text = variableName := Name.ofText_eq_ok_iff.1 hname
    have hnames : (draft.revalue f).bindings.any (fun declared => declared.name = name)
        = draft.bindings.any fun declared => declared.name = name := by
      show List.any (List.map _ _) _ = _
      rw [List.any_map]
      rfl
    show ite _ _ _ = _ <$> ite _ _ _
    rw [hnames]
    split
    · rfl
    · show Except.ok _ = Except.ok _
      simp [Draft.revalue, Variable.revalue, htext]

/-- What becomes of an operation with other values is the request with these. -/
theorem Envelope.ofDraft_revalue (draft : Draft) (decoder : Decoder) :
    Envelope.ofDraft (draft.revalue f) decoder = (Envelope.ofDraft draft decoder).revalue f := by
  simp [Envelope.ofDraft, Envelope.revalue, Draft.revalue, Draft.definition, Draft.values,
    Variable.revalue, Function.comp_def]

/-- A finished request has the values of its draft. -/
theorem Envelope.pure_ofDraft_revalue (draft : Draft) (root : Selection) (decoder : Decoder) :
    (pure (ofDraft ((draft.revalue f).select root) decoder) : Reported Envelope)
      = revalue f <$> pure (ofDraft (draft.select root) decoder) := by
  rw [map_pure, ← ofDraft_revalue]
  rfl

end

namespace Context

variable (c : Context)

/-- What is passed on to an operation is passed on in the same way, whatever the values of the
variables before it. -/
theorem passArguments_revalue {f : String → Json → Json} (operation : String) (draft : Draft)
    {given : List (String × Option Json)}
    (hkept : ∀ entry ∈ given, ∀ value, f entry.1 value = value) :
    c.passArguments operation (draft.revalue f) given
      = (fun passed => (passed.1, passed.2.revalue f))
          <$> c.passArguments operation draft given := by
  induction given generalizing draft with
  | nil => rfl
  | cons entry rest ih =>
    obtain ⟨argument, value⟩ := entry
    have ih := fun draft => ih draft fun other hother => hkept other (List.mem_cons_of_mem _ hother)
    cases value with
    | none => exact ih draft
    | some value =>
      have hvalue : f argument value = value := hkept _ List.mem_cons_self value
      rw [passArguments, passArguments]
      split
      · rw [map_bind]
        exact bind_congr fun _ => ih draft
      · rw [map_bind]
        refine bind_congr fun type => ?_
        have hdeclare := draft.declare_revalue f argument type value
        rw [hvalue] at hdeclare
        rw [hdeclare, Reported.lift_map, bind_map_left, map_bind]
        refine bind_congr fun step => ?_
        dsimp only
        rw [ih, bind_map_left, map_bind]
        rfl

/-- What is left to do of a page when its two numbers are known. -/
def pageOf (sort : Option SortBy) (compiled condition : Option Json) (selections : List Selection)
    (draft : Draft) (first offset : Json) : Reported Envelope := do
  let operation := c.resource.plural
  let int ← Name.ofText "Int"
  let (firstName, draft) ← draft.declare "first" (.nonNullNamed int) first
  let (offsetName, draft) ← draft.declare "offset" (.nonNullNamed int) offset
  let order ← c.orderBy sort
  let (passed, draft) ← c.passArguments operation draft
    [("filter", compiled), ("condition", condition), ("orderBy", order)]
  let total := c.hasTotal operation
  let nodes ← Selection.call none "nodes" [] selections
  let totals ← if total then do pure [Selection.leaf (← Name.ofText "totalCount")] else pure []
  let root ← Selection.call none operation
    (("first", .reference firstName) :: ("offset", .reference offsetName) :: passed)
    (nodes :: totals)
  return .ofDraft (draft.select root) (.connection operation total)

/-- A page is what comes before its numbers, the numbers, and the rest. -/
theorem getListBy_eq (params : Params) (filter : Table Json) :
    c.getListBy params filter = (do
      c.requireOperation c.resource.plural
      let compiled ← Filter.compile c.configuration.filters c.resourceType filter
      let selections ← c.select
      let draft ← Draft.start .query c.resource.plural
      let first ← pageNumber "perPage" (some (params.pagination.getD .first).perPage)
      let offset ← pageNumber "offset" (params.pagination.getD .first).offset?
      c.pageOf params.sort compiled (c.condition filter) selections draft first offset) := rfl

/-- The value of a variable of a page, with the page's own two numbers. -/
def numbered (first offset : Json) (variableName : String) (value : Json) : Json :=
  if variableName = "first" then first
  else if variableName = "offset" then offset
  else value

/-- The rest of a page with other numbers is the rest of the page with only these two values
exchanged. -/
theorem pageOf_numbered (sort : Option SortBy) (compiled condition : Option Json)
    (selections : List Selection) (draft : Draft) (first offset firstThen offsetThen : Json) :
    c.pageOf sort compiled condition selections (draft.revalue (numbered firstThen offsetThen))
        firstThen offsetThen
      = Envelope.revalue (numbered firstThen offsetThen)
          <$> c.pageOf sort compiled condition selections draft first offset := by
  unfold pageOf
  dsimp only
  rw [map_bind]
  refine bind_congr fun int => ?_
  -- the length of the page
  have hfirst := draft.declare_revalue (numbered firstThen offsetThen) "first" (.nonNullNamed int)
    first
  rw [show numbered firstThen offsetThen "first" first = firstThen from rfl] at hfirst
  rw [hfirst, Reported.lift_map, bind_map_left, map_bind]
  refine bind_congr fun declaredFirst => ?_
  -- its place
  have hoffset := declaredFirst.2.declare_revalue (numbered firstThen offsetThen) "offset"
    (.nonNullNamed int) offset
  rw [show numbered firstThen offsetThen "offset" offset = offsetThen from rfl] at hoffset
  rw [hoffset, Reported.lift_map, bind_map_left, map_bind]
  refine bind_congr fun declaredOffset => ?_
  rw [map_bind]
  refine bind_congr fun order => ?_
  rw [c.passArguments_revalue, bind_map_left, map_bind]
  · refine bind_congr fun passed => ?_
    rw [map_bind]
    refine bind_congr fun nodes => ?_
    by_cases htotal : c.hasTotal c.resource.plural = true
    · rw [if_pos htotal, if_pos htotal, map_bind]
      refine bind_congr fun total => ?_
      rw [pure_bind, pure_bind, map_bind]
      exact bind_congr fun root => Envelope.pure_ofDraft_revalue _ _ _ _
    · rw [if_neg htotal, if_neg htotal, pure_bind, pure_bind, map_bind]
      exact bind_congr fun root => Envelope.pure_ofDraft_revalue _ _ _ _
  · intro entry hentry value
    have hother := ne_numbers_of_mem (List.mem_map_of_mem (f := Prod.fst) hentry)
    rw [numbered, if_neg hother.1, if_neg hother.2]

end Context

-- =================================================================== pages

/-- The parameters of a request, for another page. -/
def Params.onPage (params : Params) (page : Pagination) : Params :=
  { params with pagination := some page }

/-- A request for a page, for another page. -/
def Envelope.onPage (envelope : Envelope) (page : Pagination) : Envelope :=
  envelope.revalue
    (Context.numbered (.integer page.perPage.toNat) (.integer page.skipped))

namespace Context

variable {c : Context} {params : Params} {filter : Table Json} {envelope : Envelope}
  {omissions : List Omission}

/-- Where a page of a list was asked for, all that can go wrong with another one is its numbers; the
reports are the same, and so is the request but for the numbers. -/
theorem exists_getListBy_eq (h : (c.getListBy params filter).Reports omissions envelope) :
    ∃ before after, omissions = before ++ after ∧ ∀ page : Pagination,
      c.getListBy (params.onPage page) filter = (do
        (⟨before, .ok ()⟩ : Reported Unit)
        let first ← pageNumber "perPage" (some page.perPage)
        let offset ← pageNumber "offset" page.offset?
        (⟨after, .ok (envelope.revalue (numbered first offset))⟩ : Reported Envelope)) := by
  rw [getListBy_eq] at h
  obtain ⟨_, hknown, h⟩ := h.of_lift_bind
  obtain ⟨compiled, onFilter, behindFilter, hcompiled, h, homissions⟩ := h.of_bind
  obtain ⟨selections, onSelections, after, hselected, h, hbehindFilter⟩ := h.of_bind
  obtain ⟨started, hstart, h⟩ := h.of_lift_bind
  obtain ⟨first, -, h⟩ := h.of_lift_bind
  obtain ⟨offset, -, h⟩ := h.of_lift_bind
  refine ⟨onFilter ++ onSelections, after, ?_, fun page => ?_⟩
  · rw [homissions, hbehindFilter, List.append_assoc]
  -- Behind its numbers, every page is the one that was built with its two values exchanged.
  have hpage : ∀ firstThen offsetThen,
      c.pageOf params.sort compiled (c.condition filter) selections started firstThen offsetThen
        = ⟨after, .ok (envelope.revalue (numbered firstThen offsetThen))⟩ := by
    intro firstThen offsetThen
    have hnumbered := c.pageOf_numbered params.sort compiled (c.condition filter) selections
      started first offset firstThen offsetThen
    rw [Draft.revalue_of_start _ hstart] at hnumbered
    rw [hnumbered]
    exact h.map _
  -- In front of its numbers, every page does the same as this one did.
  have hgiven : (params.onPage page).pagination.getD .first = page := rfl
  rw [getListBy_eq, hgiven, hknown, Reported.lift_ok_bind, hcompiled.bind_eq, hselected.bind_eq,
    Reported.reports_append, hstart, Reported.lift_ok_bind]
  refine bind_congr fun _ => bind_congr fun first => bind_congr fun offset => ?_
  exact hpage first offset

/-- A page whose numbers fit is asked for by the same request with its own numbers. -/
theorem reports_onPage (h : (c.getListBy params filter).Reports omissions envelope)
    {page : Pagination} (hfits : page.Fits) :
    (c.getListBy (params.onPage page) filter).Reports omissions (envelope.onPage page) := by
  obtain ⟨before, after, rfl, hpage⟩ := exists_getListBy_eq h
  rw [hpage, pageNumber_perPage, pageNumber_offset, if_pos hfits.1, if_pos hfits.2]
  rfl

/-- A page one of whose numbers does not fit is refused for this. -/
theorem refused_onPage (h : (c.getListBy params filter).EndsWith envelope) {page : Pagination}
    (hlarge : ¬page.Fits) :
    ∃ number ∈ ["perPage", "offset"], (c.getListBy (params.onPage page) filter).result
      = .error (.invalidRequest s!"pagination `{number}` does not fit in a GraphQL Int") := by
  obtain ⟨before, after, -, hpage⟩ := exists_getListBy_eq h.reports
  rw [hpage, pageNumber_perPage, pageNumber_offset]
  by_cases hsize : page.perPage.toNat ≤ Pagination.largest
  · have hplace : ¬page.skipped ≤ Pagination.largest := fun h => hlarge ⟨hsize, h⟩
    rw [if_pos hsize, if_neg hplace]
    exact ⟨"offset", by decide, rfl⟩
  · rw [if_neg hsize]
    exact ⟨"perPage", by decide, rfl⟩

/-- A page is sent with its own two numbers. -/
theorem sends_numbers {page : Pagination}
    (h : (c.getListBy (params.onPage page) filter).EndsWith envelope) :
    envelope.Sends "first" (.integer page.perPage.toNat)
      ∧ envelope.Sends "offset" (.integer page.skipped) := by
  obtain ⟨compiled, order, first, offset, bindings, selections, hpage⟩ := getListBy_eq_ok h
  have hfirst : first = .integer page.perPage.toNat := by
    have hsized : pageNumber "perPage" (some page.perPage) = .ok first := hpage.sized
    rw [pageNumber_perPage] at hsized
    split at hsized
    · exact (Except.ok.inj hsized).symm
    · cases hsized
  have hoffset : offset = .integer page.skipped := by
    have hplaced : pageNumber "offset" page.offset? = .ok offset := hpage.placed
    rw [pageNumber_offset] at hplaced
    split at hplaced
    · exact (Except.ok.inj hplaced).symm
    · cases hplaced
  obtain ⟨operation, nodes, totals, -, -, -, rfl⟩ := hpage.finished
  rw [Draft.sends_ofArguments, Draft.sends_ofArguments, hpage.sent, ← hfirst, ← hoffset]
  exact ⟨rfl, rfl⟩

variable (c) in
/-- Page zero is the first one. -/
theorem getListBy_zero (params : Params) (filter : Table Json) (perPage : UInt64) :
    c.getListBy (params.onPage ⟨0, perPage⟩) filter
      = c.getListBy (params.onPage ⟨1, perPage⟩) filter := by
  have hplace : Pagination.offset? ⟨0, perPage⟩ = Pagination.offset? ⟨1, perPage⟩ := by
    simp [Pagination.offset?]
  rw [getListBy_eq, getListBy_eq]
  dsimp only [Params.onPage, Option.getD_some]
  rw [hplace]

end Context

namespace Builder

variable {builder : Builder} {verb resource : String} {c : Context} {params : Params}
  {envelope : Envelope} {omissions : List Omission}

/-- A list is asked for page by page: by one request, which has two numbers of its own for every
page. -/
structure Tiles (builder : Builder) (verb resource : String) (params : Params)
    (envelope : Envelope) (omissions : List Omission) : Prop where
  /-- A page whose numbers fit in 32 bits can be asked for. -/
  asked : ∀ page : Pagination, page.Fits →
    (builder.build verb resource (params.onPage page)).1 = .ok (envelope.onPage page, omissions)
  /-- Any other page is refused. -/
  refused : ∀ page : Pagination, ¬page.Fits → ∃ number ∈ ["perPage", "offset"],
    (builder.build verb resource (params.onPage page)).1
      = .error (.invalidRequest s!"pagination `{number}` does not fit in a GraphQL Int")
  /-- What is sent for a page are its numbers as they are. -/
  numbered : ∀ (page : Pagination) made reported,
    (builder.build verb resource (params.onPage page)).1 = .ok (made, reported) →
      made.Sends "first" (.integer page.perPage.toNat)
        ∧ made.Sends "offset" (.integer page.skipped)
  /-- Which records they stand for is said by the place of a record alone. -/
  placed : ∀ (page : Pagination) made reported, 0 < page.perPage.toNat →
    (builder.build verb resource (params.onPage page)).1 = .ok (made, reported) →
      ∃ offset first : Nat, made.Sends "offset" (.integer offset)
        ∧ made.Sends "first" (.integer first)
        ∧ ∀ record, offset ≤ record ∧ record < offset + first
          ↔ record / page.perPage.toNat = max page.page.toNat 1 - 1
  /-- The records of a page come right behind those of the page before it. -/
  adjacent : ∀ (page next : Pagination) made reported following later,
    1 ≤ page.page.toNat → next.page.toNat = page.page.toNat + 1 → next.perPage = page.perPage →
    (builder.build verb resource (params.onPage page)).1 = .ok (made, reported) →
    (builder.build verb resource (params.onPage next)).1 = .ok (following, later) →
      ∃ offset first : Nat, made.Sends "offset" (.integer offset)
        ∧ made.Sends "first" (.integer first)
        ∧ following.Sends "offset" (.integer (offset + first : Nat))
  /-- There is no page before the first. -/
  fromOne : ∀ perPage, (builder.build verb resource (params.onPage ⟨0, perPage⟩)).1
    = (builder.build verb resource (params.onPage ⟨1, perPage⟩)).1

/-- What is built for a list is the request of its context. -/
theorem build_list_eq (hcontext : builder.context verb resource = .ok c)
    (hverb : c.verb = .getList) (params : Params) :
    (builder.build verb resource params).1
      = (c.getListBy params params.filter).result.map fun envelope =>
          (envelope, (c.getListBy params params.filter).omissions) := by
  rw [build_eq, hcontext]
  show Except.map _ (request c params).result = _
  rw [request, hverb]
  rfl

/-- A list is built just as its page is put together. -/
theorem build_list_eq_ok_iff (hcontext : builder.context verb resource = .ok c)
    (hverb : c.verb = .getList) {params : Params} {envelope : Envelope}
    {omissions : List Omission} :
    (builder.build verb resource params).1 = .ok (envelope, omissions)
      ↔ (c.getListBy params params.filter).Reports omissions envelope := by
  rw [build_list_eq hcontext hverb]
  obtain ⟨reported, result⟩ := c.getListBy params params.filter
  cases result with
  | error refusal => exact ⟨fun h => (by cases h), fun h => (by cases h)⟩
  | ok made =>
    constructor
    · intro h
      cases h
      rfl
    · intro h
      cases h
      rfl

/-- Where some page of a list can be asked for, as the first one if no other is meant, the list can
be asked for page by page. -/
theorem build_tiles (hcontext : builder.context verb resource = .ok c)
    (hverb : c.verb = .getList)
    (hbuilt : (builder.build verb resource params).1 = .ok (envelope, omissions)) :
    builder.Tiles verb resource params envelope omissions := by
  have hpage := (build_list_eq_ok_iff hcontext hverb).1 hbuilt
  have hnumbered : ∀ (page : Pagination) made reported,
      (builder.build verb resource (params.onPage page)).1 = .ok (made, reported) →
        made.Sends "first" (.integer page.perPage.toNat)
          ∧ made.Sends "offset" (.integer page.skipped) :=
    fun page made reported h =>
      Context.sends_numbers ((build_list_eq_ok_iff hcontext hverb).1 h).endsWith
  constructor
  case asked =>
    intro page hfits
    exact (build_list_eq_ok_iff hcontext hverb).2 (Context.reports_onPage hpage hfits)
  case refused =>
    intro page hlarge
    obtain ⟨number, hnumber, hrefused⟩ := Context.refused_onPage hpage.endsWith hlarge
    refine ⟨number, hnumber, ?_⟩
    rw [build_list_eq hcontext hverb]
    exact congrArg (Except.map _) hrefused
  case numbered => exact hnumbered
  case placed =>
    intro page made reported hsize hmade
    obtain ⟨hsent, hplace⟩ := hnumbered page made reported hmade
    exact ⟨page.skipped, page.perPage.toNat, hplace, hsent, Pagination.mem_page_iff hsize⟩
  case adjacent =>
    intro page next made reported following later hone hnext hsize hmade hfollowing
    obtain ⟨hsent, hplace⟩ := hnumbered page made reported hmade
    obtain ⟨-, hbehind⟩ := hnumbered next following later hfollowing
    refine ⟨page.skipped, page.perPage.toNat, hplace, hsent, ?_⟩
    rw [← Pagination.skipped_next hsize hone hnext]
    exact hbehind
  case fromOne =>
    intro perPage
    rw [build_list_eq hcontext hverb, build_list_eq hcontext hverb]
    have hzero := c.getListBy_zero params params.filter perPage
    show Except.map _ (c.getListBy (params.onPage ⟨0, perPage⟩) params.filter).result = _
    rw [hzero]
    rfl

/-- Books are asked for twenty at a time, the third page behind the second; but not the page before
which there are so many books that their number comes back to zero in 64 bits. -/
theorem build_tiles_shelves :
    ∃ envelope omissions,
      (shelves.build "GET_LIST" "book" {}).1 = .ok (envelope, omissions)
        ∧ (shelves.build "GET_LIST" "book" (Params.onPage {} ⟨2, 20⟩)).1
          = .ok (envelope.onPage ⟨2, 20⟩, omissions)
        ∧ (envelope.onPage ⟨2, 20⟩).Sends "offset" (.integer 20)
        ∧ (envelope.onPage ⟨3, 20⟩).Sends "offset" (.integer 40)
        ∧ ∃ number ∈ ["perPage", "offset"],
          (shelves.build "GET_LIST" "book" (Params.onPage {} ⟨4611686018427387905, 4⟩)).1
            = .error (.invalidRequest s!"pagination `{number}` does not fit in a GraphQL Int") := by
  have hnothing : (Filter.compile shelves.configuration.filters shelvesContext.resourceType
      []).result = .ok none := rfl
  obtain ⟨envelope, omissions, hbuilt⟩ := @exists_shelved none [] ⟨_, hnothing⟩
  have htiles := build_tiles shelves_context rfl hbuilt
  have hsecond := htiles.asked ⟨2, 20⟩ ⟨by decide, by decide⟩
  have hthird := htiles.asked ⟨3, 20⟩ ⟨by decide, by decide⟩
  have hlarge : ¬Pagination.Fits ⟨4611686018427387905, 4⟩ := fun h => absurd h.2 (by decide)
  exact ⟨envelope, omissions, hbuilt, hsecond, (htiles.numbered _ _ _ hsecond).2,
    (htiles.numbered _ _ _ hthird).2, htiles.refused _ hlarge⟩

end Builder

end CrudGraph
