/-
Which steps leave out entries of a filter. Omissions are reported by several steps of a request, and
each step has its own kinds: a filter reports the keys that it drops, selections report fields, and
a page reports its ordering and arguments. Only the compilation of a filter names keys of it, and it
reports nothing else (`Filter.filterKey?_of_compile`); a computation that does not is quiet
(`Reported.Quiet`), and all the others are, the walk over the schema among them
(`Projector.quiet_select`).

Leaving out the reports on some keys of a filter (`Reported.without`) goes through a computation
step by step, and quiet steps are not changed by it.
-/
import CrudGraph.Proofs.Outcome
import CrudGraph.Proofs.Selection.Walk
import CrudGraph.Request.Builder

namespace CrudGraph

-- ============================================================== omissions

/-- The key of a filter that an omission reports on. -/
def Omission.filterKey? : Omission → Option String
  | .unknownFilterKey _ key | .clearedFilterKey key => some key
  | _ => none

/-- Whether an omission reports on one of some keys of a filter. -/
def Omission.isOf (keys : List String) (omission : Omission) : Bool :=
  omission.filterKey?.any fun key => keys.contains key

namespace Reported

variable {α β : Type}

/-- A computation without its reports on some keys of a filter. -/
def without (keys : List String) (reported : Reported α) : Reported α :=
  ⟨reported.omissions.filter fun omission => !omission.isOf keys, reported.result⟩

/-- Reports can be left out of two steps one by one: the second one goes on from the value of the
first, which does not depend on reports. -/
theorem without_bind (keys : List String) (first : Reported α) (next : α → Reported β) :
    (first >>= next).without keys
      = first.without keys >>= fun value => (next value).without keys := by
  obtain ⟨omissions, result⟩ := first
  cases result with
  | ok value =>
      rw [bind_ok rfl]
      show Reported.mk _ _ = _
      rw [List.filter_append]
      rfl
  | error refusal => rfl

/-- A computation that reports on no key of a filter. -/
def Quiet (reported : Reported α) : Prop :=
  ∀ omission ∈ reported.omissions, omission.filterKey? = none

namespace Quiet

variable {reported : Reported α}

/-- A quiet computation has no such reports to lose. -/
theorem without_eq (h : reported.Quiet) (keys : List String) :
    reported.without keys = reported := by
  have hkept : reported.omissions.filter (fun omission => !omission.isOf keys)
      = reported.omissions := by
    refine List.filter_eq_self.2 fun omission homission => ?_
    rw [Omission.isOf, h omission homission]
    rfl
  rw [without, hkept]

/-- A value alone reports nothing. -/
theorem pure (value : α) : (pure value : Reported α).Quiet :=
  fun _ h => by cases h

/-- A step that only succeeds or refuses reports nothing. -/
theorem lift (result : Except Refusal α) : (liftM result : Reported α).Quiet :=
  fun _ h => by cases h

/-- A refusal is no report. -/
theorem refuse (refusal : Refusal) : (Reported.refuse refusal : Reported α).Quiet :=
  fun _ h => by cases h

/-- A report is quiet when it is on something else than a key. -/
theorem leaveOut {omission : Omission} (h : omission.filterKey? = none) :
    (Reported.leaveOut omission).Quiet := by
  intro other hother
  rw [List.mem_singleton.1 hother]
  exact h

/-- One quiet step after the other. -/
theorem bind {next : α → Reported β} (h : reported.Quiet) (hnext : ∀ value, (next value).Quiet) :
    (reported >>= next).Quiet := by
  intro omission homission
  rcases mem_omissions_bind homission with homission | ⟨value, homission⟩
  · exact h omission homission
  · exact hnext value omission homission

/-- A step without omissions, before a quiet one. -/
theorem lift_bind {result : Except Refusal α} {next : α → Reported β}
    (hnext : ∀ value, (next value).Quiet) : ((liftM result : Reported α) >>= next).Quiet :=
  (lift result).bind hnext

end Quiet

end Reported

-- ================================================================= filters

namespace Filter

variable {operators : FilterOperators} {type : NamedType}

/-- All that is reported of an entry is reported on its key. -/
theorem filterKey?_of_compileEntry {key : String} {value : Json} {omission : Omission}
    (h : omission ∈ (compileEntry operators type key value).omissions) :
    omission.filterKey? = some key := by
  unfold compileEntry at h
  split at h
  · cases h
  · split at h
    · rcases List.mem_append.1 h with h | h
      · rw [List.mem_singleton.1 h]
        rfl
      · cases h
    · next field hfield =>
      rcases hnormal : normalize operators field value with refusal | (_ | spec)
      · rw [hnormal] at h
        cases h
      · rw [hnormal] at h
        rw [List.mem_singleton.1 h]
        rfl
      · rw [hnormal] at h
        cases h

/-- So all that is reported of a filter is reported on its keys. -/
theorem filterKey?_of_clauses {entries : List (String × Json)} {omission : Omission}
    (h : omission ∈ (clauses operators type entries).omissions) :
    ∃ key, omission.filterKey? = some key := by
  induction entries with
  | nil => cases h
  | cons entry rest ih =>
    obtain ⟨key, value⟩ := entry
    rcases Reported.mem_omissions_bind h with h | ⟨first, h⟩
    · exact ⟨key, filterKey?_of_compileEntry h⟩
    · rcases Reported.mem_omissions_bind h with h | ⟨others, h⟩
      · exact ih h
      · cases h

/-- And the compiled filter reports nothing besides: conjoining the clauses leaves nothing out. -/
theorem filterKey?_of_compile {filter : Table Json} {omission : Omission}
    (h : omission ∈ (compile operators type filter).omissions) :
    ∃ key, omission.filterKey? = some key := by
  rcases Reported.mem_omissions_bind h with h | ⟨all, h⟩
  · exact filterKey?_of_clauses h
  · cases h

end Filter

open Reported (Quiet)

-- ============================================================== selections

namespace Projector

variable (p : Projector)

/-- A report on a field is none on a key of a filter. -/
theorem filterKey?_of_field? {omission : Omission} {names : String × String}
    (h : omission.field? = some names) : omission.filterKey? = none := by
  cases omission with
  | unknownFilterKey | clearedFilterKey => cases h
  | _ => rfl

/-- A walk over a schema reports on fields only. -/
theorem quiet_select (typeName : String) (key : Option PrimaryKey) :
    (p.select typeName key).Quiet := by
  intro omission h
  obtain ⟨names, hnames⟩ := p.field?_of_mem_select h
  exact filterKey?_of_field? hnames

end Projector

-- ================================================================ requests

namespace Context

variable (c : Context)

/-- The selections of a request are one such walk. -/
theorem quiet_select : c.select.Quiet :=
  Projector.quiet_select _ _ _

/-- The request on one record leaves out fields at most. -/
theorem quiet_getOne (params : Params) : (c.getOne params).Quiet := by
  refine .lift_bind fun raw => .lift_bind fun _ => .bind c.quiet_select fun selections => ?_
  refine .lift_bind fun started => .lift_bind fun type => .lift_bind fun declared => ?_
  exact .lift_bind fun root => .pure _

/-- An ordering that is not known is reported as one, not as a key that is named alike. -/
theorem quiet_orderBy (sort : Option SortBy) : (c.orderBy sort).Quiet := by
  unfold orderBy
  dsimp only
  split
  · exact .pure _
  · exact .bind (.leaveOut rfl) fun _ => .pure _
  · exact .pure _
  · split
    · exact .pure _
    · exact .bind (.leaveOut rfl) fun _ => .pure _

/-- Arguments that an operation lacks are reported as arguments, with the filter among them: it is
left out there as a whole. -/
theorem quiet_passArguments (operation : String) (draft : Draft)
    (given : List (String × Option Json)) : (c.passArguments operation draft given).Quiet := by
  induction given generalizing draft with
  | nil => exact .pure _
  | cons entry rest ih =>
      obtain ⟨argument, value⟩ := entry
      cases value with
      | none => exact ih draft
      | some value =>
          rw [passArguments]
          split
          · exact .bind (.leaveOut rfl) fun _ => ih draft
          · refine .lift_bind fun type => .lift_bind fun declared => ?_
            exact .bind (ih declared.2) fun passed => .pure _

/-- Records that are read by their identifiers have no filter of the caller, through any of the
three ways to look them up. -/
theorem quiet_getMany (params : Params) : (c.getMany params).Quiet := by
  unfold getMany
  dsimp only
  split
  · refine .lift_bind fun _ => .lift_bind fun _ => .bind c.quiet_select fun selections => ?_
    refine .lift_bind fun type => .lift_bind fun started => .lift_bind fun added => .pure _
  · refine .lift_bind fun _ => .bind c.quiet_select fun selections => .lift_bind fun started => ?_
    split
    · refine .lift_bind fun scalar => .lift_bind fun declared => .lift_bind fun operator => ?_
      refine .lift_bind fun field => .bind (.pure _) fun arguments => ?_
      exact .lift_bind fun nodes => .lift_bind fun root => .pure _
    · refine .bind (.pure _) fun arguments => ?_
      exact .lift_bind fun nodes => .lift_bind fun root => .pure _

/-- Writing a record leaves out fields of it at most. -/
theorem quiet_writeRecord (operation : String) (input : Table Json) :
    (c.writeRecord operation input).Quiet := by
  refine .bind c.quiet_select fun selections => .lift_bind fun started => ?_
  refine .lift_bind fun type => .lift_bind fun declared => .lift_bind fun record => ?_
  exact .lift_bind fun root => .pure _

/-- Writing many records selects nothing of them, so no field is left out. -/
theorem quiet_writeMany (params : Params) (operation label lead : String)
    (patch : Option (Table Json)) : (c.writeMany params operation label lead patch).Quiet := by
  refine .lift_bind fun _ => .lift_bind fun type => .lift_bind fun payload => ?_
  exact .lift_bind fun started => .lift_bind fun added => .pure _

theorem quiet_create (params : Params) : (c.create params).Quiet :=
  .lift_bind fun _ => c.quiet_writeRecord _ _

theorem quiet_update (params : Params) : (c.update params).Quiet :=
  .lift_bind fun _ => .lift_bind fun _ => c.quiet_writeRecord _ _

theorem quiet_delete (params : Params) : (c.delete params).Quiet :=
  .lift_bind fun _ => .lift_bind fun _ => c.quiet_writeRecord _ _

theorem quiet_updateMany (params : Params) : (c.updateMany params).Quiet :=
  .lift_bind fun _ => c.quiet_writeMany _ _ _ _ _

theorem quiet_deleteMany (params : Params) : (c.deleteMany params).Quiet :=
  .lift_bind fun _ => c.quiet_writeMany _ _ _ _ _

end Context

end CrudGraph
