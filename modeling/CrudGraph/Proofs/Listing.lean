/-
Pages of lists. A list operation takes up to five arguments, each through a variable of its own
name; which of them there are depends on the schema and on what a caller asks for. However many are
passed on, the variables that are declared for them are those that the arguments refer to, one each
and in the same order (`settles_passArguments`), and their names are different because those of the
five arguments are.

The values that are passed on, a filter and an ordering among them, are JSON behind variables, so
nothing in them refers to anything.
-/
import CrudGraph.Proofs.Context
import CrudGraph.Proofs.Draft

namespace CrudGraph

-- ================================================================ filters

namespace Filter

variable (operators : FilterOperators)

/-- The specification of a filter entry is JSON: it is refused for its shape only. -/
theorem settles_normalize (field : Field) (value : Json) :
    Settles (normalize operators field value) fun _ => True := by
  have hspec : Settles (some <$> defaultSpec operators field value) fun _ => True := by
    unfold defaultSpec
    dsimp only
    split
    · exact Settles.error fun reason => by simp
    · split
      · exact Settles.ok trivial
      · split
        · exact Settles.ok trivial
        · exact Settles.ok trivial
  have hexplicit : ∀ members, Settles (explicitSpec field members) fun _ => True := by
    intro members
    unfold explicitSpec
    dsimp only
    split
    · split
      · split
        · exact Settles.ok trivial
        · split
          · exact Settles.ok trivial
          · exact Settles.ok trivial
          · exact Settles.ok trivial
          · exact Settles.error fun reason => by simp
      · exact Settles.error fun reason => by simp
    · exact Settles.error fun reason => by simp
  unfold normalize
  split
  · exact Settles.ok trivial
  · exact Settles.ok trivial
  · exact hexplicit _
  · exact hspec

/-- Entries of a filter declare no variable. -/
theorem settles_compileEntry (type : NamedType) (key : String) (value : Json) :
    (compileEntry operators type key value).Settles fun _ => True := by
  unfold compileEntry
  split
  · exact Settles.ok trivial
  · split
    · exact Settles.ok trivial
    · next field _ =>
      refine .bind (settles_normalize operators field value).lift fun spec _ => ?_
      cases spec with
      | none => exact Settles.ok trivial
      | some spec => exact Settles.ok trivial

/-- A filter declares none either; the compiled value goes behind a variable of the page. -/
theorem settles_compile (type : NamedType) (filter : Table Json) :
    (compile operators type filter).Settles fun _ => True := by
  have hclauses : (clauses operators type filter).Settles fun _ => True := by
    induction filter with
    | nil => exact Settles.ok trivial
    | cons entry rest ih =>
        obtain ⟨key, value⟩ := entry
        rw [clauses]
        refine .bind (settles_compileEntry operators type key value) fun _ _ => ?_
        exact .bind ih fun _ _ => Settles.ok trivial
  exact .bind hclauses fun _ _ => Settles.ok trivial

end Filter

namespace Context

variable (c : Context)

-- ======================================================== pages and orders

/-- A number that does not fit is refused with a text of its own. -/
theorem settles_pageNumber (name : String) (value : Option UInt64) :
    Settles (pageNumber name value) fun _ => True := by
  unfold pageNumber
  split
  · exact Settles.ok trivial
  · refine Settles.invalid fun h => ?_
    simp only [String.toList_append] at h
    cases h

/-- An ordering is never refused. -/
theorem settles_orderBy (sort : Option SortBy) :
    (c.orderBy sort).Settles fun _ => True := by
  unfold orderBy
  dsimp only
  split
  · exact Settles.ok trivial
  · exact Settles.ok trivial
  · exact Settles.ok trivial
  · split
    · exact Settles.ok trivial
    · exact Settles.ok trivial

-- ============================================================== arguments

/-- The arguments that are passed on refer to the variables that are declared for them, one each and
in the same order. -/
theorem settles_passArguments (operation : String) (draft : Draft)
    (given : List (String × Option Json))
    (hdistinct : (draft.names.map (·.text) ++ given.map (·.1)).Nodup) :
    (c.passArguments operation draft given).Settles fun passed =>
      ∃ extra : List Name,
        passed.1 = extra.map (fun name => (name.text, .reference name))
          ∧ passed.2.names = draft.names ++ extra ∧ passed.2.names.Nodup
          ∧ passed.2.selections = draft.selections := by
  induction given generalizing draft with
  | nil =>
      rw [List.map_nil, List.append_nil] at hdistinct
      exact Settles.ok ⟨[], rfl, (List.append_nil _).symm, .of_map _ hdistinct, rfl⟩
  | cons entry rest ih =>
      obtain ⟨argument, value⟩ := entry
      have hskip := ih draft (hdistinct.sublist ((List.sublist_cons_self _ _).append_left _))
      cases value with
      | none => exact hskip
      | some value =>
          rw [passArguments]
          split
          · exact hskip
          · refine .bind (TypeRef.settles_toExpr _).lift fun type _ => ?_
            -- The names of the arguments are different from one another and from those that are
            -- declared.
            have hnew : argument ∉ draft.names.map (·.text) := fun hmem =>
              (List.nodup_append.1 hdistinct).2.2 argument hmem argument List.mem_cons_self rfl
            refine .bind (draft.settles_declare_names type value hnew).lift fun step hstep => ?_
            obtain ⟨name, declared⟩ := step
            obtain ⟨hname, hnames, hkept⟩ := hstep
            dsimp only at hname hnames hkept ⊢
            have hstill : (declared.names.map (·.text) ++ rest.map (·.1)).Nodup := by
              rw [hnames, List.map_append, List.map_singleton, hname, List.append_assoc]
              exact hdistinct
            refine .bind (ih declared hstill) fun others hothers => ?_
            obtain ⟨arguments, passed⟩ := others
            obtain ⟨extra, harguments, hpassed, hnodup, hlast⟩ := hothers
            dsimp only at harguments hpassed hnodup hlast
            refine Settles.ok ⟨name :: extra, ?_, ?_, hnodup, hlast.trans hkept⟩
            · rw [List.map_cons, harguments, hname]
            · rw [hpassed, hnames, List.append_assoc]
              rfl

-- ================================================================= a page

/-- A page of a list is asked for consistently, whatever its filter. -/
theorem settles_getListBy (params : Params) (filter : Table Json) :
    (c.getListBy params filter).Settles fun envelope =>
      ∃ definition, envelope.Consistent c.schema definition := by
  unfold getListBy
  refine .bind (c.settles_requireOperation _).lift fun _ hknown => ?_
  refine .bind (Filter.settles_compile _ _ _) fun compiled _ => ?_
  refine .bind c.settles_select fun selections hclosed => ?_
  refine .bind (Draft.settles_start _ _).lift fun started hstart => ?_
  obtain ⟨-, hbindings, hselections⟩ := hstart
  refine .bind (settles_pageNumber _ _).lift fun first _ => ?_
  refine .bind (settles_pageNumber _ _).lift fun offset _ => ?_
  refine .bind (settles_ofText _).lift fun int _ => ?_
  -- the two variables of the page
  refine .bind (Draft.settles_declare_first hbindings hselections _ _ _).lift
    fun declaredFirst hdeclaredFirst => ?_
  obtain ⟨firstName, firstDraft⟩ := declaredFirst
  obtain ⟨hfirst, hfirstNames, hfirstKept⟩ := hdeclaredFirst
  dsimp only at hfirst hfirstNames hfirstKept ⊢
  have hother : "offset" ∉ firstDraft.names.map (·.text) := by
    rw [hfirstNames, List.map_singleton, hfirst]
    decide
  refine .bind (firstDraft.settles_declare_names _ _ hother).lift
    fun declaredOffset hdeclaredOffset => ?_
  obtain ⟨offsetName, pageDraft⟩ := declaredOffset
  obtain ⟨hoffset, hpageNames, hpageKept⟩ := hdeclaredOffset
  dsimp only at hoffset hpageNames hpageKept ⊢
  rw [hfirstNames] at hpageNames
  have hpageTexts : pageDraft.names.map (·.text) = ["first", "offset"] := by
    rw [hpageNames, List.map_append, List.map_singleton, List.map_singleton, hfirst, hoffset]
    rfl
  -- and those of the arguments that are passed on
  refine .bind (c.settles_orderBy _) fun order _ => ?_
  have hdistinct : ["first", "offset", "filter", "condition", "orderBy"].Nodup := by decide
  refine .bind (c.settles_passArguments _ pageDraft _ (by rw [hpageTexts]; exact hdistinct))
    fun step hstep => ?_
  obtain ⟨passed, draft⟩ := step
  obtain ⟨extra, hpassed, hnames, hnodup, hkept⟩ := hstep
  dsimp only at hpassed hnames hnodup hkept ⊢
  rw [hpageNames] at hnames
  refine .bind (Selection.settles_call_references none "nodes" [] hclosed).lift
    fun nodes hnodes => ?_
  have hkept : draft.selections = [] := by
    rw [hkept, hpageKept, hfirstKept]
  have hreferenced : (("first", Literal.reference firstName)
      :: ("offset", Literal.reference offsetName) :: passed).flatMap
        (fun argument => argument.2.references) = draft.names := by
    rw [hnames, hpassed, List.flatMap_cons, List.flatMap_cons, List.flatMap_map]
    simp only [Literal.references, List.flatMap_singleton', List.append_assoc]
  have hclosed : ∀ totals, Selection.referencesOfAll totals = [] →
      Selection.referencesOfAll (nodes :: totals) = [] := by
    intro totals htotals
    rw [Selection.referencesOfAll, hnodes.2, htotals]
    rfl
  split
  · refine .bind (settles_ofText _).lift fun total _ => ?_
    exact Draft.settles_finish hkept hnodup hreferenced (hclosed [.leaf total] rfl) hknown _
  · exact Draft.settles_finish hkept hnodup hreferenced (hclosed [] rfl) hknown _

end Context

end CrudGraph
