/-
Requests are consistent. Declarations, values and references to variables are written in different
places by the verbs: one variable for one record, up to five for a page, a list of identifiers deep
inside a literal, or one variable for each identifier of a batch. For every verb they agree
(`settles_request`), and therefore in everything that is built (`build_consistent`).

Every verb but the batches ends in the same two steps (`Draft.settles_finish`), so what is left to
show for it is only that its arguments refer to the variables it has declared.
-/
import CrudGraph.Proofs.Batch.Request
import CrudGraph.Proofs.Listing

namespace CrudGraph

namespace Context

variable (c : Context)

-- ============================================================== one record

/-- One record is asked for consistently. -/
theorem settles_getOne (params : Params) :
    (c.getOne params).Settles fun envelope =>
      ∃ definition, envelope.Consistent c.schema definition := by
  unfold getOne
  refine .bind (c.settles_requireId params).lift fun raw _ => ?_
  refine .bind (c.settles_requireOperation _).lift fun _ hknown => ?_
  refine .bind c.settles_select fun selections hclosed => ?_
  refine .bind (Draft.settles_start _ _).lift fun started hstart => ?_
  obtain ⟨-, hbindings, hselections⟩ := hstart
  refine .bind (c.settles_idType _).lift fun type _ => ?_
  refine .bind (Draft.settles_declare_first hbindings hselections _ _ _).lift
    fun declared hdeclared => ?_
  obtain ⟨id, draft⟩ := declared
  obtain ⟨-, hnames, hkept⟩ := hdeclared
  dsimp only at hnames hkept ⊢
  refine Draft.settles_finish hkept ?_ ?_ hclosed hknown _
  · rw [hnames]
    exact List.nodup_singleton id
  · rw [hnames]
    rfl

/-- One record is written consistently, whatever the input. -/
theorem settles_writeRecord {operation : String} (input : Table Json)
    (hknown : (c.schema.operation? operation).isSome = true) :
    (c.writeRecord operation input).Settles fun envelope =>
      ∃ definition, envelope.Consistent c.schema definition := by
  unfold writeRecord
  refine .bind c.settles_select fun selections hclosed => ?_
  refine .bind (Draft.settles_start _ _).lift fun started hstart => ?_
  obtain ⟨-, hbindings, hselections⟩ := hstart
  refine .bind (c.settles_inputType _).lift fun type _ => ?_
  refine .bind (Draft.settles_declare_first hbindings hselections _ _ _).lift
    fun declared hdeclared => ?_
  obtain ⟨name, draft⟩ := declared
  obtain ⟨-, hnames, hkept⟩ := hdeclared
  dsimp only at hnames hkept ⊢
  refine .bind (Selection.settles_call_references none c.resource.single [] hclosed).lift
    fun record hrecord => ?_
  refine Draft.settles_finish hkept ?_ ?_ ?_ hknown _
  · rw [hnames]
    exact List.nodup_singleton name
  · rw [hnames]
    rfl
  · rw [Selection.referencesOfAll_singleton]
    exact hrecord.2

-- ============================================================= many records

/-- Many records are asked for consistently, with their identifiers deep inside a filter, or without
any where there is no filter. -/
theorem settles_getMany (halias : c.key.aliasRequired = false) (params : Params) :
    (c.getMany params).Settles fun envelope =>
      ∃ definition, envelope.Consistent c.schema definition := by
  unfold getMany
  dsimp only
  rw [halias, if_neg Bool.false_ne_true]
  refine .bind (c.settles_requireOperation _).lift fun _ hknown => ?_
  refine .bind c.settles_select fun selections hclosed => ?_
  refine .bind (Draft.settles_start _ _).lift fun started hstart => ?_
  obtain ⟨-, hbindings, hselections⟩ := hstart
  -- With a filter or without one, the request ends in the same way.
  have hfinish : ∀ {draft : Draft} {arguments : List (String × Literal)},
      draft.selections = [] → draft.names.Nodup →
      arguments.flatMap (fun argument => argument.2.references) = draft.names →
      Reported.Settles (do
        let nodes ← Selection.call none "nodes" [] selections
        let root ← Selection.call none c.resource.plural arguments [nodes]
        return Envelope.ofDraft (draft.select root) (.connection c.resource.plural false))
        fun envelope => ∃ definition, envelope.Consistent c.schema definition := by
    intro draft arguments hkept hdistinct hreferenced
    refine .bind (Selection.settles_call_references none "nodes" [] hclosed).lift
      fun nodes hnodes => ?_
    refine Draft.settles_finish hkept hdistinct hreferenced ?_ hknown _
    rw [Selection.referencesOfAll_singleton]
    exact hnodes.2
  split
  · refine .bind (settles_ofText _).lift fun scalar _ => ?_
    refine .bind (Draft.settles_declare_first hbindings hselections _ _ _).lift
      fun declared hdeclared => ?_
    obtain ⟨ids, draft⟩ := declared
    obtain ⟨-, hnames, hkept⟩ := hdeclared
    dsimp only at hnames hkept ⊢
    refine .bind (settles_ofText _).lift fun operator _ => ?_
    refine .bind (settles_ofText _).lift fun field _ => ?_
    refine hfinish hkept ?_ ?_
    · rw [hnames]
      exact List.nodup_singleton ids
    · rw [hnames]
      rfl
  · have hempty : started.names = [] := List.map_eq_nil_iff.2 hbindings
    refine hfinish hselections ?_ ?_
    · rw [hempty]
      exact List.nodup_nil
    · rw [hempty]
      rfl

/-- Related records are asked for consistently. -/
theorem settles_getManyReference (params : Params) :
    (c.getManyReference params).Settles fun envelope =>
      ∃ definition, envelope.Consistent c.schema definition := by
  unfold getManyReference
  split
  · exact Settles.invalid (by decide)
  · refine .bind (c.settles_requireId params).lift fun id _ => ?_
    exact c.settles_getListBy params _

/-- A batch is asked for consistently: every call has a variable of its own. -/
theorem Batches.consistent {params : Params} {envelope : Envelope} {batch : Batch}
    {calls : List Batch.Call} {draft : Draft} (h : c.Batches params envelope batch calls draft) :
    ∃ definition, envelope.Consistent c.schema definition := by
  have hfinished := h.finished
  subst hfinished
  have hknown : (c.schema.operation? batch.operation).isSome = true := by
    rw [h.called]
    exact h.known
  exact ⟨_, (h.filled.balanced h.closed hknown).consistent (h.filled.selections_ne_nil h.given) _⟩

-- ================================================================ all verbs

/-- Every verb makes consistent requests, and none declares a variable twice. -/
theorem settles_request (params : Params) :
    (Builder.request c params).Settles fun envelope =>
      ∃ definition, envelope.Consistent c.schema definition := by
  by_cases hbatch : c.isBatch = true
  · refine .mono (c.settles_batch hbatch params) ?_
    intro envelope henvelope
    obtain ⟨batch, calls, draft, h⟩ := henvelope
    exact h.consistent
  · obtain ⟨schema, configuration, strategies, resource, type, key, verb⟩ := c
    cases verb
    case getOne => exact settles_getOne _ params
    case getList => exact settles_getListBy _ params params.filter
    case getMany => exact settles_getMany _ (Bool.not_eq_true _ ▸ hbatch) params
    case getManyReference => exact settles_getManyReference _ params
    case create =>
      refine .bind (settles_requireOperation _ _).lift fun _ hknown => ?_
      exact settles_writeRecord _ _ hknown
    case update | delete =>
      refine .bind (settles_requireId _ params).lift fun raw _ => ?_
      refine .bind (settles_requireOperation _ _).lift fun _ hknown => ?_
      exact settles_writeRecord _ _ hknown
    case updateMany | deleteMany => exact absurd rfl hbatch

end Context

namespace Builder

/-- Whatever is built is consistent with itself and with the schema of the builder, and nothing is
refused for a variable that is declared twice. -/
theorem build_consistent (builder : Builder) (verb resource : String) (params : Params) :
    (∀ envelope omissions,
        (builder.build verb resource params).1 = .ok (envelope, omissions) →
          ∃ definition, envelope.Consistent builder.schema definition)
      ∧ ∀ variableName,
        (builder.build verb resource params).1 ≠ .error (.declaredTwice variableName) := by
  have hbuild : Settles (builder.build verb resource params).1 fun built =>
      ∃ definition, built.1.Consistent builder.schema definition := by
    rw [builder.build_eq]
    refine Settles.bind (builder.settles_context verb resource) fun c hc => ?_
    rw [← hc.1]
    exact Settles.map (c.settles_request params) fun envelope hconsistent => hconsistent
  exact ⟨fun envelope omissions hbuilt => hbuild.of_eq_ok hbuilt, hbuild.ne_declaredTwice⟩

/-- Of two books that are deleted under one escaped name, each has a variable of its own. -/
theorem build_consistent_bookshop :
    ∃ envelope omissions,
      (bookshop.build "DELETE_MANY" "book" { ids := [.string "a-b", .string "a_b"] }).1
        = .ok (envelope, omissions)
      ∧ envelope.values.map (·.1) = ["arga_b", "arga_b_1"]
      ∧ ∃ definition, envelope.Consistent bookshop.schema definition := by
  obtain ⟨⟨envelope, omissions⟩, hbuilt, hvalues⟩ : ∃ built,
      (bookshop.build "DELETE_MANY" "book" { ids := [.string "a-b", .string "a_b"] }).1 = .ok built
      ∧ built.1.values.map (·.1) = ["arga_b", "arga_b_1"] :=
    exists_eq_ok_of_map (by decide +kernel)
  exact ⟨envelope, omissions, hbuilt, hvalues,
    (build_consistent bookshop "DELETE_MANY" "book" _).1 envelope omissions hbuilt⟩

end Builder

end CrudGraph
