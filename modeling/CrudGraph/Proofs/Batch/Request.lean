/-
Requests that are batches: updates and deletions of many records, and reads of many records that
are addressed one by one. They are made in two places, with different leads, arguments and values,
and their answers are decoded differently; what a batch is, is the same for all (`Fills`).

`settles_batch` says for all of them at once which operation is called, through which argument,
what is sent for an identifier, and how the answers are decoded (`Batches`). `batch_isOk_congr`
says that it is no matter of the identifiers whether there is a request: some have to be given, and
whatever else may fail is the same for all. `build_batch` is both, said of what is built.
-/
import CrudGraph.Proofs.Batch.Calls
import CrudGraph.Proofs.Build
import CrudGraph.Proofs.Context

namespace CrudGraph

namespace Context

open Batch (Call)

variable (c : Context)

-- ============================================================ what is asked

/-- Whether a request calls one operation for each identifier. -/
def isBatch : Bool :=
  match c.verb with
  | .updateMany | .deleteMany => true
  | .getMany => c.key.aliasRequired
  | _ => false

/-- The operation that is called for each identifier. -/
def batchOperation : String :=
  match c.verb with
  | .updateMany => c.key.updateOperation
  | .deleteMany => c.key.deleteOperation
  | _ => c.key.singleOperation

/-- The argument that takes what is sent. -/
def batchArgument : String :=
  match c.verb with
  | .updateMany | .deleteMany => "input"
  | _ => c.key.idArgumentName

/-- The data that an update applies to every record. -/
def batchPatch (params : Params) : Option (Table Json) :=
  match c.verb with
  | .updateMany => some (c.inputData (c.patchType c.key.updateOperation) params.data)
  | _ => none

/-- What is sent for an identifier: an input that holds it, or the identifier itself. -/
def batchValue (params : Params) (id : Json) : Json :=
  match c.verb with
  | .updateMany | .deleteMany =>
    .object (c.batchInput c.batchOperation (c.batchPatch params) id)
  | _ => c.encodeId id

/-- How the answers to calls are decoded. -/
def batchDecoder (calls : List Call) : Decoder :=
  match c.verb with
  | .updateMany | .deleteMany =>
    .identifiers (calls.map fun call => (call.key.text, call.id)) (c.echoField c.batchOperation)
  | _ => .records (calls.map (·.key.text))

/-- The request is a batch with the given calls, one for each identifier that was given. -/
structure Batches (params : Params) (envelope : Envelope) (batch : Batch) (calls : List Call)
    (draft : Draft) : Prop where
  given : givenIds params ≠ []
  called : batch.operation = c.batchOperation
  known : (c.schema.operation? c.batchOperation).isSome = true
  argued : batch.argument = c.batchArgument
  sent : batch.valueOf = c.batchValue params
  closed : Selection.referencesOfAll batch.selections = []
  filled : batch.Fills (givenIds params) calls draft
  finished : envelope = .ofDraft draft (c.batchDecoder calls)

-- ================================================================= writing

/-- Writing many records fills a request with one call for each identifier. -/
theorem settles_writeMany (params : Params) (operation label lead : String)
    (patch : Option (Table Json)) :
    (c.writeMany params operation label lead patch).Settles fun envelope =>
      givenIds params ≠ [] ∧ ∃ (batch : Batch) (calls : List Call) (draft : Draft),
        batch.operation = operation ∧ batch.argument = "input"
          ∧ c.inputType operation = .ok batch.type
          ∧ batch.valueOf = (fun id => Json.object (c.batchInput operation patch id))
          ∧ Selection.referencesOfAll batch.selections = []
          ∧ batch.Fills (givenIds params) calls draft
          ∧ envelope = .ofDraft draft
              (.identifiers (calls.map fun call => (call.key.text, call.id))
                (c.echoField operation)) := by
  unfold writeMany
  refine .bind (c.settles_requireSome _).lift fun _ hids => ?_
  refine .bind (c.settles_inputType operation).eq_ok.lift fun type htype => ?_
  refine .bind (settles_ofText _).lift fun payload _ => ?_
  refine .bind (Draft.settles_start .mutation label).lift fun draft hstart => ?_
  obtain ⟨-, hbindings, hselections⟩ := hstart
  refine .bind (Batch.settles_fill _ hbindings hselections hids).lift fun added hadded => ?_
  obtain ⟨keys, draft⟩ := added
  obtain ⟨calls, hkeys, hfills⟩ := hadded
  dsimp only at hkeys ⊢
  -- The decoder pairs keys with identifiers, and so do the calls.
  have hzip : (keys.map (·.text)).zip (givenIds params)
      = calls.map fun call => (call.key.text, call.id) := by
    rw [hkeys, ← hfills.identified, List.map_map, List.zip_map']
    rfl
  rw [hzip]
  exact Settles.ok ⟨hids, _, calls, draft, rfl, rfl, htype, rfl, rfl, hfills, rfl⟩

/-- Whether many records can be written depends on the operation and the names that it is called
with. -/
theorem writeMany_isOk_iff (params : Params) (operation label : String) {lead : String}
    (hlead : isName lead.toList = true) (patch : Option (Table Json))
    (hids : givenIds params ≠ []) :
    (∃ envelope, (c.writeMany params operation label lead patch).result = .ok envelope)
      ↔ (∃ type, c.inputType operation = .ok type)
        ∧ (∃ payload, Name.ofText ((c.echoField operation).getD "__typename") = .ok payload)
        ∧ (∃ draft, Draft.start .mutation label = .ok draft)
        ∧ isName operation.toList = true := by
  have harg : isName "arg".toList = true := by decide
  have hinput : isName "input".toList = true := by decide
  simp only [writeMany, Reported.result_bind, Reported.result_lift, Reported.result_pure]
  constructor
  · intro h
    obtain ⟨envelope, h⟩ := h
    obtain ⟨_, -, h⟩ := bind_eq_ok_iff.1 h
    obtain ⟨type, htype, h⟩ := bind_eq_ok_iff.1 h
    obtain ⟨payload, hpayload, h⟩ := bind_eq_ok_iff.1 h
    obtain ⟨draft, hdraft, h⟩ := bind_eq_ok_iff.1 h
    obtain ⟨added, hadded, -⟩ := bind_eq_ok_iff.1 h
    obtain ⟨-, hbindings, -⟩ := (Draft.settles_start _ _).of_eq_ok hdraft
    obtain ⟨hoperation, -⟩ :=
      (Batch.fill_isOk_iff hlead (fun _ => harg) hbindings hids).1 ⟨added, hadded⟩
    exact ⟨⟨type, htype⟩, ⟨payload, hpayload⟩, ⟨draft, hdraft⟩, hoperation⟩
  · intro h
    obtain ⟨⟨type, htype⟩, ⟨payload, hpayload⟩, ⟨draft, hdraft⟩, hoperation⟩ := h
    obtain ⟨-, hbindings, -⟩ := (Draft.settles_start _ _).of_eq_ok hdraft
    refine exists_ok_bind (c.requireSome_eq_ok hids) (exists_ok_bind htype
      (exists_ok_bind hpayload (exists_ok_bind hdraft ?_)))
    -- No part but the last depends on the identifiers, and that one cannot run out of names.
    exact exists_ok_bind_of_forall
      ((Batch.fill_isOk_iff hlead (fun _ => harg) hbindings hids).2 ⟨hoperation, hinput⟩)
      fun _ => ⟨_, rfl⟩

-- ================================================================= reading

/-- Looking records up one by one fills a request with one call for each identifier. -/
theorem settles_getManyByLookup (ids : List Json) :
    (c.getManyByLookup ids).Settles fun envelope =>
      ids ≠ [] ∧ (c.schema.operation? c.key.singleOperation).isSome = true
        ∧ ∃ (batch : Batch) (calls : List Call) (draft : Draft),
          batch.operation = c.key.singleOperation ∧ batch.argument = c.key.idArgumentName
            ∧ c.idType c.key.singleOperation = .ok batch.type
            ∧ c.select.result = .ok batch.selections
            ∧ batch.valueOf = c.encodeId
            ∧ Selection.referencesOfAll batch.selections = []
            ∧ batch.Fills ids calls draft
            ∧ envelope = .ofDraft draft (.records (calls.map (·.key.text))) := by
  unfold getManyByLookup
  refine .bind (c.settles_requireSome ids).lift fun _ hids => ?_
  refine .bind (c.settles_requireOperation _).lift fun _ hoperation => ?_
  refine .bind c.settles_select.eq_ok fun selections hselect => ?_
  have hclosed := c.settles_select.of_eq_ok hselect
  refine .bind (c.settles_idType _).eq_ok.lift fun type htype => ?_
  refine .bind (Draft.settles_start .query c.resource.plural).lift fun draft hstart => ?_
  obtain ⟨-, hbindings, hselections⟩ := hstart
  refine .bind (Batch.settles_fill _ hbindings hselections hids).lift fun added hadded => ?_
  obtain ⟨keys, draft⟩ := added
  obtain ⟨calls, hkeys, hfills⟩ := hadded
  dsimp only at hkeys ⊢
  have hmap : keys.map (·.text) = calls.map (·.key.text) := by
    rw [hkeys, List.map_map]
    rfl
  rw [hmap]
  exact Settles.ok ⟨hids, hoperation, _, calls, draft, rfl, rfl, htype, hselect, rfl, hclosed,
    hfills, rfl⟩

/-- Whether records can be looked up one by one depends on the schema and the resource. -/
theorem getManyByLookup_isOk_iff {ids : List Json} (hids : ids ≠ []) :
    (∃ envelope, (c.getManyByLookup ids).result = .ok envelope)
      ↔ (∃ found, c.requireOperation c.key.singleOperation = .ok found)
        ∧ (∃ selections, c.select.result = .ok selections)
        ∧ (∃ type, c.idType c.key.singleOperation = .ok type)
        ∧ (∃ draft, Draft.start .query c.resource.plural = .ok draft)
        ∧ isName c.key.singleOperation.toList = true
        ∧ isName c.key.idArgumentName.toList = true := by
  have hlead : isName "k".toList = true := by decide
  simp only [getManyByLookup, Reported.result_bind, Reported.result_lift, Reported.result_pure]
  constructor
  · intro h
    obtain ⟨envelope, h⟩ := h
    obtain ⟨_, -, h⟩ := bind_eq_ok_iff.1 h
    obtain ⟨found, hfound, h⟩ := bind_eq_ok_iff.1 h
    obtain ⟨selections, hselections, h⟩ := bind_eq_ok_iff.1 h
    obtain ⟨type, htype, h⟩ := bind_eq_ok_iff.1 h
    obtain ⟨draft, hdraft, h⟩ := bind_eq_ok_iff.1 h
    obtain ⟨added, hadded, -⟩ := bind_eq_ok_iff.1 h
    obtain ⟨-, hbindings, -⟩ := (Draft.settles_start _ _).of_eq_ok hdraft
    obtain ⟨hoperation, hargument⟩ :=
      (Batch.fill_isOk_iff hlead (fun h => h) hbindings hids).1 ⟨added, hadded⟩
    exact ⟨⟨found, hfound⟩, ⟨selections, hselections⟩, ⟨type, htype⟩, ⟨draft, hdraft⟩,
      hoperation, hargument⟩
  · intro h
    obtain ⟨⟨found, hfound⟩, ⟨selections, hselections⟩, ⟨type, htype⟩, ⟨draft, hdraft⟩,
      hoperation, hargument⟩ := h
    obtain ⟨-, hbindings, -⟩ := (Draft.settles_start _ _).of_eq_ok hdraft
    refine exists_ok_bind (c.requireSome_eq_ok hids) (exists_ok_bind hfound
      (exists_ok_bind hselections (exists_ok_bind htype (exists_ok_bind hdraft ?_))))
    exact exists_ok_bind_of_forall
      ((Batch.fill_isOk_iff hlead (fun h => h) hbindings hids).2 ⟨hoperation, hargument⟩)
      fun _ => ⟨_, rfl⟩

-- ============================================================== all of them

/-- What the request of a batch verb consists of. -/
theorem settles_batch (hbatch : c.isBatch = true) (params : Params) :
    (Builder.request c params).Settles fun envelope =>
      ∃ batch calls draft, c.Batches params envelope batch calls draft := by
  obtain ⟨schema, configuration, strategies, resource, type, key, verb⟩ := c
  cases verb
  case updateMany | deleteMany =>
    refine .bind (settles_requireOperation _ _).lift fun _ hknown => ?_
    refine .mono (settles_writeMany _ _ _ _ _ _) ?_
    intro envelope henvelope
    obtain ⟨hids, batch, calls, draft, hcalled, hargued, -, hsent, hclosed, hfilled, rfl⟩ :=
      henvelope
    exact ⟨batch, calls, draft, hids, hcalled, hknown, hargued, hsent, hclosed, hfilled, rfl⟩
  case getMany =>
    change key.aliasRequired = true at hbatch
    simp only [Builder.request, getMany, hbatch, if_true]
    refine .mono (settles_getManyByLookup _ _) ?_
    intro envelope henvelope
    obtain ⟨hids, hknown, batch, calls, draft, hcalled, hargued, -, -, hsent, hclosed, hfilled,
      rfl⟩ := henvelope
    exact ⟨batch, calls, draft, hids, hcalled, hknown, hargued, hsent, hclosed, hfilled, rfl⟩
  all_goals cases hbatch

/-- Of two requests of one batch verb that both give identifiers, either both can be made or
neither. -/
theorem batch_isOk_congr (hbatch : c.isBatch = true) {params other : Params}
    (hparams : givenIds params ≠ []) (hother : givenIds other ≠ []) :
    (∃ envelope, (Builder.request c params).result = .ok envelope)
      ↔ ∃ envelope, (Builder.request c other).result = .ok envelope := by
  obtain ⟨schema, configuration, strategies, resource, type, key, verb⟩ := c
  cases verb
  case updateMany =>
    have hlead : isName "update".toList = true := by decide
    simp only [Builder.request, updateMany, Reported.result_bind, Reported.result_lift]
    refine exists_ok_bind_congr fun _ _ => ?_
    rw [writeMany_isOk_iff _ _ _ _ hlead _ hparams, writeMany_isOk_iff _ _ _ _ hlead _ hother]
  case deleteMany =>
    have hlead : isName "k".toList = true := by decide
    simp only [Builder.request, deleteMany, Reported.result_bind, Reported.result_lift]
    refine exists_ok_bind_congr fun _ _ => ?_
    rw [writeMany_isOk_iff _ _ _ _ hlead _ hparams, writeMany_isOk_iff _ _ _ _ hlead _ hother]
  case getMany =>
    change key.aliasRequired = true at hbatch
    simp only [Builder.request, getMany, hbatch, if_true]
    rw [getManyByLookup_isOk_iff _ hparams, getManyByLookup_isOk_iff _ hother]
  all_goals cases hbatch

-- ============================================================= what is built

/-- One operation with one root field for each identifier that was given, in their order. All call
the same root operation, each under a key of its own and with nothing but a variable of its own,
and they declare these variables in the same order. The decoder reads the same keys in the same
order. -/
structure Calls (params : Params) (envelope : Envelope) (definition : OperationDefinition)
    (operation argument : Name) (calls : List Call) : Prop where
  single : envelope.document.operations = [definition]
  identified : calls.map (·.id) = givenIds params
  called : operation.text = c.batchOperation
  argued : argument.text = c.batchArgument
  rooted : definition.selections.map (fun root => (root.responseName?, root.name, root.arguments))
    = calls.map fun call =>
        (some call.key, operation, [(argument, Literal.reference call.variableName)])
  declared : definition.declarations.map (·.name) = calls.map (·.variableName)
  valued : envelope.values
    = calls.map fun call => (call.variableName.text, c.batchValue params call.id)
  keysDistinct : (calls.map (·.key.text)).Nodup
  variablesDistinct : (calls.map (·.variableName.text)).Nodup
  valid : ∀ call ∈ calls,
    isName call.key.text.toList = true ∧ isName call.variableName.text.toList = true
  decoded : envelope.decoder = c.batchDecoder calls

/-- What a batch looks like from outside. -/
theorem Batches.calls {params : Params} {envelope : Envelope} {batch : Batch} {calls : List Call}
    {draft : Draft} (h : c.Batches params envelope batch calls draft) :
    ∃ definition operation argument,
      c.Calls params envelope definition operation argument calls := by
  obtain ⟨-, hcalled, -, hargued, hsent, -, hfilled, rfl⟩ := h
  obtain ⟨operation, argument, hoperation, hargument, hselected⟩ := hfilled.selected
  refine ⟨draft.definition, operation, argument, rfl, hfilled.identified,
    hoperation.trans hcalled, hargument.trans hargued, ?_, ?_, ?_, ?_, ?_, ?_, rfl⟩
  · show draft.selections.map _ = _
    rw [hselected, List.map_map]
    rfl
  · show (draft.bindings.map _).map _ = _
    rw [hfilled.bound, List.map_map, List.map_map]
    rfl
  · show draft.bindings.map _ = _
    rw [hfilled.bound, List.map_map, ← hsent]
    rfl
  · exact Name.nodup_texts hfilled.keysDistinct
  · exact Name.nodup_texts hfilled.variablesDistinct
  · exact fun call _ => ⟨call.key.valid, call.variableName.valid⟩

end Context

namespace Builder

open Context (givenIds)

/-- Some identifier that is not null is one that is given. -/
theorem givenIds_ne_nil {params : Params} (h : ∃ id ∈ params.ids, id.isNull = false) :
    givenIds params ≠ [] := by
  obtain ⟨id, hmem, hnull⟩ := h
  refine List.ne_nil_of_mem (a := id) ?_
  exact List.mem_filter.2 ⟨hmem, by rw [hnull]; rfl⟩

/-- Where updates or deletes of many records, or reads of many records through the synthetic
identifier, are built, there is one call for each identifier that is not null. Whether they are
built does not depend on the identifiers, as soon as one of them is not null. -/
theorem build_batch (builder : Builder) {verb resource : String} {c : Context}
    (hcontext : builder.context verb resource = .ok c) (hbatch : c.isBatch = true) :
    (∀ params envelope omissions,
        (builder.build verb resource params).1 = .ok (envelope, omissions) →
          ∃ definition operation argument calls,
            c.Calls params envelope definition operation argument calls)
      ∧ ∀ params other,
        (∃ id ∈ params.ids, id.isNull = false) → (∃ id ∈ other.ids, id.isNull = false) →
          ((∃ built, (builder.build verb resource params).1 = .ok built)
            ↔ ∃ built, (builder.build verb resource other).1 = .ok built) := by
  have hrequested : ∀ params, (∃ built, (builder.build verb resource params).1 = .ok built)
      ↔ ∃ envelope, (request c params).result = .ok envelope := by
    intro params
    constructor
    · intro h
      obtain ⟨⟨envelope, omissions⟩, hbuilt⟩ := h
      obtain ⟨c', hcontext', hrequest, -⟩ := builder.build_eq_ok_iff.1 hbuilt
      cases hcontext.symm.trans hcontext'
      exact ⟨envelope, hrequest⟩
    · intro h
      obtain ⟨envelope, hrequest⟩ := h
      exact ⟨(envelope, _), builder.build_eq_ok_iff.2 ⟨c, hcontext, hrequest, rfl⟩⟩
  refine ⟨fun params envelope omissions hbuilt => ?_, fun params other hparams hother => ?_⟩
  · obtain ⟨c', hcontext', hrequest, -⟩ := builder.build_eq_ok_iff.1 hbuilt
    cases hcontext.symm.trans hcontext'
    obtain ⟨batch, calls, draft, h⟩ := (c.settles_batch hbatch params).of_eq_ok hrequest
    obtain ⟨definition, operation, argument, hcalls⟩ := h.calls
    exact ⟨definition, operation, argument, calls, hcalls⟩
  · rw [hrequested params, hrequested other]
    exact c.batch_isOk_congr hbatch (givenIds_ne_nil hparams) (givenIds_ne_nil hother)

/-- Deletes of books whose identifiers escape to the same name, or to one with a number behind
it. -/
theorem build_batch_bookshop :
    ∃ c, bookshop.context "DELETE_MANY" "book" = .ok c ∧ c.isBatch = true
      ∧ ∃ envelope omissions,
        (bookshop.build "DELETE_MANY" "book"
            { ids := [.string "a-b", .string "a_b", .null, .string "a_b_1"] }).1
          = .ok (envelope, omissions)
        ∧ ∃ definition operation argument calls,
          c.Calls { ids := [.string "a-b", .string "a_b", .null, .string "a_b_1"] } envelope
            definition operation argument calls := by
  obtain ⟨c, hcontext, hbatch⟩ : ∃ c, bookshop.context "DELETE_MANY" "book" = .ok c
      ∧ c.isBatch = true := exists_eq_ok_of_map (by decide +kernel)
  obtain ⟨⟨envelope, omissions⟩, hbuilt, -⟩ : ∃ built, (bookshop.build "DELETE_MANY" "book"
      { ids := [.string "a-b", .string "a_b", .null, .string "a_b_1"] }).1 = .ok built
      ∧ built.2 = [] := exists_eq_ok_of_map (by decide +kernel)
  exact ⟨c, hcontext, hbatch, envelope, omissions, hbuilt,
    (build_batch bookshop hcontext hbatch).1 _ _ _ hbuilt⟩

end Builder

end CrudGraph
