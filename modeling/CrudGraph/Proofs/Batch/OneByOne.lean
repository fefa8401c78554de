/-
Batches and single requests. A batch says the same as its single requests would, one root field for
each; that it does is not clear from the way the two are made, in different functions, from inputs
that are put together in different ways. To compare them, what a root field asks for is read off
the finished request (`Asked.of?`): its operation and argument, the type and the value of its
variable, and what is selected of the answer. Names of variables and keys of answers do not count;
they are what a batch has to choose in its own way.

For both kinds of request it is known what all their root fields ask for (`Batch.Fills.asked`,
`Envelope.asked_ofCall`). They differ in two things: an input of a batch has a token, which can be
taken out again (`Context.erase_batchInput`), and records that are looked up are selected for
another verb, which makes no difference where no strategy makes one.
-/
import CrudGraph.Proofs.Batch.Request
import CrudGraph.Proofs.Selection.Budget
import CrudGraph.Proofs.Selection.Verb
import CrudGraph.Proofs.Single

namespace CrudGraph

-- ==================================================== what a request asks for

/-- What a root field asks for: the operation that it calls, through which argument, the type that
its variable is declared with, the value that is sent for it, and what is selected of the answer. -/
structure Asked where
  operation : Name
  argument : Name
  type : TypeExpr
  value : Json
  selections : List Selection

/-- What a root field of an operation asks for, where it has a single argument and that is a
variable. -/
def Asked.of? (definition : OperationDefinition) (values : Table Json) (root : Selection) :
    Option Asked :=
  match root.arguments with
  | [(argument, .reference name)] => do
    let declared ← definition.declarations.find? fun declared => declared.name = name
    let value ← Table.find? values name.text
    return ⟨root.name, argument, declared.type, value, root.selections⟩
  | _ => none

/-- What the root fields of a request ask for, in order. -/
def Envelope.asked (envelope : Envelope) : List (Option Asked) :=
  envelope.document.operations.flatMap fun definition =>
    definition.selections.map (Asked.of? definition envelope.values)

/-- An object without one of its members; any other value as it is. -/
def Json.without (key : String) : Json → Json
  | .object members => .object (Table.erase members key)
  | value => value

/-- The verb that does to one record what a verb does to many. -/
def Verb.single? : Verb → Option Verb
  | .updateMany => some .update
  | .deleteMany => some .delete
  | .getMany => some .getOne
  | _ => none

-- ================================================================== reading

/-- A root field of a draft that takes one of its variables asks for the type and the value that the
variable was declared with. -/
theorem Draft.asked_of_mem {draft : Draft} (hdistinct : draft.names.Nodup) {binding : Variable}
    (hmem : binding ∈ draft.bindings) (responseName : Option Name) (operation argument : Name)
    (selections : List Selection) :
    Asked.of? draft.definition draft.values
        (.field responseName operation [(argument, .reference binding.name)] selections)
      = some ⟨operation, argument, binding.type, binding.value, selections⟩ := by
  -- Declarations and values are made of the same variables, so both lookups find this one.
  have hdeclared :
      draft.definition.declarations.find? (fun declared => declared.name = binding.name)
        = some ⟨binding.name, binding.type⟩ := by
    show (draft.bindings.map _).find? _ = _
    rw [List.find?_map]
    show (draft.bindings.find? fun other => other.name = binding.name).map _ = _
    rw [find?_eq_of_nodup (fun other : Variable => other.name) hdistinct hmem]
    rfl
  have hvalue : Table.find? draft.values binding.name.text = some binding.value := by
    have htexts : (draft.bindings.map (·.name.text)).Nodup := Name.nodup_texts hdistinct
    show Table.find? (draft.bindings.map _) _ = _
    rw [Table.find?_map, find?_eq_of_nodup (fun other : Variable => other.name.text) htexts
      hmem]
    rfl
  show (draft.definition.declarations.find? _ >>= _) = _
  rw [hdeclared]
  show (Table.find? draft.values binding.name.text >>= _) = _
  rw [hvalue]
  rfl

/-- What the request of one call asks for. -/
theorem Envelope.asked_ofCall (kind : OperationKind) (operation argument : Name) (type : TypeExpr)
    (value : Json) (selections : List Selection) (decoder : Decoder) :
    (Envelope.ofDraft (.ofCall kind operation argument type value selections) decoder).asked
      = [some ⟨operation, argument, type, value, selections⟩] := by
  have hdistinct : (Draft.ofCall kind operation argument type value selections).names.Nodup :=
    List.nodup_singleton argument
  exact congrArg (fun asked => [asked])
    (Draft.asked_of_mem hdistinct List.mem_cons_self none operation argument selections)

/-- What the root fields of a batch ask for: the same of every identifier. -/
theorem Batch.Fills.asked {batch : Batch} {ids : List Json} {calls : List Batch.Call}
    {draft : Draft} (h : batch.Fills ids calls draft) (decoder : Decoder) :
    ∃ operation argument : Name,
      operation.text = batch.operation ∧ argument.text = batch.argument
        ∧ (Envelope.ofDraft draft decoder).asked = ids.map fun id =>
            some ⟨operation, argument, batch.type, batch.valueOf id, batch.selections⟩ := by
  obtain ⟨operation, argument, hoperation, hargument, hselected⟩ := h.selected
  refine ⟨operation, argument, hoperation, hargument, ?_⟩
  have hdistinct : draft.names.Nodup := by
    rw [Draft.names, h.bound, List.map_map]
    exact h.variablesDistinct
  show draft.selections.map _ ++ [] = _
  rw [List.append_nil, hselected, List.map_map, ← h.identified, List.map_map]
  refine List.map_congr_left fun call hcall => ?_
  have hmem : batch.binding call ∈ draft.bindings := by
    rw [h.bound]
    exact List.mem_map_of_mem hcall
  exact Draft.asked_of_mem hdistinct hmem (some call.key) operation argument batch.selections

namespace Context

variable {c : Context} {params : Params} {envelope : Envelope}

-- ========================================================= each kind of request

/-- What writing many records asks for. -/
theorem writeMany_asked {operation label lead : String} {patch : Option (Table Json)}
    (h : (c.writeMany params operation label lead patch).EndsWith envelope) :
    ∃ (operationName argument : Name) (type : TypeExpr) (selections : List Selection),
      operationName.text = operation ∧ argument.text = "input" ∧ c.inputType operation = .ok type
        ∧ envelope.asked = (givenIds params).map fun id => some
            ⟨operationName, argument, type, .object (c.batchInput operation patch id),
              selections⟩ := by
  obtain ⟨-, batch, calls, draft, hcalled, hargued, htype, hsent, -, hfills, rfl⟩ :=
    (c.settles_writeMany params operation label lead patch).of_eq_ok h
  obtain ⟨operationName, argument, hoperation, hargument, hasked⟩ := hfills.asked _
  refine ⟨operationName, argument, batch.type, batch.selections, hoperation.trans hcalled,
    hargument.trans hargued, htype, ?_⟩
  rw [hasked, hsent]

/-- What looking records up one by one asks for. -/
theorem getManyByLookup_asked {ids : List Json}
    (h : (c.getManyByLookup ids).EndsWith envelope) :
    ∃ (operation argument : Name) (type : TypeExpr) (selections : List Selection),
      operation.text = c.key.singleOperation ∧ argument.text = c.key.idArgumentName
        ∧ c.idType c.key.singleOperation = .ok type ∧ c.select.EndsWith selections
        ∧ envelope.asked = ids.map fun id => some
            ⟨operation, argument, type, c.encodeId id, selections⟩ := by
  obtain ⟨-, -, batch, calls, draft, hcalled, hargued, htype, hselect, hsent, -, hfills, rfl⟩ :=
    (c.settles_getManyByLookup ids).of_eq_ok h
  obtain ⟨operation, argument, hoperation, hargument, hasked⟩ := hfills.asked _
  refine ⟨operation, argument, batch.type, batch.selections, hoperation.trans hcalled,
    hargument.trans hargued, htype, hselect, ?_⟩
  rw [hasked, hsent]

-- ================================================================== inputs

/-- An input of a batch without its token is the identifier and the data. -/
theorem erase_batchInput (operation : String) (patch : Option (Table Json)) (id : Json)
    (hpatch : c.configuration.naming.clientMutationId ≠ "patch")
    (hid : c.configuration.naming.clientMutationId ≠ c.key.idArgumentName) :
    Table.erase (c.batchInput operation patch id) c.configuration.naming.clientMutationId
      = Table.ofList ((c.key.idArgumentName, c.encodeId id)
          :: (patch.map fun patch => ("patch", Json.object patch)).toList) := by
  unfold batchInput
  rw [Table.erase_ofList]
  congr 1
  unfold tokenField
  split
  · cases patch with
    | none => simp [hid.symm]
    | some patch => simp [hid.symm, hpatch.symm]
  · cases patch with
    | none => simp [hid.symm]
    | some patch => simp [hid.symm, hpatch.symm]

-- ============================================================= one by one

/-- A root field of a batch asks for the same as that of a single request: it calls the same
operation through the same argument, with a variable of the same type. What it writes is the same
input, once the token is taken out; what it looks up is the same record with the same selections. -/
structure Repeats (c : Context) (asked one : Asked) : Prop where
  operation : asked.operation = one.operation
  argument : asked.argument = one.argument
  type : asked.type = one.type
  written : c.verb ≠ .getMany → asked.argument.text = "input"
    ∧ asked.value.without c.configuration.naming.clientMutationId = one.value
  lookedUp : c.verb = .getMany → asked.value = one.value ∧ asked.selections = one.selections

/-- Where the inputs agree but for the token, a batch of writes repeats single ones. -/
theorem write_repeats {verb : Verb} {operation label lead : String} {patch : Option (Table Json)}
    {input : Table Json} {batch single : Envelope} {i : Nat} {id : Json}
    (hwrite : c.verb ≠ .getMany)
    (hmany : (c.writeMany params operation label lead patch).EndsWith batch)
    (hone : (writeRecord { c with verb := verb } operation input).EndsWith single)
    (hi : (givenIds params)[i]? = some id)
    (hinput : Table.erase (c.batchInput operation patch id) c.configuration.naming.clientMutationId
      = input) :
    ∃ asked one, batch.asked[i]? = some (some asked) ∧ single.asked = [some one]
      ∧ c.Repeats asked one := by
  obtain ⟨operationName, argument, type, selections, hoperation, hargument, htype, hasked⟩ :=
    writeMany_asked hmany
  obtain ⟨type', selections', operationName', argument', record, htype', hoperation', hargument',
    -, rfl⟩ := writeRecord_eq_ok hone
  obtain rfl : operationName = operationName' := Name.ext (hoperation.trans hoperation'.symm)
  obtain rfl : argument = argument' := Name.ext (hargument.trans hargument'.symm)
  cases htype.symm.trans htype'
  refine ⟨⟨operationName, argument, type, .object (c.batchInput operation patch id), selections⟩,
    ⟨operationName, argument, type, .object input, [.field none record [] selections']⟩,
    ?_, Envelope.asked_ofCall _ _ _ _ _ _ _, rfl, rfl, rfl, fun _ => ⟨hargument, ?_⟩,
    fun hread => absurd hread hwrite⟩
  · rw [hasked, List.getElem?_map, hi]
    rfl
  · exact congrArg Json.object hinput

/-- Lookups repeat reads of one record, where strategies make no difference between the two. -/
theorem lookup_repeats {verb : Verb} {alone : Params} {batch single : Envelope} {i : Nat}
    {id : Json} (hread : c.verb = .getMany) (hblind : c.strategies.VerbBlind)
    (hmany : (c.getManyByLookup (givenIds params)).EndsWith batch)
    (hone : (getOne { c with verb := verb } alone).EndsWith single)
    (hi : (givenIds params)[i]? = some id) (halone : alone.id = some id) :
    ∃ asked one, batch.asked[i]? = some (some asked) ∧ single.asked = [some one]
      ∧ c.Repeats asked one := by
  obtain ⟨operation, argument, type, selections, hoperation, hargument, htype, hselect, hasked⟩ :=
    getManyByLookup_asked hmany
  obtain ⟨raw, type', selections', operation', argument', hraw, htype', hselect', hoperation',
    hargument', rfl⟩ := getOne_eq_ok hone
  obtain rfl : operation = operation' := Name.ext (hoperation.trans hoperation'.symm)
  obtain rfl : argument = argument' := Name.ext (hargument.trans hargument'.symm)
  cases htype.symm.trans htype'
  cases hraw.symm.trans halone
  -- The verbs are different, but no strategy looks at the verb.
  have hselections : selections = selections' := by
    have hsame : select { c with verb := verb } = c.select :=
      Projector.select_verb (p := ⟨c.schema, c.strategies, c.configuration.naming, c.verb⟩) hblind
        verb c.resource.typeName (some c.key)
    rw [hsame] at hselect'
    exact Except.ok.inj (hselect.symm.trans hselect')
  refine ⟨⟨operation, argument, type, c.encodeId id, selections⟩,
    ⟨operation, argument, type, c.encodeId id, selections'⟩, ?_,
    Envelope.asked_ofCall _ _ _ _ _ _ _, rfl, rfl, rfl, fun hwrite => absurd hread hwrite,
    fun _ => ⟨rfl, hselections⟩⟩
  rw [hasked, List.getElem?_map, hi]
  rfl

/-- Every batch repeats the single requests for its identifiers. -/
theorem batch_repeats {verb : Verb} {alone : Params} {batch single : Envelope} {i : Nat}
    {id : Json} (hpair : c.verb.single? = some verb) (hbatch : c.isBatch = true)
    (hpatch : c.configuration.naming.clientMutationId ≠ "patch")
    (hid : c.configuration.naming.clientMutationId ≠ c.key.idArgumentName)
    (hblind : c.strategies.VerbBlind)
    (hmany : (Builder.request c params).EndsWith batch)
    (hone : (Builder.request { c with verb := verb } alone).EndsWith single)
    (hi : (givenIds params)[i]? = some id) (halone : alone.id = some id)
    (hdata : alone.data = params.data) :
    ∃ asked one, batch.asked[i]? = some (some asked) ∧ single.asked = [some one]
      ∧ c.Repeats asked one := by
  have hinput := fun operation patch => erase_batchInput operation patch id hpatch hid
  obtain ⟨schema, configuration, strategies, resource, type, key, many⟩ := c
  cases many
  case updateMany =>
    cases hpair
    obtain ⟨_, -, hmany⟩ := hmany.of_lift_bind
    obtain ⟨raw, hraw, hone⟩ := hone.of_lift_bind
    obtain ⟨_, -, hone⟩ := hone.of_lift_bind
    cases ((settles_requireId _ alone).of_eq_ok hraw).1.symm.trans halone
    rw [hdata] at hone
    exact write_repeats (fun h => by cases h) hmany hone hi (hinput _ _)
  case deleteMany =>
    cases hpair
    obtain ⟨_, -, hmany⟩ := hmany.of_lift_bind
    obtain ⟨raw, hraw, hone⟩ := hone.of_lift_bind
    obtain ⟨_, -, hone⟩ := hone.of_lift_bind
    cases ((settles_requireId _ alone).of_eq_ok hraw).1.symm.trans halone
    exact write_repeats (fun h => by cases h) hmany hone hi (hinput _ _)
  case getMany =>
    cases hpair
    -- A read is a batch only through the synthetic identifier.
    change key.aliasRequired = true at hbatch
    change Reported.EndsWith (getMany _ params) batch at hmany
    simp only [getMany, hbatch, if_true] at hmany
    exact lookup_repeats rfl hblind hmany hone hi halone
  all_goals cases hpair

end Context

namespace Builder

open Context (givenIds)

/-- A batch is its single requests. Of updates or deletes of many records, or reads of many records
through the synthetic identifier, the root field for an identifier asks for the same as the request
on the one record, when both are built: it calls the same operation through the same argument with
a variable of the same type. What is written is the same input apart from the token, and what is
looked up is the same record with the same selections. -/
theorem build_one_by_one (builder : Builder) {many one resource : String} {verb : Verb}
    {c : Context} (hcontext : builder.context many resource = .ok c) (hbatch : c.isBatch = true)
    (hverb : Verb.parse one = .ok verb) (hpair : c.verb.single? = some verb)
    (hpatch : builder.configuration.naming.clientMutationId ≠ "patch")
    (hid : builder.configuration.naming.clientMutationId ≠ c.key.idArgumentName)
    (hblind : builder.strategies.VerbBlind) {params alone : Params} {batch single : Envelope}
    {omissions omitted : List Omission}
    (hmany : (builder.build many resource params).1 = .ok (batch, omissions))
    (hone : (builder.build one resource alone).1 = .ok (single, omitted)) {i : Nat} {id : Json}
    (hi : (givenIds params)[i]? = some id) (halone : alone.id = some id)
    (hdata : alone.data = params.data) :
    ∃ asked wanted, batch.asked[i]? = some (some asked) ∧ single.asked = [some wanted]
      ∧ c.Repeats asked wanted := by
  obtain ⟨c', hcontext', hmany, -⟩ := builder.build_eq_ok_iff.1 hmany
  cases hcontext.symm.trans hcontext'
  obtain ⟨d, hcontext', hone, -⟩ := builder.build_eq_ok_iff.1 hone
  cases (builder.context_of_parse hcontext hverb).symm.trans hcontext'
  obtain ⟨-, hconfiguration, hstrategies⟩ := (builder.settles_context _ _).of_eq_ok hcontext
  rw [← hconfiguration] at hpatch hid
  rw [← hstrategies] at hblind
  exact Context.batch_repeats hpair hbatch hpatch hid hblind hmany hone hi halone hdata

/-- Of two books that are deleted together, the second is deleted as it would be alone. -/
theorem build_one_by_one_bookshop :
    ∃ c batch single omissions omitted asked wanted,
      (bookshop.build "DELETE_MANY" "book" { ids := [.string "a", .null, .integer 7] }).1
        = .ok (batch, omissions)
      ∧ (bookshop.build "DELETE" "book" { id := some (.integer 7) }).1 = .ok (single, omitted)
      ∧ batch.asked[1]? = some (some asked) ∧ single.asked = [some wanted]
      ∧ Context.Repeats c asked wanted := by
  -- The budget makes the walk over the fields of a book one that can be run.
  have hselected : ∃ selections, (bookContext .delete).select.EndsWith selections := by
    rw [Context.select, ← Projector.selectWithin_eq (pure [])
      (show (bookContext .delete).schema.typeNames.card ≤ 3 by decide)]
    exact ⟨_, rfl⟩
  obtain ⟨single, hsingle⟩ : ∃ single, (request (bookContext .delete)
      { id := some (.integer 7) }).result = .ok single :=
    Context.writeRecord_isOk hselected ⟨_, rfl⟩ (by decide) (by decide)
  obtain ⟨batch, hbatch, -⟩ : ∃ batch, (request (bookContext .deleteMany)
      { ids := [.string "a", .null, .integer 7] }).result = .ok batch ∧ batch.values.length = 2 :=
    exists_eq_ok_of_map (by decide +kernel)
  have hcontext := bookshop_context (show Verb.parse "DELETE_MANY" = .ok .deleteMany from
    by decide +kernel)
  have hverb : Verb.parse "DELETE" = .ok .delete := by decide +kernel
  have hmany := bookshop.build_eq_ok_iff.2 ⟨_, hcontext, hbatch, rfl⟩
  have hone := bookshop.build_eq_ok_iff.2 ⟨_, bookshop_context hverb, hsingle, rfl⟩
  have hid : bookshop.configuration.naming.clientMutationId ≠ "nodeId" := by decide
  have hblind : bookshop.strategies.VerbBlind :=
    Strategies.layered_verbBlind {} fun _ h => by cases h
  obtain ⟨asked, wanted, hasked, hwanted, hrepeats⟩ :=
    build_one_by_one bookshop hcontext rfl hverb rfl (by decide) hid hblind hmany hone (i := 1) rfl
      rfl rfl
  exact ⟨_, batch, single, _, _, asked, wanted, hmany, hone, hasked, hwanted, hrepeats⟩

end Builder

end CrudGraph
