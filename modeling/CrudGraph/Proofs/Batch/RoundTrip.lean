/-
Batches and their answers. A batch is answered under the keys of its calls, and the decoder that
was made with the calls puts the answers back in their order: the records that were looked up
without those that are missing, or for every write the identifier that its payload gives back.

What a payload gives back is the token that was sent with the call, and only where the input has a
field for it and the payload has too. Whichever of these it is, the identifier that was asked for
comes out (`identifierOf_eq`): from its own token (`Decoder.decodeIdentifier_token`), or because
there is nothing else to go by.
-/
import CrudGraph.Proofs.Batch.Request
import CrudGraph.Proofs.Identifier
import Mathlib.Data.List.Forall2

namespace CrudGraph

-- =============================================================== decoding

/-- Steps that succeed one by one succeed together. -/
theorem mapM_eq_ok {α β : Type} {f : α → Except Refusal β} {as : List α} {bs : List β}
    (h : List.Forall₂ (fun a b => f a = .ok b) as bs) : as.mapM f = .ok bs := by
  induction h with
  | nil => rfl
  | cons hfirst _ ih =>
      rw [List.mapM_cons, hfirst, ih]
      rfl

namespace Decoder

theorem member_eq_ok {data : Table Json} {key : String} {answer : Json}
    (h : Table.find? data key = some answer) : member data key = .ok answer := by
  rw [member, h]

/-- Records that are answered under their keys are decoded in order, without those that are
missing. -/
theorem decode_records {data : Table Json} {keys : List String} {answers : List Json}
    (h : List.Forall₂ (fun key answer => Table.find? data key = some answer) keys answers) :
    (records keys).decode data = .ok ⟨.array (answers.filter fun one => !one.isNull), none⟩ := by
  have hfound : keys.mapM (member data) = .ok answers :=
    mapM_eq_ok (h.imp fun _ _ => member_eq_ok)
  rw [decode, hfound]
  rfl

/-- Payloads that are answered under their keys are decoded in order, each with what was asked for
under its key. -/
theorem decode_identifiers {data : Table Json} {batch : List (String × Json)}
    {answers : List Json} (echo : Option String)
    (h : List.Forall₂ (fun asked answer => Table.find? data asked.1 = some answer) batch
      answers) :
    (identifiers batch echo).decode data
      = .ok ⟨.array (List.zipWith (fun asked answer => identifierOf echo answer asked.2) batch
          answers), none⟩ := by
  have hgiven : batch.mapM (fun asked => do
        return identifierOf echo (← member data asked.1) asked.2)
      = .ok (List.zipWith (fun asked answer => identifierOf echo answer asked.2) batch
          answers) := by
    refine mapM_eq_ok ?_
    induction h with
    | nil => exact .nil
    | cons hfirst _ ih =>
        refine .cons ?_ ih
        rw [member_eq_ok hfirst]
        rfl
  rw [decode, hgiven]
  rfl

/-- A response with data is decoded as its data. -/
theorem decodeResponse_eq {response : Json} {data : Table Json} (decoder : Decoder)
    (h : response.member? "data" = some (.object data)) :
    decoder.decodeResponse response = decoder.decode data := by
  unfold decodeResponse
  rw [h]
  rfl

/-- No identifier that was asked for comes back as null. -/
theorem decodeIdentifier_isNull (echoed : Option String) {requested : Json}
    (h : requested.isNull = false) : (decodeIdentifier echoed requested).isNull = false := by
  cases echoed with
  | none => exact h
  | some echoed =>
      cases requested with
      | integer n =>
          rw [decodeIdentifier]
          cases Identifier.ofDigits? echoed with
          | none => rfl
          | some read => rfl
      | double d =>
          rw [decodeIdentifier]
          cases Identifier.ofDigits? echoed with
          | none => rfl
          | some read => rfl
      | null => cases h
      | bool | string | array | object => rfl

/-- What comes out for an identifier is null where its payload is. -/
theorem identifierOf_isNull (echo : Option String) (payload : Json) {requested : Json}
    (h : requested.isNull = false) :
    (identifierOf echo payload requested).isNull = payload.isNull := by
  unfold identifierOf
  split
  · next hnull =>
    rw [hnull]
    rfl
  · next hsome =>
    rw [Bool.not_eq_true] at hsome
    rw [hsome]
    exact decodeIdentifier_isNull _ h

/-- A payload that gives back nothing, or the token of the identifier, leads to the identifier. -/
theorem identifierOf_eq {echo : Option String} {payload requested : Json}
    (hpayload : payload.isNull = false) (hrequested : requested.isIdentifier = true)
    (hechoed : ∀ field echoed, echo = some field →
      payload.member? field = some (.string echoed) → echoed = requested.token) :
    identifierOf echo payload requested = requested := by
  unfold identifierOf
  rw [hpayload, if_neg Bool.false_ne_true]
  dsimp only
  cases hread : echo >>= fun key => payload.member? key >>= Json.text? with
  | none => rfl
  | some echoed =>
      obtain ⟨field, hfield, hmember⟩ := Option.bind_eq_some_iff.1 hread
      obtain ⟨value, hvalue, htext⟩ := Option.bind_eq_some_iff.1 hmember
      cases value with
      | string s =>
          cases htext
          rw [hechoed field echoed hfield hvalue]
          exact decodeIdentifier_token hrequested
      | null | bool | integer | double | array | object => cases htext

end Decoder

-- ================================================================= tokens

namespace Context

open Batch (Call)

variable (c : Context)

/-- A token comes back under the field that it is sent under. -/
theorem tokenField_of_echoField {operation field : String}
    (h : c.echoField operation = some field) :
    c.tokenField operation = some field
      ∧ field = c.configuration.naming.clientMutationId := by
  unfold echoField at h
  split at h
  · next hboth =>
    cases h
    rw [Bool.and_eq_true] at hboth
    exact ⟨if_pos hboth.1, rfl⟩
  · cases h

/-- A text that an input holds under the field for the token is the token of its identifier,
whatever else is put there. -/
theorem batchInput_token {operation field token : String} {patch : Option (Table Json)} {id : Json}
    (hfield : c.tokenField operation = some field)
    (htoken : Table.find? (c.batchInput operation patch id) field = some (.string token)) :
    token = id.token := by
  unfold batchInput at htoken
  rw [hfield] at htoken
  cases patch with
  | none =>
      change Table.find? (Table.insert _ field (Json.string id.token)) field = _ at htoken
      rw [Table.find?_insert_self] at htoken
      cases htoken
      rfl
  | some patch =>
      change Table.find? (Table.insert (Table.insert _ field (Json.string id.token)) "patch"
        (Json.object patch)) field = _ at htoken
      by_cases hpatch : "patch" = field
      · subst hpatch
        rw [Table.find?_insert_self] at htoken
        cases htoken
      · rw [Table.find?_insert_of_ne _ _ hpatch, Table.find?_insert_self] at htoken
        cases htoken
        rfl

variable {c}

theorem isBatch_of_write (h : c.verb = .updateMany ∨ c.verb = .deleteMany) :
    c.isBatch = true := by
  unfold isBatch
  rcases h with h | h
  · rw [h]
  · rw [h]

/-- Updates and deletes give back identifiers, each looked for under the key of its own call. -/
theorem batchDecoder_of_write (h : c.verb = .updateMany ∨ c.verb = .deleteMany)
    (calls : List Call) :
    c.batchDecoder calls = .identifiers (calls.map fun call => (call.key.text, call.id))
      (c.echoField c.batchOperation) := by
  unfold batchDecoder
  rcases h with h | h
  · rw [h]
  · rw [h]

/-- Updates and deletes send each identifier in an input of its own. -/
theorem batchValue_of_write (h : c.verb = .updateMany ∨ c.verb = .deleteMany) (params : Params)
    (id : Json) :
    c.batchValue params id = .object (c.batchInput c.batchOperation (c.batchPatch params) id) := by
  unfold batchValue
  rcases h with h | h
  · rw [h]
  · rw [h]

/-- The answer gives back the text that was sent under a field, or no text at all. -/
def GivesBack (field : String) (sent answer : Json) : Prop :=
  ∀ echoed, answer.member? field = some (.string echoed) →
    sent.member? field = some (.string echoed)

/-- For an identifier whose payload gives back what was sent with it, the identifier comes out. -/
theorem identifierOf_of_givesBack (h : c.verb = .updateMany ∨ c.verb = .deleteMany)
    {params : Params} {id answer : Json} (hid : id.isIdentifier = true)
    (hanswer : answer.isNull = false)
    (hback : GivesBack c.configuration.naming.clientMutationId (c.batchValue params id) answer) :
    Decoder.identifierOf (c.echoField c.batchOperation) answer id = id := by
  refine Decoder.identifierOf_eq hanswer hid ?_
  intro field echoed hfield hechoed
  obtain ⟨htoken, rfl⟩ := c.tokenField_of_echoField hfield
  have hsent := hback echoed hechoed
  rw [batchValue_of_write h] at hsent
  exact c.batchInput_token htoken hsent

-- ================================================================ answers

namespace Batches

variable {params : Params} {envelope : Envelope} {batch : Batch} {calls : List Call}
  {draft : Draft} {response : Json} {data : Table Json} {answers : List Json}

/-- What is answered to the root fields is answered to the calls. -/
theorem answered (h : c.Batches params envelope batch calls draft)
    {definition : OperationDefinition} (hsingle : envelope.document.operations = [definition])
    (hanswers : List.Forall₂
      (fun root answer => Table.find? data root.responseKey.text = some answer)
      definition.selections answers) :
    List.Forall₂ (fun call answer => Table.find? data call.key.text = some answer) calls
      answers := by
  have hfinished := h.finished
  subst hfinished
  cases hsingle
  obtain ⟨operation, argument, -, -, hselected⟩ := h.filled.selected
  change List.Forall₂ _ draft.selections answers at hanswers
  rw [hselected, List.forall₂_map_left_iff] at hanswers
  exact hanswers

/-- Answers to writes are decoded into identifiers. -/
theorem parse_write (h : c.Batches params envelope batch calls draft)
    (hwrite : c.verb = .updateMany ∨ c.verb = .deleteMany)
    (hdata : response.member? "data" = some (.object data))
    (hanswers : List.Forall₂ (fun call answer => Table.find? data call.key.text = some answer)
      calls answers) :
    envelope.parseResponse response
      = .ok ⟨.array (List.zipWith
          (fun call answer => Decoder.identifierOf (c.echoField c.batchOperation) answer call.id)
          calls answers), none⟩ := by
  have hfinished := h.finished
  subst hfinished
  show (c.batchDecoder calls).decodeResponse response = _
  rw [Decoder.decodeResponse_eq _ hdata, batchDecoder_of_write hwrite,
    Decoder.decode_identifiers _ (List.forall₂_map_left_iff.2 hanswers), List.zipWith_map_left]

/-- Answers to lookups are decoded into those that are not null. -/
theorem parse_lookup (h : c.Batches params envelope batch calls draft) (hread : c.verb = .getMany)
    (hdata : response.member? "data" = some (.object data))
    (hanswers : List.Forall₂ (fun call answer => Table.find? data call.key.text = some answer)
      calls answers) :
    envelope.parseResponse response
      = .ok ⟨.array (answers.filter fun answer => !answer.isNull), none⟩ := by
  have hfinished := h.finished
  subst hfinished
  have hdecoder : c.batchDecoder calls = .records (calls.map (·.key.text)) := by
    unfold batchDecoder
    rw [hread]
  show (c.batchDecoder calls).decodeResponse response = _
  rw [Decoder.decodeResponse_eq _ hdata, hdecoder,
    Decoder.decode_records (List.forall₂_map_left_iff.2 hanswers)]

end Batches

end Context

-- ============================================================= round trips

namespace Builder

open Context (givenIds GivesBack)

/-- Where every key of a batch is answered, the response is decoded. For writes there is one entry
for each identifier, in order, null exactly where the answer is; and an identifier that is a text or
a number is its own entry, whether its payload gives back the token that was sent or no text. For
reads the entries are the answers that are not null, in order. -/
theorem parseResponse_batch (builder : Builder) {verb resource : String} {c : Context}
    (hcontext : builder.context verb resource = .ok c) {params : Params} {envelope : Envelope}
    {omissions : List Omission}
    (hbuilt : (builder.build verb resource params).1 = .ok (envelope, omissions))
    {definition : OperationDefinition} (hsingle : envelope.document.operations = [definition])
    {response : Json} {data : Table Json} (hdata : response.member? "data" = some (.object data))
    {answers : List Json}
    (hanswers : List.Forall₂
      (fun root answer => Table.find? data root.responseKey.text = some answer)
      definition.selections answers) :
    (c.verb = .updateMany ∨ c.verb = .deleteMany →
        ∃ entries, envelope.parseResponse response = .ok ⟨.array entries, none⟩
          ∧ entries.length = (givenIds params).length
          ∧ ∀ i < entries.length, ∃ id answer variableName sent entry,
            (givenIds params)[i]? = some id ∧ answers[i]? = some answer
              ∧ envelope.values[i]? = some (variableName, sent) ∧ entries[i]? = some entry
              ∧ entry.isNull = answer.isNull
              ∧ (id.isIdentifier = true → answer.isNull = false →
                  GivesBack c.configuration.naming.clientMutationId sent answer → entry = id))
      ∧ (c.verb = .getMany → c.key.aliasRequired = true →
        envelope.parseResponse response
          = .ok ⟨.array (answers.filter fun answer => !answer.isNull), none⟩) := by
  obtain ⟨c', hcontext', hrequest, -⟩ := builder.build_eq_ok_iff.1 hbuilt
  cases hcontext.symm.trans hcontext'
  constructor
  · intro hwrite
    obtain ⟨batch, calls, draft, h⟩ :=
      (c.settles_batch (Context.isBatch_of_write hwrite) params).of_eq_ok hrequest
    have hanswered := h.answered hsingle hanswers
    have hlength : calls.length = answers.length := hanswered.length_eq
    -- identifiers, calls and answers are equally many, and the entries are made of the last two
    have hids : (givenIds params).length = calls.length := by
      rw [← h.filled.identified, List.length_map]
    refine ⟨_, h.parse_write hwrite hdata hanswered, ?_, ?_⟩
    · rw [List.length_zipWith, hids, hlength, Nat.min_self]
    · intro i hi
      rw [List.length_zipWith, hlength, Nat.min_self] at hi
      have hanswer : answers[i]? = some answers[i] := List.getElem?_eq_getElem hi
      obtain ⟨call, hcall⟩ : ∃ call, calls[i]? = some call :=
        ⟨_, List.getElem?_eq_getElem (hlength ▸ hi)⟩
      have hid : (givenIds params)[i]? = some call.id := by
        rw [← h.filled.identified, List.getElem?_map, hcall]
        rfl
      obtain ⟨_, _, _, hcalls⟩ := h.calls
      refine ⟨call.id, answers[i], call.variableName.text, c.batchValue params call.id, _, hid,
        hanswer, ?_, ?_, Decoder.identifierOf_isNull _ _ ?_, fun hidentifier hsome hback =>
          Context.identifierOf_of_givesBack hwrite hidentifier hsome hback⟩
      · rw [hcalls.valued, List.getElem?_map, hcall]
        rfl
      · rw [List.getElem?_zipWith, hcall, hanswer]
      -- No null was asked for, so only a null answer makes a null entry.
      · have hmem := (List.mem_filter.1 (List.mem_of_getElem? hid)).2
        simpa using hmem
  · intro hread halias
    have hbatch : c.isBatch = true := by
      unfold Context.isBatch
      rw [hread]
      exact halias
    obtain ⟨batch, calls, draft, h⟩ := (c.settles_batch hbatch params).of_eq_ok hrequest
    exact h.parse_lookup hread hdata (h.answered hsingle hanswers)

/-- The answer to the deletion of two books: the second one was not there, and the payload of the
first one holds its token. -/
def deletedBooks : Table Json := [
  ("kb", .null),
  ("k9223372036854775808", .object [("clientMutationId", .string "9223372036854775808")])]

/-- An identifier beyond the integers with a sign comes out as it was given, in its place. -/
theorem parseResponse_batch_bookshop :
    ∃ envelope omissions,
      (bookshop.build "DELETE_MANY" "book"
          { ids := [.integer 9223372036854775808, .string "b"] }).1 = .ok (envelope, omissions)
        ∧ ∃ entries,
          envelope.parseResponse (.object [("data", .object deletedBooks)])
            = .ok ⟨.array entries, none⟩
          ∧ entries.length = 2 ∧ entries[0]? = some (.integer 9223372036854775808) := by
  obtain ⟨c, hcontext, hknown⟩ : ∃ c, bookshop.context "DELETE_MANY" "book" = .ok c
      ∧ (c.verb, c.configuration.naming.clientMutationId) = (.deleteMany, "clientMutationId") :=
    exists_eq_ok_of_map (by decide +kernel)
  obtain ⟨hverb, hfield⟩ := Prod.mk.inj hknown
  obtain ⟨⟨envelope, omissions⟩, hbuilt, hmade⟩ : ∃ built, (bookshop.build "DELETE_MANY" "book"
      { ids := [.integer 9223372036854775808, .string "b"] }).1 = .ok built
      ∧ (built.1.document.operations.map fun definition =>
            definition.selections.map (·.responseKey.text),
          built.1.values.head?.map (·.2))
        = ([["k9223372036854775808", "kb"]],
          some (.object [
            ("nodeId", .integer 9223372036854775808),
            ("clientMutationId", .string "9223372036854775808")])) :=
    exists_eq_ok_of_map (by decide +kernel)
  obtain ⟨hkeys, hhead⟩ := Prod.mk.inj hmade
  obtain ⟨definition, hsingle, hkeys⟩ := List.map_eq_singleton_iff.1 hkeys
  have hanswers : List.Forall₂ (fun key answer => Table.find? deletedBooks key = some answer)
      (definition.selections.map (·.responseKey.text))
      [.object [("clientMutationId", .string "9223372036854775808")], .null] := by
    rw [hkeys]
    exact .cons rfl (.cons rfl .nil)
  have hdata : (Json.object [("data", .object deletedBooks)]).member? "data"
      = some (.object deletedBooks) := rfl
  obtain ⟨entries, hparsed, hlength, hentries⟩ :=
    (parseResponse_batch bookshop hcontext hbuilt hsingle hdata
      (List.forall₂_map_left_iff.1 hanswers)).1 (.inr hverb)
  refine ⟨envelope, omissions, hbuilt, entries, hparsed, hlength, ?_⟩
  obtain ⟨id, answer, variableName, sent, entry, hid, hanswer, hsent, hentry, -, hequal⟩ :=
    hentries 0 (by rw [hlength]; decide)
  cases hid
  cases hanswer
  rw [← List.head?_eq_getElem?] at hsent
  rw [hsent] at hhead
  cases hhead
  rw [hentry, hequal rfl rfl]
  rw [hfield]
  exact fun echoed h => h

end Builder

end CrudGraph
