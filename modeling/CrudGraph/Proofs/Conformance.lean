/-
Documents and their decoders agree. What a request asks for is put together in one place and how
its answer is read is put down in another; that the two agree is said here by the keys alone. A
decoder reads some keys of the data (`Decoder.keys`) and, inside of each answer that it finds there,
some keys again (`Decoder.innerKeys`). It fits a document when the first are those of the root
fields and the second are selected under every one of them (`Decoder.Reads`).

A decoder that fits reads whatever answers the document, and refuses data in which a root field is
missing (`Reads.decode_isOk`, `Reads.decode_erase`). The requests of all verbs are made with a
decoder that fits (`request_readable`): batches because their keys are handed out once for both, the
others because they have one root field under the operation's own name.
-/
import CrudGraph.Proofs.Batch.RoundTrip
import CrudGraph.Proofs.Single

namespace CrudGraph

-- ====================================================== what is to be shown

/-- What a server may answer to a root field: null, or an object that has something under every key
that is selected of it. -/
def Selection.Answers (root : Selection) : Json → Prop
  | .null => True
  | .object members => ∀ selected ∈ root.selections,
    (Table.find? members selected.responseKey.text).isSome = true
  | _ => False

instance (root : Selection) : (answer : Json) → Decidable (root.Answers answer)
  | .null => .isTrue trivial
  | .object members => inferInstanceAs (Decidable (∀ selected ∈ root.selections,
    (Table.find? members selected.responseKey.text).isSome = true))
  | .bool _ | .integer _ | .double _ | .string _ | .array _ => .isFalse id

/-- Data that answers every root field of an operation. -/
def OperationDefinition.Conforms (definition : OperationDefinition) (data : Table Json) : Prop :=
  ∀ root ∈ definition.selections,
    ∃ answer ∈ Table.find? data root.responseKey.text, root.Answers answer

instance (definition : OperationDefinition) (data : Table Json) :
    Decidable (definition.Conforms data) :=
  inferInstanceAs (Decidable (∀ root ∈ definition.selections,
    ∃ answer ∈ Table.find? data root.responseKey.text, root.Answers answer))

/-- The refusal of a response that lacks a key. -/
def Refusal.missing (key : String) : Refusal :=
  .malformedResponse s!"`{key}` is missing"

-- ========================================================== many at a time

/-- Steps of which each succeeds succeed together. -/
theorem mapM_isOk {α β : Type} {f : α → Except Refusal β} {as : List α}
    (h : ∀ a ∈ as, ∃ b, f a = .ok b) : ∃ bs, as.mapM f = .ok bs := by
  induction as with
  | nil => exact ⟨[], rfl⟩
  | cons a rest ih =>
      rw [List.mapM_cons]
      obtain ⟨b, hb⟩ := h a List.mem_cons_self
      obtain ⟨bs, hbs⟩ := ih fun other hother => h other (List.mem_cons_of_mem _ hother)
      exact exists_ok_bind hb (exists_ok_bind hbs ⟨_, rfl⟩)

/-- Where some step is refused and no other is refused for another reason, that is the reason for
all of them. -/
theorem mapM_eq_error {α β : Type} {f : α → Except Refusal β} {as : List α} {refusal : Refusal}
    (hrefused : ∃ a ∈ as, f a = .error refusal)
    (hothers : ∀ a ∈ as, (∃ b, f a = .ok b) ∨ f a = .error refusal) :
    as.mapM f = .error refusal := by
  induction as with
  | nil =>
      obtain ⟨a, hmem, -⟩ := hrefused
      cases hmem
  | cons first rest ih =>
      rw [List.mapM_cons]
      rcases hothers first List.mem_cons_self with hfirst | hfirst
      · obtain ⟨b, hfirst⟩ := hfirst
        have hrest : ∃ a ∈ rest, f a = .error refusal := by
          obtain ⟨a, hmem, ha⟩ := hrefused
          rcases List.mem_cons.1 hmem with rfl | hmem
          · rw [hfirst] at ha
            cases ha
          · exact ⟨a, hmem, ha⟩
        rw [hfirst, ih hrest fun a ha => hothers a (List.mem_cons_of_mem _ ha)]
        rfl
      · rw [hfirst]
        rfl

namespace Decoder

-- ========================================================== what is read

/-- The keys of the data that are read. -/
def keys : Decoder → List String
  | .record field | .payloadRecord field _ | .connection field _ => [field]
  | .records keys => keys
  | .identifiers batch _ => batch.map (·.1)

/-- The keys that are read inside of every answer. -/
def innerKeys : Decoder → List String
  | .payloadRecord _ inner => [inner]
  | .connection _ total => "nodes" :: if total then ["totalCount"] else []
  | .record _ | .records _ | .identifiers _ _ => []

variable {decoder : Decoder} {data : Table Json}

/-- A member that is not there is missing. -/
theorem member_eq_error {key : String} (h : Table.find? data key = none) :
    member data key = .error (.missing key) := by
  rw [member, h]
  rfl

/-- Data is decoded when the keys that are read are there, with null or with an object that has the
keys that are read inside. -/
theorem decode_isOk
    (h : ∀ key ∈ decoder.keys, ∃ answer, Table.find? data key = some answer
      ∧ (answer = .null ∨ ∃ members, answer = .object members
        ∧ ∀ inner ∈ decoder.innerKeys, (Table.find? members inner).isSome = true)) :
    ∃ answer, decoder.decode data = .ok answer := by
  have hmember : ∀ key ∈ decoder.keys, ∃ answer, member data key = .ok answer := by
    intro key hkey
    obtain ⟨answer, hanswer, -⟩ := h key hkey
    exact ⟨answer, member_eq_ok hanswer⟩
  cases decoder with
  | record field =>
      obtain ⟨answer, hanswer⟩ := hmember field List.mem_cons_self
      exact exists_ok_bind hanswer ⟨_, rfl⟩
  -- A null answer is taken as it is; only an object is looked into.
  | payloadRecord field inner =>
      obtain ⟨answer, hanswer, hnull | ⟨members, hmembers, hinner⟩⟩ := h field List.mem_cons_self
      · subst hnull
        exact exists_ok_bind (member_eq_ok hanswer) ⟨_, rfl⟩
      · subst hmembers
        obtain ⟨value, hvalue⟩ := Option.isSome_iff_exists.1 (hinner inner List.mem_cons_self)
        exact exists_ok_bind (member_eq_ok hanswer)
          (exists_ok_bind (member_eq_ok hvalue) ⟨_, rfl⟩)
  | connection field total =>
      obtain ⟨answer, hanswer, hnull | ⟨members, hmembers, hinner⟩⟩ := h field List.mem_cons_self
      · subst hnull
        exact exists_ok_bind (member_eq_ok hanswer) ⟨_, rfl⟩
      · subst hmembers
        obtain ⟨nodes, hnodes⟩ := Option.isSome_iff_exists.1 (hinner "nodes" List.mem_cons_self)
        refine exists_ok_bind (member_eq_ok hanswer) (exists_ok_bind (member_eq_ok hnodes) ?_)
        cases total with
        | false => exact ⟨_, rfl⟩
        | true =>
            obtain ⟨count, hcount⟩ := Option.isSome_iff_exists.1
              (hinner "totalCount" (List.mem_cons_of_mem _ List.mem_cons_self))
            exact exists_ok_bind (member_eq_ok hcount) ⟨_, rfl⟩
  | records keys =>
      obtain ⟨found, hfound⟩ := mapM_isOk hmember
      exact exists_ok_bind hfound ⟨_, rfl⟩
  | identifiers batch echo =>
      refine exists_ok_bind_of_forall (mapM_isOk fun asked hasked => ?_) fun _ => ⟨_, rfl⟩
      obtain ⟨answer, hanswer⟩ := hmember asked.1 (List.mem_map_of_mem hasked)
      exact exists_ok_bind hanswer ⟨_, rfl⟩

/-- Data that lacks one of the keys that are read, and no other, is refused for it. -/
theorem decode_missing {key : String} (hkey : key ∈ decoder.keys)
    (hmissing : Table.find? data key = none)
    (hothers : ∀ other ∈ decoder.keys, other ≠ key → ∃ answer,
      Table.find? data other = some answer) :
    decoder.decode data = .error (.missing key) := by
  have hrefused : member data key = .error (.missing key) := member_eq_error hmissing
  have hmember : ∀ other ∈ decoder.keys,
      (∃ answer, member data other = .ok answer) ∨ member data other = .error (.missing key) := by
    intro other hother
    by_cases heq : other = key
    · exact .inr (heq ▸ hrefused)
    · obtain ⟨answer, hanswer⟩ := hothers other hother heq
      exact .inl ⟨answer, member_eq_ok hanswer⟩
  cases decoder with
  | record field | payloadRecord field _ | connection field _ =>
      obtain rfl := List.mem_singleton.1 hkey
      rw [decode, hrefused]
      rfl
  | records keys =>
      have hfound : keys.mapM (member data) = .error (.missing key) :=
        mapM_eq_error ⟨key, hkey, hrefused⟩ hmember
      rw [decode, hfound]
      rfl
  | identifiers batch echo =>
      -- Every other answer is there, so the first refusal is the one for this key.
      obtain ⟨asked, hasked, rfl⟩ := List.mem_map.1 hkey
      have hgiven : batch.mapM (fun asked => do
            return identifierOf echo (← member data asked.1) asked.2)
          = .error (.missing asked.1) := by
        refine mapM_eq_error ⟨asked, hasked, ?_⟩ fun other hother => ?_
        · rw [hrefused]
          rfl
        · rcases hmember other.1 (List.mem_map_of_mem hother) with h | h
          · obtain ⟨answer, hanswer⟩ := h
            exact .inl (exists_ok_bind hanswer ⟨_, rfl⟩)
          · right
            rw [h]
            rfl
      rw [decode, hgiven]
      rfl

-- ===================================================== what is asked for

/-- A decoder fits root fields: it reads their keys, and inside of each of their answers keys that
are selected there. -/
structure Reads (decoder : Decoder) (roots : List Selection) : Prop where
  outer : decoder.keys = roots.map (·.responseKey.text)
  inner : ∀ root ∈ roots, ∀ key ∈ decoder.innerKeys,
    ∃ selected ∈ root.selections, selected.responseKey.text = key

namespace Reads

variable {definition : OperationDefinition}

/-- A decoder reads everything that answers the root fields that it fits. -/
theorem decode_isOk (h : decoder.Reads definition.selections) (hdata : definition.Conforms data) :
    ∃ answer, decoder.decode data = .ok answer := by
  refine Decoder.decode_isOk fun key hkey => ?_
  rw [h.outer] at hkey
  obtain ⟨root, hroot, rfl⟩ := List.mem_map.1 hkey
  obtain ⟨answer, hanswer, hanswers⟩ := hdata root hroot
  refine ⟨answer, hanswer, ?_⟩
  cases answer with
  | null => exact .inl rfl
  | object members =>
      refine .inr ⟨members, rfl, fun key hkey => ?_⟩
      obtain ⟨selected, hselected, rfl⟩ := h.inner root hroot key hkey
      exact hanswers selected hselected
  | bool | integer | double | string | array => cases hanswers

/-- A decoder refuses data that answers all root fields but one for that one. -/
theorem decode_erase (h : decoder.Reads definition.selections)
    (hdata : definition.Conforms data) {root : Selection} (hroot : root ∈ definition.selections) :
    decoder.decode (Table.erase data root.responseKey.text)
      = .error (.missing root.responseKey.text) := by
  refine decode_missing ?_ (Table.find?_erase_self _ _) fun other hother hne => ?_
  · rw [h.outer]
    exact List.mem_map_of_mem hroot
  · rw [h.outer] at hother
    obtain ⟨another, hanother, rfl⟩ := List.mem_map.1 hother
    obtain ⟨answer, hanswer, -⟩ := hdata another hanother
    exact ⟨answer, (Table.find?_erase_of_ne _ hne.symm).trans hanswer⟩

end Reads

end Decoder

-- ================================================================= drafts

/-- A request is one operation, and its decoder fits the root fields. -/
def Envelope.Readable (envelope : Envelope) : Prop :=
  ∃ definition, envelope.document.operations = [definition]
    ∧ envelope.decoder.Reads definition.selections

namespace Draft

variable {draft : Draft}

/-- Declaring a variable selects nothing. -/
theorem selections_of_declare {variableName : String} {type : TypeExpr} {value : Json}
    {name : Name} {declared : Draft}
    (h : draft.declare variableName type value = .ok (name, declared)) :
    declared.selections = draft.selections := by
  rw [declare] at h
  obtain ⟨_, -, h⟩ := bind_eq_ok_iff.1 h
  split at h
  · cases h
  · cases h
    rfl

/-- A draft that is finished with one root field has a decoder that fits, if it reads the key of the
operation and inside of it only what is selected. -/
theorem readable_of_call {operation : String} {arguments : List (String × Literal)}
    {selections : List Selection} {root : Selection} {decoder : Decoder}
    (hselections : draft.selections = [])
    (hcall : Selection.call none operation arguments selections = .ok root)
    (houter : decoder.keys = [operation])
    (hinner : ∀ key ∈ decoder.innerKeys,
      ∃ selected ∈ selections, selected.responseKey.text = key) :
    (Envelope.ofDraft (draft.select root) decoder).Readable := by
  obtain ⟨name, given, rfl, hname, -⟩ := (Selection.settles_call _ _ _ _).of_eq_ok hcall
  refine ⟨_, rfl, ?_, ?_⟩
  · show decoder.keys = (draft.selections ++ [_]).map _
    rw [hselections, houter, ← hname]
    rfl
  · intro root hroot key hkey
    change root ∈ draft.selections ++ [_] at hroot
    rw [hselections] at hroot
    rw [List.mem_singleton.1 hroot]
    exact hinner key hkey

/-- One that is finished with a list has a decoder that reads its nodes, and its total if that is
selected beside them. -/
theorem readable_of_nodes {operation : String} {arguments : List (String × Literal)}
    {selections totals : List Selection} {nodes root : Selection} {total : Bool}
    (hselections : draft.selections = [])
    (hnodes : Selection.call none "nodes" [] selections = .ok nodes)
    (htotal : total = true → ∃ selected ∈ totals, selected.responseKey.text = "totalCount")
    (hcall : Selection.call none operation arguments (nodes :: totals) = .ok root) :
    (Envelope.ofDraft (draft.select root) (.connection operation total)).Readable := by
  refine readable_of_call hselections hcall rfl fun key hkey => ?_
  rcases List.mem_cons.1 hkey with rfl | hkey
  · obtain ⟨_, _, rfl, hname, -⟩ := (Selection.settles_call _ _ _ _).of_eq_ok hnodes
    exact ⟨_, List.mem_cons_self, hname⟩
  · split at hkey
    · next hcounted =>
      obtain ⟨selected, hselected, hname⟩ := htotal hcounted
      rw [List.mem_singleton.1 hkey]
      exact ⟨selected, List.mem_cons_of_mem _ hselected, hname⟩
    · cases hkey

end Draft

-- =============================================================== all verbs

namespace Context

variable {c : Context} {params : Params} {envelope : Envelope}

/-- The response to a request on one record has its record under the operation. -/
theorem getOne_readable (h : (c.getOne params).EndsWith envelope) : envelope.Readable := by
  obtain ⟨_, _, _, operation, argument, -, -, -, -, -, rfl⟩ := getOne_eq_ok h
  refine ⟨_, rfl, rfl, fun root hroot key hkey => ?_⟩
  cases hkey

/-- The response to a mutation has its record one level deeper. -/
theorem writeRecord_readable {operation : String} {input : Table Json}
    (h : (c.writeRecord operation input).EndsWith envelope) : envelope.Readable := by
  obtain ⟨_, _, operationName, argument, record, -, -, -, -, rfl⟩ := writeRecord_eq_ok h
  refine ⟨_, rfl, rfl, fun root hroot key hkey => ?_⟩
  obtain rfl := List.mem_singleton.1 hroot
  obtain rfl := List.mem_singleton.1 hkey
  exact ⟨_, List.mem_cons_self, rfl⟩

/-- Arguments that are passed on leave the root fields alone. -/
theorem selections_of_passArguments {operation : String} {draft extended : Draft}
    {given : List (String × Option Json)} {passed : List (String × Literal)}
    (h : (c.passArguments operation draft given).EndsWith (passed, extended)) :
    extended.selections = draft.selections := by
  induction given generalizing draft passed with
  | nil =>
      cases h
      rfl
  | cons entry rest ih =>
      obtain ⟨argument, value⟩ := entry
      cases value with
      | none => exact ih h
      | some value =>
          rw [passArguments] at h
          split at h
          · obtain ⟨_, -, h⟩ := h.of_bind
            exact ih h
          · obtain ⟨type, -, h⟩ := h.of_lift_bind
            obtain ⟨⟨name, declared⟩, hdeclare, h⟩ := h.of_lift_bind
            obtain ⟨⟨others, last⟩, hrest, h⟩ := h.of_bind
            cases h
            exact (ih hrest).trans (Draft.selections_of_declare hdeclare)

/-- A page is asked for with its nodes, and with a total exactly where one is read. -/
theorem getListBy_readable {filter : Table Json}
    (h : (c.getListBy params filter).EndsWith envelope) : envelope.Readable := by
  unfold getListBy at h
  obtain ⟨_, -, h⟩ := h.of_lift_bind
  obtain ⟨compiled, -, h⟩ := h.of_bind
  obtain ⟨selections, -, h⟩ := h.of_bind
  obtain ⟨started, hstart, h⟩ := h.of_lift_bind
  obtain ⟨first, -, h⟩ := h.of_lift_bind
  obtain ⟨offset, -, h⟩ := h.of_lift_bind
  obtain ⟨int, -, h⟩ := h.of_lift_bind
  obtain ⟨⟨firstName, firstDraft⟩, hfirst, h⟩ := h.of_lift_bind
  obtain ⟨⟨offsetName, pageDraft⟩, hoffset, h⟩ := h.of_lift_bind
  obtain ⟨order, -, h⟩ := h.of_bind
  obtain ⟨⟨passed, draft⟩, hpassed, h⟩ := h.of_bind
  obtain ⟨nodes, hnodes, h⟩ := h.of_lift_bind
  have hselections : draft.selections = [] := by
    rw [selections_of_passArguments hpassed, Draft.selections_of_declare hoffset,
      Draft.selections_of_declare hfirst]
    exact ((Draft.settles_start _ _).of_eq_ok hstart).2.2
  split at h
  · obtain ⟨total, hname, h⟩ := h.of_lift_bind
    obtain ⟨_, htotals, h⟩ := h.of_bind
    cases htotals
    obtain ⟨root, hcall, h⟩ := h.of_lift_bind
    cases h
    have hname : (Selection.leaf total).responseKey.text = "totalCount" :=
      Name.ofText_eq_ok_iff.1 hname
    exact Draft.readable_of_nodes hselections hnodes
      (fun _ => ⟨_, List.mem_cons_self, hname⟩) hcall
  · next huncounted =>
    obtain ⟨_, htotals, h⟩ := h.of_bind
    cases htotals
    obtain ⟨root, hcall, h⟩ := h.of_lift_bind
    cases h
    exact Draft.readable_of_nodes hselections hnodes (fun hcounted => absurd hcounted huncounted)
      hcall

/-- Many records are asked for with their nodes, whether or not a filter can be sent. -/
theorem getMany_readable (halias : c.key.aliasRequired = false)
    (h : (c.getMany params).EndsWith envelope) : envelope.Readable := by
  unfold getMany at h
  dsimp only at h
  rw [halias, if_neg Bool.false_ne_true] at h
  obtain ⟨_, -, h⟩ := h.of_lift_bind
  obtain ⟨selections, -, h⟩ := h.of_bind
  obtain ⟨started, hstart, h⟩ := h.of_lift_bind
  have hempty : started.selections = [] := ((Draft.settles_start _ _).of_eq_ok hstart).2.2
  -- With a filter or without one, the request ends in the same way.
  have hfinish : ∀ {draft : Draft} {arguments : List (String × Literal)},
      draft.selections = [] →
      Reported.EndsWith (do
        let nodes ← Selection.call none "nodes" [] selections
        let root ← Selection.call none c.resource.plural arguments [nodes]
        return Envelope.ofDraft (draft.select root) (.connection c.resource.plural false))
        envelope → envelope.Readable := by
    intro draft arguments hselections h
    obtain ⟨nodes, hnodes, h⟩ := h.of_lift_bind
    obtain ⟨root, hcall, h⟩ := h.of_lift_bind
    cases h
    exact Draft.readable_of_nodes hselections hnodes (fun hcounted => by cases hcounted) hcall
  split at h
  · obtain ⟨scalar, -, h⟩ := h.of_lift_bind
    obtain ⟨⟨ids, declared⟩, hdeclare, h⟩ := h.of_lift_bind
    obtain ⟨operator, -, h⟩ := h.of_lift_bind
    obtain ⟨field, -, h⟩ := h.of_lift_bind
    exact hfinish ((Draft.selections_of_declare hdeclare).trans hempty) h
  · exact hfinish hempty h

/-- A batch is read under the keys that were handed out for its calls, and nothing is needed inside
of its answers. -/
theorem Batches.readable {batch : Batch} {calls : List Batch.Call} {draft : Draft}
    (h : c.Batches params envelope batch calls draft) : envelope.Readable := by
  have hfinished := h.finished
  subst hfinished
  obtain ⟨operation, argument, -, -, hselected⟩ := h.filled.selected
  have hkeys : (c.batchDecoder calls).keys = calls.map (·.key.text)
      ∧ (c.batchDecoder calls).innerKeys = [] := by
    unfold batchDecoder
    split
    · exact ⟨List.map_map, rfl⟩
    · exact ⟨List.map_map, rfl⟩
    · exact ⟨rfl, rfl⟩
  refine ⟨_, rfl, ?_, fun root hroot key hkey => ?_⟩
  · show (c.batchDecoder calls).keys = draft.selections.map _
    rw [hkeys.1, hselected, List.map_map]
    rfl
  · change key ∈ (c.batchDecoder calls).innerKeys at hkey
    rw [hkeys.2] at hkey
    cases hkey

/-- Every verb makes requests with a decoder that fits. -/
theorem request_readable (h : (Builder.request c params).EndsWith envelope) :
    envelope.Readable := by
  by_cases hbatch : c.isBatch = true
  · obtain ⟨batch, calls, draft, hbatches⟩ := (c.settles_batch hbatch params).of_eq_ok h
    exact hbatches.readable
  · obtain ⟨schema, configuration, strategies, resource, type, key, verb⟩ := c
    cases verb
    case getOne => exact getOne_readable h
    case getList => exact getListBy_readable h
    case getMany => exact getMany_readable (Bool.not_eq_true _ ▸ hbatch) h
    case getManyReference =>
      change (getManyReference _ params).EndsWith envelope at h
      unfold getManyReference at h
      split at h
      · cases h
      · obtain ⟨id, -, h⟩ := h.of_lift_bind
        exact getListBy_readable h
    case create =>
      obtain ⟨_, -, h⟩ := h.of_lift_bind
      exact writeRecord_readable h
    case update | delete =>
      obtain ⟨raw, -, h⟩ := h.of_lift_bind
      obtain ⟨_, -, h⟩ := h.of_lift_bind
      exact writeRecord_readable h
    case updateMany | deleteMany => exact absurd rfl hbatch

end Context

-- ============================================================ what is built

namespace Builder

/-- Everything that is built reads what it asks for. A response whose data answers every root field
is parsed, whatever the values in it are; and one that lacks a root field, and is otherwise the
same, is refused for that field. -/
theorem parseResponse_conforming (builder : Builder) {verb resource : String} {params : Params}
    {envelope : Envelope} {omissions : List Omission}
    (hbuilt : (builder.build verb resource params).1 = .ok (envelope, omissions)) :
    ∃ definition, envelope.document.operations = [definition]
      ∧ ∀ data, definition.Conforms data →
        (∀ response : Json, response.member? "data" = some (.object data) →
          ∃ answer, envelope.parseResponse response = .ok answer)
        ∧ ∀ root ∈ definition.selections, ∀ response : Json,
          response.member? "data" = some (.object (Table.erase data root.responseKey.text)) →
            envelope.parseResponse response
              = .error (.malformedResponse s!"`{root.responseKey.text}` is missing") := by
  obtain ⟨c, -, hrequest, -⟩ := builder.build_eq_ok_iff.1 hbuilt
  obtain ⟨definition, hsingle, hreads⟩ := Context.request_readable hrequest
  refine ⟨definition, hsingle, fun data hdata => ⟨?_, ?_⟩⟩
  · intro response hresponse
    show ∃ answer, envelope.decoder.decodeResponse response = .ok answer
    rw [Decoder.decodeResponse_eq _ hresponse]
    exact hreads.decode_isOk hdata
  · intro root hroot response hresponse
    show envelope.decoder.decodeResponse response = _
    rw [Decoder.decodeResponse_eq _ hresponse]
    exact hreads.decode_erase hdata hroot

/-- The answer to the deletion of two books is parsed; without the answer to one of them it is
refused for that one. -/
theorem parseResponse_conforming_bookshop :
    ∃ envelope omissions,
      (bookshop.build "DELETE_MANY" "book"
          { ids := [.integer 9223372036854775808, .string "b"] }).1 = .ok (envelope, omissions)
        ∧ (∃ answer, envelope.parseResponse (.object [("data", .object deletedBooks)])
            = .ok answer)
        ∧ envelope.parseResponse (.object [("data", .object (Table.erase deletedBooks "kb"))])
            = .error (.malformedResponse "`kb` is missing") := by
  obtain ⟨envelope, hrequest, hknown⟩ : ∃ envelope, (request (bookContext .deleteMany)
      { ids := [.integer 9223372036854775808, .string "b"] }).result = .ok envelope
      ∧ (envelope.document.operations.map fun definition =>
          (definition.selections.map (·.responseKey.text),
            decide (definition.Conforms deletedBooks)))
        = [(["k9223372036854775808", "kb"], true)] :=
    exists_eq_ok_of_map (by decide +kernel)
  have hverb : Verb.parse "DELETE_MANY" = .ok .deleteMany := by decide +kernel
  have hbuilt := bookshop.build_eq_ok_iff.2 ⟨_, bookshop_context hverb, hrequest, rfl⟩
  obtain ⟨definition, hsingle, hparse⟩ := parseResponse_conforming bookshop hbuilt
  rw [hsingle] at hknown
  obtain ⟨hkeys, hconforms⟩ := Prod.mk.inj (List.head_eq_of_cons_eq hknown)
  obtain ⟨hparsed, hrefused⟩ := hparse deletedBooks (of_decide_eq_true hconforms)
  obtain ⟨root, hroot, hkey⟩ : ∃ root ∈ definition.selections, root.responseKey.text = "kb" := by
    refine List.mem_map.1 ?_
    rw [hkeys]
    decide
  have hlacking := hrefused root hroot
  rw [hkey] at hlacking
  exact ⟨envelope, _, hbuilt, hparsed _ rfl, hlacking _ rfl⟩

end Builder

end CrudGraph
