/-
Requests on one record. A record is read or written by one root operation, which takes a single
argument through a variable of the argument's name. `Draft.ofCall` is what the draft of such a
request comes to, whichever verb it is made for; the verbs differ in the argument, in what is sent
through it, and in what is selected of the answer (`getOne_eq_ok`, `writeRecord_eq_ok`).

Unlike a statement of what a request settles in, these read a request backwards: from the envelope
that came out to everything that went into it. That is what a comparison of two requests needs.
-/
import CrudGraph.Proofs.Context
import CrudGraph.Proofs.Draft

namespace CrudGraph

-- ============================================================== one call

/-- An operation with one root field, which takes one argument through a variable of its name. -/
def Draft.ofCall (kind : OperationKind) (operation argument : Name) (type : TypeExpr)
    (value : Json) (selections : List Selection) : Draft where
  kind := kind
  name := operation
  bindings := [⟨argument, type, value⟩]
  selections := [.field none operation [(argument, .reference argument)] selections]

/-- A draft that is started, declares one variable and selects one root field that takes it is such
an operation. -/
theorem Draft.eq_ofCall {kind : OperationKind} {operation argument : String} {type : TypeExpr}
    {value : Json} {selections : List Selection} {started declared : Draft} {name : Name}
    {root : Selection} (hstart : start kind operation = .ok started)
    (hdeclare : started.declare argument type value = .ok (name, declared))
    (hcall : Selection.call none operation [(argument, .reference name)] selections = .ok root) :
    ∃ operationName argumentName : Name,
      operationName.text = operation ∧ argumentName.text = argument
        ∧ declared.select root
          = ofCall kind operationName argumentName type value selections := by
  rw [start] at hstart
  obtain ⟨operationName, hoperation, hstarted⟩ := bind_eq_ok_iff.1 hstart
  cases hstarted
  have hfresh : ∀ declared ∈ ([] : List Variable), declared.name.text ≠ argument :=
    fun _ h => by cases h
  obtain ⟨argumentName, hargument, heq⟩ :=
    (settles_declare ⟨kind, operationName, [], []⟩ type value hfresh).of_eq_ok hdeclare
  cases heq
  obtain ⟨called, given, hcalled, hgiven, rfl⟩ := Selection.eq_of_call hcall
  obtain rfl : called = operationName :=
    Name.ext (hcalled.trans (Name.ofText_eq_ok_iff.1 hoperation).symm)
  obtain rfl : given = name := Name.ext (hgiven.trans hargument.symm)
  exact ⟨called, given, hcalled, hgiven, rfl⟩

namespace Context

variable {c : Context}

-- ============================================================== one record

/-- A record is read by the operation for one, which takes its identifier, and of the record the
selections of the resource are asked for. -/
theorem getOne_eq_ok {params : Params} {envelope : Envelope}
    (h : (c.getOne params).EndsWith envelope) :
    ∃ (raw : Json) (type : TypeExpr) (selections : List Selection) (operation argument : Name),
      params.id = some raw ∧ c.idType c.key.singleOperation = .ok type
        ∧ c.select.EndsWith selections
        ∧ operation.text = c.key.singleOperation ∧ argument.text = c.key.idArgumentName
        ∧ envelope = .ofDraft
            (.ofCall .query operation argument type (c.encodeId raw) selections)
            (.record operation.text) := by
  unfold getOne at h
  obtain ⟨raw, hraw, h⟩ := h.of_lift_bind
  obtain ⟨_, -, h⟩ := h.of_lift_bind
  obtain ⟨selections, hselect, h⟩ := h.of_bind
  obtain ⟨started, hstart, h⟩ := h.of_lift_bind
  obtain ⟨type, htype, h⟩ := h.of_lift_bind
  obtain ⟨⟨name, declared⟩, hdeclare, h⟩ := h.of_lift_bind
  obtain ⟨root, hcall, h⟩ := h.of_lift_bind
  cases h
  obtain ⟨operation, argument, hoperation, hargument, hdraft⟩ :=
    Draft.eq_ofCall hstart hdeclare hcall
  refine ⟨raw, type, selections, operation, argument,
    ((c.settles_requireId params).of_eq_ok hraw).1, htype, hselect, hoperation, hargument, ?_⟩
  rw [hdraft, hoperation]

/-- A record is written by an operation that takes an input, and of the payload the record is asked
for, with the selections of the resource. -/
theorem writeRecord_eq_ok {operation : String} {input : Table Json} {envelope : Envelope}
    (h : (c.writeRecord operation input).EndsWith envelope) :
    ∃ (type : TypeExpr) (selections : List Selection) (operationName argument record : Name),
      c.inputType operation = .ok type ∧ operationName.text = operation
        ∧ argument.text = "input" ∧ record.text = c.resource.single
        ∧ envelope = .ofDraft
            (.ofCall .mutation operationName argument type (.object input)
              [.field none record [] selections])
            (.payloadRecord operationName.text record.text) := by
  unfold writeRecord at h
  obtain ⟨selections, -, h⟩ := h.of_bind
  obtain ⟨started, hstart, h⟩ := h.of_lift_bind
  obtain ⟨type, htype, h⟩ := h.of_lift_bind
  obtain ⟨⟨name, declared⟩, hdeclare, h⟩ := h.of_lift_bind
  obtain ⟨inner, hinner, h⟩ := h.of_lift_bind
  obtain ⟨root, hcall, h⟩ := h.of_lift_bind
  cases h
  obtain ⟨record, given, rfl, hrecord, hgiven⟩ :=
    (Selection.settles_call _ _ _ _).of_eq_ok hinner
  obtain rfl := List.map_eq_nil_iff.1 hgiven
  obtain ⟨operationName, argument, hoperation, hargument, hdraft⟩ :=
    Draft.eq_ofCall hstart hdeclare hcall
  refine ⟨type, selections, operationName, argument, record, htype, hoperation, hargument,
    hrecord, ?_⟩
  rw [hdraft, hoperation, hrecord]

-- ============================================================= success

/-- A record can be asked for where there is an operation for it, something to select, and a type
for the identifier. -/
theorem getOne_isOk {params : Params} (hid : ∃ raw, c.requireId params = .ok raw)
    (hknown : (c.schema.operation? c.key.singleOperation).isSome = true)
    (hselected : ∃ selections, c.select.EndsWith selections)
    (htyped : ∃ type, c.idType c.key.singleOperation = .ok type)
    (hnamed : isName c.key.singleOperation.toList = true)
    (hargument : isName c.key.idArgumentName.toList = true) :
    ∃ envelope, (c.getOne params).EndsWith envelope := by
  obtain ⟨raw, hid⟩ := hid
  obtain ⟨selections, hselected⟩ := hselected
  obtain ⟨type, htyped⟩ := htyped
  let operation : Name := ⟨c.key.singleOperation, hnamed⟩
  let argument : Name := ⟨c.key.idArgumentName, hargument⟩
  have hrequired : c.requireOperation c.key.singleOperation = .ok () := if_pos hknown
  have hdeclared := Draft.declare_eq_ok ⟨.query, operation, [], []⟩ argument type (c.encodeId raw)
    fun declared h => by cases h
  unfold getOne
  refine Reported.exists_lift_bind hid ?_
  refine Reported.exists_lift_bind hrequired ?_
  refine Reported.exists_bind hselected ?_
  refine Reported.exists_lift_bind (Draft.start_eq_ok .query operation) ?_
  refine Reported.exists_lift_bind htyped ?_
  refine Reported.exists_lift_bind hdeclared ?_
  exact Reported.exists_lift_bind
    (Selection.call_eq_ok none operation argument (.reference argument) selections) ⟨_, rfl⟩

/-- A record can be written where there is something to select of it and a type for the input. -/
theorem writeRecord_isOk {operation : String} {input : Table Json}
    (hselected : ∃ selections, c.select.EndsWith selections)
    (htyped : ∃ type, c.inputType operation = .ok type)
    (hnamed : isName operation.toList = true) (hrecord : isName c.resource.single.toList = true) :
    ∃ envelope, (c.writeRecord operation input).EndsWith envelope := by
  obtain ⟨selections, hselected⟩ := hselected
  obtain ⟨type, htyped⟩ := htyped
  let operationName : Name := ⟨operation, hnamed⟩
  let argument : Name := ⟨"input", by decide⟩
  let record : Name := ⟨c.resource.single, hrecord⟩
  have hdeclared := Draft.declare_eq_ok ⟨.mutation, operationName, [], []⟩ argument type
    (.object input) fun declared h => by cases h
  have hinner : Selection.call none c.resource.single [] selections
      = .ok (.field none record [] selections) := by
    show Selection.call none record.text [] selections = _
    rw [Selection.call, ofText_text]
    rfl
  unfold writeRecord
  refine Reported.exists_bind hselected ?_
  refine Reported.exists_lift_bind (Draft.start_eq_ok .mutation operationName) ?_
  refine Reported.exists_lift_bind htyped ?_
  refine Reported.exists_lift_bind hdeclared ?_
  refine Reported.exists_lift_bind hinner ?_
  exact Reported.exists_lift_bind
    (Selection.call_eq_ok none operationName argument (.reference argument) _) ⟨_, rfl⟩

end Context

end CrudGraph
