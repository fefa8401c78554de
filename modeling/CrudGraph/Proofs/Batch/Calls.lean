/-
The operations of a batch. One pass over the identifiers hands out two names for each, declares a
variable, and selects a root field; what it leaves behind is spread over the draft, the list of
aliases, and the two sets of names in use. `Added` puts it back together: there is one list of
calls, one for each identifier and in the same order, of which all these are images.

Distinctness is carried by the sets. A name that is handed out is new to its set and enters it, so
the names handed out later differ from it whatever their identifiers are; and since every variable
of the draft is in the set for variables (`InUse`), none is ever declared twice.

Whether the pass succeeds is a matter of the batch alone (`fill_isOk_iff`): the operation and its
argument have to be names, and no identifier has a say in it.
-/
import CrudGraph.Proofs.Draft
import CrudGraph.Proofs.FreshName
import CrudGraph.Request.Batch

namespace CrudGraph.Batch

/-- One operation of a batch: the key that its answer comes back under, its variable, and the
identifier that it was made for. -/
structure Call where
  key : Name
  variableName : Name
  id : Json

/-- The variable of a call. -/
def binding (batch : Batch) (call : Call) : Variable :=
  ⟨call.variableName, batch.type, batch.valueOf call.id⟩

/-- The root field of a call. -/
def root (batch : Batch) (operation argument : Name) (call : Call) : Selection :=
  .field (some call.key) operation [(argument, .reference call.variableName)] batch.selections

variable {batch : Batch}

-- ============================================================== names in use

/-- Every variable of the draft is in use. This is what a pass keeps up, and why a name that is not
in use can be declared. -/
def InUse (used : List String) (draft : Draft) : Prop :=
  ∀ declared ∈ draft.bindings, declared.name.text ∈ used

namespace InUse

variable {used : List String} {draft : Draft}

theorem of_nil (hbindings : draft.bindings = []) : InUse used draft := by
  intro declared hdeclared
  rw [hbindings] at hdeclared
  cases hdeclared

/-- A name that is not in use is not declared. -/
theorem ne_of_not_mem (h : InUse used draft) {text : String} (hfresh : text ∉ used) :
    ∀ declared ∈ draft.bindings, declared.name.text ≠ text := by
  intro declared hdeclared heq
  exact hfresh (heq ▸ h declared hdeclared)

/-- A variable that is declared enters the names in use. -/
theorem declare (h : InUse used draft) (latest : Variable) :
    InUse (latest.name.text :: used)
      { draft with bindings := draft.bindings ++ [latest] } := by
  intro declared hdeclared
  rcases List.mem_append.1 hdeclared with hdeclared | hdeclared
  · exact List.mem_cons_of_mem _ (h declared hdeclared)
  · rw [List.mem_singleton.1 hdeclared]
    exact List.mem_cons_self

end InUse

-- ================================================================ one pass

/-- What a pass over identifiers has done to a draft, said by one list of calls. -/
structure Added (batch : Batch) (draft : Draft) (keysUsed variablesUsed : List String)
    (ids : List Json) (keys : List Name) (extended : Draft) (calls : List Call) : Prop where
  identified : calls.map (·.id) = ids
  answered : keys = calls.map (·.key)
  keysDistinct : (calls.map (·.key.text)).Nodup
  keysFresh : ∀ call ∈ calls, call.key.text ∉ keysUsed
  variablesDistinct : (calls.map (·.variableName.text)).Nodup
  variablesFresh : ∀ call ∈ calls, call.variableName.text ∉ variablesUsed
  titled : extended.name = draft.name
  bound : extended.bindings = draft.bindings ++ calls.map batch.binding
  selected : ∀ operation argument : Name,
    operation.text = batch.operation → argument.text = batch.argument →
      extended.selections = draft.selections ++ calls.map (batch.root operation argument)
  valid : ids ≠ [] → isName batch.operation.toList = true ∧ isName batch.argument.toList = true

/-- A pass over no identifiers changes nothing. -/
theorem Added.nil (draft : Draft) (keysUsed variablesUsed : List String) :
    batch.Added draft keysUsed variablesUsed [] [] draft [] where
  identified := rfl
  answered := rfl
  keysDistinct := List.nodup_nil
  keysFresh := fun _ h => by cases h
  variablesDistinct := List.nodup_nil
  variablesFresh := fun _ h => by cases h
  titled := rfl
  bound := (List.append_nil _).symm
  selected := fun _ _ _ _ => (List.append_nil _).symm
  valid := fun h => absurd rfl h

/-- A name that is not in use, in front of names that differ from it and from those in use. -/
theorem distinct_cons (f : Call → String) {used : List String} {first : Call} {rest : List Call}
    (hfirst : f first ∉ used) (hrest : (rest.map f).Nodup)
    (hfresh : ∀ call ∈ rest, f call ∉ f first :: used) :
    ((first :: rest).map f).Nodup ∧ ∀ call ∈ first :: rest, f call ∉ used := by
  constructor
  · rw [List.map_cons, List.nodup_cons]
    refine ⟨fun hmem => ?_, hrest⟩
    obtain ⟨other, hother, heq⟩ := List.mem_map.1 hmem
    refine hfresh other hother ?_
    rw [heq]
    exact List.mem_cons_self
  · intro call hcall
    rcases List.mem_cons.1 hcall with rfl | hcall
    · exact hfirst
    · exact fun hmem => hfresh call hcall (List.mem_cons_of_mem _ hmem)

/-- A call in front of a pass that knows its names to be in use. -/
theorem Added.cons {draft extended : Draft} {keysUsed variablesUsed : List String}
    {ids : List Json} {keys : List Name} {calls : List Call} {operation argument : Name}
    (call : Call) (hoperation : operation.text = batch.operation)
    (hargument : argument.text = batch.argument) (hkey : call.key.text ∉ keysUsed)
    (hvariable : call.variableName.text ∉ variablesUsed)
    (h : batch.Added
      { draft with
        bindings := draft.bindings ++ [batch.binding call]
        selections := draft.selections ++ [batch.root operation argument call] }
      (call.key.text :: keysUsed) (call.variableName.text :: variablesUsed) ids keys extended
      calls) :
    batch.Added draft keysUsed variablesUsed (call.id :: ids) (call.key :: keys) extended
      (call :: calls) where
  identified := by rw [List.map_cons, h.identified]
  answered := by rw [List.map_cons, h.answered]
  keysDistinct := (distinct_cons (·.key.text) hkey h.keysDistinct h.keysFresh).1
  keysFresh := (distinct_cons (·.key.text) hkey h.keysDistinct h.keysFresh).2
  variablesDistinct :=
    (distinct_cons (·.variableName.text) hvariable h.variablesDistinct h.variablesFresh).1
  variablesFresh :=
    (distinct_cons (·.variableName.text) hvariable h.variablesDistinct h.variablesFresh).2
  titled := h.titled
  bound := by
    rw [h.bound, List.map_cons, List.append_assoc]
    rfl
  selected := by
    intro operation' argument' hoperation' hargument'
    have heq : operation' = operation := Name.ext (hoperation'.trans hoperation.symm)
    have heq' : argument' = argument := Name.ext (hargument'.trans hargument.symm)
    subst heq heq'
    rw [h.selected operation' argument' hoperation' hargument', List.map_cons,
      List.append_assoc]
    rfl
  valid := fun _ => ⟨hoperation ▸ operation.valid, hargument ▸ argument.valid⟩

/-- A pass over identifiers adds one call for each. It never declares a variable twice, since the
variables that are declared are in use. -/
theorem settles_addTo (batch : Batch) (draft : Draft) (keysUsed variablesUsed : List String)
    (ids : List Json) (hused : InUse variablesUsed draft) :
    Settles (batch.addTo draft keysUsed variablesUsed ids) fun added =>
      ∃ calls, batch.Added draft keysUsed variablesUsed ids added.1 added.2 calls := by
  induction ids generalizing draft keysUsed variablesUsed with
  | nil => exact Settles.ok ⟨[], .nil draft keysUsed variablesUsed⟩
  | cons id rest ih =>
      rw [addTo]
      refine Settles.bind (FreshName.settles_allocate keysUsed batch.lead id.token)
        fun handed hhanded => ?_
      obtain ⟨key, rfl, hkey⟩ := hhanded
      refine Settles.bind (FreshName.settles_allocate variablesUsed batch.variableLead id.token)
        fun handed hhanded => ?_
      obtain ⟨variableName, rfl, hvariable⟩ := hhanded
      -- A variable that is not in use was not declared, so this one is not declared twice.
      have hfresh := hused.ne_of_not_mem hvariable
      refine Settles.bind (draft.settles_declare batch.type (batch.valueOf id) hfresh)
        fun declared hdeclared => ?_
      obtain ⟨name, hname, rfl⟩ := hdeclared
      obtain rfl : name = variableName := Name.ext hname
      refine Settles.bind (Selection.settles_call (some key) batch.operation
        [(batch.argument, .reference name)] batch.selections).eq_ok fun selection hcall => ?_
      obtain ⟨operation, argument, hoperation, hargument, rfl⟩ := Selection.eq_of_call hcall
      have hstill := hused.declare ⟨name, batch.type, batch.valueOf id⟩
      refine Settles.bind (ih _ _ _ hstill) fun added hadded => ?_
      obtain ⟨keys, extended⟩ := added
      obtain ⟨calls, hadded⟩ := hadded
      exact Settles.ok ⟨⟨key, name, id⟩ :: calls,
        .cons ⟨key, name, id⟩ hoperation hargument hkey hvariable hadded⟩

-- ================================================================= a batch

/-- A draft that holds one call of the batch for each identifier, in the order of the identifiers,
and nothing else. The calls have keys of their own and variables of their own. -/
structure Fills (batch : Batch) (ids : List Json) (calls : List Call) (draft : Draft) : Prop where
  identified : calls.map (·.id) = ids
  keysDistinct : (calls.map (·.key)).Nodup
  variablesDistinct : (calls.map (·.variableName)).Nodup
  bound : draft.bindings = calls.map batch.binding
  selected : ∃ operation argument : Name,
    operation.text = batch.operation ∧ argument.text = batch.argument
      ∧ draft.selections = calls.map (batch.root operation argument)

/-- A pass over identifiers fills a draft that was empty. -/
theorem settles_fill (batch : Batch) {draft : Draft} {ids : List Json}
    (hbindings : draft.bindings = []) (hselections : draft.selections = []) (hids : ids ≠ []) :
    Settles (batch.addTo draft [] [] ids) fun added =>
      ∃ calls, added.1 = calls.map (·.key) ∧ batch.Fills ids calls added.2 := by
  refine Settles.mono (batch.settles_addTo draft [] [] ids (.of_nil hbindings)) ?_
  intro added hadded
  obtain ⟨keys, extended⟩ := added
  obtain ⟨calls, h⟩ := hadded
  obtain ⟨hoperation, hargument⟩ := h.valid hids
  have hselected := h.selected ⟨batch.operation, hoperation⟩ ⟨batch.argument, hargument⟩ rfl rfl
  refine ⟨calls, h.answered, h.identified, ?_, ?_, ?_,
    ⟨batch.operation, hoperation⟩, ⟨batch.argument, hargument⟩, rfl, rfl, ?_⟩
  · exact List.Nodup.of_map Name.text (by rw [List.map_map]; exact h.keysDistinct)
  · exact List.Nodup.of_map Name.text (by rw [List.map_map]; exact h.variablesDistinct)
  · rw [h.bound, hbindings, List.nil_append]
  · rw [hselected, hselections, List.nil_append]

namespace Fills

variable {ids : List Json} {calls : List Call} {draft : Draft}

/-- The root fields of calls refer to their variables, where nothing under them refers to any. -/
theorem references_roots (hclosed : Selection.referencesOfAll batch.selections = [])
    (operation argument : Name) (calls : List Call) :
    Selection.referencesOfAll (calls.map (batch.root operation argument))
      = calls.map (·.variableName) := by
  induction calls with
  | nil => rfl
  | cons call rest ih =>
      rw [List.map_cons, Selection.referencesOfAll, ih, root, Selection.references_field hclosed]
      rfl

/-- A filled draft is balanced. -/
theorem balanced (h : batch.Fills ids calls draft) {schema : Schema}
    (hclosed : Selection.referencesOfAll batch.selections = [])
    (hoperation : (schema.operation? batch.operation).isSome = true) :
    draft.Balanced schema := by
  have hnames : draft.names = calls.map (·.variableName) := by
    rw [Draft.names, h.bound, List.map_map]
    rfl
  obtain ⟨operation, argument, htext, -, hselected⟩ := h.selected
  refine ⟨?_, ?_, ?_⟩
  · rw [hnames]
    exact h.variablesDistinct
  · rw [hselected, references_roots hclosed, hnames]
  · rw [hselected]
    intro root hroot
    obtain ⟨call, -, rfl⟩ := List.mem_map.1 hroot
    show (schema.operation? operation.text).isSome = true
    rw [htext]
    exact hoperation

/-- For some identifiers, there are root fields. -/
theorem selections_ne_nil (h : batch.Fills ids calls draft) (hids : ids ≠ []) :
    draft.selections ≠ [] := by
  obtain ⟨operation, argument, -, -, hselected⟩ := h.selected
  rw [hselected]
  intro hnil
  refine hids ?_
  rw [← h.identified, List.map_eq_nil_iff.1 hnil]
  rfl

end Fills

-- =============================================================== success

/-- From beginnings that are names, a batch of an operation and an argument that are names can be
made for any identifiers. -/
theorem addTo_isOk (operation argument : Name) (hoperation : operation.text = batch.operation)
    (hargument : argument.text = batch.argument) (hlead : isName batch.lead.toList = true)
    (hvariableLead : isName batch.variableLead.toList = true) (draft : Draft)
    (keysUsed variablesUsed : List String) (ids : List Json)
    (hused : InUse variablesUsed draft) :
    ∃ added, batch.addTo draft keysUsed variablesUsed ids = .ok added := by
  induction ids generalizing draft keysUsed variablesUsed with
  | nil => exact ⟨_, rfl⟩
  | cons id rest ih =>
      rw [addTo]
      obtain ⟨key, hkey, -⟩ := FreshName.allocate_isOk hlead keysUsed id.token
      obtain ⟨variableName, hvariable, hnew⟩ :=
        FreshName.allocate_isOk hvariableLead variablesUsed id.token
      have hdeclare := draft.declare_eq_ok variableName batch.type (batch.valueOf id)
        (hused.ne_of_not_mem hnew)
      have hcall := Selection.call_eq_ok (some key) operation argument (.reference variableName)
        batch.selections
      rw [hoperation, hargument] at hcall
      have hstill := hused.declare ⟨variableName, batch.type, batch.valueOf id⟩
      obtain ⟨added, hadded⟩ := ih
        (Draft.select { draft with
          bindings := draft.bindings ++ [⟨variableName, batch.type, batch.valueOf id⟩] }
          (.field (some key) operation [(argument, .reference variableName)] batch.selections))
        (key.text :: keysUsed) (variableName.text :: variablesUsed) hstill
      exact exists_ok_bind hkey (exists_ok_bind hvariable (exists_ok_bind hdeclare
        (exists_ok_bind hcall (exists_ok_bind hadded ⟨_, rfl⟩))))

/-- Whether a batch can be made for some identifiers depends on its operation and its argument and
on nothing that comes from the identifiers. -/
theorem fill_isOk_iff (hlead : isName batch.lead.toList = true)
    (hvariableLead : isName batch.argument.toList = true →
      isName batch.variableLead.toList = true)
    {draft : Draft} (hbindings : draft.bindings = []) {ids : List Json} (hids : ids ≠ []) :
    (∃ added, batch.addTo draft [] [] ids = .ok added)
      ↔ isName batch.operation.toList = true ∧ isName batch.argument.toList = true := by
  have hused : InUse [] draft := .of_nil hbindings
  constructor
  · intro h
    obtain ⟨added, hok⟩ := h
    obtain ⟨calls, hadded⟩ := (batch.settles_addTo draft [] [] ids hused).of_eq_ok hok
    exact hadded.valid hids
  · intro h
    obtain ⟨hoperation, hargument⟩ := h
    exact addTo_isOk ⟨batch.operation, hoperation⟩ ⟨batch.argument, hargument⟩ rfl rfl hlead
      (hvariableLead hargument) draft [] [] ids hused

end CrudGraph.Batch
