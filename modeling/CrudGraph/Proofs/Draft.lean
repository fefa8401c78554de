/-
Drafts and what they become. A draft keeps its variables, with their values, apart from the root
fields that refer to them; nothing in its type makes the two agree. `Balanced` says that they do:
the variables have different names, the root fields refer to them in the order in which they were
declared and to nothing else, and every root field is an operation of the schema.

The three ways to work on a draft are specified once (`settles_start`, `settles_declare`,
`settles_call`). Declaring a variable throws the draft off balance and selecting a root field that
refers to it brings it back; a request is finished only in balance, and what a server will see of
it is then consistent (`Consistent`).
-/
import CrudGraph.Model.Schema
import CrudGraph.Proofs.Reference
import CrudGraph.Request.Envelope
import Mathlib.Data.List.Nodup

namespace CrudGraph

-- ====================================================== what is to be shown

/-- The parts of a finished request agree with each other and with the schema: it is one operation
under the name that it is sent with; its root fields are operations of the schema; it declares the
variables that it has values for, in the same order and each once; every variable that it declares
is used exactly once, and it uses no other. -/
structure Envelope.Consistent (schema : Schema) (envelope : Envelope)
    (operation : OperationDefinition) : Prop where
  single : envelope.document.operations = [operation]
  named : operation.name.text = envelope.operationName
  asks : operation.selections ≠ []
  rooted : ∀ root ∈ operation.selections, (schema.operation? root.name.text).isSome = true
  valued : operation.declarations.map (·.name.text) = Table.keys envelope.values
  distinct : (operation.declarations.map (·.name.text)).Nodup
  used : ∀ declared ∈ operation.declarations, operation.references.count declared.name = 1
  closed : ∀ name ∈ operation.references, ∃ declared ∈ operation.declarations, declared.name = name

/-- Elements with different names have names with different texts. -/
theorem Name.nodup_texts {α : Type} {name : α → Name} {xs : List α} (h : (xs.map name).Nodup) :
    (xs.map fun x => (name x).text).Nodup := by
  have htexts : ((xs.map name).map Name.text).Nodup := h.map fun _ _ => Name.ext
  rw [List.map_map] at htexts
  exact htexts

namespace Draft

/-- The names of the variables of a draft, in the order of their declaration. -/
def names (draft : Draft) : List Name :=
  draft.bindings.map (·.name)

/-- Variables and root fields agree. -/
structure Balanced (schema : Schema) (draft : Draft) : Prop where
  distinct : draft.names.Nodup
  referenced : Selection.referencesOfAll draft.selections = draft.names
  rooted : ∀ root ∈ draft.selections, (schema.operation? root.name.text).isSome = true

variable {schema : Schema} {draft : Draft}

-- ================================================================= steps

/-- A draft begins without variables and root fields, under the given name. -/
theorem settles_start (kind : OperationKind) (operation : String) :
    Settles (start kind operation) fun draft =>
      draft.name.text = operation ∧ draft.bindings = [] ∧ draft.selections = [] := by
  rw [start]
  exact Settles.bind (settles_ofText operation) fun name hname =>
    Settles.ok ⟨hname, rfl, rfl⟩

/-- A name that is not declared yet is declared behind the others. -/
theorem settles_declare (draft : Draft) {variableName : String} (type : TypeExpr) (value : Json)
    (hfresh : ∀ declared ∈ draft.bindings, declared.name.text ≠ variableName) :
    Settles (draft.declare variableName type value) fun declared =>
      ∃ name : Name, name.text = variableName
        ∧ declared
          = (name, { draft with bindings := draft.bindings ++ [⟨name, type, value⟩] }) := by
  rw [declare]
  refine Settles.bind (settles_ofText variableName) fun name hname => ?_
  split
  · next hdeclared =>
    obtain ⟨declared, hmem, heq⟩ := List.any_eq_true.1 hdeclared
    refine absurd ?_ (hfresh declared hmem)
    rw [← hname, of_decide_eq_true heq]
  · exact Settles.ok ⟨name, hname, rfl⟩

/-- The same, of the names alone. -/
theorem settles_declare_names (draft : Draft) {variableName : String} (type : TypeExpr)
    (value : Json) (hfresh : variableName ∉ draft.names.map (·.text)) :
    Settles (draft.declare variableName type value) fun declared =>
      declared.1.text = variableName ∧ declared.2.names = draft.names ++ [declared.1]
        ∧ declared.2.selections = draft.selections := by
  have hdeclared : ∀ declared ∈ draft.bindings, declared.name.text ≠ variableName := by
    intro declared hdeclared heq
    refine hfresh (List.mem_map.2 ⟨declared.name, ?_, heq⟩)
    exact List.mem_map_of_mem hdeclared
  refine Settles.mono (draft.settles_declare type value hdeclared) ?_
  intro declared hdeclared
  obtain ⟨name, hname, rfl⟩ := hdeclared
  exact ⟨hname, List.map_append, rfl⟩

/-- The first variable of a draft that has nothing yet. -/
theorem settles_declare_first {draft : Draft} (hbindings : draft.bindings = [])
    (hselections : draft.selections = []) (variableName : String) (type : TypeExpr)
    (value : Json) :
    Settles (draft.declare variableName type value) fun declared =>
      declared.1.text = variableName ∧ declared.2.names = [declared.1]
        ∧ declared.2.selections = [] := by
  have hempty : draft.names = [] := List.map_eq_nil_iff.2 hbindings
  have hfresh : variableName ∉ draft.names.map (·.text) := by
    rw [hempty]
    exact List.not_mem_nil
  refine Settles.mono (draft.settles_declare_names type value hfresh) ?_
  intro declared hdeclared
  obtain ⟨name, declared⟩ := declared
  obtain ⟨hname, hnames, hkept⟩ := hdeclared
  rw [hempty, List.nil_append] at hnames
  exact ⟨hname, hnames, hkept.trans hselections⟩

end Draft

/-- The selection of a root operation has the operation's name, the key that it was given, and the
arguments under their names. -/
theorem Selection.settles_call (responseName : Option Name) (operation : String)
    (arguments : List (String × Literal)) (selections : List Selection) :
    Settles (call responseName operation arguments selections) fun root =>
      ∃ name given, root = .field responseName name given selections
        ∧ name.text = operation
        ∧ given.map (fun entry => (entry.1.text, entry.2)) = arguments := by
  rw [call]
  refine Settles.bind (settles_ofText operation) fun name hname => ?_
  have hgiven : Settles
      (arguments.mapM fun entry => do return (← Name.ofText entry.1, entry.2))
      fun given => given.map (fun entry => (entry.1.text, entry.2)) = arguments := by
    induction arguments with
    | nil => exact Settles.ok rfl
    | cons entry rest ih =>
        have hfirst : Settles (do return (← Name.ofText entry.1, entry.2))
            fun named : Name × Literal => (named.1.text, named.2) = entry :=
          Settles.bind (settles_ofText entry.1) fun name hname => Settles.ok (by rw [hname])
        rw [List.mapM_cons]
        refine Settles.bind hfirst fun first hfirst => ?_
        refine Settles.bind ih fun others hothers => Settles.ok ?_
        rw [List.map_cons, hfirst, hothers]
  exact Settles.bind hgiven fun given hgiven => Settles.ok ⟨name, given, rfl, hname, hgiven⟩

/-- The selection of a root operation with one argument, under the names that they are. -/
theorem Selection.eq_of_call {responseName : Option Name} {operation argument : String}
    {value : Literal} {selections : List Selection} {root : Selection}
    (h : call responseName operation [(argument, value)] selections = .ok root) :
    ∃ operationName argumentName : Name,
      operationName.text = operation ∧ argumentName.text = argument
        ∧ root = .field responseName operationName [(argumentName, value)] selections := by
  obtain ⟨name, given, rfl, hname, hgiven⟩ := (settles_call _ _ _ _).of_eq_ok h
  obtain ⟨⟨argumentName, other⟩, rfl, heq⟩ := List.map_eq_singleton_iff.1 hgiven
  obtain ⟨hargument, rfl⟩ := Prod.mk.inj heq
  exact ⟨name, argumentName, hname, hargument, rfl⟩

/-- A root operation and its argument that are names can be selected. -/
theorem Selection.call_eq_ok (responseName : Option Name) (operation argument : Name)
    (value : Literal) (selections : List Selection) :
    call responseName operation.text [(argument.text, value)] selections
      = .ok (.field responseName operation [(argument, value)] selections) := by
  simp only [call, List.mapM_cons, List.mapM_nil, ofText_text]
  rfl

/-- The selection of a root operation refers to what its arguments refer to, where the selections
under it refer to nothing. -/
theorem Selection.settles_call_references (responseName : Option Name) (operation : String)
    (arguments : List (String × Literal)) {selections : List Selection}
    (hnone : referencesOfAll selections = []) :
    Settles (call responseName operation arguments selections) fun root =>
      root.name.text = operation
        ∧ root.references = arguments.flatMap fun argument => argument.2.references := by
  refine Settles.mono (settles_call responseName operation arguments selections) ?_
  intro root hroot
  obtain ⟨name, given, rfl, hname, rfl⟩ := hroot
  refine ⟨hname, ?_⟩
  rw [references_field hnone, Literal.referencesOfFields_eq_flatMap, List.flatMap_map]

namespace Draft

variable {schema : Schema} {draft : Draft}

/-- An operation can be started under every name. -/
theorem start_eq_ok (kind : OperationKind) (name : Name) :
    start kind name.text = .ok ⟨kind, name, [], []⟩ := by
  rw [start, ofText_text]
  rfl

/-- A name that is not declared yet can be declared. -/
theorem declare_eq_ok (draft : Draft) (name : Name) (type : TypeExpr) (value : Json)
    (hfresh : ∀ declared ∈ draft.bindings, declared.name.text ≠ name.text) :
    draft.declare name.text type value
      = .ok (name, { draft with bindings := draft.bindings ++ [⟨name, type, value⟩] }) := by
  have hany : (draft.bindings.any fun declared => declared.name = name) = false := by
    refine List.any_eq_false.2 fun declared hdeclared heq => ?_
    exact hfresh declared hdeclared (congrArg Name.text (of_decide_eq_true heq))
  rw [declare, ofText_text]
  show (if (draft.bindings.any fun declared => declared.name = name) = true then _ else _) = _
  rw [hany]
  rfl

/-- A name that is declared already is refused; this is the refusal that no request ends with. -/
theorem declare_declared (draft : Draft) {declared : Variable} (hmem : declared ∈ draft.bindings)
    (type : TypeExpr) (value : Json) :
    draft.declare declared.name.text type value
      = .error (.declaredTwice declared.name.text) := by
  have hany : (draft.bindings.any fun other => other.name = declared.name) = true :=
    List.any_eq_true.2 ⟨declared, hmem, decide_eq_true rfl⟩
  rw [declare, ofText_text]
  show (if (draft.bindings.any fun other => other.name = declared.name) = true then _ else _) = _
  rw [hany]
  rfl

-- =============================================================== balance

/-- What a server sees of a balanced draft is consistent. -/
theorem Balanced.consistent (h : Balanced schema draft) (hasks : draft.selections ≠ [])
    (decoder : Decoder) : (Envelope.ofDraft draft decoder).Consistent schema draft.definition where
  single := rfl
  named := rfl
  asks := hasks
  rooted := h.rooted
  valued := by
    show (draft.bindings.map _).map _ = (draft.bindings.map _).map _
    rw [List.map_map, List.map_map]
    rfl
  distinct := by
    show ((draft.bindings.map _).map _).Nodup
    rw [List.map_map]
    exact Name.nodup_texts h.distinct
  used := by
    intro declared hdeclared
    obtain ⟨binding, hbinding, rfl⟩ := List.mem_map.1 hdeclared
    show (Selection.referencesOfAll draft.selections).count binding.name = 1
    -- What is referred to is what is declared, in the same order.
    rw [h.referenced]
    exact List.count_eq_one_of_mem h.distinct (List.mem_map_of_mem hbinding)
  closed := by
    intro name hname
    change name ∈ Selection.referencesOfAll draft.selections at hname
    rw [h.referenced] at hname
    obtain ⟨binding, hbinding, rfl⟩ := List.mem_map.1 hname
    exact ⟨⟨binding.name, binding.type⟩, List.mem_map.2 ⟨binding, hbinding, rfl⟩, rfl⟩

/-- A draft that is finished with one root field, whose arguments refer to all variables and each
once, becomes a consistent request. -/
theorem settles_finish {operation : String} {arguments : List (String × Literal)}
    {selections : List Selection} (hselections : draft.selections = [])
    (hdistinct : draft.names.Nodup)
    (hreferenced : arguments.flatMap (fun argument => argument.2.references) = draft.names)
    (hclosed : Selection.referencesOfAll selections = [])
    (hknown : (schema.operation? operation).isSome = true) (decoder : Decoder) :
    Reported.Settles (do
      let root ← Selection.call none operation arguments selections
      return Envelope.ofDraft (draft.select root) decoder)
      fun envelope => ∃ definition, envelope.Consistent schema definition := by
  refine .bind (Selection.settles_call_references _ _ _ hclosed).lift fun root hroot => ?_
  obtain ⟨hname, hreferences⟩ := hroot
  have hselect : (draft.select root).selections = [root] := by
    rw [select, hselections]
    rfl
  have hbalanced : Balanced schema (draft.select root) := by
    refine ⟨hdistinct, ?_, ?_⟩
    · rw [hselect, Selection.referencesOfAll_singleton, hreferences]
      exact hreferenced
    · rw [hselect]
      intro given hgiven
      rw [List.mem_singleton.1 hgiven, hname]
      exact hknown
  refine Settles.ok ⟨_, hbalanced.consistent ?_ decoder⟩
  rw [hselect]
  exact List.cons_ne_nil _ _

end Draft

end CrudGraph
