/-
The request for a page of a list, read backwards: from the envelope that came out to what went into
it. A page is one call, and each of its arguments is a variable of the argument's own name
(`Draft.ofArguments`). The first two are numbers that every page has; behind them come those values
of a filter, a condition and an ordering that are there and that the operation declares (`passed`).
So what is sent for a page is known name by name (`Pages.find?_values`), and whatever is claimed of
a page's filter or its ordering is claimed of the value under its name.

The parts are kept in one structure (`Pages`), since what is said of pages is said of different
parts of it and the way to them is always the same.
-/
import CrudGraph.Proofs.Listing

namespace CrudGraph

-- ============================================================== one call

/-- An operation with one root field, which takes each of the operation's variables through the
argument of the same name. -/
def Draft.ofArguments (kind : OperationKind) (operation : Name) (bindings : List Variable)
    (selections : List Selection) : Draft where
  kind := kind
  name := operation
  bindings
  selections := [.field none operation
    (bindings.map fun declared => (declared.name, .reference declared.name)) selections]

/-- A variable that could be declared is declared behind the others, under the name that its text
is. -/
theorem Draft.eq_of_declare {draft declared : Draft} {variableName : String} {type : TypeExpr}
    {value : Json} {name : Name}
    (h : draft.declare variableName type value = .ok (name, declared)) :
    name.text = variableName
      ∧ declared = { draft with bindings := draft.bindings ++ [⟨name, type, value⟩] } := by
  rw [declare] at h
  obtain ⟨named, hname, h⟩ := bind_eq_ok_iff.1 h
  split at h
  · cases h
  · cases h
    exact ⟨Name.ofText_eq_ok_iff.1 hname, rfl⟩

/-- A request sends a value through an argument: the argument of its one root field takes a variable
of the argument's name, and that has the value. -/
def Envelope.Sends (envelope : Envelope) (argument : String) (value : Json) : Prop :=
  ∃ definition root, ∃ name : Name,
    envelope.document.operations = [definition] ∧ definition.selections = [root]
      ∧ name.text = argument ∧ (name, Literal.reference name) ∈ root.arguments
      ∧ Table.find? envelope.values argument = some value

/-- Such an operation sends every value that it has. -/
theorem Draft.sends_ofArguments {kind : OperationKind} {operation : Name}
    {bindings : List Variable} {selections : List Selection} {decoder : Decoder}
    {argument : String} {value : Json} :
    (Envelope.ofDraft (.ofArguments kind operation bindings selections) decoder).Sends
        argument value
      ↔ Table.find? (bindings.map fun declared => (declared.name.text, declared.value)) argument
          = some value := by
  constructor
  · intro h
    obtain ⟨-, -, -, -, -, -, -, hvalue⟩ := h
    exact hvalue
  · intro hvalue
    obtain ⟨declared, hmem, heq⟩ := List.mem_map.1 (Table.mem_of_find? hvalue)
    refine ⟨_, _, declared.name, rfl, rfl, congrArg Prod.fst heq, ?_, hvalue⟩
    exact List.mem_map_of_mem hmem

namespace Context

variable (c : Context)

-- ============================================================== arguments

/-- The values that are passed on to an operation: those that are there, under the names of
arguments that it declares. -/
def passed (operation : String) (given : List (String × Option Json)) : Table Json :=
  given.filterMap fun entry =>
    if c.schema.supportsArgument operation entry.1 then
      entry.2.map fun value => (entry.1, value)
    else none

/-- What is reported of the values that are there, under the names of arguments that the operation
does not declare. -/
def unsupported (operation : String) (given : List (String × Option Json)) : List Omission :=
  given.filterMap fun entry =>
    if c.schema.supportsArgument operation entry.1 then none
    else entry.2.map fun _ => .unsupportedArgument operation entry.1

/-- An operation declares an argument of a type. -/
def HasArgument (operation argument : String) (type : TypeExpr) : Prop :=
  ∃ declared, c.schema.argument? operation argument = some declared
    ∧ declared.type.toExpr = .ok type

variable {c}

theorem unsupported_cons (operation argument : String) (value : Option Json)
    (rest : List (String × Option Json)) :
    c.unsupported operation ((argument, value) :: rest)
      = (if value.isSome ∧ c.schema.supportsArgument operation argument = false then
          [.unsupportedArgument operation argument] else []) ++ c.unsupported operation rest := by
  unfold unsupported
  rw [List.filterMap_cons]
  cases value <;> cases c.schema.supportsArgument operation argument <;> rfl

/-- A value that is not there, or is for an argument that the operation lacks, is not passed on. -/
theorem passed_cons_of_left {operation argument : String} {value : Option Json}
    (h : value = none ∨ c.schema.supportsArgument operation argument = false)
    (rest : List (String × Option Json)) :
    c.passed operation ((argument, value) :: rest) = c.passed operation rest := by
  apply List.filterMap_cons_none
  rcases h with rfl | hlacking
  · exact ite_self none
  · exact if_neg (Bool.eq_false_iff.1 hlacking)

/-- A value for an argument that the operation has is passed on under its name. -/
theorem passed_cons_of_supported {operation argument : String}
    (h : c.schema.supportsArgument operation argument = true) (value : Json)
    (rest : List (String × Option Json)) :
    c.passed operation ((argument, some value) :: rest)
      = (argument, value) :: c.passed operation rest :=
  List.filterMap_cons_some (if_pos h)

/-- What arguments are passed on with: a variable for each value that is passed on, of the type that
the argument has. Values for arguments that the operation does not declare are reported. -/
theorem reports_passArguments {operation : String} {draft extended : Draft}
    {given : List (String × Option Json)} {arguments : List (String × Literal)}
    {omissions : List Omission}
    (h : (c.passArguments operation draft given).Reports omissions (arguments, extended)) :
    ∃ extra : List Variable,
      extended = { draft with bindings := draft.bindings ++ extra }
        ∧ arguments = extra.map (fun declared => (declared.name.text, .reference declared.name))
        ∧ extra.map (fun declared => (declared.name.text, declared.value))
            = c.passed operation given
        ∧ (∀ declared ∈ extra, c.HasArgument operation declared.name.text declared.type)
        ∧ omissions = c.unsupported operation given := by
  induction given generalizing draft arguments omissions with
  | nil =>
      cases h
      exact ⟨[], by rw [List.append_nil], rfl, rfl, fun _ h => (by cases h), rfl⟩
  | cons entry rest ih =>
      obtain ⟨argument, value⟩ := entry
      cases value with
      | none =>
          obtain ⟨extra, hextended, harguments, hpassed, htyped, homissions⟩ := ih h
          refine ⟨extra, hextended, harguments, ?_, htyped, ?_⟩
          · rw [passed_cons_of_left (.inl rfl), hpassed]
          · rw [unsupported_cons, if_neg (by simp), List.nil_append, homissions]
      | some value =>
          rw [passArguments] at h
          split at h
          -- an argument that the operation lacks: one report, and no variable
          · next hundeclared =>
            have hsupported : c.schema.supportsArgument operation argument = false := by
              rw [Schema.supportsArgument, hundeclared]
              rfl
            obtain ⟨_, before, after, hleft, hrest, homissions⟩ := h.of_bind
            cases hleft
            obtain ⟨extra, hextended, harguments, hpassed, htyped, hafter⟩ := ih hrest
            refine ⟨extra, hextended, harguments, ?_, htyped, ?_⟩
            · rw [passed_cons_of_left (.inr hsupported), hpassed]
            · rw [homissions, hafter, unsupported_cons, if_pos ⟨rfl, hsupported⟩]
          · next declared hdeclared =>
            -- one that it has: a variable, and no report
            have hsupported : c.schema.supportsArgument operation argument = true := by
              rw [Schema.supportsArgument, hdeclared]
              rfl
            obtain ⟨type, htype, h⟩ := h.of_lift_bind
            obtain ⟨⟨name, next⟩, hnext, h⟩ := h.of_lift_bind
            obtain ⟨⟨others, last⟩, before, after, hrest, hlast, homissions⟩ := h.of_bind
            cases hlast
            obtain ⟨hname, rfl⟩ := Draft.eq_of_declare hnext
            obtain ⟨extra, hextended, harguments, hpassed, htyped, hbefore⟩ := ih hrest
            refine ⟨⟨name, type, value⟩ :: extra, ?_, ?_, ?_, ?_, ?_⟩
            · rw [hextended, List.append_assoc]
              rfl
            · rw [harguments, List.map_cons, hname]
            · rw [List.map_cons, hpassed, passed_cons_of_supported hsupported, hname]
            · intro other hother
              rcases List.mem_cons.1 hother with rfl | hother
              · rw [hname]
                exact ⟨declared, hdeclared, htype⟩
              · exact htyped other hother
            · rw [homissions, hbefore, unsupported_cons, if_neg (by simp [hsupported])]
              exact List.append_nil _

theorem mem_passed {operation : String} {given : List (String × Option Json)}
    {argument : String} {value : Json} :
    (argument, value) ∈ c.passed operation given
      ↔ c.schema.supportsArgument operation argument = true ∧ (argument, some value) ∈ given := by
  rw [passed, List.mem_filterMap]
  constructor
  · intro h
    obtain ⟨⟨key, given⟩, hmem, h⟩ := h
    split at h
    · next hsupported =>
      obtain ⟨found, rfl, heq⟩ := Option.map_eq_some_iff.1 h
      cases heq
      exact ⟨hsupported, hmem⟩
    · cases h
  · intro h
    exact ⟨(argument, some value), h.2, if_pos h.1⟩

/-- Values are passed on in the order in which they are given. -/
theorem keys_passed_sublist {operation : String} {given : List (String × Option Json)} :
    (Table.keys (c.passed operation given)).Sublist (given.map (·.1)) := by
  induction given with
  | nil => exact List.Sublist.slnil
  | cons entry rest ih =>
      obtain ⟨key, given⟩ := entry
      rw [passed, List.filterMap_cons]
      split
      · exact ih.cons key
      · next kept hkept =>
        split at hkept
        · obtain ⟨found, -, rfl⟩ := Option.map_eq_some_iff.1 hkept
          exact ih.cons_cons key
        · cases hkept

/-- Of values for different arguments, the one for an argument is passed on where the operation
declares it. -/
theorem find?_passed {operation : String} {given : List (String × Option Json)}
    (hdistinct : (given.map (·.1)).Nodup) {argument : String} {value : Option Json}
    (hmem : (argument, value) ∈ given) {sent : Json} :
    Table.find? (c.passed operation given) argument = some sent
      ↔ c.schema.supportsArgument operation argument = true ∧ value = some sent := by
  have hkeys : (Table.keys (c.passed operation given)).Nodup :=
    hdistinct.sublist keys_passed_sublist
  rw [Table.find?_eq_some_iff hkeys, mem_passed]
  refine and_congr_right fun _ => ⟨fun h => ?_, fun h => h ▸ hmem⟩
  have hsame := List.inj_on_of_nodup_map hdistinct hmem h rfl
  exact (Prod.mk.inj hsame).2

variable (c)

-- ================================================================= a page

/-- The value that a page sends for the condition: that of the filter's reserved key, unless it is
null. -/
def condition (filter : Table Json) : Option Json :=
  (Table.find? filter c.configuration.filters.conditionKey).filter fun value => !value.isNull

/-- A page of a list by its parts: the filter that it was given, compiled, the ordering, and the
numbers of the page; the variables that these are sent in, and what is selected of a node. -/
structure Pages (params : Params) (filter : Table Json) (envelope : Envelope)
    (compiled order : Option Json) (first offset : Json) (bindings : List Variable)
    (selections : List Selection) : Prop where
  known : (c.schema.operation? c.resource.plural).isSome = true
  filtered : (Filter.compile c.configuration.filters c.resourceType filter).EndsWith compiled
  ordered : (c.orderBy params.sort).EndsWith order
  sized : pageNumber "perPage" (some (params.pagination.getD .first).perPage) = .ok first
  placed : pageNumber "offset" (params.pagination.getD .first).offset? = .ok offset
  selected : c.select.EndsWith selections
  sent : bindings.map (fun declared => (declared.name.text, declared.value))
    = ("first", first) :: ("offset", offset) :: c.passed c.resource.plural
        [("filter", compiled), ("condition", c.condition filter), ("orderBy", order)]
  finished : ∃ operation nodes : Name, ∃ totals : List Selection,
    operation.text = c.resource.plural ∧ nodes.text = "nodes"
      ∧ totals.map (·.responseKey.text)
          = (if c.hasTotal c.resource.plural then ["totalCount"] else [])
      ∧ envelope = .ofDraft
          (.ofArguments .query operation bindings (.field none nodes [] selections :: totals))
          (.connection c.resource.plural (c.hasTotal c.resource.plural))

variable {c}

/-- A draft that is finished with one call of its own operation, through arguments that refer to all
of its variables by their names, is such an operation. -/
theorem Draft.eq_ofArguments {kind : OperationKind} {operation : String} {started : Draft}
    {bindings : List Variable} {selections : List Selection} {root : Selection}
    (hstart : Draft.start kind operation = .ok started)
    (hcall : Selection.call none operation
      (bindings.map fun declared => (declared.name.text, .reference declared.name)) selections
        = .ok root) :
    ∃ name : Name, name.text = operation
      ∧ Draft.select { started with bindings := started.bindings ++ bindings } root
        = .ofArguments kind name bindings selections := by
  rw [Draft.start] at hstart
  obtain ⟨name, hname, hstarted⟩ := bind_eq_ok_iff.1 hstart
  cases hstarted
  obtain ⟨called, given, rfl, hcalled, hgiven⟩ := (Selection.settles_call _ _ _ _).of_eq_ok hcall
  have hsame : called = name := Name.ext (hcalled.trans (Name.ofText_eq_ok_iff.1 hname).symm)
  subst hsame
  -- Only texts are known of the arguments, but names are determined by them.
  have hinjective : Function.Injective fun entry : Name × Literal => (entry.1.text, entry.2) := by
    intro one other heq
    obtain ⟨htext, hvalue⟩ := Prod.mk.inj heq
    exact Prod.ext (Name.ext htext) hvalue
  have hgiven : given = bindings.map fun declared => (declared.name, .reference declared.name) := by
    refine List.map_injective_iff.2 hinjective ?_
    rw [hgiven, List.map_map]
    rfl
  subst hgiven
  exact ⟨called, hcalled, rfl⟩

/-- A page is finished with one call of its operation, for its nodes and their total if there is
one, and nothing is reported any more. -/
theorem reports_finish {started : Draft} {bindings : List Variable} {nodes : Selection}
    {envelope : Envelope} {omissions : List Omission}
    (hstart : Draft.start .query c.resource.plural = .ok started)
    (h : Reported.Reports (do
      let total := c.hasTotal c.resource.plural
      let totals ← if total then do pure [Selection.leaf (← Name.ofText "totalCount")] else pure []
      let root ← Selection.call none c.resource.plural
        (bindings.map fun declared => (declared.name.text, .reference declared.name))
        (nodes :: totals)
      return Envelope.ofDraft
        (Draft.select { started with bindings := started.bindings ++ bindings } root)
        (.connection c.resource.plural total)) omissions envelope) :
    omissions = [] ∧ ∃ operation : Name, ∃ totals : List Selection,
      operation.text = c.resource.plural
        ∧ totals.map (·.responseKey.text)
            = (if c.hasTotal c.resource.plural then ["totalCount"] else [])
        ∧ envelope = .ofDraft (.ofArguments .query operation bindings (nodes :: totals))
            (.connection c.resource.plural (c.hasTotal c.resource.plural)) := by
  dsimp only at h
  split at h
  · next htotal =>
    obtain ⟨total, htotalName, h⟩ := h.of_lift_bind
    obtain ⟨_, before, after, htotals, h, homissions⟩ := h.of_bind
    cases htotals
    obtain ⟨root, hcall, h⟩ := h.of_lift_bind
    cases h
    obtain ⟨operation, hoperation, hfinished⟩ := Draft.eq_ofArguments hstart hcall
    refine ⟨homissions, operation, [.leaf total], hoperation, ?_, ?_⟩
    · rw [if_pos htotal]
      exact congrArg (fun text => [text]) (Name.ofText_eq_ok_iff.1 htotalName)
    · rw [hfinished]
  · next hnone =>
    obtain ⟨_, before, after, htotals, h, homissions⟩ := h.of_bind
    cases htotals
    obtain ⟨root, hcall, h⟩ := h.of_lift_bind
    cases h
    obtain ⟨operation, hoperation, hfinished⟩ := Draft.eq_ofArguments hstart hcall
    refine ⟨homissions, operation, [], hoperation, ?_, ?_⟩
    · rw [if_neg hnone]
      rfl
    · rw [hfinished]

/-- Every page that is asked for is a page by its parts. Its variables have the types of the
arguments, besides those of the two that every page has. What is reported is what its parts are
reported on, and then the arguments that the operation does not declare. -/
theorem reports_getListBy {params : Params} {filter : Table Json} {envelope : Envelope}
    {omissions : List Omission} (h : (c.getListBy params filter).Reports omissions envelope) :
    ∃ compiled order first offset bindings selections,
      c.Pages params filter envelope compiled order first offset bindings selections
        ∧ (∀ declared ∈ bindings.drop 2,
            c.HasArgument c.resource.plural declared.name.text declared.type)
        ∧ omissions = (Filter.compile c.configuration.filters c.resourceType filter).omissions
            ++ c.select.omissions ++ (c.orderBy params.sort).omissions
            ++ c.unsupported c.resource.plural
              [("filter", compiled), ("condition", c.condition filter), ("orderBy", order)] := by
  unfold getListBy at h
  obtain ⟨_, hknown, h⟩ := h.of_lift_bind
  obtain ⟨compiled, onFilter, behindFilter, hcompiled, h, homissions⟩ := h.of_bind
  obtain ⟨selections, onSelections, behindSelections, hselected, h, hbehindFilter⟩ := h.of_bind
  obtain ⟨started, hstart, h⟩ := h.of_lift_bind
  obtain ⟨first, hfirst, h⟩ := h.of_lift_bind
  obtain ⟨offset, hoffset, h⟩ := h.of_lift_bind
  obtain ⟨int, -, h⟩ := h.of_lift_bind
  obtain ⟨⟨firstName, firstDraft⟩, hdeclareFirst, h⟩ := h.of_lift_bind
  obtain ⟨⟨offsetName, pageDraft⟩, hdeclareOffset, h⟩ := h.of_lift_bind
  obtain ⟨order, onOrder, behindOrder, horder, h, hbehindSelections⟩ := h.of_bind
  obtain ⟨⟨passed, draft⟩, onPassed, behindPassed, hpassed, h, hbehindOrder⟩ := h.of_bind
  obtain ⟨nodes, hnodes, h⟩ := h.of_lift_bind
  -- what each of these steps has left in the draft
  obtain ⟨hfirstName, rfl⟩ := Draft.eq_of_declare hdeclareFirst
  obtain ⟨hoffsetName, rfl⟩ := Draft.eq_of_declare hdeclareOffset
  obtain ⟨extra, rfl, rfl, hsent, htyped, honPassed⟩ := reports_passArguments hpassed
  obtain ⟨nodesName, given, rfl, hnodesName, hgiven⟩ :=
    (Selection.settles_call _ _ _ _).of_eq_ok hnodes
  obtain rfl := List.map_eq_nil_iff.1 hgiven
  -- The variables of the page and those that are passed on are one list, and so are the arguments.
  let bindings : List Variable :=
    ⟨firstName, .nonNullNamed int, first⟩ :: ⟨offsetName, .nonNullNamed int, offset⟩ :: extra
  have hdraft : ({ started with
        bindings := started.bindings ++ [⟨firstName, .nonNullNamed int, first⟩]
          ++ [⟨offsetName, .nonNullNamed int, offset⟩] ++ extra } : Draft)
      = { started with bindings := started.bindings ++ bindings } := by
    rw [List.append_assoc, List.append_assoc]
    rfl
  have hpage : (("first", Literal.reference firstName) :: ("offset", .reference offsetName)
        :: extra.map fun declared => (declared.name.text, .reference declared.name))
      = bindings.map fun declared => (declared.name.text, .reference declared.name) := by
    rw [List.map_cons, List.map_cons, hfirstName, hoffsetName]
  rw [hdraft, hpage] at h
  obtain ⟨hbehindPassed, operation, totals, hoperation, htotals, hfinished⟩ :=
    reports_finish hstart h
  refine ⟨compiled, order, first, offset, bindings, selections,
    ⟨(c.settles_requireOperation _).of_eq_ok hknown, hcompiled.endsWith, horder.endsWith, hfirst,
      hoffset, hselected.endsWith, ?_,
      operation, nodesName, totals, hoperation, hnodesName, htotals, hfinished⟩, htyped, ?_⟩
  · rw [List.map_cons, List.map_cons, hsent, hfirstName, hoffsetName]
    rfl
  · rw [homissions, hbehindFilter, hbehindSelections, hbehindOrder, hbehindPassed, honPassed,
      hcompiled.omissions_eq, hselected.omissions_eq, horder.omissions_eq]
    simp only [List.append_assoc, List.append_nil]
    rfl

theorem getListBy_eq_ok {params : Params} {filter : Table Json} {envelope : Envelope}
    (h : (c.getListBy params filter).EndsWith envelope) :
    ∃ compiled order first offset bindings selections,
      c.Pages params filter envelope compiled order first offset bindings selections := by
  obtain ⟨compiled, order, first, offset, bindings, selections, hpage, -, -⟩ :=
    reports_getListBy h.reports
  exact ⟨compiled, order, first, offset, bindings, selections, hpage⟩

/-- The arguments that not every operation has are no numbers of the page. -/
theorem ne_numbers_of_mem {argument : String} (h : argument ∈ ["filter", "condition", "orderBy"]) :
    argument ≠ "first" ∧ argument ≠ "offset" := by
  revert argument
  decide

/-- What a page sends through one of the arguments that not every operation has. -/
theorem Pages.sends_iff {params : Params} {filter : Table Json} {envelope : Envelope}
    {compiled order : Option Json} {first offset : Json} {bindings : List Variable}
    {selections : List Selection}
    (h : c.Pages params filter envelope compiled order first offset bindings selections)
    {argument : String} {value : Option Json} (hmem : (argument, value) ∈
      [("filter", compiled), ("condition", c.condition filter), ("orderBy", order)])
    {sent : Json} :
    envelope.Sends argument sent
      ↔ c.schema.supportsArgument c.resource.plural argument = true ∧ value = some sent := by
  obtain ⟨operation, nodes, totals, -, -, -, rfl⟩ := h.finished
  -- The numbers of the page stand in front, under names of their own.
  have hother := ne_numbers_of_mem (List.mem_map_of_mem (f := Prod.fst) hmem)
  rw [Draft.sends_ofArguments, h.sent, Table.find?_cons, if_neg hother.1.symm, Table.find?_cons,
    if_neg hother.2.symm]
  refine find?_passed ?_ hmem
  show ["filter", "condition", "orderBy"].Nodup
  decide

-- ============================================================= success

/-- Different arguments with types that a document can hold can be passed on. -/
theorem passArguments_isOk {operation : String} {draft : Draft}
    {given : List (String × Option Json)}
    (hdistinct : (draft.names.map (·.text) ++ given.map (·.1)).Nodup)
    (hnamed : ∀ entry ∈ given, isName entry.1.toList = true)
    (htyped : ∀ entry ∈ given, ∀ declared ∈ c.schema.argument? operation entry.1,
      ∃ type, declared.type.toExpr = .ok type) :
    ∃ passed, (c.passArguments operation draft given).EndsWith passed := by
  induction given generalizing draft with
  | nil => exact ⟨_, rfl⟩
  | cons entry rest ih =>
      obtain ⟨argument, value⟩ := entry
      have hrest := fun draft hdistinct => @ih draft hdistinct
        (fun other hother => hnamed other (List.mem_cons_of_mem _ hother))
        (fun other hother => htyped other (List.mem_cons_of_mem _ hother))
      have hskip := hrest draft (hdistinct.sublist ((List.sublist_cons_self _ _).append_left _))
      cases value with
      | none => exact hskip
      | some value =>
          rw [passArguments]
          split
          · have hleft :
                (Reported.leaveOut (.unsupportedArgument operation argument)).EndsWith () := rfl
            exact Reported.exists_bind hleft hskip
          · next declared hdeclared =>
            obtain ⟨type, htype⟩ := htyped _ List.mem_cons_self declared hdeclared
            let name : Name := ⟨argument, hnamed _ List.mem_cons_self⟩
            have hnew : ∀ declared ∈ draft.bindings, declared.name.text ≠ argument := by
              intro declared hmem heq
              refine (List.nodup_append.1 hdistinct).2.2 argument ?_ argument List.mem_cons_self rfl
              rw [← heq, Draft.names, List.map_map]
              exact List.mem_map_of_mem hmem
            have hdeclare := draft.declare_eq_ok name type value hnew
            refine Reported.exists_lift_bind htype (Reported.exists_lift_bind hdeclare ?_)
            have hstill : (({ draft with bindings := draft.bindings ++ [⟨name, type, value⟩] } :
                Draft).names.map (·.text) ++ rest.map (·.1)).Nodup := by
              rw [Draft.names, List.map_append, List.map_append, List.append_assoc]
              exact hdistinct
            obtain ⟨⟨arguments, extended⟩, hpassed⟩ := hrest _ hstill
            exact Reported.exists_bind hpassed ⟨_, rfl⟩

/-- The ordering of a page is never refused. -/
theorem orderBy_isOk (sort : Option SortBy) : ∃ order, (c.orderBy sort).EndsWith order := by
  unfold orderBy
  dsimp only
  split
  · exact ⟨_, rfl⟩
  · exact ⟨_, rfl⟩
  · exact ⟨_, rfl⟩
  · split
    · exact ⟨_, rfl⟩
    · exact ⟨_, rfl⟩

/-- A root operation can be selected where it and its arguments are names. -/
theorem call_isOk {responseName : Option Name} {operation : String}
    {arguments : List (String × Literal)} {selections : List Selection}
    (hoperation : isName operation.toList = true)
    (harguments : ∀ argument ∈ arguments, isName argument.1.toList = true) :
    ∃ root, Selection.call responseName operation arguments selections = .ok root := by
  obtain ⟨name, hname⟩ := ofText_isOk_iff.2 hoperation
  have hgiven : ∃ given : List (Name × Literal),
      (arguments.mapM fun argument => do return (← Name.ofText argument.1, argument.2))
        = .ok given := by
    induction arguments with
    | nil => exact ⟨[], rfl⟩
    | cons argument rest ih =>
        obtain ⟨argumentName, hargument⟩ := ofText_isOk_iff.2 (harguments _ List.mem_cons_self)
        obtain ⟨others, hothers⟩ := ih fun other hother =>
          harguments other (List.mem_cons_of_mem _ hother)
        rw [List.mapM_cons]
        have hfirst : (do return (← Name.ofText argument.1, argument.2) : Except Refusal _)
            = .ok (argumentName, argument.2) := by
          rw [hargument]
          rfl
        exact exists_ok_bind hfirst (exists_ok_bind hothers ⟨_, rfl⟩)
  obtain ⟨given, hgiven⟩ := hgiven
  exact exists_ok_bind hname (exists_ok_bind hgiven ⟨_, rfl⟩)

/-- The numbers of the page that is asked for where none is named can be sent. -/
theorem pageNumber_isOk_of_none {params : Params} (h : params.pagination = none) :
    (∃ first, pageNumber "perPage" (some (params.pagination.getD .first).perPage) = .ok first)
      ∧ ∃ offset, pageNumber "offset" (params.pagination.getD .first).offset? = .ok offset := by
  have hsized : pageNumber "perPage" (some Pagination.first.perPage) = .ok (.integer 10) := by
    decide +kernel
  have hplaced : pageNumber "offset" Pagination.first.offset? = .ok (.integer 0) := by
    decide +kernel
  rw [h]
  exact ⟨⟨_, hsized⟩, _, hplaced⟩

/-- The name of the variable for the length of a page. -/
def firstName : Name :=
  ⟨"first", by decide⟩

/-- The name of the variable for its place. -/
def offsetName : Name :=
  ⟨"offset", by decide⟩

theorem isName_int : isName "Int".toList = true := by
  decide

/-- The type of both. -/
def numberType : TypeExpr :=
  .nonNullNamed ⟨"Int", isName_int⟩

/-- The draft of a page: a query with the two variables that every page has. -/
def pageDraft (operation : Name) (first offset : Json) : Draft where
  kind := .query
  name := operation
  bindings := [⟨firstName, numberType, first⟩, ⟨offsetName, numberType, offset⟩]

/-- A query without variables can declare those two, one after the other. -/
theorem declare_pageDraft (operation : Name) (first offset : Json) :
    ∃ sized : Draft,
      Draft.declare ⟨.query, operation, [], []⟩ "first" numberType first = .ok (firstName, sized)
        ∧ sized.declare "offset" numberType offset
            = .ok (offsetName, pageDraft operation first offset) := by
  refine ⟨⟨.query, operation, [⟨firstName, numberType, first⟩], []⟩, ?_, ?_⟩
  · apply Draft.declare_eq_ok ⟨.query, operation, [], []⟩ firstName
    intro declared hdeclared
    cases hdeclared
  · apply Draft.declare_eq_ok ⟨.query, operation, [⟨firstName, numberType, first⟩], []⟩ offsetName
    intro declared hdeclared
    rw [List.mem_singleton.1 hdeclared]
    show "first" ≠ "offset"
    decide

/-- The arguments that not every operation has can be passed on besides the numbers of the page. -/
theorem passArguments_pageDraft_isOk {operation : Name} {first offset : Json}
    {compiled condition order : Option Json}
    (htyped : ∀ argument ∈ ["filter", "condition", "orderBy"],
      ∀ declared ∈ c.schema.argument? operation.text argument,
        ∃ type, declared.type.toExpr = .ok type) :
    ∃ passed, (c.passArguments operation.text (pageDraft operation first offset)
      [("filter", compiled), ("condition", condition), ("orderBy", order)]).EndsWith passed := by
  have hmember : ∀ entry ∈
      [("filter", compiled), ("condition", condition), ("orderBy", order)],
      entry.1 ∈ ["filter", "condition", "orderBy"] :=
    fun entry hentry => List.mem_map_of_mem (f := Prod.fst) hentry
  apply passArguments_isOk
  · show ["first", "offset", "filter", "condition", "orderBy"].Nodup
    decide
  · intro entry hentry
    have hname := hmember entry hentry
    revert hname
    generalize entry.1 = argument
    revert argument
    decide
  · exact fun entry hentry => htyped entry.1 (hmember entry hentry)

/-- All arguments of a page are names: those of the two numbers, and each that is passed on, since
it is the name of a variable. -/
theorem isName_of_passArguments {operation : String} {draft extended : Draft}
    {given : List (String × Option Json)} {arguments : List (String × Literal)}
    (h : (c.passArguments operation draft given).EndsWith (arguments, extended)) :
    ∀ argument ∈ ("first", Literal.reference firstName)
        :: ("offset", .reference offsetName) :: arguments,
      isName argument.1.toList = true := by
  obtain ⟨extra, -, rfl, -, -, -⟩ := reports_passArguments h.reports
  intro argument hargument
  rcases List.mem_cons.1 hargument with rfl | hargument
  · exact firstName.valid
  rcases List.mem_cons.1 hargument with rfl | hargument
  · exact offsetName.valid
  obtain ⟨declared, -, rfl⟩ := List.mem_map.1 hargument
  exact declared.name.valid

/-- A page can be asked for where its parts can be made: the filter is compiled, there is something
to select, the numbers fit, and the arguments that the operation declares have types that a document
can hold. -/
theorem getListBy_isOk {params : Params} {filter : Table Json}
    (hknown : (c.schema.operation? c.resource.plural).isSome = true)
    (hnamed : isName c.resource.plural.toList = true)
    (hcompiled : ∃ compiled,
      (Filter.compile c.configuration.filters c.resourceType filter).EndsWith compiled)
    (hselected : ∃ selections, c.select.EndsWith selections)
    (hsized : ∃ first, pageNumber "perPage" (some (params.pagination.getD .first).perPage)
      = .ok first)
    (hplaced : ∃ offset, pageNumber "offset" (params.pagination.getD .first).offset? = .ok offset)
    (htyped : ∀ argument ∈ ["filter", "condition", "orderBy"],
      ∀ declared ∈ c.schema.argument? c.resource.plural argument,
        ∃ type, declared.type.toExpr = .ok type) :
    ∃ envelope, (c.getListBy params filter).EndsWith envelope := by
  obtain ⟨compiled, hcompiled⟩ := hcompiled
  obtain ⟨selections, hselected⟩ := hselected
  obtain ⟨first, hsized⟩ := hsized
  obtain ⟨offset, hplaced⟩ := hplaced
  obtain ⟨order, hordered⟩ := c.orderBy_isOk params.sort
  let operation : Name := ⟨c.resource.plural, hnamed⟩
  obtain ⟨sized, hdeclareFirst, hdeclareOffset⟩ := declare_pageDraft operation first offset
  obtain ⟨⟨arguments, draft⟩, hpassed⟩ := @passArguments_pageDraft_isOk c operation first offset
    compiled (c.condition filter) order htyped
  have hnames := isName_of_passArguments hpassed
  unfold getListBy
  refine Reported.exists_lift_bind (if_pos hknown) ?_
  refine Reported.exists_bind hcompiled (Reported.exists_bind hselected ?_)
  -- the draft with its two numbers
  refine Reported.exists_lift_bind (Draft.start_eq_ok .query operation) ?_
  refine Reported.exists_lift_bind hsized (Reported.exists_lift_bind hplaced ?_)
  refine Reported.exists_lift_bind (ofText_text ⟨"Int", isName_int⟩) ?_
  refine Reported.exists_lift_bind hdeclareFirst (Reported.exists_lift_bind hdeclareOffset ?_)
  -- what is passed on besides
  refine Reported.exists_bind hordered (Reported.exists_bind hpassed ?_)
  -- the call, with a total or without one
  obtain ⟨nodes, hnodes⟩ := @call_isOk none "nodes" [] selections (by decide) fun _ h => by cases h
  refine Reported.exists_lift_bind hnodes ?_
  split
  · refine Reported.exists_lift_bind (ofText_text ⟨"totalCount", by decide⟩) ?_
    obtain ⟨root, hcalled⟩ := @call_isOk none c.resource.plural _
      [nodes, .leaf ⟨"totalCount", by decide⟩] hnamed hnames
    exact Reported.exists_lift_bind hcalled ⟨_, rfl⟩
  · obtain ⟨root, hcalled⟩ := @call_isOk none c.resource.plural _ [nodes] hnamed hnames
    exact Reported.exists_lift_bind hcalled ⟨_, rfl⟩

end Context

end CrudGraph
