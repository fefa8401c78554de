/-
A filter is compiled as the list of its entries: nothing of one entry depends on another.

# What is shown

`Compiled` says what an entry comes to: a clause, a report, or nothing if it is the entry of the
condition. `Rejected` says what an entry is refused for. Every entry is one or the other, and it is
decided by the entry alone (`reports_compileEntry_iff`, `refuses_compileEntry_iff`). For a filter
this gives three laws, each an equivalence: the clauses are those of the entries and come in their
order, also when several of them are about one field; a filter in two parts is compiled as the two
parts are; and a refusal is that of the first entry that is rejected, with the reports on those in
front of it.

# How

All three go through one equation on computations, with their reports and refusals
(`clauses_append`). It makes the entries in front of a rejected one a filter of their own, of which
the first law says what was reported.
-/
import CrudGraph.Proofs.Clauses
import Mathlib.Data.List.Forall2

namespace CrudGraph

/-- What clears the field that it is given for: null, or a map with an operator and null. -/
def Json.Clears (value : Json) : Prop :=
  value = .null ∨ ∃ members operator, value = .object members
    ∧ Table.find? members "operator" = some (.string operator)
    ∧ Table.find? members "value" = some .null

namespace Filter

variable (operators : FilterOperators) (type : NamedType)

-- ================================================================= entries

/-- What an entry of a filter comes to: a clause of one field and one operator, a report, or nothing
at all. -/
inductive Compiled : String → Json → Option Json → Option Omission → Prop
  /-- The condition is no part of the filter. -/
  | condition {value} : Compiled operators.conditionKey value none none
  | unknown {key value} :
      key ≠ operators.conditionKey →
      type.field? key = none →
      Compiled key value none (some (.unknownFilterKey type.name key))
  | cleared {key value field} :
      key ≠ operators.conditionKey →
      type.field? key = some field →
      value.Clears →
      Compiled key value none (some (.clearedFilterKey key))
  /-- The clause is about the entry's own field, unless its value names another. -/
  | clause {key value field spec} :
      key ≠ operators.conditionKey →
      type.field? key = some field →
      normalize operators field value = .ok (some spec) →
      Compiled key value (some (clauseOf (spec.key.getD key) spec.operator spec.value)) none

/-- What an entry of a filter is refused for. -/
def Rejected (key : String) (value : Json) (refusal : Refusal) : Prop :=
  key ≠ operators.conditionKey ∧ ∃ field, type.field? key = some field
    ∧ normalize operators field value = .error refusal

variable {operators type} {key : String} {value : Json}

/-- A value has no specification exactly if it clears its field. -/
theorem normalize_eq_none_iff {field : Field} :
    normalize operators field value = .ok none ↔ value.Clears := by
  constructor
  · intro h
    unfold normalize at h
    split at h
    · exact .inl rfl
    · cases h
    · next members =>
      refine .inr ⟨members, ?_⟩
      unfold explicitSpec at h
      dsimp only at h
      split at h
      · next operator hoperator =>
        obtain ⟨given, hgiven, htext⟩ := Option.bind_eq_some_iff.1 hoperator
        -- Only a text has a text, so the operator was given as one.
        obtain rfl : given = .string operator := by
          cases given <;> cases htext
          rfl
        split at h
        · next inner hinner =>
          split at h
          · next hnull =>
            cases inner <;> cases hnull
            exact ⟨operator, rfl, hgiven, hinner⟩
          · split at h <;> cases h
        · cases h
      · cases h
    · cases hdefault : defaultSpec operators field value <;> rw [hdefault] at h <;> cases h
  · intro h
    rcases h with rfl | ⟨members, operator, rfl, hoperator, hnull⟩
    · rfl
    · show explicitSpec field members = .ok none
      simp [explicitSpec, hoperator, hnull, Json.text?, Json.isNull]
      rfl

/-- An entry ends with a clause, with a report, or with neither, just as it comes to one. -/
theorem reports_compileEntry_iff {omissions : List Omission} {compiled : Option Json} :
    (compileEntry operators type key value).Reports omissions compiled
      ↔ ∃ omission, Compiled operators type key value compiled omission
          ∧ omissions = omission.toList := by
  constructor
  · intro h
    unfold compileEntry at h
    split at h
    · next hcondition =>
      cases h
      subst hcondition
      exact ⟨none, .condition, rfl⟩
    · next hkey =>
      split at h
      · next hunknown =>
        cases h
        exact ⟨_, .unknown hkey hunknown, rfl⟩
      · next field hfield =>
        obtain ⟨normal, hnormal, h⟩ := h.of_lift_bind
        cases normal with
        | none =>
          cases h
          exact ⟨_, .cleared hkey hfield (normalize_eq_none_iff.1 hnormal), rfl⟩
        | some spec =>
          cases h
          exact ⟨_, .clause hkey hfield hnormal, rfl⟩
  · intro h
    obtain ⟨omission, hcompiled, rfl⟩ := h
    cases hcompiled with
    | condition =>
      rw [compileEntry, if_pos rfl]
      rfl
    | unknown hkey hunknown =>
      rw [compileEntry, if_neg hkey, hunknown]
      rfl
    | cleared hkey hfield hclears =>
      rw [compileEntry, if_neg hkey, hfield]
      dsimp only
      rw [normalize_eq_none_iff.2 hclears]
      rfl
    | clause hkey hfield hnormal =>
      rw [compileEntry, if_neg hkey, hfield]
      dsimp only
      rw [hnormal]
      rfl

/-- It is refused just if it is rejected, and nothing was reported before. -/
theorem refuses_compileEntry_iff {omissions : List Omission} {refusal : Refusal} :
    (compileEntry operators type key value).Refuses omissions refusal
      ↔ Rejected operators type key value refusal ∧ omissions = [] := by
  constructor
  · intro h
    unfold compileEntry at h
    split at h
    · cases h
    · next hkey =>
      split at h
      · cases h
      · next field hfield =>
        cases hnormal : normalize operators field value with
        | error other =>
          rw [hnormal] at h
          cases h
          exact ⟨⟨hkey, field, hfield, hnormal⟩, rfl⟩
        | ok normal =>
          rw [hnormal] at h
          cases normal <;> cases h
  · intro h
    obtain ⟨⟨hkey, field, hfield, hnormal⟩, rfl⟩ := h
    rw [compileEntry, if_neg hkey, hfield]
    dsimp only
    rw [hnormal]
    rfl

-- ================================================================= clauses

/-- The clauses of a filter in two parts are those of the parts. -/
theorem clauses_append (first second : List (String × Json)) :
    clauses operators type (first ++ second)
      = clauses operators type first >>= fun before =>
          clauses operators type second >>= fun after => pure (before ++ after) := by
  induction first with
  | nil =>
    rw [clauses, List.nil_append, pure_bind]
    simp only [List.nil_append, bind_pure]
  | cons entry rest ih =>
    rw [List.cons_append, clauses, clauses, ih]
    simp only [bind_assoc, pure_bind, List.append_assoc]

/-- Both the clauses and the reports of two parts stand one behind the other. -/
theorem reports_clauses_append_iff {first second : List (String × Json)}
    {omissions : List Omission} {all : List Json} :
    (clauses operators type (first ++ second)).Reports omissions all
      ↔ ∃ reported before later after, (clauses operators type first).Reports reported before
          ∧ (clauses operators type second).Reports later after
          ∧ all = before ++ after ∧ omissions = reported ++ later := by
  rw [clauses_append]
  constructor
  · intro h
    obtain ⟨before, reported, rest, hfirst, hrest, rfl⟩ := h.of_bind
    obtain ⟨after, later, last, hsecond, hlast, rfl⟩ := hrest.of_bind
    cases hlast
    exact ⟨reported, before, later, after, hfirst, hsecond, rfl, by rw [List.append_nil]⟩
  · intro h
    obtain ⟨reported, before, later, after, hfirst, hsecond, rfl, rfl⟩ := h
    refine hfirst.bind ?_
    exact Reported.reports_bind_iff.2 ⟨after, later, [], hsecond, rfl, by rw [List.append_nil]⟩

/-- The clauses of a filter are those of its entries, and so are the reports. -/
theorem reports_clauses_iff {entries : List (String × Json)} {omissions : List Omission}
    {all : List Json} :
    (clauses operators type entries).Reports omissions all
      ↔ ∃ parts : List (Option Json × Option Omission),
          List.Forall₂ (fun entry part => Compiled operators type entry.1 entry.2 part.1 part.2)
            entries parts
          ∧ all = parts.filterMap (·.1) ∧ omissions = parts.filterMap (·.2) := by
  induction entries generalizing omissions all with
  | nil =>
    simp only [List.forall₂_nil_left_iff, exists_eq_left, List.filterMap_nil]
    rw [clauses]
    constructor
    · intro h
      cases h
      exact ⟨rfl, rfl⟩
    · intro h
      obtain ⟨rfl, rfl⟩ := h
      rfl
  | cons entry rest ih =>
    obtain ⟨key, value⟩ := entry
    rw [clauses]
    constructor
    · intro h
      obtain ⟨compiled, own, others, hfirst, hothers, rfl⟩ := h.of_bind
      obtain ⟨later, reported, last, hrest, hlast, rfl⟩ := hothers.of_bind
      cases hlast
      obtain ⟨omission, hcompiled, rfl⟩ := reports_compileEntry_iff.1 hfirst
      obtain ⟨parts, hparts, rfl, rfl⟩ := ih.1 hrest
      refine ⟨(compiled, omission) :: parts, .cons hcompiled hparts, ?_, ?_⟩
      · simp only [List.filterMap_eq_flatMap_toList, List.flatMap_cons]
      · simp only [List.filterMap_eq_flatMap_toList, List.flatMap_cons, List.append_nil]
    · intro h
      obtain ⟨parts, hparts, rfl, rfl⟩ := h
      cases hparts with
      | @cons _ part _ parts hcompiled hparts =>
        have hfirst := reports_compileEntry_iff.2 ⟨part.2, hcompiled, rfl⟩
        have hrest := ih.2 ⟨parts, hparts, rfl, rfl⟩
        simp only [List.filterMap_eq_flatMap_toList, List.flatMap_cons] at hrest ⊢
        refine Reported.reports_bind_iff.2 ⟨part.1, _, _, hfirst, hrest.bind rfl, ?_⟩
        rw [List.append_nil]

/-- A filter is refused for its first entry that is rejected, after the reports on those in front of
it. -/
theorem refuses_clauses_iff {entries : List (String × Json)} {omissions : List Omission}
    {refusal : Refusal} :
    (clauses operators type entries).Refuses omissions refusal
      ↔ ∃ before key value after, entries = before ++ (key, value) :: after
          ∧ (∃ all, (clauses operators type before).Reports omissions all)
          ∧ Rejected operators type key value refusal := by
  constructor
  · intro h
    induction entries generalizing omissions with
    | nil =>
      rw [clauses] at h
      cases h
    | cons entry rest ih =>
      obtain ⟨key, value⟩ := entry
      rw [clauses] at h
      rcases Reported.refuses_bind_iff.1 h with hfirst | ⟨compiled, own, later, hfirst, hrest, rfl⟩
      -- the first entry is rejected, with nothing in front of it
      · obtain ⟨hrejected, rfl⟩ := refuses_compileEntry_iff.1 hfirst
        refine ⟨[], key, value, rest, rfl, ⟨[], ?_⟩, hrejected⟩
        rw [clauses]
        rfl
      · rcases Reported.refuses_bind_iff.1 hrest with hrest | ⟨_, _, _, -, hpure, -⟩
        -- a later one is; the first one is then among those in front of it
        · obtain ⟨before, other, given, after, rfl, ⟨all, hbefore⟩, hrejected⟩ := ih hrest
          refine ⟨(key, value) :: before, other, given, after, rfl,
            ⟨compiled.toList ++ all, ?_⟩, hrejected⟩
          rw [clauses]
          refine Reported.reports_bind_iff.2 ⟨compiled, own, later, hfirst, ?_, rfl⟩
          exact Reported.reports_bind_iff.2 ⟨all, later, [], hbefore, rfl, by simp⟩
        · cases hpure
  · intro h
    obtain ⟨before, key, value, after, rfl, ⟨all, hbefore⟩, hrejected⟩ := h
    -- What is in front of the rejected entry is a filter of its own.
    rw [clauses_append]
    refine Reported.refuses_bind_iff.2 (.inr ⟨all, omissions, [], hbefore, ?_, by simp⟩)
    refine Reported.refuses_bind_iff.2 (.inl ?_)
    rw [clauses]
    exact Reported.refuses_bind_iff.2 (.inl (refuses_compileEntry_iff.2 ⟨hrejected, rfl⟩))

/-- A filter has clauses, if only none, exactly if no entry of it is rejected. -/
theorem exists_clauses_iff {entries : List (String × Json)} :
    (∃ omissions all, (clauses operators type entries).Reports omissions all)
      ↔ ∀ entry ∈ entries, ∀ refusal, ¬Rejected operators type entry.1 entry.2 refusal := by
  constructor
  · intro h
    obtain ⟨omissions, all, h⟩ := h
    intro entry hentry refusal hrejected
    -- A rejected entry would be the first one of the part of the filter that it begins.
    obtain ⟨before, after, rfl⟩ := List.append_of_mem hentry
    obtain ⟨_, _, later, others, -, hreports, -, -⟩ := reports_clauses_append_iff.1 h
    have hnone : (clauses operators type []).Reports [] [] := by
      rw [clauses]
      rfl
    have hrefuses : (clauses operators type (entry :: after)).Refuses [] refusal :=
      refuses_clauses_iff.2 ⟨[], entry.1, entry.2, after, rfl, ⟨[], hnone⟩, hrejected⟩
    cases hreports.symm.trans hrefuses
  · intro h
    cases hresult : (clauses operators type entries).result with
    | ok all => exact ⟨_, all, Reported.EndsWith.reports hresult⟩
    | error refusal =>
      obtain ⟨before, key, value, after, rfl, -, hrejected⟩ :=
        refuses_clauses_iff.1 (Reported.refuses_of_result hresult)
      exact absurd hrejected (h (key, value) (by simp) refusal)

-- ================================================================= filters

/-- The filter of clauses, if there are any. -/
def conjunction (clauses : List Json) : Option Json :=
  if clauses = [] then none else some (.object [("and", .array clauses)])

/-- There is a filter to send if there is a clause to put in it. -/
theorem conjunction_eq_some_iff {clauses : List Json} {sent : Json} :
    conjunction clauses = some sent ↔ clauses ≠ [] ∧ sent = .object [("and", .array clauses)] := by
  unfold conjunction
  split
  · simp_all
  · next hsome => simp [hsome, eq_comm]

/-- Different clauses make different filters. -/
theorem conjunction_injective {clauses others : List Json}
    (h : conjunction clauses = conjunction others) : clauses = others := by
  unfold conjunction at h
  split at h <;> split at h <;> simp_all

/-- A filter is compiled to the conjunction of its clauses, with their reports. -/
theorem reports_compile_iff {filter : Table Json} {omissions : List Omission}
    {compiled : Option Json} :
    (compile operators type filter).Reports omissions compiled
      ↔ ∃ all, (clauses operators type filter).Reports omissions all
          ∧ compiled = conjunction all := by
  constructor
  · intro h
    obtain ⟨all, before, after, hall, hpure, rfl⟩ := h.of_bind
    cases hpure
    refine ⟨all, by rwa [List.append_nil], ?_⟩
    simp [conjunction]
  · intro h
    obtain ⟨all, hall, rfl⟩ := h
    refine Reported.reports_bind_iff.2 ⟨all, omissions, [], hall, ?_, by simp⟩
    simp [conjunction, Reported.Reports]

/-- So the reports on a filter are those on its clauses. -/
theorem exists_reports_compile_iff {filter : Table Json} {omissions : List Omission} :
    (∃ compiled, (compile operators type filter).Reports omissions compiled)
      ↔ ∃ all, (clauses operators type filter).Reports omissions all := by
  simp only [reports_compile_iff]
  constructor
  · intro h
    obtain ⟨_, all, hall, -⟩ := h
    exact ⟨all, hall⟩
  · intro h
    obtain ⟨all, hall⟩ := h
    exact ⟨_, all, hall, rfl⟩

/-- The clauses can be told from what is sent. -/
theorem reports_compile_conjunction_iff {filter : Table Json} {omissions : List Omission}
    {all : List Json} :
    (compile operators type filter).Reports omissions (conjunction all)
      ↔ (clauses operators type filter).Reports omissions all := by
  rw [reports_compile_iff]
  constructor
  · intro h
    obtain ⟨others, hothers, heq⟩ := h
    rwa [conjunction_injective heq]
  · exact fun h => ⟨all, h, rfl⟩

/-- Conjoining refuses nothing. -/
theorem refuses_compile_iff {filter : Table Json} {omissions : List Omission}
    {refusal : Refusal} :
    (compile operators type filter).Refuses omissions refusal
      ↔ (clauses operators type filter).Refuses omissions refusal := by
  unfold compile
  rw [Reported.refuses_bind_iff]
  constructor
  · intro h
    rcases h with h | ⟨_, _, _, -, h, -⟩
    · exact h
    · cases h
  · exact .inl

/-- A filter is compiled as the list of its entries. Where it is compiled at all, its clauses are
those of the entries, in order, and so are the reports, and without a clause there is no filter. In
two parts it is compiled exactly if both parts are, to the clauses of the first and then those of
the second, and with the reports on them. It is compiled unless some entry is rejected; then the
refusal is that of the first such entry, and the reports are those on the entries in front of it. -/
theorem compile_entries (operators : FilterOperators) (type : NamedType) (filter : Table Json) :
    (∀ omissions compiled, (compile operators type filter).Reports omissions compiled
      ↔ ∃ parts : List (Option Json × Option Omission),
          List.Forall₂ (fun entry part => Compiled operators type entry.1 entry.2 part.1 part.2)
            filter parts
          ∧ compiled = conjunction (parts.filterMap (·.1))
          ∧ omissions = parts.filterMap (·.2))
      ∧ (∀ first second, filter = first ++ second →
          ∀ omissions all,
            (compile operators type filter).Reports omissions (conjunction all)
              ↔ ∃ reported before later after,
                  (compile operators type first).Reports reported (conjunction before)
                  ∧ (compile operators type second).Reports later (conjunction after)
                  ∧ all = before ++ after ∧ omissions = reported ++ later)
      ∧ ((∃ omissions compiled, (compile operators type filter).Reports omissions compiled)
          ↔ ∀ entry ∈ filter, ∀ refusal, ¬Rejected operators type entry.1 entry.2 refusal)
      ∧ ∀ omissions refusal, (compile operators type filter).Refuses omissions refusal
          ↔ ∃ before key value after, filter = before ++ (key, value) :: after
              ∧ (∃ compiled, (compile operators type before).Reports omissions compiled)
              ∧ Rejected operators type key value refusal := by
  refine ⟨fun omissions compiled => ?_, fun first second hsplit omissions all => ?_, ?_,
    fun omissions refusal => ?_⟩
  · rw [reports_compile_iff]
    constructor
    · intro h
      obtain ⟨all, hall, rfl⟩ := h
      obtain ⟨parts, hparts, rfl, homissions⟩ := reports_clauses_iff.1 hall
      exact ⟨parts, hparts, rfl, homissions⟩
    · intro h
      obtain ⟨parts, hparts, rfl, homissions⟩ := h
      exact ⟨_, reports_clauses_iff.2 ⟨parts, hparts, rfl, homissions⟩, rfl⟩
  · subst hsplit
    simp only [reports_compile_conjunction_iff]
    exact reports_clauses_append_iff
  · rw [← exists_clauses_iff]
    exact exists_congr fun omissions => exists_reports_compile_iff
  · simp only [exists_reports_compile_iff]
    rw [refuses_compile_iff]
    exact refuses_clauses_iff

/-- Volumes with a title, a number and an author. -/
def volume : NamedType where
  kind := .object
  name := "Volume"
  fields := [
    ⟨"title", [], .named .scalar "String"⟩,
    ⟨"isbn", [], .named .scalar "String"⟩,
    ⟨"author", [], .named .object "Author"⟩]
  inputFields := []
  enumValues := []

/-- A filter with two entries about titles, one about no field, and one without a value. -/
def volumeFilter : Table Json := [
  ("title", .string "dune"),
  ("$condition", .object [("isbn", .null)]),
  ("subtitle", .string "part"),
  ("author", .object
    [("operator", .string "like"), ("value", .string "d%"), ("key", .string "title")]),
  ("isbn", .null)]

/-- The clauses of the two parts of a filter are those of the whole, and with an author that is a
plain value it is refused, after the report in front of it. -/
theorem compile_entries_volume :
    (∃ reported before later after,
        (compile {} volume (volumeFilter.take 2)).Reports reported (conjunction before)
          ∧ (compile {} volume (volumeFilter.drop 2)).Reports later (conjunction after)
          ∧ [clauseOf "title" "includesInsensitive" (.string "dune"),
              clauseOf "title" "like" (.string "d%")] = before ++ after
          ∧ [.unknownFilterKey "Volume" "subtitle", .clearedFilterKey "isbn"] = reported ++ later)
      ∧ (compile {} volume
            (volumeFilter.take 3 ++ [("author", .integer 3), ("isbn", .null)])).Refuses
          [.unknownFilterKey "Volume" "subtitle"] (.unsupportedFilterScalar "author" "Author") := by
  obtain ⟨-, hsplit, -, -⟩ := compile_entries {} volume volumeFilter
  obtain ⟨-, -, -, hrefused⟩ := compile_entries {} volume
    (volumeFilter.take 3 ++ [("author", .integer 3), ("isbn", .null)])
  constructor
  · refine (hsplit _ _ (List.take_append_drop 2 volumeFilter).symm _ _).1 ?_
    rfl
  · refine (hrefused _ _).2 ⟨volumeFilter.take 3, "author", .integer 3, _, rfl, ⟨_, rfl⟩, ?_⟩
    exact ⟨by decide, ⟨"author", [], .named .object "Author"⟩, rfl, rfl⟩

end Filter

end CrudGraph
