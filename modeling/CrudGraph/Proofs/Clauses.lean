/-
The clauses of a filter. Entries are compiled one by one and in order, so what is known of the
clauses of a whole filter is put together from what is known of its entries
(`clauses_cons_eq_ok_iff`): its clauses are those of its entries (`mem_clauses_iff`), and a filter
without clauses is not sent at all (`compile_eq_ok`).

A text or a number is a plain value, which takes its operator from its field and never clears a key
or names another one (`compileEntry_plain`).
-/
import CrudGraph.Proofs.Outcome
import CrudGraph.Request.Filter
import CrudGraph.Request.Answer

namespace CrudGraph

/-- Whether a value is a text or a number, as identifiers are. -/
def Json.isTextOrNumber : Json → Bool
  | .string _ | .integer _ | .double _ => true
  | _ => false

namespace Filter

variable {operators : FilterOperators} {type : NamedType}

-- ================================================================= entries

/-- The clause of a field, an operator and a value. -/
def clauseOf (field operator : String) (value : Json) : Json :=
  .object [(field, .object [(operator, value)])]

/-- A plain value is normalized to the default of its field. -/
theorem normalize_plain (field : Field) {value : Json} (h : value.isTextOrNumber = true) :
    normalize operators field value = some <$> defaultSpec operators field value := by
  cases value with
  | string | integer | double => rfl
  | null | bool | array | object => cases h

/-- The default of a field names no other field. -/
theorem key_of_defaultSpec {field : Field} {value : Json} {spec : FilterSpec}
    (h : defaultSpec operators field value = .ok spec) : spec.key = none := by
  unfold defaultSpec at h
  dsimp only at h
  split at h
  · cases h
  · split at h
    · cases h
      rfl
    · split at h
      · cases h
        rfl
      · cases h
        rfl

/-- An entry with a plain value that is compiled has a clause: its own field with the operator and
the value that are the field's default for it. -/
theorem compileEntry_plain {key : String} {value : Json} {field : Field} {compiled : Option Json}
    (hkey : key ≠ operators.conditionKey) (hfield : type.field? key = some field)
    (hplain : value.isTextOrNumber = true)
    (h : (compileEntry operators type key value).result = .ok compiled) :
    ∃ spec, defaultSpec operators field value = .ok spec
      ∧ compiled = some (clauseOf key spec.operator spec.value) := by
  rw [compileEntry, if_neg hkey, hfield] at h
  change Reported.EndsWith _ _ at h
  obtain ⟨normal, hnormal, h⟩ := h.of_lift_bind
  rw [normalize_plain field hplain] at hnormal
  cases hspec : defaultSpec operators field value with
  | error refusal =>
      rw [hspec] at hnormal
      cases hnormal
  | ok spec =>
      rw [hspec] at hnormal
      cases hnormal
      cases h
      refine ⟨spec, rfl, ?_⟩
      rw [clause, key_of_defaultSpec hspec]
      rfl

-- ================================================================= clauses

theorem clauses_cons_eq_ok_iff {key : String} {value : Json} {rest : List (String × Json)}
    {all : List Json} :
    (clauses operators type ((key, value) :: rest)).result = .ok all
      ↔ ∃ first others, (compileEntry operators type key value).result = .ok first
        ∧ (clauses operators type rest).result = .ok others ∧ all = first.toList ++ others := by
  rw [clauses, Reported.result_bind, bind_eq_ok_iff]
  refine exists_congr fun first => ?_
  rw [Reported.result_bind, bind_eq_ok_iff]
  constructor
  · intro h
    obtain ⟨hfirst, others, hothers, h⟩ := h
    cases h
    exact ⟨others, hfirst, hothers, rfl⟩
  · intro h
    obtain ⟨others, hfirst, hothers, rfl⟩ := h
    exact ⟨hfirst, others, hothers, rfl⟩

/-- The clauses of a filter are those of its entries. -/
theorem mem_clauses_iff {entries : List (String × Json)} {all : List Json}
    (h : (clauses operators type entries).result = .ok all) {one : Json} :
    one ∈ all ↔ ∃ entry ∈ entries,
      (compileEntry operators type entry.1 entry.2).result = .ok (some one) := by
  induction entries generalizing all with
  | nil =>
      cases h
      simp
  | cons entry rest ih =>
      obtain ⟨key, value⟩ := entry
      obtain ⟨first, others, hfirst, hothers, rfl⟩ := clauses_cons_eq_ok_iff.1 h
      rw [List.mem_append, Option.mem_toList, ih hothers]
      simp only [List.mem_cons, exists_eq_or_imp, hfirst, Except.ok.injEq]

/-- A filter is compiled to the conjunction of its clauses, and to nothing where there are none. -/
theorem compile_eq_ok {filter : Table Json} {compiled : Option Json}
    (h : (compile operators type filter).EndsWith compiled) :
    ∃ all, (clauses operators type filter).result = .ok all
      ∧ ∀ sent, compiled = some sent ↔ all ≠ [] ∧ sent = .object [("and", .array all)] := by
  obtain ⟨all, hall, h⟩ := h.of_bind
  cases h
  refine ⟨all, hall, fun sent => ?_⟩
  cases all with
  | nil => simp
  | cons first rest => simp [eq_comm]

end Filter

end CrudGraph
