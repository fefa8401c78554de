/-
What a request leaves out. Leaving something out is no error: filter keys that name no field,
fields that cannot be selected safely and arguments that an operation does not take are dropped,
and the request is built without them. Each omission is reported, in the order in which it
happened, also when the request is refused later.
-/
import CrudGraph.Json.Basic
import CrudGraph.Refusal

namespace CrudGraph

-- ============================================================== omissions

/-- Something left out of a request, and why. -/
inductive Omission where
  /-- A filter key that names no field. -/
  | unknownFilterKey (type key : String)
  /-- A filter key without a value. -/
  | clearedFilterKey (key : String)
  /-- A field with required arguments, of a type that is not configured. -/
  | unconfiguredArgumentedField (type field : String)
  /-- A field with required arguments for which none were computed. -/
  | missingFieldArguments (type field : String)
  /-- A field that the configuration hides, or whose name the uniform identifier takes. -/
  | hiddenField (type field : String)
  /-- A field of a composite type that is not expanded. -/
  | unexpandedField (type field fieldType : String)
  /-- A field whose type is being expanded already. -/
  | recursiveField (type field fieldType : String)
  /-- A field whose type has no field that can be selected. -/
  | emptySelection (type field fieldType : String)
  /-- An argument that the list operation does not declare. -/
  | unsupportedArgument (operation argument : String)
  /-- A sort key that the ordering of the operation does not have. -/
  | unknownSortKey (operation key : String)
deriving DecidableEq, Repr

namespace Omission

/-- The name of the cause, and the texts that go with it, by the names they are reported under. -/
def parts : Omission → String × List (String × String)
  | unknownFilterKey type key => ("unknown_filter_key", [("type_name", type), ("key", key)])
  | clearedFilterKey key => ("cleared_filter_key", [("key", key)])
  | unconfiguredArgumentedField type field =>
    ("unconfigured_argumented_field", [("type_name", type), ("field", field)])
  | missingFieldArguments type field =>
    ("missing_field_arguments", [("type_name", type), ("field", field)])
  | hiddenField type field => ("hidden_field", [("type_name", type), ("field", field)])
  | unexpandedField type field fieldType =>
    ("unexpanded_field", [("type_name", type), ("field", field), ("field_type", fieldType)])
  | recursiveField type field fieldType =>
    ("recursive_field", [("type_name", type), ("field", field), ("field_type", fieldType)])
  | emptySelection type field fieldType =>
    ("empty_selection", [("type_name", type), ("field", field), ("field_type", fieldType)])
  | unsupportedArgument operation argument =>
    ("unsupported_argument", [("operation", operation), ("argument", argument)])
  | unknownSortKey operation key =>
    ("unknown_sort_key", [("operation", operation), ("key", key)])

/-- The omission as data. -/
def toJson (omission : Omission) : Json :=
  let (kind, texts) := omission.parts
  .object (("kind", .string kind) :: texts.map fun (name, text) => (name, .string text))

/-- The omission in words. -/
def message : Omission → String
  | unknownFilterKey type key => s!"filter key `{key}` is not a field of `{type}`"
  | clearedFilterKey key => s!"filter key `{key}` has no value"
  | unconfiguredArgumentedField type field =>
    s!"`{type}.{field}` requires arguments and `{type}` has no configuration"
  | missingFieldArguments type field =>
    s!"no arguments were computed for `{type}.{field}` which requires them"
  | hiddenField type field => s!"`{type}.{field}` is hidden by configuration"
  | unexpandedField type field fieldType =>
    s!"`{type}.{field}` is of type `{fieldType}` which is not expanded"
  | recursiveField type field fieldType =>
    s!"`{type}.{field}` would expand `{fieldType}` inside itself"
  | emptySelection type field fieldType =>
    s!"`{type}.{field}` expands `{fieldType}` which has no selectable fields"
  | unsupportedArgument operation argument => s!"`{operation}` does not accept `{argument}`"
  | unknownSortKey operation key => s!"`{operation}` cannot be ordered by `{key}`"

end Omission

-- ======================================================= reporting results

/-- The result of a computation that reports what it leaves out: the omissions, and a value or the
refusal that ended it. -/
structure Reported (α : Type) where
  omissions : List Omission
  result : Except Refusal α

namespace Reported

variable {α β : Type}

/-- A value with nothing left out. -/
def ofValue (value : α) : Reported α :=
  ⟨[], .ok value⟩

/-- Goes on from a value; what was left out before comes first, and a refusal ends all. -/
def andThen (first : Reported α) (next : α → Reported β) : Reported β :=
  match first.result with
  | .ok value =>
    let second := next value
    ⟨first.omissions ++ second.omissions, second.result⟩
  | .error refusal => ⟨first.omissions, .error refusal⟩

instance : Monad Reported where
  pure := ofValue
  bind := andThen

/-- A computation that leaves nothing out. -/
def ofExcept (result : Except Refusal α) : Reported α :=
  ⟨[], result⟩

instance : MonadLift (Except Refusal) Reported where
  monadLift := ofExcept

/-- Ends with a refusal. -/
def refuse (refusal : Refusal) : Reported α :=
  ⟨[], .error refusal⟩

/-- Reports one omission. -/
def leaveOut (omission : Omission) : Reported Unit :=
  ⟨[omission], .ok ()⟩

-- ================================================================== laws

@[simp] theorem pure_def (value : α) : (pure value : Reported α) = ⟨[], .ok value⟩ := rfl

/-- Behind a step with a value, the reports of the next one follow its own. -/
theorem bind_ok {first : Reported α} {value : α} (h : first.result = .ok value)
    (next : α → Reported β) :
    first >>= next = ⟨first.omissions ++ (next value).omissions, (next value).result⟩ := by
  simp [bind, andThen, h]

/-- A refusal keeps what was reported before it, and nothing comes after it. -/
theorem bind_error {first : Reported α} {refusal : Refusal} (h : first.result = .error refusal)
    (next : α → Reported β) : first >>= next = ⟨first.omissions, .error refusal⟩ := by
  simp [bind, andThen, h]

private theorem map_id (first : Reported α) : id <$> first = first := by
  obtain ⟨omissions, result⟩ := first
  cases result <;> simp [Functor.map, andThen, ofValue]

private theorem bind_of_pure (value : α) (next : α → Reported β) :
    (pure value >>= next) = next value := by
  simp [bind, andThen]

private theorem bind_of_bind {γ : Type} (first : Reported α) (next : α → Reported β)
    (last : β → Reported γ) :
    (first >>= next) >>= last = first >>= fun value => next value >>= last := by
  obtain ⟨omissions, result⟩ := first
  cases result with
  | error _ => simp [bind, andThen]
  | ok value => cases h : (next value).result <;> simp [bind, andThen, h]

instance : LawfulMonad Reported :=
  LawfulMonad.mk' Reported map_id bind_of_pure bind_of_bind

end Reported

end CrudGraph
