/-
What a builder remembers. A builder keeps the keys that it has resolved and hands them out again by
the name of the type. Resolving a key reads more than that name: the operation on one record is
looked up by the resource's own name for one record. That this never shows rests on one fact about
names, that all of a resource's names follow from the name of its type (`Resource.eq_ofTypeName`),
so however a resource is spelled, its key is that of its type.

`Truthful` is the invariant: whatever is remembered is what resolving would give now. A call keeps
it, also one that is refused, and changes nothing else about the builder (`forget_build`); under it
an answer is that of the builder without its memory (`build_forget`). `run_eq_alone` is the same of
any sequence of calls.
-/
import CrudGraph.Proofs.Build

namespace CrudGraph

-- ============================================================= the cache

namespace PrimaryKey

/-- Every key in the cache is the one that the resource of its type has. -/
def Cache.Faithful (schema : Schema) (naming : Naming) (cache : Cache) : Prop :=
  ∀ typeName key, Table.find? cache typeName = some key →
    resolve schema (Resource.ofTypeName typeName) naming = .ok key

variable {schema : Schema} {naming : Naming} {cache : Cache}

theorem Cache.Faithful.nil : Cache.Faithful schema naming [] :=
  fun _ _ h => by cases h

/-- A key that was resolved may enter under the name of its type. -/
theorem Cache.Faithful.insert (h : Cache.Faithful schema naming cache) {typeName : String}
    {key : PrimaryKey}
    (hkey : resolve schema (Resource.ofTypeName typeName) naming = .ok key) :
    Cache.Faithful schema naming (Table.insert cache typeName key) := by
  intro other found hfound
  by_cases heq : typeName = other
  · subst heq
    rw [Table.find?_insert_self] at hfound
    cases hfound
    exact hkey
  · rw [Table.find?_insert_of_ne _ _ heq] at hfound
    exact h other found hfound

/-- From a faithful cache comes what resolving would give. -/
theorem cached_eq_resolve (h : Cache.Faithful schema naming cache) {resource : Resource}
    (hresource : resource = Resource.ofTypeName resource.typeName) :
    (cached schema resource naming cache).1 = resolve schema resource naming := by
  unfold cached
  split
  · next key hfound =>
    rw [hresource]
    exact (h _ _ hfound).symm
  · split
    · next key hkey => exact hkey.symm
    · next refusal hrefusal => exact hrefusal.symm

/-- A cache stays faithful when a key is looked up, whether it is found, resolved or refused. -/
theorem Cache.Faithful.cached (h : Cache.Faithful schema naming cache) {resource : Resource}
    (hresource : resource = Resource.ofTypeName resource.typeName) :
    Cache.Faithful schema naming (PrimaryKey.cached schema resource naming cache).2 := by
  unfold PrimaryKey.cached
  split
  · exact h
  · split
    · next key hkey =>
      rw [hresource] at hkey
      exact h.insert hkey
    · exact h

end PrimaryKey

namespace Builder

open PrimaryKey (Cache)

variable {builder : Builder}

-- ============================================================== one call

/-- The builder without its memory. -/
def forget (builder : Builder) : Builder :=
  { builder with keys := [] }

/-- What the builder remembers is so. -/
def Truthful (builder : Builder) : Prop :=
  Cache.Faithful builder.schema builder.configuration.naming builder.keys

/-- The resource that a call names has the names of its type. -/
theorem resource_of_target {verb resource : String} {found : Resource × NamedType × Verb}
    (h : builder.target verb resource = .ok found) :
    found.1 = Resource.ofTypeName found.1.typeName :=
  Resource.eq_ofTypeName (builder.target_eq_ok h).1

/-- All that a call changes about a builder is its memory, and this by looking up one key. -/
theorem build_snd (builder : Builder) (verb resource : String) (params : Params) :
    (builder.build verb resource params).2
      = match builder.target verb resource with
        | .error _ => builder
        | .ok found => { builder with
            keys := (PrimaryKey.cached builder.schema found.1 builder.configuration.naming
              builder.keys).2 } := by
  unfold build
  cases builder.target verb resource with
  | error refusal => rfl
  | ok found =>
    obtain ⟨resource, type, verb⟩ := found
    dsimp only
    generalize PrimaryKey.cached builder.schema resource builder.configuration.naming
      builder.keys = cached
    obtain ⟨key, keys⟩ := cached
    cases key <;> rfl

/-- Apart from its memory, a builder is the same after a call. -/
theorem forget_build (builder : Builder) (verb resource : String) (params : Params) :
    (builder.build verb resource params).2.forget = builder.forget := by
  rw [build_snd]
  cases builder.target verb resource <;> rfl

/-- A call keeps the memory right. -/
theorem Truthful.build (h : builder.Truthful) (verb resource : String) (params : Params) :
    (builder.build verb resource params).2.Truthful := by
  rw [build_snd]
  cases htarget : builder.target verb resource with
  | error refusal => exact h
  | ok found => exact Cache.Faithful.cached h (resource_of_target htarget)

/-- The context of a request is found without the memory. -/
theorem context_forget (h : builder.Truthful) (verb resource : String) :
    builder.forget.context verb resource = builder.context verb resource := by
  have hempty : builder.forget.Truthful := Cache.Faithful.nil
  unfold context
  show builder.target verb resource >>= _ = builder.target verb resource >>= _
  cases htarget : builder.target verb resource with
  | error refusal => rfl
  | ok found =>
    have hresource := resource_of_target htarget
    obtain ⟨resource, type, verb⟩ := found
    show (PrimaryKey.cached builder.forget.schema resource
        builder.forget.configuration.naming builder.forget.keys).1 >>= _
      = (PrimaryKey.cached builder.schema resource builder.configuration.naming
        builder.keys).1 >>= _
    rw [PrimaryKey.cached_eq_resolve hempty hresource, PrimaryKey.cached_eq_resolve h hresource]
    rfl

/-- An answer is that of the builder without its memory. -/
theorem build_forget (h : builder.Truthful) (verb resource : String) (params : Params) :
    (builder.forget.build verb resource params).1 = (builder.build verb resource params).1 := by
  rw [build_eq, build_eq, context_forget h]

-- ============================================================ many calls

/-- A call of a builder. -/
structure Call where
  verb : String
  resource : String
  params : Params

/-- What comes of a call: a request with what was left out of it, or a refusal. -/
abbrev Outcome := Except Refusal (Envelope × List Omission)

/-- The outcomes of calls that are made one after the other, and the builder after them. -/
def run (builder : Builder) : List Call → List Outcome × Builder
  | [] => ([], builder)
  | call :: rest =>
    let (outcome, builder) := builder.build call.verb call.resource call.params
    let (outcomes, builder) := run builder rest
    (outcome :: outcomes, builder)

/-- What a call comes to on a builder that remembers nothing. -/
def alone (builder : Builder) (call : Call) : Outcome :=
  (builder.forget.build call.verb call.resource call.params).1

theorem run_cons (builder : Builder) (call : Call) (rest : List Call) :
    builder.run (call :: rest)
      = ((builder.build call.verb call.resource call.params).1
          :: ((builder.build call.verb call.resource call.params).2.run rest).1,
        ((builder.build call.verb call.resource call.params).2.run rest).2) := rfl

/-- A run keeps the memory right and changes nothing else. -/
theorem Truthful.run (h : builder.Truthful) (calls : List Call) :
    (builder.run calls).2.Truthful ∧ (builder.run calls).2.forget = builder.forget := by
  induction calls generalizing builder with
  | nil => exact ⟨h, rfl⟩
  | cons call rest ih =>
    obtain ⟨htruthful, hforget⟩ := ih (h.build call.verb call.resource call.params)
    rw [run_cons]
    exact ⟨htruthful, hforget.trans (builder.forget_build _ _ _)⟩

/-- Builders that differ in nothing but their memory are alone the same. -/
theorem alone_congr {fresh : Builder} (h : builder.forget = fresh.forget) :
    builder.alone = fresh.alone := by
  funext call
  rw [alone, alone, h]

/-- In a run, every call comes to what it comes to alone. -/
theorem run_eq_alone (h : builder.Truthful) (calls : List Call) :
    (builder.run calls).1 = calls.map builder.alone := by
  induction calls generalizing builder with
  | nil => rfl
  | cons call rest ih =>
    have hrest := ih (h.build call.verb call.resource call.params)
    rw [alone_congr (builder.forget_build call.verb call.resource call.params)] at hrest
    rw [run_cons, List.map_cons, hrest, alone, build_forget h]

/-- The key that a truthful builder finds for a resource is resolved anew, however the resource is
spelled. -/
theorem key_of_spelling {fresh : Builder} (h : builder.Truthful)
    (hforget : builder.forget = fresh.forget) (spelling : String) :
    (Resource.ofName spelling >>= fun resource =>
        (PrimaryKey.cached fresh.schema resource fresh.configuration.naming builder.keys).1)
      = Resource.ofName spelling >>= fun resource =>
          PrimaryKey.resolve fresh.schema resource fresh.configuration.naming := by
  have hschema : builder.schema = fresh.schema := congrArg (·.schema) hforget
  have hconfiguration : builder.configuration = fresh.configuration :=
    congrArg (·.configuration) hforget
  rw [← hschema, ← hconfiguration]
  cases hnamed : Resource.ofName spelling with
  | error refusal => rfl
  | ok resource => exact PrimaryKey.cached_eq_resolve h (Resource.eq_ofTypeName hnamed)

/-- Every call of a run comes to what it comes to when it is the only one on a new builder; what was
called before, and whether it was refused, is not seen by what is called afterwards; and the key of
a resource, however it is spelled, is the one that is resolved anew, whatever the builder
remembers. -/
theorem run_independent (schema : Schema) (configuration : Configuration)
    (strategies : Strategies) (calls : List Call) :
    ((new schema configuration strategies).run calls).1
        = calls.map (fun call =>
            ((new schema configuration strategies).build call.verb call.resource call.params).1)
      ∧ (∀ later, (((new schema configuration strategies).run calls).2.run later).1
          = ((new schema configuration strategies).run later).1)
      ∧ ∀ spelling,
        (Resource.ofName spelling >>= fun resource =>
            (PrimaryKey.cached schema resource configuration.naming
              ((new schema configuration strategies).run calls).2.keys).1)
          = Resource.ofName spelling >>= fun resource =>
              PrimaryKey.resolve schema resource configuration.naming := by
  have hnew : (new schema configuration strategies).Truthful := Cache.Faithful.nil
  obtain ⟨htruthful, hforget⟩ := hnew.run calls
  refine ⟨run_eq_alone hnew calls, fun later => ?_, key_of_spelling htruthful hforget⟩
  rw [run_eq_alone htruthful, run_eq_alone hnew, alone_congr hforget]

-- Three spellings of one resource lead to one key; the last call is refused.
example : (bookshop.run [⟨"DELETE", "book", { id := some (.string "a") }⟩,
    ⟨"DELETE", "books", { id := some (.string "b") }⟩, ⟨"DELETE", "Book", {}⟩]).2.keys.map (·.1)
    = ["Book"] := by decide +kernel

end Builder

end CrudGraph
