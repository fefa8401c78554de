/-
What a builder does before it makes a request. It finds the type, the verb and the key, and what
it has found is the context of the request; the request itself depends on the context and the
parameters alone. `build_eq` takes a build apart in this way, so that whatever holds of the requests
of all contexts holds of everything that is built, in whichever state the builder is.

None of what is done before looks at a variable, so nothing is refused here for one.
-/
import CrudGraph.Proofs.Outcome
import CrudGraph.Request.Builder

namespace CrudGraph

theorem Resource.settles_ofName (name : String) : Settles (ofName name) fun _ => True := by
  unfold ofName
  split
  · exact Settles.invalid (by decide)
  · exact Settles.ok trivial

theorem Verb.settles_parse (token : String) : Settles (parse token) fun _ => True := by
  unfold parse
  split
  · exact Settles.invalid (by decide)
  · split
    · exact Settles.ok trivial
    · exact Settles.error fun reason => by simp

/-- A key is resolved or refused for a type. -/
theorem PrimaryKey.settles_cached (schema : Schema) (resource : Resource) (naming : Naming)
    (cache : Cache) : Settles (cached schema resource naming cache).1 fun _ => True := by
  have hresolve : Settles (resolve schema resource naming) fun _ => True := by
    unfold resolve
    split
    · dsimp only
      split
      · split
        · exact Settles.ok trivial
        · exact Settles.ok trivial
      · exact Settles.error fun reason => by simp
    · exact Settles.error fun reason => by simp
  unfold cached
  split
  · exact Settles.ok trivial
  · split
    · exact Settles.ok trivial
    · next refusal hrefusal =>
      rw [hrefusal] at hresolve
      exact hresolve

namespace Builder

variable (builder : Builder)

/-- The context in which a builder makes a request. -/
def context (verb resource : String) : Except Refusal Context := do
  let (resource, type, verb) ← builder.target verb resource
  let key ← (PrimaryKey.cached builder.schema resource builder.configuration.naming
    builder.keys).1
  return {
    schema := builder.schema
    configuration := builder.configuration
    strategies := builder.strategies
    resource := resource
    resourceType := type
    key := key
    verb := verb }

/-- A target is what its two names stand for, and the type of the one. -/
theorem target_eq_ok {verb resource : String} {found : Resource × NamedType × Verb}
    (h : builder.target verb resource = .ok found) :
    Resource.ofName resource = .ok found.1
      ∧ builder.schema.type? found.1.typeName = some found.2.1
      ∧ Verb.parse verb = .ok found.2.2 := by
  unfold target at h
  split at h
  · cases h
  · obtain ⟨named, hnamed, h⟩ := bind_eq_ok_iff.1 h
    split at h
    · cases h
    · next type htype =>
      obtain ⟨parsed, hparsed, h⟩ := bind_eq_ok_iff.1 h
      cases h
      exact ⟨hnamed, htype, hparsed⟩

/-- A context is what the names of a resource and a verb stand for, with the key of the type. -/
theorem context_eq_ok {verb resource : String} {named : Resource} {type : NamedType}
    {key : PrimaryKey} {parsed : Verb} (hname : Resource.ofName resource = .ok named)
    (htype : builder.schema.type? named.typeName = some type)
    (hkey : (PrimaryKey.cached builder.schema named builder.configuration.naming
      builder.keys).1 = .ok key)
    (hverb : Verb.parse verb = .ok parsed) :
    builder.context verb resource = .ok {
      schema := builder.schema
      configuration := builder.configuration
      strategies := builder.strategies
      resource := named
      resourceType := type
      key := key
      verb := parsed } := by
  have hsome : verb.isEmpty = false := by
    cases hempty : verb.isEmpty with
    | false => rfl
    | true =>
      rw [Verb.parse, if_pos hempty] at hverb
      cases hverb
  have htarget : builder.target verb resource = .ok (named, type, parsed) := by
    rw [target, hsome, if_neg Bool.false_ne_true]
    refine bind_eq_ok_iff.2 ⟨named, hname, ?_⟩
    rw [htype]
    exact bind_eq_ok_iff.2 ⟨parsed, hverb, rfl⟩
  exact bind_eq_ok_iff.2 ⟨_, htarget, bind_eq_ok_iff.2 ⟨key, hkey, rfl⟩⟩

/-- Where a builder has a context for one verb, it has the same one for every other verb. -/
theorem context_of_parse {verb other resource : String} {c : Context} {parsed : Verb}
    (h : builder.context verb resource = .ok c) (hother : Verb.parse other = .ok parsed) :
    builder.context other resource = .ok { c with verb := parsed } := by
  rw [context] at h
  obtain ⟨⟨found, type, _⟩, hfound, h⟩ := bind_eq_ok_iff.1 h
  obtain ⟨key, hkey, h⟩ := bind_eq_ok_iff.1 h
  cases h
  obtain ⟨hname, htype, -⟩ := builder.target_eq_ok hfound
  exact builder.context_eq_ok hname htype hkey hother

/-- A build is the request of its context, with what it leaves out. -/
theorem build_eq (verb resource : String) (params : Params) :
    (builder.build verb resource params).1
      = builder.context verb resource >>= fun c =>
          (request c params).result.map fun envelope =>
            (envelope, (request c params).omissions) := by
  unfold build context
  cases htarget : builder.target verb resource with
  | error refusal => rfl
  | ok found =>
    obtain ⟨resource, type, verb⟩ := found
    dsimp only
    show _ = ((PrimaryKey.cached builder.schema resource builder.configuration.naming
      builder.keys).1 >>= _) >>= _
    generalize PrimaryKey.cached builder.schema resource builder.configuration.naming
      builder.keys = cached
    obtain ⟨key, keys⟩ := cached
    cases key <;> rfl

/-- Something is built where there is a context and its request can be made. -/
theorem build_eq_ok_iff {verb resource : String} {params : Params} {envelope : Envelope}
    {omissions : List Omission} :
    (builder.build verb resource params).1 = .ok (envelope, omissions)
      ↔ ∃ c, builder.context verb resource = .ok c
          ∧ (request c params).result = .ok envelope
          ∧ (request c params).omissions = omissions := by
  rw [build_eq, bind_eq_ok_iff]
  refine exists_congr fun c => and_congr_right fun _ => ?_
  cases hresult : (request c params).result with
  | error refusal => exact ⟨fun h => (by cases h), fun h => (by cases h.1)⟩
  | ok made =>
      constructor
      · intro h
        cases h
        exact ⟨rfl, rfl⟩
      · intro h
        obtain ⟨h, rfl⟩ := h
        cases h
        rfl

/-- What is built is the request of its context, with all that this reports. -/
theorem reports_of_build {verb resource : String} {c : Context}
    (hcontext : builder.context verb resource = .ok c) {params : Params} {envelope : Envelope}
    {omissions : List Omission}
    (hbuilt : (builder.build verb resource params).1 = .ok (envelope, omissions)) :
    (request c params).Reports omissions envelope := by
  obtain ⟨c', hcontext', hrequest, homissions⟩ := builder.build_eq_ok_iff.1 hbuilt
  cases hcontext.symm.trans hcontext'
  rw [← homissions]
  exact Reported.EndsWith.reports hrequest

/-- A target is found or refused for a reason of its own. -/
theorem settles_target (verb resource : String) :
    Settles (builder.target verb resource) fun _ => True := by
  unfold target
  split
  · exact Settles.invalid (by decide)
  · refine Settles.bind (Resource.settles_ofName resource) fun resource _ => ?_
    split
    · exact Settles.error fun reason => by simp
    · exact Settles.bind (Verb.settles_parse verb) fun _ _ => Settles.ok trivial

/-- A context has the schema and the conventions of the builder. -/
theorem settles_context (verb resource : String) :
    Settles (builder.context verb resource) fun c =>
      c.schema = builder.schema ∧ c.configuration = builder.configuration
        ∧ c.strategies = builder.strategies := by
  refine Settles.bind (builder.settles_target verb resource) fun found _ => ?_
  obtain ⟨resource, type, verb⟩ := found
  exact Settles.bind (PrimaryKey.settles_cached _ _ _ _) fun _ _ => Settles.ok ⟨rfl, rfl, rfl⟩

/-- The names of books. -/
theorem ofName_book : Resource.ofName "book" = .ok ⟨"Book", "book", "books"⟩ :=
  eq_ok_of_toOption (by decide +kernel)

/-- A shop whose books are known by their `isbn` and addressed by their `nodeId`. What is written of
a book comes back with the token that was sent for it. -/
def bookshop : Builder := .new {
    operations := [
      ⟨"book", [⟨"isbn", .nonNullOf (.named .scalar "String"), none⟩],
        some (.named .object "Book")⟩,
      ⟨"bookByNodeId", [⟨"nodeId", .nonNullOf (.named .scalar "ID"), none⟩],
        some (.named .object "Book")⟩,
      ⟨"deleteBookByNodeId", [⟨"input", .nonNullOf (.named .inputObject "DeleteInput"), none⟩],
        some (.named .object "DeletePayload")⟩]
    types := [
      { kind := .object, name := "Book", inputFields := [], enumValues := []
        fields := [⟨"isbn", [], .nonNullOf (.named .scalar "String")⟩] },
      { kind := .inputObject, name := "DeleteInput", fields := [], enumValues := []
        inputFields := [
          ⟨"clientMutationId", .named .scalar "String", none⟩,
          ⟨"nodeId", .nonNullOf (.named .scalar "ID"), none⟩] },
      { kind := .object, name := "DeletePayload", inputFields := [], enumValues := []
        fields := [⟨"clientMutationId", [], .named .scalar "String"⟩] }] } {} []

/-- The context of a request on books. -/
def bookContext (verb : Verb) : Context where
  schema := bookshop.schema
  configuration := bookshop.configuration
  strategies := bookshop.strategies
  resource := ⟨"Book", "book", "books"⟩
  resourceType := {
    kind := .object, name := "Book", inputFields := [], enumValues := []
    fields := [⟨"isbn", [], .nonNullOf (.named .scalar "String")⟩] }
  key := {
    fieldName := "isbn", scalarType := "String"
    idArgumentName := "nodeId", idArgumentType := "ID"
    singleOperation := "bookByNodeId", deleteOperation := "deleteBookByNodeId"
    updateOperation := "updateBookByNodeId"
    aliasRequired := true, identityField := "isbn" }
  verb := verb

/-- It is the same for all verbs. -/
theorem bookshop_context {verb : String} {parsed : Verb} (h : Verb.parse verb = .ok parsed) :
    bookshop.context verb "book" = .ok (bookContext parsed) :=
  bookshop.context_eq_ok ofName_book rfl rfl h

end Builder

end CrudGraph
