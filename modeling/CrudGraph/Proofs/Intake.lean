/-
Two ways to the model of one schema. A schema text is a model at once (`SchemaText.toSchema`); a
server that serves the text describes it to introspection (`SchemaText.described`), and the
description is read into a model as well (`Schema.ofResponse`). The types are the same, in the same
order. The operations are not: the model of a text has those of the query root before those of the
mutation root, the model of a description has them in the order in which the two types are listed.

The order shows where a name comes twice, since a lookup answers with the last. So the two models
agree on a name unless it is contested (`Contested`): a field of both roots, with the mutation root
listed first. On a contested name the text says mutation and the description says query.

What the argument rests on is that types of a text have different names, and so have the fields of
each of its types: the types that are named as roots are at most two, and they are found in the
list by their names (`listedRoots_eq`).
-/
import CrudGraph.Proofs.Draft
import CrudGraph.Proofs.Written
import CrudGraph.Sdl.Schema

namespace CrudGraph

open Reading

-- ============================================================ last and first

/-- The last one of two lists is that of the second, if there is one. -/
theorem findLast?_append {α : Type} (p : α → Bool) (xs ys : List α) :
    findLast? p (xs ++ ys) = (findLast? p ys).or (findLast? p xs) := by
  induction xs with
  | nil => rw [List.nil_append, findLast?, Option.or_none]
  | cons x rest ih =>
      rw [List.cons_append, findLast?, ih, findLast?]
      cases findLast? p ys with
      | none => rfl
      | some y => rfl

/-- Where none passes, there is no last one. -/
theorem findLast?_eq_none {α : Type} {p : α → Bool} {xs : List α}
    (h : ∀ x ∈ xs, p x = false) : findLast? p xs = none := by
  cases hfound : findLast? p xs with
  | none => rfl
  | some x =>
      obtain ⟨hx, hmem⟩ := findLast?_some hfound
      rw [h x hmem] at hx
      cases hx

/-- Among elements with different names the last of a name is the first one. -/
theorem findLast?_eq_find? {α : Type} (name : α → String) {xs : List α}
    (hdistinct : (xs.map name).Nodup) (key : String) :
    findLast? (fun x => name x == key) xs = xs.find? fun x => name x == key := by
  induction xs with
  | nil => rfl
  | cons x rest ih =>
      rw [List.map_cons, List.nodup_cons] at hdistinct
      obtain ⟨hx, hrest⟩ := hdistinct
      by_cases hkey : name x = key
      · have hnone : findLast? (fun x => name x == key) rest = none := by
          refine findLast?_eq_none fun y hy => beq_eq_false_iff_ne.2 fun heq => hx ?_
          rw [hkey, ← heq]
          exact List.mem_map_of_mem hy
        have hfirst : (name x == key) = true := beq_iff_eq.2 hkey
        rw [findLast?, hnone, List.find?_cons, hfirst]
        rfl
      · have hother : (name x == key) = false := beq_eq_false_iff_ne.2 hkey
        rw [findLast?, ih hrest, List.find?_cons, hother]
        cases rest.find? fun x => name x == key with
        | none => rfl
        | some y => rfl

-- ======================================================== parts of a list

/-- Two different elements of a list stand in it in one order or in the other. -/
theorem pair_sublist {α : Type} {xs : List α} {a b : α} (ha : a ∈ xs) (hb : b ∈ xs)
    (hne : a ≠ b) : [a, b].Sublist xs ∨ [b, a].Sublist xs := by
  induction xs with
  | nil => cases ha
  | cons x rest ih =>
      rcases List.mem_cons.1 ha with rfl | harest
      · rcases List.mem_cons.1 hb with rfl | hbrest
        · exact absurd rfl hne
        · exact .inl ((List.singleton_sublist.2 hbrest).cons_cons a)
      · rcases List.mem_cons.1 hb with rfl | hbrest
        · exact .inr ((List.singleton_sublist.2 harest).cons_cons b)
        · rcases ih harest hbrest with h | h
          · exact .inl (h.cons x)
          · exact .inr (h.cons x)

/-- A part of a list without repetitions that has exactly the elements with a property is what the
property leaves of the list. -/
theorem filter_eq_of_sublist {α : Type} {p : α → Bool} {xs part : List α} (hdistinct : xs.Nodup)
    (hpart : part.Sublist xs) (hmem : ∀ x ∈ xs, p x = true ↔ x ∈ part) : xs.filter p = part := by
  have hkept : part.filter p = part :=
    List.filter_eq_self.2 fun x hx => (hmem x (hpart.subset hx)).2 hx
  have hsub : part.Sublist (xs.filter p) := hkept ▸ hpart.filter p
  have hperm : part.Perm (xs.filter p) := by
    refine (List.perm_ext_iff_of_nodup (hdistinct.sublist hpart) (hdistinct.filter p)).2 ?_
    intro x
    rw [List.mem_filter]
    constructor
    · intro hx
      exact ⟨hpart.subset hx, (hmem x (hpart.subset hx)).2 hx⟩
    · intro hx
      exact (hmem x hx.1).1 hx.2
  exact (hsub.eq_of_length hperm.length_eq).symm

-- ====================================================== what a server answers

namespace Schema

/-- Writes a root by its name; a root that is not there is `null`. -/
def rootToJson (root : Option String) : Json :=
  match root with
  | some name => .object [("name", .string name)]
  | none => .null

/-- Writes a described schema. -/
def Described.toJson (described : Described) : Json :=
  .object [
    ("queryType", rootToJson described.queryRoot),
    ("mutationType", rootToJson described.mutationRoot),
    ("types", .array (described.types.map NamedType.toJson))]

/-- The forms in which a described schema may arrive: bare, as the member `__schema`, or inside the
data of a whole response. -/
def Described.responses (described : Described) : List Json :=
  [described.toJson,
    .object [("__schema", described.toJson)],
    .object [("data", .object [("__schema", described.toJson)])]]

/-- The name of a root is read back, also where there is none. -/
theorem readRoot_toJson (root : Option String) :
    nullable (readNamed "RootTypeName") (rootToJson root) = .ok root := by
  cases root with
  | none => rfl
  | some name =>
      show some <$> readNamed "RootTypeName" (.object [("name", .string name)]) = _
      rw [readNamed_object]
      rfl

/-- A description is read back member by member. -/
theorem Described.read_toJson (described : Described) :
    Described.layout.read {} described.toJson = .ok described := by
  show Described.layout.enterMembers [] {} [
    (.text "queryType", rootToJson described.queryRoot),
    (.text "mutationType", rootToJson described.mutationRoot),
    (.text "types", .array (described.types.map NamedType.toJson))] = _
  rw [Layout.enterMembers_field rfl rfl
      (RecordField.enter_optional (readRoot_toJson described.queryRoot)),
    Layout.enterMembers_field rfl rfl
      (RecordField.enter_optional (readRoot_toJson described.mutationRoot)),
    Layout.enterMembers_field rfl rfl
      (RecordField.enter_optional (sequence_array NamedType.read_toJson described.types))]
  rfl

/-- In all forms of a response the description is found where it stands. -/
theorem describedIn_responses {described : Described} {response : Json}
    (h : response ∈ described.responses) : describedIn response = described.toJson := by
  rw [Described.responses] at h
  rcases List.mem_cons.1 h with rfl | h
  · rfl
  rcases List.mem_cons.1 h with rfl | h
  · rfl
  rcases List.mem_singleton.1 h with rfl
  rfl

/-- A described schema with a root is read back, in whichever form it arrives. -/
theorem ofResponse_responses {described : Described} (hroots : described.roots ≠ [])
    {response : Json} (h : response ∈ described.responses) :
    ofResponse response = .ok ⟨described.types, described.operations⟩ := by
  rw [ofResponse, describedIn_responses h, described.read_toJson]
  exact if_neg (by simpa using hroots)

end Schema

namespace Sdl.SchemaText

variable (schema : SchemaText)

-- ================================================================= the roots

/-- What a server that serves a schema text describes: its roots by name, and its types. -/
def described : Schema.Described where
  queryRoot := schema.rootName? .query
  mutationRoot := schema.rootName? .mutation
  types := schema.namedTypes

/-- The type that is a root, where it is defined. -/
def root? (root : Root) : Option NamedType :=
  schema.rootName? root >>= fun name => schema.namedTypes.find? (·.name == name)

/-- The operation of a name that a root has. -/
def rootOperation? (root : Root) (name : String) : Option Operation :=
  (schema.root? root >>= (·.field? name)).map Operation.ofField

/-- Both roots are defined, by different types, and the mutation root is listed first. -/
def MutationFirst : Prop :=
  ∃ mutation query, schema.root? .mutation = some mutation ∧ schema.root? .query = some query
    ∧ [mutation, query].Sublist schema.namedTypes

/-- A name under which both roots have a field, not the same one, where the mutation root is listed
first. -/
structure Contested (name : String) : Prop where
  mutationFirst : schema.MutationFirst
  inMutation : (schema.rootOperation? .mutation name).isSome = true
  inQuery : (schema.rootOperation? .query name).isSome = true
  differs : schema.rootOperation? .query name ≠ schema.rootOperation? .mutation name

variable {schema}

-- ============================================================= unique names

/-- The types of a text have different names, those that every schema has among them. -/
theorem nodup_namedTypes : (schema.namedTypes.map (·.name)).Nodup := by
  have hown : (schema.types.map (·.1.text)).Nodup := Name.nodup_texts schema.types_distinct
  have hnames : schema.namedTypes.map (·.name) = builtInScalars
      ++ (schema.types.filter fun type => !type.1.text.startsWith "__").map (·.1.text) := by
    rw [namedTypes, List.map_append, List.map_map, List.map_map]
    congr 1
  rw [hnames, List.nodup_append]
  refine ⟨by decide, hown.sublist (List.filter_sublist.map _), ?_⟩
  intro name hname other hother heq
  obtain ⟨type, htype, rfl⟩ := List.mem_map.1 hother
  have hnone := schema.types_own type (List.mem_filter.1 htype).1
  rw [builtInKind?, if_pos (List.contains_iff_mem.2 (heq ▸ hname))] at hnone
  cases hnone

/-- The fields of a type of a text have different names. -/
theorem nodup_fields {type : NamedType} (h : type ∈ schema.namedTypes) :
    (type.fields.map (·.name)).Nodup := by
  rcases List.mem_append.1 h with h | h
  · obtain ⟨name, -, rfl⟩ := List.mem_map.1 h
    exact List.nodup_nil
  · obtain ⟨⟨name, body⟩, hmem, rfl⟩ := List.mem_map.1 h
    have hdistinct := schema.members_distinct _ (List.mem_filter.1 hmem).1
    rw [Body.isDistinct, Bool.and_eq_true, decide_eq_true_iff, decide_eq_true_iff] at hdistinct
    obtain ⟨-, hmembers⟩ := hdistinct
    cases body with
    | object _ fields | interface _ fields =>
        show ((fields.map schema.field).map (·.name)).Nodup
        rw [List.map_map]
        exact Name.nodup_texts hmembers
    | scalar | union _ | enum _ | inputObject _ => exact List.nodup_nil

/-- The last operation of a name among those of one type is its field. -/
theorem findLast?_fields {type : NamedType} (h : type ∈ schema.namedTypes) (name : String) :
    findLast? (·.name == name) (type.fields.map Operation.ofField)
      = (type.field? name).map Operation.ofField := by
  have hnames : (type.fields.map Operation.ofField).map (·.name) = type.fields.map (·.name) := by
    rw [List.map_map]
    rfl
  rw [findLast?_eq_find? _ (hnames ▸ nodup_fields h), List.find?_map]
  rfl

theorem name_of_find? {types : List NamedType} {name : String} {type : NamedType}
    (h : types.find? (·.name == name) = some type) : type.name = name := by
  simpa using List.find?_some h

/-- A root is one of the types. -/
theorem mem_of_root? {root : Root} {type : NamedType} (h : schema.root? root = some type) :
    type ∈ schema.namedTypes := by
  obtain ⟨name, -, hfound⟩ := Option.bind_eq_some_iff.1 h
  exact List.mem_of_find?_eq_some hfound

/-- A listed type is a root exactly when it has the root's name. -/
theorem root?_eq_some_iff {type : NamedType} (hmem : type ∈ schema.namedTypes) (root : Root) :
    schema.root? root = some type ↔ schema.rootName? root = some type.name := by
  constructor
  · intro h
    obtain ⟨name, hname, hfound⟩ := Option.bind_eq_some_iff.1 h
    rw [hname, name_of_find? hfound]
  · intro h
    rw [root?, h]
    show schema.namedTypes.find? (·.name == type.name) = _
    cases hfound : schema.namedTypes.find? (·.name == type.name) with
    | none => exact absurd (beq_self_eq_true type.name) (List.find?_eq_none.1 hfound type hmem)
    | some found =>
        rw [List.inj_on_of_nodup_map nodup_namedTypes (List.mem_of_find?_eq_some hfound) hmem
          (name_of_find? hfound)]

-- ================================================================ operations

/-- The operations of a description are those of the roots, in the order in which they are
listed. -/
theorem listedRoots_eq {listed : List NamedType} (hlisted : listed.Sublist schema.namedTypes)
    (hroots : ∀ type, type ∈ listed
      ↔ schema.root? .query = some type ∨ schema.root? .mutation = some type) :
    schema.described.operations
      = listed.flatMap fun type => type.fields.map Operation.ofField := by
  have hkept : (schema.namedTypes.filter fun type =>
      schema.described.roots.contains type.name) = listed := by
    refine filter_eq_of_sublist (nodup_namedTypes.of_map _) hlisted fun type htype => ?_
    rw [hroots type, root?_eq_some_iff htype, root?_eq_some_iff htype, List.contains_iff_mem]
    show type.name ∈ (schema.rootName? .query).toList ++ (schema.rootName? .mutation).toList ↔ _
    rw [List.mem_append, Option.mem_toList, Option.mem_toList]
  rw [Schema.Described.operations]
  exact congrArg _ hkept

variable (schema) in
/-- The model that is read from what a server describes. -/
def describedModel : Schema :=
  ⟨schema.described.types, schema.described.operations⟩

/-- In the model of a text a name means the mutation root's operation before the query root's. -/
theorem operation?_toSchema (name : String) :
    schema.toSchema.operation? name
      = (schema.rootOperation? .mutation name).or (schema.rootOperation? .query name) := by
  have hroot : ∀ root, findLast? (·.name == name) (schema.rootOperations root)
      = schema.rootOperation? root name := by
    intro root
    unfold rootOperations
    dsimp only
    split
    · next type hfound =>
      rw [rootOperation?, show schema.root? root = some type from hfound]
      exact findLast?_fields (mem_of_root? hfound) name
    · next hfound =>
      rw [rootOperation?, show schema.root? root = none from hfound]
      rfl
  show findLast? _ (schema.rootOperations .query ++ schema.rootOperations .mutation) = _
  rw [findLast?_append, hroot, hroot]

/-- In the model of a description a name means what the root that is listed last says. -/
theorem operation?_described {listed : List NamedType} (hlisted : listed.Sublist schema.namedTypes)
    (hroots : ∀ type, type ∈ listed
      ↔ schema.root? .query = some type ∨ schema.root? .mutation = some type) (name : String) :
    schema.describedModel.operation? name
      = listed.foldl (fun found type => ((type.field? name).map Operation.ofField).or found)
          none := by
  show findLast? _ schema.described.operations = _
  rw [listedRoots_eq hlisted hroots]
  have hfold : ∀ found, (findLast? (·.name == name)
        (listed.flatMap fun type => type.fields.map Operation.ofField)).or found
      = listed.foldl (fun found type => ((type.field? name).map Operation.ofField).or found)
          found := by
    clear hroots
    induction listed with
    | nil => exact fun found => rfl
    | cons type rest ih =>
        intro found
        have htype : type ∈ schema.namedTypes := hlisted.subset List.mem_cons_self
        rw [List.flatMap_cons, findLast?_append, findLast?_fields htype, Option.or_assoc,
          ih ((List.sublist_cons_self type rest).trans hlisted)]
        rfl
  rw [← hfold none, Option.or_none]

/-- Where the mutation root is listed before the query root, a name means the query root's operation
first. -/
theorem operation?_mutationFirst (h : schema.MutationFirst) (name : String) :
    schema.describedModel.operation? name
      = (schema.rootOperation? .query name).or (schema.rootOperation? .mutation name) := by
  obtain ⟨mutation, query, hmutation, hquery, hfirst⟩ := h
  have hroots : ∀ type, type ∈ [mutation, query]
      ↔ schema.root? .query = some type ∨ schema.root? .mutation = some type := by
    intro type
    rw [hmutation, hquery]
    simp only [List.mem_cons, List.not_mem_nil, or_false, Option.some.injEq]
    exact ⟨fun h => h.symm.imp Eq.symm Eq.symm, fun h => h.symm.imp Eq.symm Eq.symm⟩
  rw [operation?_described hfirst hroots, rootOperation?, rootOperation?, hmutation, hquery]
  show _ = ((query.field? name).map _).or ((mutation.field? name).map _)
  rw [List.foldl_cons, List.foldl_cons, List.foldl_nil, Option.or_none]

/-- Everywhere else it means the mutation root's operation first, as in the model of the text. -/
theorem operation?_otherwise (h : ¬schema.MutationFirst) (name : String) :
    schema.describedModel.operation? name
      = (schema.rootOperation? .mutation name).or (schema.rootOperation? .query name) := by
  rw [rootOperation?, rootOperation?]
  cases hquery : schema.root? .query with
  | none =>
      cases hmutation : schema.root? .mutation with
      | none =>
          rw [operation?_described (List.nil_sublist _) (by simp [hquery, hmutation])]
          rfl
      | some mutation =>
          rw [operation?_described (List.singleton_sublist.2 (mem_of_root? hmutation))
            (by simp [hquery, hmutation, eq_comm])]
          rfl
  | some query =>
      have hmem := mem_of_root? hquery
      cases hmutation : schema.root? .mutation with
      | none =>
          rw [operation?_described (List.singleton_sublist.2 hmem)
            (by simp [hquery, hmutation, eq_comm])]
          exact Option.or_none
      | some mutation =>
          -- Both roots are there: they may be one type, and if not, the queries come first.
          by_cases hsame : mutation = query
          · subst hsame
            rw [operation?_described (List.singleton_sublist.2 hmem)
              (by simp [hquery, hmutation, eq_comm])]
            show ((mutation.field? name).map _).or none
              = ((mutation.field? name).map _).or ((mutation.field? name).map _)
            rw [Option.or_none, Option.or_self]
          · rcases pair_sublist (mem_of_root? hmutation) hmem hsame with hfirst | hfirst
            · exact absurd ⟨mutation, query, hmutation, hquery, hfirst⟩ h
            · rw [operation?_described hfirst (by simp [hquery, hmutation, eq_comm])]
              show ((mutation.field? name).map _).or (((query.field? name).map _).or none) = _
              rw [Option.or_none]
              rfl

/-- Which of two values comes first matters only where they are both there and differ. -/
theorem or_comm_iff {α : Type} {first second : Option α} :
    first.or second = second.or first
      ↔ ¬(second.isSome = true ∧ first.isSome = true ∧ first ≠ second) := by
  cases first <;> cases second <;> simp

/-- The two models mean the same by a name exactly where it is not contested. -/
theorem operation?_eq_iff (name : String) :
    schema.describedModel.operation? name = schema.toSchema.operation? name
      ↔ ¬schema.Contested name := by
  rw [operation?_toSchema]
  by_cases hfirst : schema.MutationFirst
  · rw [operation?_mutationFirst hfirst, or_comm_iff, not_iff_not]
    constructor
    · intro h
      obtain ⟨hmutation, hquery, hdiffers⟩ := h
      exact ⟨hfirst, hmutation, hquery, hdiffers⟩
    · intro h
      exact ⟨h.inMutation, h.inQuery, h.differs⟩
  · rw [operation?_otherwise hfirst]
    exact iff_of_true rfl fun h => hfirst h.mutationFirst

/-- What a server describes of a schema text with a root is read, in whichever form it arrives, as
one model with the types of the text. By every name it means the same type as the model of the
text. By a name that is not contested it means the same operation with the same arguments, and only
by such a name; by a contested one it means the query root's operation, and the model of the text
that of the mutation root. -/
theorem ofResponse_described (schema : SchemaText)
    (hroot : (schema.rootName? .query).isSome = true
      ∨ (schema.rootName? .mutation).isSome = true) :
    ∃ model : Schema,
      (∀ response ∈ schema.described.responses, Schema.ofResponse response = .ok model)
        ∧ model.types = schema.toSchema.types
        ∧ ∀ name, model.type? name = schema.toSchema.type? name
          ∧ (model.operation? name = schema.toSchema.operation? name ↔ ¬schema.Contested name)
          ∧ (¬schema.Contested name →
            ∀ argument, model.argument? name argument = schema.toSchema.argument? name argument)
          ∧ (schema.Contested name →
            model.operation? name = schema.rootOperation? .query name
              ∧ schema.toSchema.operation? name = schema.rootOperation? .mutation name) := by
  have hroots : schema.described.roots ≠ [] := by
    intro hnone
    obtain ⟨hquery, hmutation⟩ := List.append_eq_nil_iff.1 hnone
    rw [Option.toList_eq_nil_iff] at hquery hmutation
    rcases hroot with h | h
    · rw [show schema.rootName? .query = none from hquery] at h
      cases h
    · rw [show schema.rootName? .mutation = none from hmutation] at h
      cases h
  refine ⟨schema.describedModel, fun response => Schema.ofResponse_responses hroots, rfl, ?_⟩
  intro name
  refine ⟨rfl, operation?_eq_iff name, fun hfree argument => ?_, fun hcontested => ?_⟩
  · rw [Schema.argument?, (operation?_eq_iff name).2 hfree, Schema.argument?]
  · rw [operation?_mutationFirst hcontested.mutationFirst, operation?_toSchema]
    exact ⟨Option.or_of_isSome hcontested.inQuery, Option.or_of_isSome hcontested.inMutation⟩

-- ============================================================== at work

/-- A text that defines its mutation root first, with a field of one name in both roots. -/
def lending : SchemaText where
  types := [
    (⟨"Mutation", by decide⟩, .object [] [
      ⟨⟨"book", by decide⟩, [], .named ⟨"Int", by decide⟩⟩]),
    (⟨"Query", by decide⟩, .object [] [
      ⟨⟨"book", by decide⟩, [], .named ⟨"String", by decide⟩⟩,
      ⟨⟨"shelf", by decide⟩, [], .named ⟨"ID", by decide⟩⟩])]
  roots := [(.query, ⟨"Query", by decide⟩), (.mutation, ⟨"Mutation", by decide⟩)]
  types_distinct := by decide
  types_own := by decide
  members_distinct := by decide
  roots_distinct := by decide

/-- Both roots of this schema have the field, and the mutations come first. -/
theorem lending_contested : lending.Contested "book" where
  mutationFirst := by
    refine ⟨lending.namedType ⟨"Mutation", by decide⟩ (.object [] [
        ⟨⟨"book", by decide⟩, [], .named ⟨"Int", by decide⟩⟩]),
      lending.namedType ⟨"Query", by decide⟩ (.object [] [
        ⟨⟨"book", by decide⟩, [], .named ⟨"String", by decide⟩⟩,
        ⟨⟨"shelf", by decide⟩, [], .named ⟨"ID", by decide⟩⟩]), ?_, ?_, ?_⟩
    all_goals decide +kernel
  inMutation := by decide +kernel
  inQuery := by decide +kernel
  differs := by decide +kernel

theorem ofResponse_described_lending :
    (lending.rootName? .query).isSome = true ∧ lending.Contested "book"
      ∧ ¬lending.Contested "shelf"
      ∧ ∃ model : Schema,
        (∀ response ∈ lending.described.responses, Schema.ofResponse response = .ok model)
          ∧ model.operation? "book" = some ⟨"book", [], some (.named .scalar "String")⟩
          ∧ lending.toSchema.operation? "book" = some ⟨"book", [], some (.named .scalar "Int")⟩
          ∧ model.operation? "shelf" = lending.toSchema.operation? "shelf" := by
  have hshelf : ¬lending.Contested "shelf" := by
    intro h
    have hnone : (lending.rootOperation? .mutation "shelf").isSome = false := by decide +kernel
    rw [h.inMutation] at hnone
    cases hnone
  have hroot : (lending.rootName? .query).isSome = true := by decide +kernel
  obtain ⟨model, hread, -, hmeans⟩ := ofResponse_described lending (.inl hroot)
  obtain ⟨-, -, -, hbook⟩ := hmeans "book"
  obtain ⟨hquery, hmutation⟩ := hbook lending_contested
  obtain ⟨-, hagree, -⟩ := hmeans "shelf"
  refine ⟨hroot, lending_contested, hshelf, model, hread, ?_, ?_, hagree.2 hshelf⟩
  · rw [hquery]
    decide +kernel
  · rw [hmutation]
    decide +kernel

/-- So the two models of a text may mean different operations by one name. -/
theorem not_described_lending :
    ¬∃ model : Schema,
      (∀ response ∈ lending.described.responses, Schema.ofResponse response = .ok model)
        ∧ ∀ name, model.operation? name = lending.toSchema.operation? name := by
  intro h
  obtain ⟨model, hread, hagree⟩ := h
  have hroots : lending.described.roots ≠ [] := by decide +kernel
  have hbare : lending.described.toJson ∈ lending.described.responses := List.mem_cons_self
  have hmodel : Schema.ofResponse lending.described.toJson = .ok lending.describedModel :=
    Schema.ofResponse_responses hroots hbare
  rw [hread _ hbare] at hmodel
  obtain rfl := Except.ok.inj hmodel
  exact (operation?_eq_iff "book").1 (hagree "book") lending_contested

end Sdl.SchemaText

end CrudGraph
