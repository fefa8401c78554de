/-
How a key comes out of a schema. Four things of the schema have a say in it: the operation that
answers with one record names the key field, the type of the records has that field or has not, it
has the synthetic identifier or has not, and the operation under the aliased name may say of which
type that identifier is. Any of these may be missing, and the names of all of them may be configured.

# What is shown

`Resolved` says what every part of a key is, in all these cases, and `resolve_iff` that a key is
resolved just when it is of this kind. So the parts belong together, and there is only one key. Where
there is none, there are two reasons for it (`Unresolved`): the type is missing, or the key that is
named is no field of the type that a value could be read from.

# How

Everything hangs on the name of the key field. It is found by a search through the arguments, and
`Named` says the same by what is known of the arguments before the one that is found; there is just
one such name (`Named.eq_derivedField`). The rest goes by the two kinds of key: the parts of each
are read off once (`resolved_direct`, `resolved_aliased`), and no other key has these parts
(`Resolved.unique`). So both directions follow from the one case analysis of what is resolved
(`resolve_cases`).
-/
import CrudGraph.Resource

namespace CrudGraph

namespace PrimaryKey

attribute [ext] PrimaryKey

variable {schema : Schema} {type : NamedType} {resource : Resource} {naming : Naming}
  {key : PrimaryKey}

-- ============================================================= the key field

/-- The name of the key field of a resource. -/
inductive Named (schema : Schema) (resource : Resource) (naming : Naming) : String → Prop
  /-- The operation that answers with one record takes the key. It is the first of its arguments
  that is not kept for something else. -/
  | argument {operation : Operation} {before after : List InputValue} {arg : InputValue}
      (found : schema.operation? resource.single = some operation)
      (arguments : operation.args = before ++ arg :: after)
      (reserved : ∀ other ∈ before, other.name ∈ reservedArguments)
      (first : arg.name ∉ reservedArguments) :
      Named schema resource naming arg.name
  /-- There is no such operation, or it has no such argument. -/
  | uniform
      (reserved : ∀ operation, schema.operation? resource.single = some operation →
        ∀ arg ∈ operation.args, arg.name ∈ reservedArguments) :
      Named schema resource naming naming.identifierName

/-- Without an operation on one record the key is the uniform identifier. -/
theorem derivedField_of_missing (h : schema.operation? resource.single = none) :
    derivedField schema resource naming = naming.identifierName := by
  unfold derivedField
  rw [h]
  rfl

/-- With one the key is its first argument that is not reserved, if it has such an argument. -/
theorem derivedField_of_operation? {operation : Operation} {found : Option InputValue}
    (h : schema.operation? resource.single = some operation)
    (hfound : operation.args.find? (fun arg => !reservedArguments.contains arg.name) = found) :
    derivedField schema resource naming = (found.map (·.name)).getD naming.identifierName := by
  subst hfound
  unfold derivedField
  rw [h]
  rfl

/-- The key field that is derived is named. -/
theorem named_derivedField :
    Named schema resource naming (derivedField schema resource naming) := by
  cases hoperation : schema.operation? resource.single with
  | none =>
    rw [derivedField_of_missing hoperation]
    exact .uniform fun operation hfound => by rw [hoperation] at hfound; cases hfound
  | some operation =>
    cases hsearch : operation.args.find? fun arg => !reservedArguments.contains arg.name with
    | none =>
      rw [derivedField_of_operation? hoperation hsearch]
      refine .uniform fun other hfound => ?_
      rw [hoperation] at hfound
      cases hfound
      simpa using List.find?_eq_none.1 hsearch
    | some arg =>
      obtain ⟨hfirst, before, after, harguments, hreserved⟩ :=
        List.find?_eq_some_iff_append.1 hsearch
      rw [derivedField_of_operation? hoperation hsearch]
      exact .argument hoperation harguments (by simpa using hreserved) (by simpa using hfirst)

/-- No other is. -/
theorem Named.eq_derivedField {field : String} (h : Named schema resource naming field) :
    field = derivedField schema resource naming := by
  cases h with
  | @argument operation before after arg found arguments reserved first =>
    have hfirst : operation.args.find? (fun arg => !reservedArguments.contains arg.name)
        = some arg :=
      List.find?_eq_some_iff_append.2
        ⟨by simpa using first, before, after, arguments, by simpa using reserved⟩
    rw [derivedField_of_operation? found hfirst]
    rfl
  | uniform reserved =>
    cases hoperation : schema.operation? resource.single with
    | none => rw [derivedField_of_missing hoperation]
    | some operation =>
      have hnone : operation.args.find? (fun arg => !reservedArguments.contains arg.name)
          = none :=
        List.find?_eq_none.2 (by simpa using reserved operation hoperation)
      rw [derivedField_of_operation? hoperation hnone]
      rfl

-- ================================================================ the parts

/-- The other parts of a key that is the uniform identifier: it is addressed as what it is. -/
structure Direct (resource : Resource) (key : PrimaryKey) : Prop where
  argument : key.idArgumentName = key.fieldName
  argumentType : key.idArgumentType = key.scalarType
  single : key.singleOperation = resource.single
  delete : key.deleteOperation = "delete" ++ resource.typeName
  update : key.updateOperation = "update" ++ resource.typeName
  identity : key.identityField = key.fieldName

/-- The other parts of any other key: it is addressed by the synthetic identifier. -/
structure Aliased (schema : Schema) (type : NamedType) (resource : Resource) (naming : Naming)
    (key : PrimaryKey) : Prop where
  argument : key.idArgumentName = naming.syntheticIdentifier
  /-- The type of the identifier is the one that the operation declares. -/
  argumentType : ∀ arg scalar,
    schema.argument? key.singleOperation naming.syntheticIdentifier = some arg →
      arg.type.baseName = some scalar → key.idArgumentType = scalar
  /-- It is the type of all identifiers where the operation declares none. -/
  undeclared : (∀ arg,
      schema.argument? key.singleOperation naming.syntheticIdentifier = some arg →
        arg.type.baseName = none) → key.idArgumentType = "ID"
  single : key.singleOperation = resource.single ++ naming.aliasedOperationSuffix
  delete : key.deleteOperation = "delete" ++ resource.typeName ++ naming.aliasedOperationSuffix
  update : key.updateOperation = "update" ++ resource.typeName ++ naming.aliasedOperationSuffix
  /-- The identity is the synthetic identifier just where the type has it. -/
  identity_iff : key.identityField = naming.syntheticIdentifier
    ↔ ∃ field ∈ type.fields, field.name = naming.syntheticIdentifier
  /-- If it is not, it is the key. -/
  identity : key.identityField ≠ naming.syntheticIdentifier → key.identityField = key.fieldName

/-- A key of the records of a type. -/
structure Resolved (schema : Schema) (type : NamedType) (resource : Resource) (naming : Naming)
    (key : PrimaryKey) : Prop where
  named : Named schema resource naming key.fieldName
  /-- It is a field of the type, and this is what its values are. -/
  scalar : ∃ field, type.field? key.fieldName = some field
    ∧ field.type.baseName = some key.scalarType
  /-- So is the identity. -/
  known : ∃ field ∈ type.fields, field.name = key.identityField
  alias_iff : key.aliasRequired = true ↔ key.fieldName ≠ naming.identifierName
  direct : key.fieldName = naming.identifierName → Direct resource key
  aliased : key.fieldName ≠ naming.identifierName → Aliased schema type resource naming key

/-- Why a resource has no key. -/
inductive Unresolved (schema : Schema) (resource : Resource) (naming : Naming) : Refusal → Prop
  | typeless (missing : schema.type? resource.typeName = none) :
      Unresolved schema resource naming (.resourceTypeUnresolved resource.typeName)
  | keyless {type : NamedType} {field : String}
      (found : schema.type? resource.typeName = some type)
      (named : Named schema resource naming field)
      (missing : ∀ declared, type.field? field = some declared → declared.type.baseName = none) :
      Unresolved schema resource naming (.primaryKeyUnresolvable resource.typeName field)

-- ========================================================= what is resolved

section

variable {scalar : String}

/-- A key that is the uniform identifier has all nine parts. -/
theorem resolved_direct (hnamed : Named schema resource naming naming.identifierName)
    (hscalar : ∃ field, type.field? naming.identifierName = some field
      ∧ field.type.baseName = some scalar) :
    Resolved schema type resource naming (direct resource naming.identifierName scalar) where
  named := hnamed
  scalar := hscalar
  known := by
    obtain ⟨field, hfield, -⟩ := hscalar
    exact NamedType.isSome_field?_iff.1 (Option.isSome_of_eq_some hfield)
  alias_iff := by simp [direct]
  direct _ := ⟨rfl, rfl, rfl, rfl, rfl, rfl⟩
  aliased hother := absurd rfl hother

/-- A key other than the uniform identifier is a field of the type, or else the synthetic identifier
would not be known to be one where it is the key. -/
theorem Aliased.of_field? {field : String} (hfield : (type.field? field).isSome = true) :
    Aliased schema type resource naming (aliased schema type resource naming field scalar) where
  argument := rfl
  argumentType arg declared harg hdeclared := by
    have htype : ((schema.argument? (resource.single ++ naming.aliasedOperationSuffix)
        naming.syntheticIdentifier) >>= (·.type.baseName)) = some declared :=
      Option.bind_eq_some_iff.2 ⟨arg, harg, hdeclared⟩
    show Option.getD _ _ = _
    rw [htype]
    rfl
  undeclared hnone := by
    have htype : ((schema.argument? (resource.single ++ naming.aliasedOperationSuffix)
        naming.syntheticIdentifier) >>= (·.type.baseName)) = none :=
      Option.bind_eq_none_iff.2 hnone
    show Option.getD _ _ = _
    rw [htype]
    rfl
  single := rfl
  delete := rfl
  update := rfl
  identity_iff := by
    rw [← NamedType.isSome_field?_iff]
    show ite _ _ _ = _ ↔ _
    split
    · next hdeclared => exact ⟨fun _ => hdeclared, fun _ => rfl⟩
    · next hmissing =>
      exact ⟨fun hsame => absurd (hsame ▸ hfield) hmissing, fun h => absurd h hmissing⟩
  identity := by
    show ite _ _ _ ≠ _ → ite _ _ _ = _
    split
    · exact fun hother => absurd rfl hother
    · exact fun _ => rfl

/-- So has a key under any other name. -/
theorem resolved_aliased {field : String} (hnamed : Named schema resource naming field)
    (hother : field ≠ naming.identifierName)
    (hscalar : ∃ declared, type.field? field = some declared
      ∧ declared.type.baseName = some scalar) :
    Resolved schema type resource naming (aliased schema type resource naming field scalar) := by
  have hfield : (type.field? field).isSome = true := by
    obtain ⟨declared, hdeclared, -⟩ := hscalar
    exact Option.isSome_of_eq_some hdeclared
  have hparts : Aliased schema type resource naming
      (aliased schema type resource naming field scalar) := .of_field? hfield
  constructor
  case named => exact hnamed
  case scalar => exact hscalar
  case known =>
    -- Both names that the identity may have are fields of the type.
    by_cases hsynthetic : (aliased schema type resource naming field scalar).identityField
        = naming.syntheticIdentifier
    · rw [hsynthetic]
      exact hparts.identity_iff.1 hsynthetic
    · rw [hparts.identity hsynthetic]
      exact NamedType.isSome_field?_iff.1 hfield
  case alias_iff => exact ⟨fun _ => hother, fun _ => rfl⟩
  case direct => exact fun hsame => absurd hsame hother
  case aliased => exact fun _ => hparts

end

-- ========================================================== there is one only

section

variable {other : PrimaryKey}

/-- The parts of a key that is the uniform identifier follow from its name and its type. -/
theorem Direct.unique (h : Direct resource key) (hother : Direct resource other)
    (hfield : key.fieldName = other.fieldName) (hscalar : key.scalarType = other.scalarType)
    (halias : key.aliasRequired = other.aliasRequired) : key = other :=
  PrimaryKey.ext hfield hscalar
    (by rw [h.argument, hother.argument, hfield])
    (by rw [h.argumentType, hother.argumentType, hscalar])
    (h.single.trans hother.single.symm)
    (h.delete.trans hother.delete.symm)
    (h.update.trans hother.update.symm)
    halias
    (by rw [h.identity, hother.identity, hfield])

/-- Two aliased keys of a resource take identifiers of one type. -/
theorem Aliased.argumentType_eq (h : Aliased schema type resource naming key)
    (hother : Aliased schema type resource naming other) :
    key.idArgumentType = other.idArgumentType := by
  have hsingle : key.singleOperation = other.singleOperation :=
    h.single.trans hother.single.symm
  cases htype : (schema.argument? other.singleOperation naming.syntheticIdentifier)
      >>= (·.type.baseName) with
  | none =>
    have hnone := Option.bind_eq_none_iff.1 htype
    rw [hother.undeclared hnone, h.undeclared fun arg harg => hnone arg (hsingle ▸ harg)]
  | some scalar =>
    obtain ⟨arg, harg, hscalar⟩ := Option.bind_eq_some_iff.1 htype
    rw [hother.argumentType arg scalar harg hscalar,
      h.argumentType arg scalar (hsingle.symm ▸ harg) hscalar]

/-- The parts of any other key do too. -/
theorem Aliased.unique (h : Aliased schema type resource naming key)
    (hother : Aliased schema type resource naming other)
    (hfield : key.fieldName = other.fieldName) (hscalar : key.scalarType = other.scalarType)
    (halias : key.aliasRequired = other.aliasRequired) : key = other := by
  have hidentity : key.identityField = other.identityField := by
    by_cases hdeclared : ∃ field ∈ type.fields, field.name = naming.syntheticIdentifier
    · rw [h.identity_iff.2 hdeclared, hother.identity_iff.2 hdeclared]
    · rw [h.identity (mt h.identity_iff.1 hdeclared),
        hother.identity (mt hother.identity_iff.1 hdeclared), hfield]
  exact PrimaryKey.ext hfield hscalar
    (h.argument.trans hother.argument.symm)
    (h.argumentType_eq hother)
    (h.single.trans hother.single.symm)
    (h.delete.trans hother.delete.symm)
    (h.update.trans hother.update.symm)
    halias hidentity

/-- The records of a type have one key. -/
theorem Resolved.unique (h : Resolved schema type resource naming key)
    (hother : Resolved schema type resource naming other) : key = other := by
  have hfield : key.fieldName = other.fieldName :=
    h.named.eq_derivedField.trans hother.named.eq_derivedField.symm
  have hscalar : key.scalarType = other.scalarType := by
    obtain ⟨field, hfound, hbase⟩ := h.scalar
    obtain ⟨again, hagain, hother⟩ := hother.scalar
    rw [hfield, hagain] at hfound
    cases hfound
    exact Option.some.inj (hbase.symm.trans hother)
  have halias : key.aliasRequired = other.aliasRequired := by
    rw [Bool.eq_iff_iff, h.alias_iff, hother.alias_iff, hfield]
  by_cases hsame : key.fieldName = naming.identifierName
  · exact (h.direct hsame).unique (hother.direct (hfield ▸ hsame)) hfield hscalar halias
  · exact (h.aliased hsame).unique (hother.aliased (hfield ▸ hsame)) hfield hscalar halias

end

-- ================================================================ resolution

/-- A resource has a key, or there is a reason why not. -/
theorem resolve_cases (schema : Schema) (resource : Resource) (naming : Naming) :
    (∃ key type, resolve schema resource naming = .ok key
        ∧ schema.type? resource.typeName = some type
        ∧ Resolved schema type resource naming key)
      ∨ ∃ refusal, resolve schema resource naming = .error refusal
        ∧ Unresolved schema resource naming refusal := by
  cases htype : schema.type? resource.typeName with
  | none =>
    refine .inr ⟨_, ?_, .typeless htype⟩
    unfold resolve
    rw [htype]
    rfl
  | some type =>
    have hnamed : Named schema resource naming _ := named_derivedField
    cases hbase : type.field? (derivedField schema resource naming) >>= (·.type.baseName) with
    | none =>
      refine .inr ⟨_, ?_, .keyless htype hnamed (Option.bind_eq_none_iff.1 hbase)⟩
      unfold resolve
      rw [htype]
      dsimp only
      rw [hbase]
      rfl
    | some scalar =>
      have hscalar := Option.bind_eq_some_iff.1 hbase
      have hresolve : resolve schema resource naming
          = if derivedField schema resource naming = naming.identifierName
            then .ok (direct resource (derivedField schema resource naming) scalar)
            else .ok (aliased schema type resource naming
              (derivedField schema resource naming) scalar) := by
        unfold resolve
        rw [htype]
        dsimp only
        rw [hbase]
        rfl
      by_cases hsame : derivedField schema resource naming = naming.identifierName
      · rw [if_pos hsame] at hresolve
        rw [hsame] at hnamed hscalar hresolve
        exact .inl ⟨_, type, hresolve, rfl, resolved_direct hnamed hscalar⟩
      · rw [if_neg hsame] at hresolve
        exact .inl ⟨_, type, hresolve, rfl, resolved_aliased hnamed hsame hscalar⟩

/-- Where there is a reason why not, no value could be read from the field that is named. -/
theorem Unresolved.baseName_eq_none {refusal : Refusal} {name : String} {field : Field}
    (h : Unresolved schema resource naming refusal)
    (htype : schema.type? resource.typeName = some type)
    (hnamed : Named schema resource naming name) (hfield : type.field? name = some field) :
    field.type.baseName = none := by
  cases h with
  | typeless missing => rw [missing] at htype; cases htype
  | keyless found named missing =>
    rw [found] at htype
    cases htype
    rw [hnamed.eq_derivedField, ← named.eq_derivedField] at hfield
    exact missing field hfield

/-- So there is no key. -/
theorem Unresolved.not_resolved {refusal : Refusal}
    (h : Unresolved schema resource naming refusal)
    (htype : schema.type? resource.typeName = some type) :
    ¬Resolved schema type resource naming key := by
  intro hkey
  obtain ⟨field, hfield, hscalar⟩ := hkey.scalar
  rw [h.baseName_eq_none htype hkey.named hfield] at hscalar
  cases hscalar

/-- There are not two reasons. -/
theorem Unresolved.unique {refusal other : Refusal}
    (h : Unresolved schema resource naming refusal)
    (hother : Unresolved schema resource naming other) : refusal = other := by
  cases h with
  | typeless missing =>
    cases hother with
    | typeless _ => rfl
    | keyless found _ _ => rw [missing] at found; cases found
  | keyless found named _ =>
    cases hother with
    | typeless missing => rw [missing] at found; cases found
    | keyless _ again _ => rw [named.eq_derivedField, again.eq_derivedField]

/-- Resolution finds the key that there is; there is only one. -/
theorem resolve_eq_ok_iff :
    resolve schema resource naming = .ok key
      ↔ ∃ type, schema.type? resource.typeName = some type
        ∧ Resolved schema type resource naming key := by
  rcases resolve_cases schema resource naming with
    ⟨made, type, hresolve, htype, hmade⟩ | ⟨refusal, hresolve, hreason⟩
  · rw [hresolve]
    constructor
    · intro h
      cases h
      exact ⟨type, htype, hmade⟩
    · rintro ⟨again, hagain, hkey⟩
      rw [htype] at hagain
      cases hagain
      rw [hmade.unique hkey]
  · rw [hresolve]
    constructor
    · intro h
      cases h
    · rintro ⟨type, htype, hkey⟩
      exact absurd hkey (hreason.not_resolved htype)

/-- It fails for the one reason that applies. -/
theorem resolve_eq_error_iff {refusal : Refusal} :
    resolve schema resource naming = .error refusal
      ↔ Unresolved schema resource naming refusal := by
  rcases resolve_cases schema resource naming with
    ⟨key, type, hresolve, htype, hkey⟩ | ⟨reason, hresolve, hreason⟩
  · rw [hresolve]
    constructor
    · intro h
      cases h
    · exact fun h => absurd hkey (h.not_resolved htype)
  · rw [hresolve]
    constructor
    · intro h
      cases h
      exact hreason
    · exact fun h => congrArg Except.error (hreason.unique h)

/-- It depends on the type and on the field of the derived name, and on nothing else. -/
theorem exists_resolve_iff :
    (∃ key, resolve schema resource naming = .ok key)
      ↔ ∃ type name field scalar, schema.type? resource.typeName = some type
        ∧ Named schema resource naming name
        ∧ type.field? name = some field ∧ field.type.baseName = some scalar := by
  rcases resolve_cases schema resource naming with
    ⟨key, type, hresolve, htype, hkey⟩ | ⟨refusal, hresolve, hreason⟩
  · refine ⟨fun _ => ?_, fun _ => ⟨key, hresolve⟩⟩
    obtain ⟨field, hfield, hscalar⟩ := hkey.scalar
    exact ⟨type, key.fieldName, field, key.scalarType, htype, hkey.named, hfield, hscalar⟩
  · constructor
    · rintro ⟨key, hkey⟩
      rw [hresolve] at hkey
      cases hkey
    · rintro ⟨type, name, field, scalar, htype, hnamed, hfield, hscalar⟩
      rw [hreason.baseName_eq_none htype hnamed hfield] at hscalar
      cases hscalar

/-- What is resolved is the key of the records, and it is resolved wherever the type is there and
has the field that is named as its key. Otherwise the reason is said why there is none. -/
theorem resolve_iff (schema : Schema) (resource : Resource) (naming : Naming) :
    (∀ key, resolve schema resource naming = .ok key
        ↔ ∃ type, schema.type? resource.typeName = some type
          ∧ Resolved schema type resource naming key)
      ∧ (∀ refusal, resolve schema resource naming = .error refusal
        ↔ Unresolved schema resource naming refusal)
      ∧ ((∃ key, resolve schema resource naming = .ok key)
        ↔ ∃ type name field scalar, schema.type? resource.typeName = some type
          ∧ Named schema resource naming name
          ∧ type.field? name = some field ∧ field.type.baseName = some scalar) :=
  ⟨fun _ => resolve_eq_ok_iff, fun _ => resolve_eq_error_iff, exists_resolve_iff⟩

end PrimaryKey

end CrudGraph
