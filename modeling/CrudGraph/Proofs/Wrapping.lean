/-
Types in two notations. A description of a schema wraps one reference around another, and that null
is excluded is a wrapper like any other; a document has the exclusion as part of the name or the
list that it belongs to. Whatever a document can write can be described, but not the other way
round: descriptions come from outside and may exclude null twice, or wrap nothing at all.

# What is shown

A type that is described and read again is the same type, whatever the schema knows of its name. A
reference is the description of a type just where every wrapper wraps something, no exclusion of
null stands right on another, and a name is inside (`TypeRef.Describing`); the type then has this
name inside, it excludes null where the reference does, and the two without the exclusion belong
together again (`TypeRef.toExpr_faithful`).

# How

Reading goes down the wrappers, so each kind of reference has one lemma that says what it is read
as, from what the reference inside is read as. The exclusion of null is the only wrapper that can
fail on what is inside it, and it does so just if that excludes null already
(`TypeExpr.nonNull?_eq_some_iff`); whether it does is seen on the reference
(`TypeRef.isNonNull_of_toExpr`).
-/
import CrudGraph.Proofs.Outcome
import CrudGraph.Document.TypeExpr
import CrudGraph.Sdl.Schema

namespace CrudGraph

-- ============================================================ references

/-- Kinds of references that wrap others. -/
def TypeKind.isWrapper : TypeKind → Bool
  | list | nonNull => true
  | _ => false

namespace TypeRef

/-- The reference that a reference wraps. -/
def inner? : TypeRef → Option TypeRef
  | .bare _ _ => none
  | .wrapping _ _ inner => some inner

/-- A reference and all those inside it, from the outside in. -/
def layers : TypeRef → List TypeRef
  | .bare kind name => [.bare kind name]
  | .wrapping kind name inner => .wrapping kind name inner :: inner.layers

/-- Only wrappers wrap anything. -/
def OnlyWrappersWrap (t : TypeRef) : Prop :=
  ∀ layer ∈ t.layers, layer.inner?.isSome = true → layer.kind.isWrapper = true

/-- What makes a reference the description of a type. -/
structure Describing (t : TypeRef) : Prop where
  wraps : ∀ layer ∈ t.layers, layer.kind.isWrapper = true → layer.inner?.isSome = true
  excludesOnce : ∀ layer ∈ t.layers, ∀ inner ∈ layer.inner?,
    ¬(layer.isNonNull = true ∧ inner.isNonNull = true)
  named : ∃ name, t.baseName = some name ∧ isName name.toList = true

/-- Going inside keeps it that only wrappers wrap anything. -/
theorem onlyWrappersWrap_wrapping_iff {kind : TypeKind} {name : Option String} {inner : TypeRef} :
    OnlyWrappersWrap (.wrapping kind name inner)
      ↔ kind.isWrapper = true ∧ inner.OnlyWrappersWrap := by
  unfold OnlyWrappersWrap
  rw [layers, List.forall_mem_cons]
  exact and_congr_left fun _ => ⟨fun h => h rfl, fun h _ => h⟩

/-- A reference with nothing inside describes a type by its name alone. -/
theorem describing_bare_iff {kind : TypeKind} {name : Option String} :
    Describing (.bare kind name)
      ↔ kind.isWrapper = false ∧ ∃ text, name = some text ∧ isName text.toList = true := by
  constructor
  · intro h
    refine ⟨Bool.eq_false_iff.2 fun hwrapper => ?_, h.named⟩
    exact absurd (h.wraps _ List.mem_cons_self hwrapper) Bool.false_ne_true
  · intro h
    refine ⟨fun layer hlayer hwrapper => ?_, fun layer hlayer inner hinner => ?_, h.2⟩
    · rw [List.mem_singleton.1 hlayer] at hwrapper
      exact absurd hwrapper (Bool.eq_false_iff.1 h.1)
    · rw [List.mem_singleton.1 hlayer] at hinner
      cases hinner

/-- A reference around another describes a type if that one does and null is not excluded twice. -/
theorem describing_wrapping_iff {kind : TypeKind} {name : Option String} {inner : TypeRef} :
    Describing (.wrapping kind name inner)
      ↔ ¬(kind = .nonNull ∧ inner.isNonNull = true) ∧ inner.Describing := by
  have hexcludes : isNonNull (.wrapping kind name inner) = true ↔ kind = .nonNull :=
    decide_eq_true_iff
  constructor
  · intro h
    refine ⟨fun htwice => ?_, ?_, ?_, h.named⟩
    · exact h.excludesOnce _ List.mem_cons_self inner rfl ⟨hexcludes.2 htwice.1, htwice.2⟩
    · exact fun layer hlayer => h.wraps layer (List.mem_cons_of_mem _ hlayer)
    · exact fun layer hlayer => h.excludesOnce layer (List.mem_cons_of_mem _ hlayer)
  · intro h
    obtain ⟨honce, hinner⟩ := h
    refine ⟨fun layer hlayer => ?_, fun layer hlayer => ?_, hinner.named⟩
    · rcases List.mem_cons.1 hlayer with rfl | hlayer
      · exact fun _ => rfl
      · exact hinner.wraps layer hlayer
    · rcases List.mem_cons.1 hlayer with rfl | hlayer
      · intro wrapped hwrapped htwice
        cases hwrapped
        exact honce ⟨hexcludes.1 htwice.1, htwice.2⟩
      · exact hinner.excludesOnce layer hlayer

end TypeRef

-- ================================================================ reading

namespace TypeExpr

/-- Null is excluded from a type just once, and is excluded then. -/
theorem nonNull?_eq_some_iff {type excluding : TypeExpr} :
    type.nonNull? = some excluding ↔ excluding.isNonNull = true ∧ type = excluding.nullable := by
  constructor
  · intro h
    cases type <;> cases h <;> exact ⟨rfl, rfl⟩
  · intro h
    obtain ⟨hexcludes, rfl⟩ := h
    cases excluding <;> cases hexcludes <;> rfl

/-- Null can be excluded from a type just where it is not excluded yet. -/
theorem exists_nonNull?_iff {type : TypeExpr} :
    (∃ excluding, type.nonNull? = some excluding) ↔ type.isNonNull = false := by
  cases type <;> simp [nonNull?, isNonNull]

@[simp] theorem innermost_nullable (type : TypeExpr) :
    type.nullable.innermost = type.innermost := by
  cases type <;> rfl

end TypeExpr

namespace TypeRef

variable {name : Option String} {inner : TypeRef} {type : TypeExpr}

/-- A reference with nothing inside is read as the name that it has, if it is a name. -/
theorem toExpr_bare_eq_ok_iff {kind : TypeKind} (h : kind.isWrapper = false) :
    (bare kind name).toExpr = .ok type
      ↔ ∃ named : Name, name = some named.text ∧ type = .named named := by
  cases name with
  | none =>
      have hread : (bare kind none).toExpr = .error malformed := by
        cases kind <;> rfl
      rw [hread]
      exact ⟨fun h => (by cases h), fun ⟨_, h, _⟩ => (by cases h)⟩
  | some text =>
      have hread : (bare kind (some text)).toExpr = do return .named (← Name.ofText text) := by
        cases kind <;> first | rfl | cases h
      rw [hread, bind_eq_ok_iff]
      constructor
      · intro h
        obtain ⟨named, hnamed, heq⟩ := h
        cases heq
        exact ⟨named, congrArg some (Name.ofText_eq_ok_iff.1 hnamed).symm, rfl⟩
      · intro h
        obtain ⟨named, hnamed, rfl⟩ := h
        cases hnamed
        exact ⟨named, ofText_text named, rfl⟩

/-- A list is read as the list of what is read inside. -/
theorem toExpr_list_eq_ok_iff :
    (wrapping .list name inner).toExpr = .ok type
      ↔ ∃ item, inner.toExpr = .ok item ∧ type = .list item := by
  rw [toExpr, bind_eq_ok_iff]
  refine exists_congr fun item => and_congr_right fun _ => ⟨fun h => ?_, fun h => ?_⟩
  · cases h
    rfl
  · rw [h]
    rfl

/-- An exclusion of null is read as one around what is read inside, where null is not excluded yet.
-/
theorem toExpr_nonNull_eq_ok_iff :
    (wrapping .nonNull name inner).toExpr = .ok type
      ↔ type.isNonNull = true ∧ inner.toExpr = .ok type.nullable := by
  rw [toExpr, bind_eq_ok_iff]
  constructor
  · intro h
    obtain ⟨wrapped, hwrapped, h⟩ := h
    split at h
    · next excluding hexcluding =>
      cases h
      obtain ⟨hexcludes, rfl⟩ := TypeExpr.nonNull?_eq_some_iff.1 hexcluding
      exact ⟨hexcludes, hwrapped⟩
    · cases h
  · intro h
    refine ⟨type.nullable, h.2, ?_⟩
    rw [TypeExpr.nonNull?_eq_some_iff.2 ⟨h.1, rfl⟩]
    rfl

-- ========================================================= what is read

/-- A type excludes null where its description does. -/
theorem isNonNull_of_toExpr {t : TypeRef} (hwrap : t.OnlyWrappersWrap) (h : t.toExpr = .ok type) :
    type.isNonNull = t.isNonNull := by
  cases t with
  | bare kind name =>
      cases hkind : kind.isWrapper with
      | false =>
          obtain ⟨_, -, rfl⟩ := (toExpr_bare_eq_ok_iff hkind).1 h
          cases kind <;> first | rfl | cases hkind
      | true => cases kind <;> cases hkind <;> cases h
  | wrapping kind name inner =>
      have hkind := (onlyWrappersWrap_wrapping_iff.1 hwrap).1
      cases kind <;> cases hkind
      · obtain ⟨_, -, rfl⟩ := toExpr_list_eq_ok_iff.1 h
        rfl
      · exact (toExpr_nonNull_eq_ok_iff.1 h).1

/-- A type has the name inside that its description has. -/
theorem baseName_of_toExpr {t : TypeRef} (hwrap : t.OnlyWrappersWrap) (h : t.toExpr = .ok type) :
    t.baseName = some type.innermost.text := by
  induction t generalizing type with
  | bare kind name =>
      cases hkind : kind.isWrapper with
      | false =>
          obtain ⟨_, rfl, rfl⟩ := (toExpr_bare_eq_ok_iff hkind).1 h
          rfl
      | true => cases kind <;> cases hkind <;> cases h
  | wrapping kind name inner ih =>
      obtain ⟨hkind, hinner⟩ := onlyWrappersWrap_wrapping_iff.1 hwrap
      cases kind <;> cases hkind
      · obtain ⟨item, hitem, rfl⟩ := toExpr_list_eq_ok_iff.1 h
        have hbase := ih hinner hitem
        exact hbase
      · have hbase := ih hinner (toExpr_nonNull_eq_ok_iff.1 h).2
        rwa [TypeExpr.innermost_nullable] at hbase

/-- A type without the exclusion of null is what its description is read as without it. -/
theorem toExpr_nullable {t : TypeRef} (hwrap : t.OnlyWrappersWrap) (h : t.toExpr = .ok type) :
    t.nullable.toExpr = .ok type.nullable := by
  cases hexcludes : t.isNonNull with
  | true =>
      cases t with
      | bare kind name =>
          cases kind <;> cases hexcludes
          cases h
      | wrapping kind name inner =>
          cases kind <;> cases hexcludes
          exact (toExpr_nonNull_eq_ok_iff.1 h).2
  | false =>
      have hsame : t.nullable = t := by
        cases t with
        | bare => rfl
        | wrapping kind => cases kind <;> first | rfl | cases hexcludes
      have hincludes := (isNonNull_of_toExpr hwrap h).trans hexcludes
      rw [hsame, h]
      cases type <;> cases hincludes <;> rfl

/-- A list is read where what is inside is. -/
theorem exists_toExpr_list_iff :
    (∃ type, (wrapping .list name inner).toExpr = .ok type) ↔ ∃ item, inner.toExpr = .ok item := by
  simp only [toExpr_list_eq_ok_iff]
  constructor
  · intro h
    obtain ⟨_, item, hitem, -⟩ := h
    exact ⟨item, hitem⟩
  · intro h
    obtain ⟨item, hitem⟩ := h
    exact ⟨_, item, hitem, rfl⟩

/-- An exclusion of null is read where what is inside is, and does not exclude null as well. Whether
it does is seen on the reference inside. -/
theorem exists_toExpr_nonNull_iff (hinner : inner.OnlyWrappersWrap) :
    (∃ type, (wrapping .nonNull name inner).toExpr = .ok type)
      ↔ inner.isNonNull = false ∧ ∃ wrapped, inner.toExpr = .ok wrapped := by
  simp only [toExpr_nonNull_eq_ok_iff]
  constructor
  · intro h
    obtain ⟨type, hexcludes, hread⟩ := h
    refine ⟨?_, _, hread⟩
    rw [← isNonNull_of_toExpr hinner hread]
    cases type <;> cases hexcludes <;> rfl
  · intro h
    obtain ⟨hincludes, wrapped, hread⟩ := h
    rw [← isNonNull_of_toExpr hinner hread] at hincludes
    obtain ⟨type, htype⟩ := TypeExpr.exists_nonNull?_iff.2 hincludes
    obtain ⟨hexcludes, rfl⟩ := TypeExpr.nonNull?_eq_some_iff.1 htype
    exact ⟨type, hexcludes, hread⟩

/-- The references that are read as types are those that describe one. -/
theorem exists_toExpr_iff {t : TypeRef} (hwrap : t.OnlyWrappersWrap) :
    (∃ type, t.toExpr = .ok type) ↔ t.Describing := by
  induction t with
  | bare kind name =>
      rw [describing_bare_iff]
      cases hkind : kind.isWrapper with
      | false =>
          simp only [toExpr_bare_eq_ok_iff hkind, true_and]
          constructor
          · intro h
            obtain ⟨_, named, rfl, -⟩ := h
            exact ⟨named.text, rfl, named.valid⟩
          · intro h
            obtain ⟨text, rfl, hvalid⟩ := h
            exact ⟨_, ⟨text, hvalid⟩, rfl, rfl⟩
      | true =>
          -- a wrapper that has nothing inside
          have hrefused : ∀ type, (bare kind name).toExpr ≠ .ok type := by
            cases kind <;> cases hkind <;> exact fun _ h => (by cases h)
          exact iff_of_false (fun ⟨type, h⟩ => hrefused type h) fun h => (by cases h.1)
  | wrapping kind name inner ih =>
      obtain ⟨hkind, hinner⟩ := onlyWrappersWrap_wrapping_iff.1 hwrap
      rw [describing_wrapping_iff, ← ih hinner]
      cases kind <;> cases hkind
      · rw [exists_toExpr_list_iff]
        exact (and_iff_right fun htwice => (by cases htwice.1)).symm
      · rw [exists_toExpr_nonNull_iff hinner, ← Bool.not_eq_true]
        exact and_congr_left fun _ => not_congr (and_iff_right rfl).symm

end TypeRef

-- ============================================================ describing

namespace Sdl.SchemaText

/-- No type is a wrapper. -/
theorem isWrapper_kindOf (schema : SchemaText) (name : String) :
    (schema.kindOf name).isWrapper = false := by
  have hbody : ∀ body : Body, body.kind.isWrapper = false := fun body => by cases body <;> rfl
  have hdescribing : ∀ type ∈ describingTypes, type.kind.isWrapper = false := by decide
  unfold kindOf
  split
  · exact hbody _
  · unfold builtInKind?
    split
    · rfl
    · cases hfound : describingTypes.find? (·.name == name) with
      | none => rfl
      | some type => exact hdescribing type (List.mem_of_find?_eq_some hfound)

/-- What a schema says of a type is read as the type. -/
theorem toExpr_typeRef (schema : SchemaText) (type : TypeExpr) :
    (schema.typeRef type).toExpr = .ok type := by
  have hnamed : ∀ name : Name,
      (TypeRef.named (schema.kindOf name.text) name.text).toExpr = .ok (.named name) :=
    fun name => (TypeRef.toExpr_bare_eq_ok_iff (schema.isWrapper_kindOf _)).2 ⟨name, rfl, rfl⟩
  induction type with
  | named name => exact hnamed name
  | nonNullNamed name => exact TypeRef.toExpr_nonNull_eq_ok_iff.2 ⟨rfl, hnamed name⟩
  | list item ih => exact TypeRef.toExpr_list_eq_ok_iff.2 ⟨item, ih, rfl⟩
  | nonNullList item ih =>
      refine TypeRef.toExpr_nonNull_eq_ok_iff.2 ⟨rfl, ?_⟩
      exact TypeRef.toExpr_list_eq_ok_iff.2 ⟨item, ih, rfl⟩

end Sdl.SchemaText

/-- References and types say the same. What a schema says of a type is read as that type. And of
references in which only wrappers wrap anything, those are read as types that describe one; the type
then has the name of the reference inside, excludes null where the reference does, and is read from
the reference without the exclusion as the type without it. -/
theorem TypeRef.toExpr_faithful :
    (∀ (schema : Sdl.SchemaText) (type : TypeExpr), (schema.typeRef type).toExpr = .ok type)
      ∧ ∀ t : TypeRef, t.OnlyWrappersWrap →
        ((∃ type, t.toExpr = .ok type) ↔ t.Describing)
        ∧ ∀ type, t.toExpr = .ok type →
          t.baseName = some type.innermost.text
          ∧ type.isNonNull = t.isNonNull
          ∧ t.nullable.toExpr = .ok type.nullable :=
  ⟨fun schema => schema.toExpr_typeRef, fun _ hwrap => ⟨exists_toExpr_iff hwrap, fun _ h =>
    ⟨baseName_of_toExpr hwrap h, isNonNull_of_toExpr hwrap h, toExpr_nullable hwrap h⟩⟩⟩

/-- Tags that are never null, in lists that may be, are read as such; lists that may not be null and
exclude it twice are not. -/
theorem TypeRef.toExpr_faithful_tags :
    (∃ type, (listOf (nonNullOf (named .scalar "Tag"))).toExpr = .ok type
        ∧ type.innermost.text = "Tag" ∧ type.isNonNull = false)
      ∧ ¬∃ type, (nonNullOf (nonNullOf (listOf (named .scalar "Tag")))).toExpr = .ok type := by
  constructor
  · have hwrap : (listOf (nonNullOf (named .scalar "Tag"))).OnlyWrappersWrap := by
      unfold OnlyWrappersWrap
      decide
    obtain ⟨hread, hsame⟩ := toExpr_faithful.2 _ hwrap
    have hdescribing : (listOf (nonNullOf (named .scalar "Tag"))).Describing :=
      ⟨by decide, by decide, "Tag", rfl, by decide⟩
    obtain ⟨type, htype⟩ := hread.2 hdescribing
    obtain ⟨hname, hexcludes, -⟩ := hsame type htype
    exact ⟨type, htype, (Option.some.inj hname).symm, hexcludes⟩
  · have hwrap : (nonNullOf (nonNullOf (listOf (named .scalar "Tag")))).OnlyWrappersWrap := by
      unfold OnlyWrappersWrap
      decide
    intro h
    have hdescribing := (toExpr_faithful.2 _ hwrap).1.1 h
    exact hdescribing.excludesOnce _ List.mem_cons_self _ rfl ⟨rfl, rfl⟩

end CrudGraph
