/-
When there is something to select. A statement about all selections of a type says nothing of a type
that cannot be selected at all; that a walk succeeds has to be shown on its own. It does for a type
of leaves: fields that take no arguments, are no composites, and have names that a document may
hold. None of them is refused, and the identity of a record is among those that are not left out
(`select_isOk`).
-/
import CrudGraph.Proofs.Selection.Identity

namespace CrudGraph

/-- A field that is selected as it is, without arguments. -/
structure Field.IsLeaf (field : Field) : Prop where
  bare : field.args = []
  simple : field.type.base.kind.isComposite = false
  named : isName field.name.toList = true

instance (field : Field) : Decidable field.IsLeaf :=
  decidable_of_iff
    (field.args = [] ∧ field.type.base.kind.isComposite = false
      ∧ isName field.name.toList = true)
    ⟨fun h => ⟨h.1, h.2.1, h.2.2⟩, fun h => ⟨h.bare, h.simple, h.named⟩⟩

namespace Projector

variable {p : Projector} {key : Option PrimaryKey} {path : List String} {owner : NamedType}

/-- A key for a field is refused only where the uniform identifier cannot be a key. -/
theorem responseName_isOk (hidentifier : isName p.naming.identifierName.toList = true)
    (field : Field) : ∃ named, p.responseName key owner field = .ok named := by
  obtain ⟨identifier, hname⟩ := ofText_isOk_iff.2 hidentifier
  unfold responseName
  split
  · split
    · split
      · exact exists_ok_bind hname ⟨_, rfl⟩
      · split <;> exact ⟨_, rfl⟩
    · exact ⟨_, rfl⟩
  · exact ⟨_, rfl⟩

/-- A leaf comes to a decision at the gate. -/
theorem gate_isOk (hidentifier : isName p.naming.identifierName.toList = true) {field : Field}
    (hleaf : field.IsLeaf) : ∃ outcome, p.gate key owner field = .ok outcome := by
  simp only [gate]
  split
  · exact ⟨_, rfl⟩
  · split
    · exact ⟨_, rfl⟩
    · obtain ⟨named, hnamed⟩ := @responseName_isOk p key owner hidentifier field
      refine exists_ok_bind hnamed ?_
      cases named with
      | error omission => exact ⟨_, rfl⟩
      | ok responseName =>
          have hgiven : arguments (Table.find? p.strategies owner.name) field = .ok [] := by
            rw [arguments, hleaf.bare]
            rfl
          refine exists_ok_bind hgiven ?_
          split <;> exact ⟨_, rfl⟩

/-- What is selected of leaves is never refused. -/
theorem selectFields_isOk (hidentifier : isName p.naming.identifierName.toList = true)
    {fields : List Field} (hleaves : ∀ field ∈ fields, field.IsLeaf) :
    ∃ selections, (p.selectFields key path owner fields).EndsWith selections := by
  induction fields with
  | nil =>
      rw [selectFields]
      exact ⟨[], rfl⟩
  | cons field rest ih =>
      have hleaf := hleaves field List.mem_cons_self
      obtain ⟨others, hothers⟩ := ih fun other hother =>
        hleaves other (List.mem_cons_of_mem _ hother)
      have hfirst : ∃ found, (p.selectField key path owner field).EndsWith found := by
        rw [selectField]
        obtain ⟨outcome, hgate⟩ := @gate_isOk p key owner hidentifier field hleaf
        refine Reported.exists_lift_bind hgate ?_
        cases outcome with
        | error omission => exact ⟨none, rfl⟩
        | ok passed =>
            obtain ⟨responseName, given⟩ := passed
            obtain ⟨name, hname⟩ := ofText_isOk_iff.2 hleaf.named
            dsimp only
            rw [hleaf.simple, if_neg Bool.false_ne_true]
            exact Reported.exists_lift_bind hname ⟨_, rfl⟩
      obtain ⟨found, hfound⟩ := hfirst
      rw [selectFields]
      exact Reported.exists_bind hfound (Reported.exists_bind hothers ⟨_, rfl⟩)

/-- Nothing stands against a leaf of a type without a strategy. -/
theorem Selectable.of_leaf (hshown : Table.find? p.strategies owner.name = none) {field : Field}
    (hleaf : field.IsLeaf) : p.Selectable owner field := by
  refine ⟨fun strategy hstrategy => ?_, hleaf.simple, fun arg harg => ?_⟩
  · rw [hshown] at hstrategy
    cases hstrategy
  · rw [hleaf.bare] at harg
    cases harg

/-- A type of leaves that no strategy hides can be selected, if one of them is the identity or is
not called like the uniform identifier. -/
theorem select_isOk {typeName : String} {key : PrimaryKey} {type : NamedType}
    (htype : p.schema.type? typeName = some type)
    (hshown : Table.find? p.strategies type.name = none)
    (hidentifier : isName p.naming.identifierName.toList = true)
    (hleaves : ∀ field ∈ type.fields, field.IsLeaf)
    (hsome : ∃ field ∈ type.fields,
      field.name = key.identityField ∨ field.name ≠ p.naming.identifierName) :
    ∃ selections, (p.select typeName (some key)).EndsWith selections := by
  obtain ⟨selections, hselections⟩ :=
    @selectFields_isOk p (some key) [type.name] type hidentifier type.fields hleaves
  obtain ⟨field, hfield, hname⟩ := hsome
  obtain ⟨s, hs, -⟩ := mem_of_selectFields hselections hfield
    (.of_leaf hshown (hleaves field hfield)) (responseName_ne_omission hname)
  unfold select
  rw [htype]
  refine Reported.exists_bind hselections ?_
  have hsome : selections.isEmpty = false := by
    cases selections with
    | nil => cases hs
    | cons first rest => rfl
  rw [hsome, if_neg Bool.false_ne_true]
  exact ⟨selections, rfl⟩

/-- A leaf comes back under the key that the primary key gives it. -/
theorem exists_selection_of_leaf {typeName : String} {key : PrimaryKey} {type : NamedType}
    (htype : p.schema.type? typeName = some type)
    (hshown : Table.find? p.strategies type.name = none) {selections : List Selection}
    (h : (p.select typeName (some key)).EndsWith selections) {field : Field}
    (hfield : field ∈ type.fields) (hleaf : field.IsLeaf)
    (hname : field.name = key.identityField ∨ field.name ≠ p.naming.identifierName) :
    ∃ s ∈ selections, p.keyOf (some key) field.name = some s.responseKey.text := by
  obtain ⟨s, hs, hsname, hpassed⟩ := mem_of_selectFields (selectFields_of_select htype h) hfield
    (.of_leaf hshown hleaf) (responseName_ne_omission hname)
  exact ⟨s, hs, hpassed.keyOf_eq hsname⟩

end Projector

end CrudGraph
