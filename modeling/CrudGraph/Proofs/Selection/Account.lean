/-
Nothing is lost on the walk over a schema. The walk comes past the fields of the first type and past
the fields of every type that it goes down into, and each time it does, the field is either selected
or reported, once.

# What is counted

The same field may be come past many times, once for each path that leads to its type, so what is
counted are visits and not fields. They form a tree (`Visit`), and the tree is known before anything
is selected: it follows the question where the walk goes down (`visits`). A field whose type turns
out to be empty is reported in the end, but what was visited below it stays in the tree.

# What is shown

`Accounted` goes through the tree, the selections and the reports side by side. Each rule is about
one visit, and gives it one selection at its place or one report at its place; there is no rule
that gives it both, or neither. That a walk leaves such an account (`accounted_selectFields`) is one
induction along the walk, with a case for each fate of a field, and the balance of the three numbers
is an induction on the account (`Accounted.countOfAll_eq`).
-/
import CrudGraph.Proofs.Selection.Validity
import CrudGraph.Proofs.Selection.Walk

namespace CrudGraph

-- ================================================================== visits

/-- A visit to a field of a type, both given by name. -/
inductive Visit where
  /-- The walk does not go further down here. -/
  | closed (owner field : String)
  /-- The walk goes down into the field's type, and visits its fields. -/
  | opened (owner field : String) (below : List Visit)

mutual

/-- How many visits there are, with those below. -/
def Visit.count : Visit → Nat
  | closed _ _ => 1
  | opened _ _ below => countOfAll below + 1

def Visit.countOfAll : List Visit → Nat
  | [] => 0
  | visit :: rest => visit.count + countOfAll rest

end

mutual

/-- How many fields are selected, with those below. -/
def Selection.count : Selection → Nat
  | field _ _ _ selections => countOfAll selections + 1

def Selection.countOfAll : List Selection → Nat
  | [] => 0
  | selection :: rest => selection.count + countOfAll rest

end

-- ================================================================ accounts

/-- Visits, what is selected there, and what is reported there, each in order. -/
inductive Accounted : List Visit → List Selection → List Omission → Prop
  | nil : Accounted [] [] []
  /-- The field is not selected, and there is one report on it. -/
  | leftOut {owner field omission visits selections omissions} :
      omission.field? = some (owner, field) →
      Accounted visits selections omissions →
      Accounted (.closed owner field :: visits) selections (omission :: omissions)
  /-- The field is selected, and there is no report on it. -/
  | leaf {owner field responseName name arguments visits selections omissions} :
      name.text = field →
      Accounted visits selections omissions →
      Accounted (.closed owner field :: visits)
        (.field responseName name arguments [] :: selections) omissions
  /-- The field is selected with what is selected below it; the reports are from there. -/
  | nested {owner field responseName name arguments below visits selected selections inner
      omissions} :
      name.text = field →
      selected ≠ [] →
      Accounted below selected inner →
      Accounted visits selections omissions →
      Accounted (.opened owner field below :: visits)
        (.field responseName name arguments selected :: selections) (inner ++ omissions)
  /-- Nothing is selected below the field; the reports from there stay, and the one on the field
  comes behind them. -/
  | emptied {owner field type below visits selections inner omissions} :
      Accounted below [] inner →
      Accounted visits selections omissions →
      Accounted (.opened owner field below :: visits) selections
        (inner ++ .emptySelection owner field type :: omissions)

/-- There are as many visits as selections and reports together. -/
theorem Accounted.countOfAll_eq {visits : List Visit} {selections : List Selection}
    {omissions : List Omission} (h : Accounted visits selections omissions) :
    Visit.countOfAll visits = Selection.countOfAll selections + omissions.length := by
  induction h with
  | nil => rfl
  | leftOut _ _ ih | leaf _ _ ih =>
    simp only [Visit.countOfAll, Visit.count, Selection.countOfAll, Selection.count,
      List.length_cons, ih]
    omega
  | nested _ _ _ _ ihbelow ih | emptied _ _ ihbelow ih =>
    simp only [Visit.countOfAll, Visit.count, Selection.countOfAll, Selection.count,
      List.length_append, List.length_cons, ihbelow, ih]
    omega

namespace Projector

variable (p : Projector)

-- ================================================================ the walk

/-- The visits of a walk over fields of a type, in the order of the fields. -/
def visits (key : Option PrimaryKey) (path : List String) (owner : NamedType) :
    List Field → List Visit
  | [] => []
  | field :: rest =>
    match entered : p.entered? key path owner field with
    | none => .closed owner.name field.name :: visits key path owner rest
    | some type =>
      have := unvisited_lt_of_entered? entered
      .opened owner.name field.name (visits none (type.name :: path) type type.fields)
        :: visits key path owner rest
termination_by fields => (p.unvisited path, fields.length)

variable {p} {key : Option PrimaryKey} {path : List String} {owner : NamedType} {field : Field}

/-- A field that is not gone down into is one visit. -/
theorem visits_of_closed (h : p.entered? key path owner field = none) (rest : List Field) :
    p.visits key path owner (field :: rest)
      = .closed owner.name field.name :: p.visits key path owner rest := by
  rw [visits]
  split
  · rfl
  · next type hentered => cases h.symm.trans hentered

/-- A field that is gone down into is one visit, with those of its type in it. -/
theorem visits_of_opened {type : NamedType} (h : p.entered? key path owner field = some type)
    (rest : List Field) :
    p.visits key path owner (field :: rest)
      = .opened owner.name field.name (p.visits none (type.name :: path) type type.fields)
        :: p.visits key path owner rest := by
  rw [visits]
  split
  · next hclosed => cases hclosed.symm.trans h
  · next type' hentered =>
    cases hentered.symm.trans h
    rfl

/-- A walk that ends leaves an account of its visits. -/
theorem accounted_selectFields {key : Option PrimaryKey} {path : List String} {owner : NamedType}
    {fields : List Field} {omissions : List Omission} {selections : List Selection}
    (h : (p.selectFields key path owner fields).Reports omissions selections) :
    Accounted (p.visits key path owner fields) selections omissions := by
  cases fields with
  | nil =>
    rw [selectFields] at h
    cases h
    rw [visits]
    exact .nil
  | cons field rest =>
    obtain ⟨found, others, before, after, hfirst, hrest, rfl, rfl⟩ := reports_cons h
    have hothers := accounted_selectFields hrest
    cases fate_of_selectField hfirst with
    -- The fate of the field says which visit it was, and the visits of the rest come behind it.
    | leftOut hclosed hnames =>
      rw [visits_of_closed hclosed]
      exact .leftOut hnames hothers
    | leaf hclosed _ hname =>
      rw [visits_of_closed hclosed]
      exact .leaf hname hothers
    | nested hentered hname hbelow hsome =>
      have := unvisited_lt_of_entered? hentered
      rw [visits_of_opened hentered]
      exact .nested hname hsome (accounted_selectFields hbelow) hothers
    | emptied hentered hbelow =>
      have := unvisited_lt_of_entered? hentered
      rw [visits_of_opened hentered, List.append_assoc]
      exact .emptied (accounted_selectFields hbelow) hothers
termination_by (p.unvisited path, fields.length)

-- ============================================================= the whole

/-- Where a type comes to selections, or to none at all, every visit of the walk over it is
accounted for, and there are as many visits as selections on all levels and reports together. -/
theorem select_accounted (p : Projector) {typeName : String} {key : Option PrimaryKey}
    {selections : List Selection} (h : p.Completes typeName key selections) :
    ∃ root, p.schema.type? typeName = some root
      ∧ Accounted (p.visits key [root.name] root root.fields) selections
          (p.select typeName key).omissions
      ∧ Visit.countOfAll (p.visits key [root.name] root root.fields)
          = Selection.countOfAll selections + (p.select typeName key).omissions.length := by
  obtain ⟨root, found, hreports⟩ := h.reports
  have haccounted := accounted_selectFields hreports
  exact ⟨root, found, haccounted, haccounted.countOfAll_eq⟩

/-- Of a book of the library six fields are visited, two of them below its author. Four are
selected; the author's own books and the book's own column `id` are reported. -/
theorem select_accounted_library :
    ∃ root selections, library.schema.type? "Book" = some root
      ∧ library.Completes "Book" (some libraryKey) selections
      ∧ Accounted (library.visits (some libraryKey) [root.name] root root.fields) selections
          (library.select "Book" (some libraryKey)).omissions
      ∧ Visit.countOfAll (library.visits (some libraryKey) [root.name] root root.fields) = 6
      ∧ Selection.countOfAll selections = 4 := by
  have hwithin := library.selectWithin_eq (pure [])
    (show library.schema.typeNames.card ≤ 2 by decide) "Book" (some libraryKey)
  obtain ⟨selections, h, hselected⟩ :
      ∃ selections, (library.select "Book" (some libraryKey)).result = .ok selections
        ∧ Selection.countOfAll selections = 4 := by
    rw [← hwithin]
    exact ⟨_, rfl, rfl⟩
  have hreported : (library.select "Book" (some libraryKey)).omissions.length = 2 := by
    rw [← hwithin]
    rfl
  have hcompletes : library.Completes "Book" (some libraryKey) selections := .inl h
  obtain ⟨root, found, haccounted, hcount⟩ := select_accounted library hcompletes
  rw [hselected, hreported] at hcount
  exact ⟨root, selections, found, hcompletes, haccounted, hcount, hselected⟩

end Projector

end CrudGraph
