/-
The walk over a schema ends, also where the types of the schema refer to each other in circles and
every one of them is expanded.

# What is said

The walk is a function of Lean, and that alone says that it ends; but it is accepted because of an
argument that is woven into it. So what is said of its end is said of the recursion with a budget of
levels (`selectWithin`): with as many levels as the schema has names of types, the result is that of
the walk, whatever stands below the last one.

Of what comes out, `Laid` says that no path of nested selections expands a type twice, the first one
included, and so there are no more levels in it than names of types (`Laid.depth_le`).

# What stops it

A type that is on its path is not gone down into again. The field that would do so is never
selected, and where nothing else stands against it, this is what is reported of it
(`selectField_recursive`). The report is not lost further up: all that is reported in a type is
reported of the whole (`reports_of_entered`).
-/
import CrudGraph.Proofs.Selection.Validity

namespace CrudGraph

-- =================================================================== depth

namespace Selection

mutual

/-- How many levels of selections there are under a field. -/
def depth : Selection → Nat
  | field _ _ _ selections => depthOfAll selections

/-- How many levels there are, these selections included. -/
def depthOfAll : List Selection → Nat
  | [] => 0
  | s :: rest => max (s.depth + 1) (depthOfAll rest)

end

end Selection

namespace Projector

/-- Selections of a type, laid out over the types that they expand. The path holds the names of the
types from the first one down to the owner, last one first. -/
inductive Laid (p : Projector) : List String → NamedType → List Selection → Prop
  | nil {path owner} : Laid p path owner []
  | leaf {path owner field responseName name arguments rest} :
      field ∈ owner.fields →
      name.text = field.name →
      field.type.base.kind.isComposite = false →
      Laid p path owner rest →
      Laid p path owner (.field responseName name arguments [] :: rest)
  /-- What is selected of a field's type is laid out on the path that the type makes longer, and all
  names on that path are different. -/
  | nested {path owner field type responseName name arguments selections rest} :
      field ∈ owner.fields →
      name.text = field.name →
      p.schema.type? field.type.baseText = some type →
      p.schema.IsPath (type.name :: path) →
      Laid p (type.name :: path) type selections →
      Laid p path owner rest →
      Laid p path owner (.field responseName name arguments selections :: rest)

variable {p : Projector}

/-- What is selected of a type is laid out. -/
theorem Chosen.laid {key : Option PrimaryKey} {path : List String} {owner : NamedType}
    {fields : List Field} {selections : List Selection}
    (h : p.Chosen key path owner fields selections) (hfields : ∀ f ∈ fields, f ∈ owner.fields)
    (hpath : p.schema.IsPath path) : p.Laid path owner selections := by
  induction h with
  | nil => exact .nil
  | skip _ ih => exact ih (fun f hf => hfields f (List.mem_cons_of_mem _ hf)) hpath
  | leaf _ hname hleaf _ ih =>
    refine .leaf (hfields _ List.mem_cons_self) hname hleaf ?_
    exact ih (fun f hf => hfields f (List.mem_cons_of_mem _ hf)) hpath
  | nested _ hname _ _ hfresh hfound _ _ _ ihnested ih =>
    have hlonger := hpath.cons hfound hfresh
    refine .nested (hfields _ List.mem_cons_self) hname hfound hlonger ?_ ?_
    · exact ihnested (fun f hf => hf) hlonger
    · exact ih (fun f hf => hfields f (List.mem_cons_of_mem _ hf)) hpath

/-- There are no more levels than names that are not above the owner. -/
theorem Laid.depth_le {path : List String} {owner : NamedType} {selections : List Selection}
    (h : p.Laid path owner selections) (hpath : p.schema.IsPath path) :
    Selection.depthOfAll selections + path.length ≤ p.schema.typeNames.card + 1 := by
  have hlength := hpath.length_le
  induction h with
  | nil =>
    simp only [Selection.depthOfAll]
    omega
  | leaf _ _ _ _ ih =>
    have hrest := ih hpath hlength
    simp only [Selection.depthOfAll, Selection.depth]
    omega
  | nested _ _ _ hlonger _ _ ihnested ih =>
    have hrest := ih hpath hlength
    have hbelow := ihnested hlonger hlonger.length_le
    simp only [Selection.depthOfAll, Selection.depth, List.length_cons] at hbelow ⊢
    omega

variable {key : Option PrimaryKey} {path : List String} {owner : NamedType}

-- =========================================================== on the path

/-- A field against which nothing stands before its path is looked at: it passes the gate, and its
type is a composite one that is expanded. -/
structure Admitted (p : Projector) (key : Option PrimaryKey) (owner : NamedType) (field : Field) :
    Prop where
  passes : ∃ passed, p.gate key owner field = .ok (.ok passed)
  composite : field.type.base.kind.isComposite = true
  expanded : p.isExpanded field.type.baseText = true

/-- Into a type that is on its path the walk does not go down. -/
theorem entered?_of_mem {field : Field} (hvisited : field.type.baseText ∈ path) :
    p.entered? key path owner field = none := by
  apply entered?_eq_none
  intro type henters
  have hfresh := henters.fresh
  rw [List.contains_iff_mem.2 hvisited] at hfresh
  cases hfresh

/-- A field whose type is on its path is not selected. -/
theorem selectField_ne_some {field : Field} (hcomposite : field.type.base.kind.isComposite = true)
    (hvisited : field.type.baseText ∈ path) (selection : Selection) :
    (p.selectField key path owner field).result ≠ .ok (some selection) := by
  intro h
  obtain ⟨omissions, hreports⟩ : ∃ omissions,
      (p.selectField key path owner field).Reports omissions (some selection) :=
    ⟨_, Reported.EndsWith.reports h⟩
  cases fate_of_selectField hreports with
  | leaf _ hleaf _ => cases hleaf.symm.trans hcomposite
  | nested hentered _ _ _ => cases (entered?_of_mem hvisited).symm.trans hentered

/-- This is what is reported of it, and nothing else, unless something stood against it before. -/
theorem selectField_recursive {field : Field} (h : p.Admitted key owner field)
    (hvisited : field.type.baseText ∈ path) :
    (p.selectField key path owner field).Reports
      [.recursiveField owner.name field.name field.type.baseText] none := by
  obtain ⟨passed, hgate⟩ := h.passes
  -- Nothing is entered here, so it does not matter what stands below.
  have hstep : p.selectField key path owner field
      = p.stepField (fun _ _ => pure []) key path owner field := by
    apply selectField_eq_stepField
    intro type hentered
    cases (entered?_of_mem hvisited).symm.trans hentered
  rw [hstep]
  unfold stepField
  rw [hgate]
  show (if _ then _ else _ : Reported _).Reports _ _
  rw [if_pos h.composite, h.expanded, if_neg (by simp), if_pos (List.contains_iff_mem.2 hvisited)]
  rfl

-- ============================================================= the whole

/-- The walk over a type ends, whatever the schema and the strategies are. As many levels as there
are names of types are all that it ever needs. What it selects expands no type twice on any path,
and is no deeper than that. Wherever it goes down to, the path has no type twice either; a field of
a type that is on the path is not selected there, and where nothing stood against it before, it is
reported, also in the report on the whole. -/
theorem select_ends (p : Projector) (typeName : String) (key : Option PrimaryKey) :
    (∀ cut levels, p.schema.typeNames.card ≤ levels →
      p.selectWithin cut levels typeName key = p.select typeName key)
      ∧ (∀ selections, (p.select typeName key).result = .ok selections →
          ∃ root, p.schema.type? typeName = some root ∧ p.Laid [root.name] root selections
            ∧ Selection.depthOfAll selections ≤ p.schema.typeNames.card)
      ∧ ∀ root above path owner, p.schema.type? typeName = some root →
          p.Entered key root above path owner →
          p.schema.IsPath path
            ∧ ∀ field ∈ owner.fields, field.type.base.kind.isComposite = true →
              field.type.baseText ∈ path →
              (∀ selection, (p.selectField above path owner field).result ≠ .ok (some selection))
                ∧ (p.Admitted above owner field →
                    (p.selectField above path owner field).Reports
                        [.recursiveField owner.name field.name field.type.baseText] none
                      ∧ ∀ selections, p.Completes typeName key selections →
                          .recursiveField owner.name field.name field.type.baseText
                            ∈ (p.select typeName key).omissions) := by
  refine ⟨fun cut levels h => selectWithin_eq cut h typeName key, fun selections h => ?_, ?_⟩
  · obtain ⟨-, root, found, hchosen⟩ := (p.settles_select typeName key).of_eq_ok h
    have hpath := Schema.isPath_singleton found
    have hlaid := hchosen.laid (fun f hf => hf) hpath
    have hdepth := hlaid.depth_le hpath
    rw [List.length_singleton] at hdepth
    exact ⟨root, found, hlaid, by omega⟩
  · intro root above path owner found hentered
    refine ⟨isPath_of_entered found hentered, fun field hfield hcomposite hvisited => ?_⟩
    refine ⟨selectField_ne_some hcomposite hvisited, fun hadmitted => ?_⟩
    have hrecursive := selectField_recursive hadmitted hvisited
    refine ⟨hrecursive, fun selections hcompletes => ?_⟩
    obtain ⟨root', found', hreports⟩ := hcompletes.reports
    cases found.symm.trans found'
    -- The report on the field is one of its type, and those are among all that there are.
    obtain ⟨below, own, hown, hsub⟩ := reports_of_entered hreports hentered
    obtain ⟨_, inner, hinner, hmem⟩ := reports_of_mem hown hfield
    obtain rfl := hrecursive.omissions_eq.symm.trans hinner.omissions_eq
    exact hsub.subset (hmem.subset List.mem_cons_self)

/-- Of books and authors that are both expanded, two levels are walked through, and the books of the
author of a book are reported. -/
theorem select_ends_library :
    (∀ cut, library.selectWithin cut 2 "Book" (some libraryKey)
        = library.select "Book" (some libraryKey))
      ∧ (∃ selections, (library.select "Book" (some libraryKey)).result = .ok selections
          ∧ Selection.depthOfAll selections ≤ 2)
      ∧ .recursiveField "Author" "books" "Book"
          ∈ (library.select "Book" (some libraryKey)).omissions := by
  obtain ⟨hwithin, hselected, hrecursive⟩ := select_ends library "Book" (some libraryKey)
  have hcard : library.schema.typeNames.card = 2 := by decide
  obtain ⟨selections, h⟩ :
      ∃ selections, (library.select "Book" (some libraryKey)).result = .ok selections := by
    rw [← selectWithin_eq (pure []) hcard.le]
    exact ⟨_, rfl⟩
  let book : NamedType := (library.schema.type? "Book").get (by decide)
  let author : NamedType := (library.schema.type? "Author").get (by decide)
  let booksOfAuthor : Field := ⟨"books", [], .listOf (.named .object "Book")⟩
  have hdown : library.entered? (some libraryKey) [book.name] book
      ⟨"author", [], .named .object "Author"⟩ = some author := by rfl
  have hentered : library.Entered (some libraryKey) book none [author.name, book.name] author :=
    .down .root (by decide) hdown
  have hadmitted : library.Admitted none author booksOfAuthor := ⟨⟨_, rfl⟩, rfl, rfl⟩
  refine ⟨fun cut => hwithin cut 2 hcard.le, ⟨selections, h, ?_⟩, ?_⟩
  · obtain ⟨_, -, -, hdepth⟩ := hselected selections h
    exact hdepth.trans hcard.le
  · obtain ⟨-, hguarded⟩ := hrecursive book none _ author rfl hentered
    obtain ⟨-, hreported⟩ := hguarded booksOfAuthor (by decide) rfl (by decide)
    exact (hreported hadmitted).2 selections (.inl h)

end Projector

end CrudGraph
