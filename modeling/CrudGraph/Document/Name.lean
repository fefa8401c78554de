/-
Names in documents: a letter of ASCII or an underscore, then letters, digits and underscores.
Everything that a document calls by name is a `Name`, so a document can never be torn apart by a
text that came from outside.
-/
import CrudGraph.Refusal
import CrudGraph.Text.Class

namespace CrudGraph

/-- A character that a name may begin with. -/
def isNameStart (c : Char) : Bool :=
  c.isAlpha || c = '_'

/-- A character that a name may go on with. -/
def isNamePart (c : Char) : Bool :=
  c.isAlphanum || c = '_'

/-- Whether characters form a name. -/
def isName : List Char → Bool
  | [] => false
  | c :: rest => isNameStart c && rest.all isNamePart

/-- A name in a document. -/
structure Name where
  text : String
  valid : isName text.toList = true
deriving DecidableEq

namespace Name

/-- The name of a text, if it is one. -/
def ofText? (s : String) : Option Name :=
  if h : isName s.toList = true then some ⟨s, h⟩ else none

/-- The name of a text; any other text is refused. -/
def ofText (s : String) : Except Refusal Name :=
  match ofText? s with
  | some name => .ok name
  | none => .error (.invalidName s)

theorem ext {a b : Name} (h : a.text = b.text) : a = b := by
  cases a; cases b; cases h; rfl

/-- A name that is made of a text has that text. -/
theorem text_of_ofText? {s : String} {name : Name} (h : ofText? s = some name) :
    name.text = s := by
  unfold ofText? at h
  split at h
  · cases h; rfl
  · cases h

/-- To be made of a text is to have it. -/
theorem ofText_eq_ok_iff {s : String} {name : Name} : ofText s = .ok name ↔ name.text = s := by
  unfold ofText ofText?
  constructor
  · intro h
    split at h
    · next found =>
      cases h
      exact text_of_ofText? found
    · cases h
  · intro h
    subst h
    simp [name.valid]

/-- A text is refused just where it is no name, and the refusal says which text it was. -/
theorem ofText_eq_error_iff {s : String} {refusal : Refusal} :
    ofText s = .error refusal ↔ isName s.toList = false ∧ refusal = .invalidName s := by
  unfold ofText ofText?
  by_cases h : isName s.toList = true
  · simp [h]
  · simp [h, eq_comm]

end Name

end CrudGraph
