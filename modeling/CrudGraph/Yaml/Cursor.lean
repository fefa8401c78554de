/-
Places in YAML text. Structure follows from lines and columns, so a place is what lies behind it
together with the index, line and column of its first character. Either of a line feed and a
carriage return breaks a line, but only a line feed begins a new one for the count of lines and
columns.
-/
namespace CrudGraph.Yaml

-- ============================================================ characters

/-- A blank or a tab. -/
def isBlank (c : Char) : Bool :=
  c = ' ' || c = '\t'

/-- A character that breaks a line. -/
def isBreak (c : Char) : Bool :=
  c = '\n' || c = '\r'

/-- Whether a blank, a break or the end stands first. -/
def isGap : List Char → Bool
  | [] => true
  | c :: _ => isBlank c || isBreak c

/-- A character that structures flow collections. -/
def isFlowMark (c : Char) : Bool :=
  c = ',' || c = '[' || c = ']' || c = '\x7b' || c = '\x7d'

-- ================================================================ places

/-- A place in a text: what lies behind it, and where it is. -/
structure Cursor where
  rest : List Char
  index : Nat
  line : Nat
  column : Nat

namespace Cursor

/-- The place in front of a text. -/
def ofText (cs : List Char) : Cursor :=
  ⟨cs, 0, 0, 0⟩

/-- The place behind the next character, with what lies behind it. -/
def step (c : Cursor) (passed : Char) (rest : List Char) : Cursor :=
  if passed = '\n' then ⟨rest, c.index + 1, c.line + 1, 0⟩
  else ⟨rest, c.index + 1, c.line, c.column + 1⟩

/-- The place behind some of the next characters, none of which breaks the line. -/
def past (c : Cursor) (count : Nat) : Cursor :=
  ⟨c.rest.drop count, c.index + count, c.line, c.column + count⟩

/-- The mark of the start or the end of a document, at the start of a line. -/
def isMark (c : Cursor) : Bool :=
  c.column = 0 &&
    match c.rest with
    | '-' :: '-' :: '-' :: rest => isGap rest
    | '.' :: '.' :: '.' :: rest => isGap rest
    | _ => false

end Cursor

end CrudGraph.Yaml
