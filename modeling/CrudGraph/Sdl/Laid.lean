/-
Values laid out over lines, as defaults are described. Every item of a list and every field of an
object has a line of its own, two blanks further in. A string with line breaks becomes a block
string where that keeps its value.
-/
import CrudGraph.Document.Literal
import CrudGraph.Sdl.Token

namespace CrudGraph.Sdl

/-- The end of a line and the indentation of the next one. -/
def lineBreak (level : Nat) : String :=
  String.ofList ('\n' :: List.replicate (2 * level) ' ')

/-- The lines of a text; only a line feed ends one. -/
def splitLines (line : List Char) : List Char → List (List Char)
  | '\n' :: rest => line.reverse :: splitLines [] rest
  | c :: rest => splitLines (c :: line) rest
  | [] => [line.reverse]

/-- A line that shows nothing. -/
def isBlankLine (line : List Char) : Bool :=
  line.all Token.isBlank

/-- Whether a block string can hold a text exactly: it breaks lines, it has no carriage return, it
neither begins nor ends with a blank line, and some line is not indented. -/
def fitsBlock (cs : List Char) : Bool :=
  let lines := splitLines [] cs
  cs.contains '\n' && !cs.contains '\r'
    && !lines.head?.any isBlankLine && !lines.getLast?.any isBlankLine
    && lines.any fun line => !isBlankLine line && Token.indentation line = 0

/-- A line of a block string, in which three quotes are escaped. -/
def escapeQuotes : List Char → List Char
  | '"' :: '"' :: '"' :: rest => '\\' :: '"' :: '"' :: '"' :: escapeQuotes rest
  | c :: rest => c :: escapeQuotes rest
  | [] => []

/-- A block string whose lines are indented to a level. Empty lines stay empty. -/
def textOfBlock (level : Nat) (cs : List Char) : String :=
  let line (l : List Char) : String :=
    if l.isEmpty then "\n" else lineBreak level ++ String.ofList (escapeQuotes l)
  "\"\"\"" ++ String.join ((splitLines [] cs).map line) ++ lineBreak level ++ "\"\"\""

mutual

/-- A value whose first line is already indented to a level. -/
def laidOut (level : Nat) : Literal → String
  | .string s =>
    if fitsBlock s.toList then textOfBlock level s.toList else Literal.textOfString s
  | .list [] => "[]"
  | .list items => "[" ++ laidOutItems (level + 1) items ++ lineBreak level ++ "]"
  | .object [] => "\x7b\x7d"
  | .object fields =>
    "\x7b" ++ laidOutFields (level + 1) fields ++ lineBreak level ++ "\x7d"
  | value => value.text

/-- Items, each on a line of its own. -/
def laidOutItems (level : Nat) : List Literal → String
  | [] => ""
  | item :: rest =>
    lineBreak level ++ laidOut level item ++ "," ++ laidOutItems level rest

/-- Fields, each on a line of its own. -/
def laidOutFields (level : Nat) : List (Name × Literal) → String
  | [] => ""
  | (name, value) :: rest =>
    lineBreak level ++ name.text ++ ": " ++ laidOut level value ++ ","
      ++ laidOutFields level rest

end

end CrudGraph.Sdl
