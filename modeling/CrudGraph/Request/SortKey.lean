/-
The values of an ordering. Orderings name their values by the words of a field in capital letters,
with underscores between them, and the direction: `publishedAt` in order `asc` is
`PUBLISHED_AT_ASC`. A field falls into words at every character that is neither letter nor number,
between a small letter and a capital one, and before the last of several capitals that a small
letter follows.
-/
import CrudGraph.Text.Case

namespace CrudGraph.SortKey

/-- The case of the last letter of a word, none before its first. -/
inductive Mode where
  | none
  | small
  | capital
deriving DecidableEq, Repr

/-- The case that a word has after a character. Characters without case do not change it. -/
def Mode.after (mode : Mode) (c : Char) : Mode :=
  if Text.isLowercase c then small
  else if Text.isUppercase c then capital
  else mode

/-- The words of a run of letters and numbers. `word` holds the characters of the current word,
last one first. -/
def wordsFrom (word : List Char) (mode : Mode) : List Char → List (List Char)
  | [] => []
  | [c] => [(c :: word).reverse]
  | c :: next :: rest =>
    if mode.after c = .small && Text.isUppercase next then
      (c :: word).reverse :: wordsFrom [] .none (next :: rest)
    else if mode = .capital && Text.isUppercase c && Text.isLowercase next then
      word.reverse :: wordsFrom [c] .none (next :: rest)
    else wordsFrom (c :: word) (mode.after c) (next :: rest)

/-- The runs of letters and numbers in a text, of which `run` holds the current one, last character
first. -/
def runsFrom (run : List Char) : List Char → List (List Char)
  | [] => [run.reverse]
  | c :: rest =>
    if Text.isAlphanumeric c then runsFrom (c :: run) rest
    else run.reverse :: runsFrom [] rest

/-- The words of a field name. -/
def words (s : String) : List (List Char) :=
  (runsFrom [] s.toList).flatMap (wordsFrom [] .none)

/-- The words of a field name in capital letters, with underscores between them. -/
def capitalized (s : String) : String :=
  "_".intercalate ((words s).map fun word => String.ofList (word.flatMap Text.upper))

/-- The value of an ordering for a field and a direction. -/
def ofField (field order : String) : String :=
  capitalized field ++ "_" ++ Text.toUpper order

example : ofField "publishedAt" "asc" = "PUBLISHED_AT_ASC" := by decide +kernel
example : capitalized "HTMLBody" = "HTML_BODY" := by decide +kernel
example : capitalized "x2Y" = "X2_Y" := by decide +kernel
example : capitalized "__a--b c" = "A_B_C" := by decide +kernel

end CrudGraph.SortKey
