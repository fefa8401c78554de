/-
Letter case of characters and texts. A character's image in the other case may be several
characters (`ß` gives `SS`), so the maps on characters give lists. The small form of a capital
sigma depends on where it stands: at the end of a word it is `ς`.
-/
import CrudGraph.Text.CaseTable
import CrudGraph.Text.Class

namespace CrudGraph.Text

-- ============================================================= classes

/-- A small letter. -/
def isLowercase (c : Char) : Bool :=
  inRuns c.toNat CaseTable.lowercase

/-- A capital letter. -/
def isUppercase (c : Char) : Bool :=
  inRuns c.toNat CaseTable.uppercase

/-- A letter of some case. -/
def isCased (c : Char) : Bool :=
  isLowercase c || isUppercase c || inRanges c.toNat CaseTable.titlecase

/-- A character the rule of the final sigma looks through. -/
def isCaseIgnorable (c : Char) : Bool :=
  inRanges c.toNat CaseTable.caseIgnorable

-- ============================================================== images

/-- The image of a code point under a sorted list of runs, itself where no run holds it. -/
def imageInRuns (code : Nat) : List (Nat × Nat × Nat × Nat) → Nat
  | [] => code
  | (first, last, stride, image) :: rest =>
    if code < first then code
    else if code ≤ last && (code - first) % stride == 0 then image + (code - first)
    else imageInRuns code rest

/-- The capital form of a character. -/
def upper (c : Char) : List Char :=
  match CaseTable.toUpperSeveral.lookup c.toNat with
  | some codes => codes.map Char.ofNat
  | none => [Char.ofNat (imageInRuns c.toNat CaseTable.toUpper)]

/-- The small form of a character, taken on its own. -/
def lower (c : Char) : List Char :=
  match CaseTable.toLowerSeveral.lookup c.toNat with
  | some codes => codes.map Char.ofNat
  | none => [Char.ofNat (imageInRuns c.toNat CaseTable.toLower)]

-- =============================================================== texts

/-- The first character that the rule of the final sigma does not look through has a case. -/
def meetsCased (cs : List Char) : Bool :=
  match cs.dropWhile isCaseIgnorable with
  | c :: _ => isCased c
  | [] => false

/-- The small form of a text of which `before` is already passed, nearest character first. -/
def lowerFrom (before : List Char) : List Char → List Char
  | [] => []
  | c :: after =>
    (if c = 'Σ' then
      [if meetsCased before && !meetsCased after then 'ς' else 'σ']
    else lower c) ++ lowerFrom (c :: before) after

/-- The text in capital letters. -/
def toUpper (s : String) : String :=
  String.ofList (s.toList.flatMap upper)

/-- The text in small letters. -/
def toLower (s : String) : String :=
  String.ofList (lowerFrom [] s.toList)

/-- The text with its first character in capital form. -/
def capitalize (s : String) : String :=
  match s.toList with
  | [] => ""
  | c :: rest => String.ofList (upper c ++ rest)

/-- The text with its first character in small form. -/
def uncapitalize (s : String) : String :=
  match s.toList with
  | [] => ""
  | c :: rest => String.ofList (lower c ++ rest)

/-- The text with the capital letters of ASCII in small form, and nothing else changed. -/
def toAsciiLower (s : String) : String :=
  s.map Char.toLower

example : toUpper "straße é" = "STRASSE É" := by decide +kernel
example : toLower "ΑΣ ΣΑ" = "ας σα" := by decide +kernel
example : capitalize "ǆes" = "Ǆes" := by decide +kernel

end CrudGraph.Text
