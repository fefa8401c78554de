/-
Character classes: membership in the tables of `ClassTable`, and the two classes the rules of this
library are written with. A word character is what a resource name is made of; an alphanumeric
character is what a sort key keeps.
-/
import CrudGraph.Text.ClassTable

namespace CrudGraph.Text

-- ================================================= reading the tables

/-- Membership of a code point in a sorted list of ranges. -/
def inRanges (code : Nat) : List (Nat × Nat) → Bool
  | [] => false
  | (first, last) :: rest =>
    if code < first then false
    else if code ≤ last then true
    else inRanges code rest

/-- Membership of a code point in a sorted list of runs, each a first and a last code point with
the stride between its members. Runs do not overlap, but a run of stride two leaves gaps that the
next one may begin in. -/
def inRuns (code : Nat) : List (Nat × Nat × Nat) → Bool
  | [] => false
  | (first, last, stride) :: rest =>
    if code < first then false
    else if code ≤ last && (code - first) % stride == 0 then true
    else inRuns code rest

-- ========================================================== classes

/-- A letter, or a sign that counts as one. -/
def isAlphabetic (c : Char) : Bool :=
  inRanges c.toNat ClassTable.alphabetic

/-- A decimal digit of any script. -/
def isDecimalDigit (c : Char) : Bool :=
  inRanges c.toNat ClassTable.decimalDigit

/-- A letter or a number of any script. -/
def isAlphanumeric (c : Char) : Bool :=
  isAlphabetic c || isDecimalDigit c || inRanges c.toNat ClassTable.otherNumber

/-- A character a word is made of: letters, marks, decimal digits, connectors and joiners, without
the latest additions to them. -/
def isWordChar (c : Char) : Bool :=
  (isAlphabetic c || isDecimalDigit c || inRanges c.toNat ClassTable.connector
    || inRanges c.toNat ClassTable.otherMark) && !inRanges c.toNat ClassTable.unworded

-- ===================================================== order of the tables

example : ClassTable.alphabetic.head? = some (0x41, 0x5A) := rfl
example : isWordChar '_' = true ∧ isAlphanumeric '_' = false := by decide +kernel
example : isWordChar '-' = false ∧ isAlphanumeric 'é' = true := by decide +kernel

end CrudGraph.Text
