/-
Numbers and their digits. Digits are read in any base up to thirty-six, in which letters of either
case follow the decimal digits; a number is written in base sixteen with small letters.
-/
namespace CrudGraph.Text

-- =============================================================== reading

/-- The value of a digit in some base. -/
def digit? (base : Nat) (c : Char) : Option Nat :=
  let value :=
    if c.isDigit then c.toNat - '0'.toNat
    else if 'a' ≤ c && c ≤ 'z' then c.toNat - 'a'.toNat + 10
    else if 'A' ≤ c && c ≤ 'Z' then c.toNat - 'A'.toNat + 10
    else base
  if value < base then some value else none

/-- The number that digits denote behind others that denote `high`. -/
def natBehind? (base high : Nat) : List Char → Option Nat
  | [] => some high
  | c :: rest =>
    match digit? base c with
    | some value => natBehind? base (high * base + value) rest
    | none => none

/-- The number that digits in some base denote; no digits denote none. -/
def natOfDigits? (base : Nat) : List Char → Option Nat
  | [] => none
  | cs => natBehind? base 0 cs

/-- The number that decimal digits denote behind an optional sign. -/
def intOfDigits? : List Char → Option Int
  | '-' :: digits => (natOfDigits? 10 digits).map fun n => -(n : Int)
  | '+' :: digits => (natOfDigits? 10 digits).map Int.ofNat
  | digits => (natOfDigits? 10 digits).map Int.ofNat

-- =============================================================== writing

/-- The digits of a number in base sixteen, without leading zeros. -/
def hexDigits (n : Nat) : List Char :=
  Nat.toDigits 16 n

/-- The digits of a number in base sixteen, filled with zeros on the left to `width`. -/
def paddedHex (width n : Nat) : List Char :=
  let digits := hexDigits n
  List.replicate (width - digits.length) '0' ++ digits

example : natOfDigits? 16 (paddedHex 4 0xE9) = some 0xE9 := by decide +kernel
example : intOfDigits? ['-', '0', '7'] = some (-7) := by decide +kernel
example : intOfDigits? ['-'] = none ∧ intOfDigits? ['1', '_', '0'] = none := by decide +kernel

end CrudGraph.Text
