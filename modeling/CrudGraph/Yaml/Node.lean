/-
YAML data as a configuration uses it: scalars, sequences and maps. A plain scalar is kept as it is
written; where a text is wanted it is that text, and only where it is not does it count what it
would denote.
-/
import CrudGraph.Reading.Node
import CrudGraph.Text.Digits

namespace CrudGraph

/-- A node of YAML data. The keys of a map may be any nodes. -/
inductive Yaml where
  | scalar (text : String) (isPlain : Bool)
  | sequence (items : List Yaml)
  | map (entries : List (Yaml × Yaml))

namespace Yaml

/-- What stands where nothing is written. -/
def empty : Yaml :=
  .scalar "~" true

open Reading

-- ========================================================= plain scalars

/-- A plus sign at the start of a text is left out. -/
def withoutPlus : List Char → List Char
  | '+' :: rest => rest
  | cs => cs

/-- The digits behind the mark of a base, with the base. -/
def basedDigits? : List Char → Option (Nat × List Char)
  | '0' :: 'x' :: digits => some (16, digits)
  | '0' :: 'o' :: digits => some (8, digits)
  | '0' :: 'b' :: digits => some (2, digits)
  | _ => none

/-- A whole number in base sixteen, eight or two, which fits in 64 bits. The sign stands before the
mark of the base; without a minus there, digits may have a plus of their own. -/
def basedWhole? : List Char → Option Int
  | '-' :: cs => do
    let (base, digits) ← basedDigits? cs
    let n ← Text.natOfDigits? base digits
    if Width.fitsSigned 64 (-(n : Int)) then some (-(n : Int)) else none
  | cs => do
    let (base, digits) ← basedDigits? (withoutPlus cs)
    let n ← Text.natOfDigits? base (withoutPlus digits)
    if Width.fitsUnsigned 64 n then some n else none

/-- Decimal digits behind a leading zero, perhaps behind signs, which are no number. -/
def isPadded (cs : List Char) : Bool :=
  let digits := cs.dropWhile fun c => c = '-' || c = '+'
  digits.head? = some '0' && 1 < digits.length && digits.all Char.isDigit

/-- A decimal number: an optional sign, digits with a point among them or around them, and perhaps
an exponent. -/
def decimal? (cs : List Char) : Option Double :=
  let (negative, cs) :=
    match cs with
    | '-' :: rest => (true, rest)
    | cs => (false, withoutPlus cs)
  let whole := cs.takeWhile Char.isDigit
  let cs := cs.dropWhile Char.isDigit
  let (fraction, cs) :=
    match cs with
    | '.' :: rest => (rest.takeWhile Char.isDigit, rest.dropWhile Char.isDigit)
    | cs => ([], cs)
  if whole.isEmpty && fraction.isEmpty then none
  else
    let exponent : Option Int :=
      match cs with
      | [] => some 0
      | e :: rest => if e = 'e' || e = 'E' then Text.intOfDigits? rest else none
    match exponent, Text.natOfDigits? 10 (whole ++ fraction) with
    | some exponent, some digits =>
      some (Double.ofDecimal negative digits (exponent - fraction.length))
    | _, _ => none

/-- A whole number in decimal digits, which fits in 128 bits. -/
def whole? (cs : List Char) : Option Found := do
  let n ← Text.intOfDigits? cs
  if Width.fitsSigned 64 n || Width.fitsUnsigned 64 n then some (.integer n)
  else if Width.fitsSigned 128 n || Width.fitsUnsigned 128 n then some (.wideInteger n)
  else none

/-- An infinity, or the number that is none, behind a point. Any number of plus signs may stand
before the positive infinity. -/
def special? (cs : List Char) : Option String :=
  let infinities := [".inf", ".Inf", ".INF"].map String.toList
  if infinities.contains (cs.dropWhile (· = '+')) then some "inf"
  else if (infinities.map ('-' :: ·)).contains cs then some "-inf"
  else if ([".nan", ".NaN", ".NAN"].map String.toList).contains cs then some "NaN"
  else none

/-- The number that a plain scalar denotes, if it denotes one. -/
def number? (cs : List Char) : Option Found :=
  match basedWhole? cs with
  | some n => some (.integer n)
  | none =>
    if isPadded cs then none
    else
      match whole? cs, special? cs, decimal? cs with
      | some found, _, _ => some found
      | none, some text, _ => some (.floating text)
      | none, none, some d => if d.isFinite then some (.floating (d.text .unscaled)) else none
      | none, none, none => none

/-- What a plain scalar denotes. -/
def foundOfPlain (s : String) : Found :=
  if s = "" || s = "~" || s = "null" then .unit
  else if s = "true" then .boolean true
  else if s = "false" then .boolean false
  else (number? s.toList).getD (.string s)

-- ================================================================== views

/-- What a node is. -/
def found : Yaml → Found
  | .scalar text isPlain => if isPlain then foundOfPlain text else .string text
  | .sequence _ => .sequence
  | .map _ => .map

/-- What a node names as the key of a map. Every scalar is a name. -/
def memberName : Yaml → MemberName
  | .scalar text _ => .text text
  | key => .other key.found

/-- A node of YAML data is a node for readers. Every scalar is a text; one that is plain and says
so stands for an absent value. -/
instance : Node Yaml where
  found := found
  members?
    | .map entries => some (entries.map fun (key, value) => (key.memberName, value))
    | _ => none
  elements?
    | .sequence items => some items
    | _ => none
  text?
    | .scalar text _ => some text
    | _ => none
  boolean?
    | .scalar text isPlain =>
      match isPlain, text with
      | true, "true" => some true
      | true, "false" => some false
      | _, _ => none
    | _ => none
  isAbsent
    | .scalar text isPlain => isPlain && (text = "~" || text = "null" || text.isEmpty)
    | _ => false
  noLonger count := if count = 1 then "sequence of 1 element" else s!"sequence of {count} elements"

example : foundOfPlain "0x1F" = .integer 31 ∧ foundOfPlain "007" = .string "007" := by
  decide +kernel
example : foundOfPlain "18446744073709551616" = .wideInteger 18446744073709551616 := by
  decide +kernel
example : foundOfPlain "-.inf" = .floating "-inf" ∧ foundOfPlain "1e3" = .floating "1000.0" := by
  decide +kernel

end Yaml

end CrudGraph
