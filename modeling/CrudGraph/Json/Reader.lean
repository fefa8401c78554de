/-
Reading JSON text. An integer that fits in 64 bits, signed or unsigned, stays an integer; every
other number is a double. Nesting is bounded by the length of the text, which the reader takes as
its fuel.
-/
import CrudGraph.Json.Basic
import CrudGraph.Text.Digits

namespace CrudGraph.Json.Reader

-- ============================================================ characters

/-- The text behind leading blanks. -/
def skipBlanks (cs : List Char) : List Char :=
  cs.dropWhile fun c => c = ' ' || c = '\n' || c = '\r' || c = '\t'

/-- Four digits in base sixteen, and the text behind them. -/
def unit? : List Char → Option (Nat × List Char)
  | a :: b :: c :: d :: rest => (Text.natOfDigits? 16 [a, b, c, d]).map fun unit => (unit, rest)
  | _ => none

/-- The character that an escape of UTF-16 units names: one unit, or a high and a low surrogate. -/
def unicode? (cs : List Char) : Option (Char × List Char) := do
  let (first, rest) ← unit? cs
  if 0xD800 ≤ first && first ≤ 0xDBFF then
    match rest with
    | '\\' :: 'u' :: rest =>
      let (second, rest) ← unit? rest
      if 0xDC00 ≤ second && second ≤ 0xDFFF then
        return (Char.ofNat (0x10000 + (first - 0xD800) * 0x400 + (second - 0xDC00)), rest)
      else none
    | _ => none
  else if 0xDC00 ≤ first && first ≤ 0xDFFF then none
  else return (Char.ofNat first, rest)

/-- What a letter behind a backslash stands for. -/
def shortEscape? : Char → Option Char
  | '"' => some '"'
  | '\\' => some '\\'
  | '/' => some '/'
  | 'b' => some '\x08'
  | 'f' => some '\x0c'
  | 'n' => some '\n'
  | 'r' => some '\r'
  | 't' => some '\t'
  | _ => none

/-- The characters up to the closing quote, last one first, and the text behind it. -/
def stringBody (fuel : Nat) (cs : List Char) (read : List Char) :
    Option (List Char × List Char) :=
  match fuel with
  | 0 => none
  | fuel + 1 =>
    match cs with
    | [] => none
    | '"' :: rest => some (read, rest)
    | '\\' :: 'u' :: rest => do
      let (c, rest) ← unicode? rest
      stringBody fuel rest (c :: read)
    | '\\' :: c :: rest => do
      let c ← shortEscape? c
      stringBody fuel rest (c :: read)
    | c :: rest => if c.toNat < 32 then none else stringBody fuel rest (c :: read)

/-- A string whose opening quote is already passed. -/
def string? (cs : List Char) : Option (String × List Char) := do
  let (read, rest) ← stringBody (cs.length + 1) cs []
  return (String.ofList read.reverse, rest)

-- =============================================================== numbers

/-- A sign and a run of digits behind the mark of an exponent. -/
def exponent? (cs : List Char) : Option (Int × List Char) := do
  let (sign, cs) :=
    match cs with
    | '-' :: rest => (['-'], rest)
    | '+' :: rest => ([], rest)
    | cs => ([], cs)
  let value ← Text.intOfDigits? (sign ++ cs.takeWhile Char.isDigit)
  return (value, cs.dropWhile Char.isDigit)

/-- The number at the start of a text. Zero with a minus sign is a double, as no integer is. -/
def number? (cs : List Char) : Option (Json × List Char) := do
  let (negative, cs) := match cs with | '-' :: rest => (true, rest) | cs => (false, cs)
  let whole := cs.takeWhile Char.isDigit
  let cs := cs.dropWhile Char.isDigit
  if whole.head? = some '0' && 1 < whole.length then none
  let (fraction, cs, exact) ←
    match cs with
    | '.' :: rest =>
      let digits := rest.takeWhile Char.isDigit
      if digits.isEmpty then none else some (digits, rest.dropWhile Char.isDigit, false)
    | cs => some ([], cs, true)
  let (exponent, cs, exact) ←
    match cs with
    | 'e' :: rest | 'E' :: rest => do
      let (exponent, rest) ← exponent? rest
      some (exponent, rest, false)
    | cs => some (0, cs, exact)
  let magnitude ← Text.natOfDigits? 10 whole
  let value : Int := if negative then -(magnitude : Int) else magnitude
  if exact && (Width.fitsSigned 64 value || Width.fitsUnsigned 64 value)
      && !(negative && magnitude = 0) then
    return (.integer value, cs)
  else
    let digits ← Text.natOfDigits? 10 (whole ++ fraction)
    return (.double (Double.ofDecimal negative digits (exponent - fraction.length)), cs)

-- ================================================================ values

mutual

/-- The value at the start of a text, and the text behind it. -/
def value? (fuel : Nat) (cs : List Char) : Option (Json × List Char) :=
  match fuel with
  | 0 => none
  | fuel + 1 =>
    match skipBlanks cs with
    | 'n' :: 'u' :: 'l' :: 'l' :: rest => some (.null, rest)
    | 't' :: 'r' :: 'u' :: 'e' :: rest => some (.bool true, rest)
    | 'f' :: 'a' :: 'l' :: 's' :: 'e' :: rest => some (.bool false, rest)
    | '"' :: rest => do
      let (s, rest) ← string? rest
      return (.string s, rest)
    | '[' :: rest =>
      match skipBlanks rest with
      | ']' :: rest => some (.array [], rest)
      | rest => do
        let (items, rest) ← items? fuel rest
        return (.array items, rest)
    | '\x7b' :: rest =>
      match skipBlanks rest with
      | '\x7d' :: rest => some (.object [], rest)
      | rest => do
        let (members, rest) ← members? fuel rest
        return (.object (Table.ofList members), rest)
    | cs => number? cs

/-- Items up to the closing bracket. -/
def items? (fuel : Nat) (cs : List Char) : Option (List Json × List Char) :=
  match fuel with
  | 0 => none
  | fuel + 1 => do
    let (item, rest) ← value? fuel cs
    match skipBlanks rest with
    | ',' :: rest => do
      let (items, rest) ← items? fuel rest
      return (item :: items, rest)
    | ']' :: rest => return ([item], rest)
    | _ => none

/-- Members up to the closing brace. -/
def members? (fuel : Nat) (cs : List Char) : Option (List (String × Json) × List Char) :=
  match fuel with
  | 0 => none
  | fuel + 1 =>
    match skipBlanks cs with
    | '"' :: rest => do
      let (key, rest) ← string? rest
      match skipBlanks rest with
      | ':' :: rest => do
        let (value, rest) ← value? fuel rest
        match skipBlanks rest with
        | ',' :: rest => do
          let (members, rest) ← members? fuel rest
          return ((key, value) :: members, rest)
        | '\x7d' :: rest => return ([(key, value)], rest)
        | _ => none
      | _ => none
    | _ => none

end

end Reader

/-- The value that a text holds, when it holds one value and nothing else. -/
def ofText? (s : String) : Option Json :=
  let cs := s.toList
  match Reader.value? (2 * cs.length + 2) cs with
  | some (j, rest) => if (Reader.skipBlanks rest).isEmpty then some j else none
  | none => none

end CrudGraph.Json
