/-
The tokens of a schema text: punctuation, names, numbers and strings. Blanks, ends of lines and
comments stand between tokens and mean nothing; commas mean nothing either, but there are places
where none may stand. A number keeps the text it is written with; of a string only its value is
kept, in whichever quotes it is written.
-/
import CrudGraph.Document.Name
import CrudGraph.Json.Reader

namespace CrudGraph.Sdl

/-- A token of a schema text. -/
inductive Token where
  | comma
  | mark (c : Char)
  | spread
  | name (name : Name)
  | int (text : String)
  | float (text : String)
  | string (value : String)
deriving DecidableEq

namespace Token

-- =============================================================== numbers

/-- A fraction at the start of a text, with its point; a point without digits behind it is
malformed. -/
def fraction? : List Char → Option (List Char × List Char)
  | '.' :: rest =>
    let digits := rest.takeWhile Char.isDigit
    if digits.isEmpty then none else some ('.' :: digits, rest.dropWhile Char.isDigit)
  | cs => some ([], cs)

/-- An exponent at the start of a text, with its mark and sign. -/
def exponent? : List Char → Option (List Char × List Char)
  | [] => some ([], [])
  | e :: rest =>
    if e = 'e' || e = 'E' then
      let (sign, rest) :=
        match rest with
        | '+' :: rest => (['+'], rest)
        | '-' :: rest => (['-'], rest)
        | rest => ([], rest)
      let digits := rest.takeWhile Char.isDigit
      if digits.isEmpty then none else some (e :: sign ++ digits, rest.dropWhile Char.isDigit)
    else some ([], e :: rest)

/-- The number at the start of a text. No name, point or further digit may follow at once. -/
def number? (cs : List Char) : Option (Token × List Char) := do
  let (sign, cs) := match cs with | '-' :: rest => (['-'], rest) | cs => ([], cs)
  let whole := cs.takeWhile Char.isDigit
  if whole.isEmpty || (whole.head? = some '0' && 1 < whole.length) then none
  let (fraction, cs) ← fraction? (cs.dropWhile Char.isDigit)
  let (exponent, cs) ← exponent? cs
  if cs.head?.any fun c => isNamePart c || c = '.' then none
  let text := String.ofList (sign ++ whole ++ fraction ++ exponent)
  return (if fraction.isEmpty && exponent.isEmpty then .int text else .float text, cs)

-- =============================================================== strings

/-- The character that an escape names behind its backslash and letter: UTF-16 units as in JSON, or
any number of digits in braces. -/
def unicode? : List Char → Option (Char × List Char)
  | '\x7b' :: rest => do
    let code ← Text.natOfDigits? 16 (rest.takeWhile (· != '\x7d'))
    match rest.dropWhile (· != '\x7d') with
    | _ :: rest => if code.isValidChar then return (Char.ofNat code, rest) else none
    | [] => none
  | cs => Json.Reader.unicode? cs

/-- The rest of a string in single quotes, which stands on one line. The escapes are those of JSON,
and code points in braces. `read` holds the characters so far, last one first. -/
def stringBody (fuel : Nat) (read : List Char) (cs : List Char) :
    Option (List Char × List Char) :=
  match fuel with
  | 0 => none
  | fuel + 1 =>
    match cs with
    | [] => none
    | '"' :: rest => some (read, rest)
    | '\\' :: 'u' :: rest => do
      let (c, rest) ← unicode? rest
      stringBody fuel (c :: read) rest
    | '\\' :: c :: rest => do
      let c ← Json.Reader.shortEscape? c
      stringBody fuel (c :: read) rest
    | c :: rest => if c = '\n' || c = '\r' then none else stringBody fuel (c :: read) rest

/-- The rest of a block string, up to three quotes. `read` holds the characters so far, last one
first. -/
def blockBody (read : List Char) : List Char → Option (List Char × List Char)
  | '\\' :: '"' :: '"' :: '"' :: rest => blockBody ('"' :: '"' :: '"' :: read) rest
  | '"' :: '"' :: '"' :: rest => some (read, rest)
  | c :: rest => blockBody (c :: read) rest
  | [] => none

/-- The lines of a text. `line` holds the current one, last character first. -/
def lines (line : List Char) : List Char → List (List Char)
  | '\r' :: '\n' :: rest => line.reverse :: lines [] rest
  | '\r' :: rest => line.reverse :: lines [] rest
  | '\n' :: rest => line.reverse :: lines [] rest
  | c :: rest => lines (c :: line) rest
  | [] => [line.reverse]

/-- A blank or a tab. -/
def isBlank (c : Char) : Bool :=
  c = ' ' || c = '\t'

/-- How far a line is indented. -/
def indentation (line : List Char) : Nat :=
  (line.takeWhile isBlank).length

/-- The value of a block string: without the indentation that its lines share, the first one apart,
and without blank lines at either end. -/
def blockValue (cs : List Char) : String :=
  let all := lines [] cs
  let shared := (all.drop 1).filterMap fun line =>
    if line.all isBlank then none else some (indentation line)
  let common := shared.min?.getD 0
  let kept :=
    match all with
    | [] => []
    | first :: rest => first :: rest.map fun (line : List Char) => line.drop common
  let isEmpty (line : List Char) : Bool := line.all isBlank
  let kept := ((kept.dropWhile isEmpty).reverse.dropWhile isEmpty).reverse
  String.ofList (List.intercalate ['\n'] kept)

/-- A string, behind its first quote. Only right behind that quote a string in single quotes may
break the line. -/
def string? : List Char → Option (Token × List Char)
  | '"' :: '"' :: rest => do
    let (read, rest) ← blockBody [] rest
    return (.string (blockValue read.reverse), rest)
  | cs => do
    let (start, cs) :=
      match cs with
      | '\n' :: rest => (['\n'], rest)
      | '\r' :: rest => (['\r'], rest)
      | cs => ([], cs)
    let (read, rest) ← stringBody (cs.length + 1) start cs
    return (.string (String.ofList read.reverse), rest)

-- ================================================================ tokens

/-- The characters that are tokens by themselves. -/
def isMark (c : Char) : Bool :=
  "!$&()=:@[]|\x7b\x7d".toList.contains c

/-- A character between tokens. -/
def isIgnored (c : Char) : Bool :=
  c = ' ' || c = '\t' || c = '\n' || c = '\r' || c = '\ufeff'

/-- A name at the start of a text. -/
def name? (cs : List Char) : Option (Token × List Char) := do
  let name ← Name.ofText? (String.ofList (cs.takeWhile isNamePart))
  return (.name name, cs.dropWhile isNamePart)

/-- The tokens of a text. -/
def tokensOf (fuel : Nat) (cs : List Char) : Option (List Token) :=
  match fuel with
  | 0 => none
  | fuel + 1 =>
    match cs with
    | [] => some []
    | '#' :: rest => tokensOf fuel (rest.dropWhile fun c => c != '\n' && c != '\r')
    | '.' :: '.' :: '.' :: rest => do return .spread :: (← tokensOf fuel rest)
    | c :: rest =>
      if isIgnored c then tokensOf fuel rest
      else if c = ',' then do return .comma :: (← tokensOf fuel rest)
      else if isMark c then do return .mark c :: (← tokensOf fuel rest)
      else do
        let (token, rest) ←
          if c = '"' then string? rest
          else if isNameStart c then name? (c :: rest)
          else number? (c :: rest)
        return token :: (← tokensOf fuel rest)

/-- The tokens of a text, if it falls into tokens. -/
def ofText? (s : String) : Option (List Token) :=
  let cs := s.toList
  tokensOf (cs.length + 1) cs

end Token

end CrudGraph.Sdl
