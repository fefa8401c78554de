/-
The scalars of YAML text: in either quotes, or plain. A scalar may go on over several lines. A gap
in it, of blanks and broken lines, is folded: blanks on one line stay, a single broken line becomes
a blank, and each further one a line feed.
-/
import CrudGraph.Text.Digits
import CrudGraph.Yaml.Cursor

namespace CrudGraph.Yaml

-- ================================================================== gaps

/-- What separates the words of a scalar: the blanks in front of the first broken line, last one
first, and how many lines are broken. -/
structure Gap where
  blanks : List Char
  breaks : Nat

namespace Gap

/-- Nothing between two words. -/
def nothing : Gap :=
  ⟨[], 0⟩

/-- What a gap becomes in the value, last character first. -/
def folded (gap : Gap) : List Char :=
  if gap.breaks = 0 then gap.blanks
  else if gap.breaks = 1 then [' ']
  else List.replicate (gap.breaks - 1) '\n'

/-- What a gap behind an escaped break becomes: the first broken line leaves nothing. -/
def foldedEscaped (gap : Gap) : List Char :=
  List.replicate (gap.breaks - 1) '\n'

/-- The gap with one more blank. Blanks at the start of a line say nothing. -/
def blank (gap : Gap) (c : Char) : Gap :=
  if gap.breaks = 0 then ⟨c :: gap.blanks, 0⟩ else gap

/-- The gap with one more broken line. -/
def lineBreak (gap : Gap) : Gap :=
  ⟨[], gap.breaks + 1⟩

/-- A gap to its end, and the place behind it. In front of the column `least` no tab may stand on a
line that a break began. -/
def scan (least : Nat) (gap : Gap) (c : Cursor) : List Char → Option (Gap × Cursor)
  | '\r' :: '\n' :: rest => scan least gap.lineBreak ((c.step '\r' []).step '\n' rest) rest
  | a :: rest =>
    if isBreak a then scan least gap.lineBreak (c.step a rest) rest
    else if isBlank a then
      if 0 < gap.breaks && c.column < least && a = '\t' then none
      else scan least (gap.blank a) (c.step a rest) rest
    else some (gap, { c with rest := a :: rest })
  | [] => some (gap, { c with rest := [] })

end Gap

-- ================================================================= quotes

/-- A number of digits in base sixteen as a character. -/
def codePoint? (count : Nat) (cs : List Char) : Option (Char × List Char) := do
  let digits := cs.take count
  if digits.length = count then
    let code ← Text.natOfDigits? 16 digits
    if code < 0xD800 || (0xDFFF < code && code < 0x110000) then
      return (Char.ofNat code, cs.drop count)
    else none
  else none

/-- What a letter behind a backslash stands for. -/
def shortEscape? : Char → Option Char
  | '0' => some '\x00'
  | 'a' => some '\x07'
  | 'b' => some '\x08'
  | 't' | '\t' => some '\t'
  | 'n' => some '\n'
  | 'v' => some '\x0b'
  | 'f' => some '\x0c'
  | 'r' => some '\r'
  | 'e' => some '\x1b'
  | ' ' => some ' '
  | '"' => some '"'
  | '\'' => some '\''
  | '\\' => some '\\'
  | 'N' => some (Char.ofNat 0x85)
  | '_' => some (Char.ofNat 0xA0)
  | 'L' => some (Char.ofNat 0x2028)
  | 'P' => some (Char.ofNat 0x2029)
  | _ => none

/-- An escape in double quotes, behind its backslash. -/
def escape? : List Char → Option (Char × List Char)
  | 'x' :: rest => codePoint? 2 rest
  | 'u' :: rest => codePoint? 4 rest
  | 'U' :: rest => codePoint? 8 rest
  | c :: rest => (shortEscape? c).map fun c => (c, rest)
  | [] => none

/-- The rest of a scalar in quotes. No mark of a document may stand in it. `read` holds the
characters so far, last one first. The length of the text bounds the scalar and is the fuel. -/
def quotedBody (fuel : Nat) (quote : Char) (read : List Char) (c : Cursor) :
    Option (List Char × Cursor) :=
  match fuel with
  | 0 => none
  | fuel + 1 =>
    match c.rest with
    | [] => none
    | a :: rest =>
      if a = quote then
        match quote, rest with
        | '\'', '\'' :: _ => quotedBody fuel quote ('\'' :: read) (c.past 2)
        | _, _ => some (read, c.past 1)
      else if isGap c.rest then do
        let (gap, next) ← Gap.scan 0 .nothing c c.rest
        if next.isMark then none else quotedBody fuel quote (gap.folded ++ read) next
      else if a = '\\' && quote = '"' then
        if rest.head?.any isBreak then do
          let (gap, next) ← Gap.scan 0 .nothing (c.past 1) rest
          if next.isMark then none else quotedBody fuel quote (gap.foldedEscaped ++ read) next
        else do
          let (e, behind) ← escape? rest
          quotedBody fuel quote (e :: read) (c.past (c.rest.length - behind.length))
      else quotedBody fuel quote (a :: read) (c.past 1)

/-- A scalar in quotes, and the place behind it. -/
def quoted? (c : Cursor) : Option (String × Cursor) :=
  match c.rest with
  | [] => none
  | quote :: _ => do
    let (read, c) ← quotedBody c.rest.length quote [] (c.past 1)
    return (String.ofList read.reverse, c)

-- ========================================================== plain scalars

/-- Whether a plain scalar ends here, at the end of a word or in front of a mark. -/
def endsWord (inFlow : Bool) : List Char → Bool
  | [] => true
  | c :: rest =>
    isGap (c :: rest)
      || (c = ':' && (isGap rest || (inFlow && rest.head?.any isFlowMark)))
      || (inFlow && isFlowMark c)

/-- The characters of a word, last one first in front of `word`, and what lies behind it. -/
def wordOf (inFlow : Bool) (word : List Char) : List Char → List Char × List Char
  | [] => (word, [])
  | c :: rest =>
    if endsWord inFlow (c :: rest) then (word, c :: rest) else wordOf inFlow (c :: word) rest

/-- A plain scalar as it is found. -/
structure Plain where
  /-- The value. -/
  text : String
  /-- Whether a line is broken between the value and the place behind it. -/
  endsLine : Bool
  /-- The place behind the scalar and the gap that follows it. -/
  behind : Cursor

/-- The words of a plain scalar from a place on, behind a gap. Outside flow collections a line
belongs to it only from the column `least` on. `read` holds the characters so far, last one
first. The length of the text bounds the scalar and is the fuel. -/
def plainFrom (fuel : Nat) (inFlow : Bool) (least : Nat) (read : List Char) (gap : Gap)
    (c : Cursor) : Option Plain :=
  match fuel with
  | 0 => none
  | fuel + 1 =>
    if c.isMark || c.rest.head? = some '#' then
      some ⟨String.ofList read.reverse, 0 < gap.breaks, c⟩
    else do
      let (word, rest) := wordOf inFlow [] c.rest
      let behind := c.past word.length
      let (read, gap) :=
        if word.isEmpty then (read, gap) else (word ++ gap.folded ++ read, .nothing)
      if rest.isEmpty || !isGap rest then
        some ⟨String.ofList read.reverse, 0 < gap.breaks, behind⟩
      else
        let (gap, next) ← gap.scan least behind rest
        if !inFlow && next.column < least then
          some ⟨String.ofList read.reverse, 0 < gap.breaks, next⟩
        else plainFrom fuel inFlow least read gap next

/-- A plain scalar. -/
def plain? (inFlow : Bool) (least : Nat) (c : Cursor) : Option Plain :=
  plainFrom (c.rest.length + 1) inFlow least [] .nothing c

end CrudGraph.Yaml
