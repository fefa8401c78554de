/-
The tokens of YAML text. Block collections have no marks of their own: one begins where something
stands further in than the collection around it, and ends where something stands further out. That
a scalar or a flow collection is the key of a map shows only at the colon behind it, so each one
that could be a key is remembered until then; the tokens in front of a key are put in afterwards.

Anchors, aliases, tags, directives and block scalars are not read.
-/
import CrudGraph.Yaml.Scalar

namespace CrudGraph.Yaml

/-- A token of YAML text. The end of a block collection is a token without a text. -/
inductive Token where
  | documentStart
  | documentEnd
  | blockSequence
  | blockMap
  | blockEnd
  | openBracket
  | closeBracket
  | openBrace
  | closeBrace
  | comma
  | item
  | key
  | value
  | scalar (text : String) (isPlain : Bool)
deriving DecidableEq, Repr

namespace Token

-- ================================================================= state

/-- Something that may turn out to be the key of a map. -/
structure Candidate where
  /-- Its first character. -/
  start : Cursor
  /-- How many tokens stand before it. -/
  before : Nat
  /-- Whether nothing but a key may stand there. -/
  isNeeded : Bool

/-- What is known of a text up to a place in it. -/
structure State where
  /-- The place. -/
  place : Cursor
  /-- The tokens before it, last one first. -/
  read : List Token := []
  /-- The columns of the block collections around it, innermost first. -/
  columns : List Nat := []
  /-- The candidate of the innermost flow collection, or outside flow collections. -/
  candidate : Option Candidate := none
  /-- The candidates of the collections further out, one for each flow collection around. -/
  outer : List (Option Candidate) := []
  /-- Whether a key may begin here. -/
  keyMayBegin : Bool := true
  /-- The index of the place behind the last quoted scalar, where a colon may follow at once. -/
  behindQuotes : Option Nat := none

namespace State

/-- Whether a flow collection is around. -/
def inFlow (s : State) : Bool :=
  !s.outer.isEmpty

/-- The column from which on something is part of the innermost block collection. -/
def least (s : State) : Nat :=
  (s.columns.head?.map (· + 1)).getD 0

/-- The state with one more token. -/
def emit (s : State) (token : Token) : State :=
  { s with read := token :: s.read }

/-- The state with tokens put in, behind as many as stood before a candidate. -/
def insert (s : State) (before : Nat) (tokens : List Token) : State :=
  let later := s.read.length - before
  { s with read := s.read.take later ++ tokens.reverse ++ s.read.drop later }

-- ============================================================ candidates

/-- How many characters a key may have, its quotes included. -/
def longestKey : Nat :=
  1024

/-- Gives up the candidate, unless it has to be a key. -/
def dropCandidate (s : State) : Option State :=
  if s.candidate.any (·.isNeeded) then none else some { s with candidate := none }

/-- Gives up the candidate when it is too far back: a key stands on one line and is not too
long. -/
def dropDistant (s : State) : Option State :=
  let isDistant (candidate : Candidate) : Bool :=
    candidate.start.line < s.place.line || candidate.start.index + longestKey < s.place.index
  if s.candidate.any isDistant then s.dropCandidate else some s

/-- Remembers that what begins here may be a key. In a flow collection a line that begins at the
column of the block collection around has to begin with one. -/
def remember (s : State) : Option State :=
  if s.keyMayBegin then do
    let s ← s.dropCandidate
    let isNeeded := s.inFlow && s.columns.head? = some s.place.column
    return { s with candidate := some ⟨s.place, s.read.length, isNeeded⟩ }
  else some s

-- ====================================================== block collections

/-- The block collections that go on at a column, and as many ends as others were given up. -/
def endsAt (column : Nat) (read : List Token) : List Nat → List Token × List Nat
  | [] => (read, [])
  | c :: columns =>
    if column < c then endsAt column (.blockEnd :: read) columns else (read, c :: columns)

/-- Ends the block collections that begin behind a column. In a flow collection columns say
nothing. -/
def endBlocks (s : State) (column : Nat) : State :=
  if s.inFlow then s
  else
    let (read, columns) := endsAt column s.read s.columns
    { s with read, columns }

/-- Ends all block collections. -/
def endAllBlocks (s : State) : State :=
  if s.inFlow then s
  else { s with read := s.columns.map (fun _ => blockEnd) ++ s.read, columns := [] }

/-- Whether a block collection begins at a column. -/
def beginsBlock (s : State) (column : Nat) : Bool :=
  !s.inFlow && s.columns.head?.all (· < column)

-- ================================================================ blanks

/-- The next place with something on it, behind blanks, comments and broken lines, and whether a
key may begin there: outside flow collections one may begin on every new line. Between tokens
every number sign begins a comment. Where a key may begin outside flow collections a tab is no
blank. -/
def skipFrom (inFlow keyMayBegin : Bool) (c : Cursor) : List Char → Cursor × Bool
  | '\r' :: '\n' :: rest =>
    skipFrom inFlow (keyMayBegin || !inFlow) ((c.step '\r' []).step '\n' rest) rest
  | a :: rest =>
    if isBreak a then skipFrom inFlow (keyMayBegin || !inFlow) (c.step a rest) rest
    else if a = ' ' || (a = '\t' && (inFlow || !keyMayBegin)) then
      skipFrom inFlow keyMayBegin (c.step a rest) rest
    else if a = '#' then comment (c.step a rest) rest
    else ({ c with rest := a :: rest }, keyMayBegin)
  | [] => ({ c with rest := [] }, keyMayBegin)
where
  /-- Goes on behind a comment. -/
  comment (c : Cursor) : List Char → Cursor × Bool
    | '\r' :: '\n' :: rest =>
      skipFrom inFlow (keyMayBegin || !inFlow) ((c.step '\r' []).step '\n' rest) rest
    | a :: rest =>
      if isBreak a then skipFrom inFlow (keyMayBegin || !inFlow) (c.step a rest) rest
      else comment (c.step a rest) rest
    | [] => ({ c with rest := [] }, keyMayBegin)

/-- Goes on to the next place with something on it. -/
def skip (s : State) : State :=
  let (place, keyMayBegin) := skipFrom s.inFlow s.keyMayBegin s.place s.place.rest
  { s with place, keyMayBegin }

-- =========================================================== single marks

/-- Reads a token that some characters stand for. -/
def mark (s : State) (token : Token) (count : Nat) : State :=
  { s.emit token with place := s.place.past count }

/-- How many flow collections may stand in each other. -/
def deepestFlow : Nat :=
  255

/-- Reads the beginning of a flow collection. -/
def openFlow (s : State) (token : Token) : Option State := do
  let s ← s.remember
  if s.outer.length < deepestFlow then
    return { s.mark token 1 with
      outer := s.candidate :: s.outer, candidate := none, keyMayBegin := true }
  else none

/-- Reads the end of a flow collection. -/
def closeFlow (s : State) (token : Token) : Option State := do
  let s ← s.dropCandidate
  let s :=
    match s.outer with
    | [] => s
    | candidate :: outer => { s with candidate, outer }
  return { s.mark token 1 with keyMayBegin := false }

/-- Reads the comma between the items of a flow collection. -/
def comma (s : State) : Option State := do
  return { (← s.dropCandidate).mark .comma 1 with keyMayBegin := true }

/-- Reads the mark of a document. -/
def documentMark (s : State) (token : Token) : Option State := do
  return { (← s.endAllBlocks.dropCandidate).mark token 3 with keyMayBegin := false }

/-- Reads the hyphen of an item, which only stands in a block collection. -/
def item (s : State) : Option State :=
  if s.inFlow || !s.keyMayBegin then none
  else do
    let column := s.place.column
    let s :=
      if s.beginsBlock column then { s.emit .blockSequence with columns := column :: s.columns }
      else s
    return { (← s.dropCandidate).mark .item 1 with keyMayBegin := true }

/-- Begins a block map at the place, unless one is there or a flow collection is around. -/
def beginMap (s : State) : State :=
  if s.beginsBlock s.place.column then
    { s.emit .blockMap with columns := s.place.column :: s.columns }
  else s

/-- Reads the question mark of a key that may be anything. -/
def explicitKey (s : State) : Option State :=
  if !s.inFlow && !s.keyMayBegin then none
  else do
    let s ← s.beginMap.dropCandidate
    return { s.mark .key 1 with keyMayBegin := !s.inFlow }

/-- Reads the colon in front of a value. What the candidate stands for was the key; without one
the key is missing or was marked as such. -/
def colon (s : State) : Option State :=
  match s.candidate with
  | some candidate =>
    let column := candidate.start.column
    let s :=
      if s.beginsBlock column then
        { s.insert candidate.before [.blockMap, .key] with columns := column :: s.columns }
      else s.insert candidate.before [.key]
    some { s.mark .value 1 with candidate := none, keyMayBegin := false }
  | none =>
    if !s.inFlow && !s.keyMayBegin then none
    else some { s.beginMap.mark .value 1 with keyMayBegin := !s.inFlow }

-- =============================================================== scalars

/-- Reads a scalar in quotes. -/
def quotedScalar (s : State) : Option State := do
  let s ← s.remember
  let (text, behind) ← quoted? s.place
  return { s.emit (.scalar text false) with
    place := behind, keyMayBegin := false, behindQuotes := some behind.index }

/-- Reads a plain scalar. A key may begin behind it when it ends its line. -/
def plainScalar (s : State) : Option State := do
  let s ← s.remember
  let plain ← plain? s.inFlow s.least s.place
  return { s.emit (.scalar plain.text true) with
    place := plain.behind, keyMayBegin := plain.endsLine }

-- ================================================================ reading

/-- Whether a colon stands here in front of a value: before a gap, and in flow collections also
before their marks or right behind a scalar in quotes. -/
def isColon (s : State) : Bool :=
  match s.place.rest with
  | ':' :: rest =>
    isGap rest
      || (s.inFlow && (rest.head?.any isFlowMark || s.behindQuotes = some s.place.index))
  | _ => false

/-- Reads what begins at a place with something on it. -/
def token (s : State) : Option State :=
  match s.place.rest with
  | [] => none
  | c :: rest =>
    if s.place.isMark then s.documentMark (if c = '-' then .documentStart else .documentEnd)
    else if s.isColon then s.colon
    else if c = '-' && isGap rest then s.item
    else if c = '?' && isGap rest then s.explicitKey
    else
      match c with
      | '[' => s.openFlow .openBracket
      | '\x7b' => s.openFlow .openBrace
      | ']' => s.closeFlow .closeBracket
      | '\x7d' => s.closeFlow .closeBrace
      | ',' => s.comma
      | '"' | '\'' => s.quotedScalar
      | '|' | '>' => if s.inFlow then s.plainScalar else none
      | '*' | '&' | '!' | '%' | '@' | '`' => none
      | _ => s.plainScalar

/-- Reads the tokens from a place on. Each is at least one character long, so the length of the
text is the fuel. -/
def tokens (s : State) : Nat → Option (List Token)
  | 0 => none
  | fuel + 1 => do
    let s ← s.skip.dropDistant
    if s.place.rest.isEmpty then
      return (← s.endAllBlocks.dropCandidate).read.reverse
    else (← (s.endBlocks s.place.column).token).tokens fuel

end State

/-- The tokens of a text, if it falls into tokens. A text ends where its first NUL stands. -/
def ofText? (s : String) : Option (List Token) :=
  let cs := s.toList.takeWhile (· != '\x00')
  State.tokens { place := Cursor.ofText cs } (cs.length + 1)

end Token

end CrudGraph.Yaml
