/-
Patterns for the endings of words. A pattern is searched for from left to right; at each place it
prefers the earlier of two alternatives and the longer of two runs, and goes back to the other one
where what follows does not match. A match hands out the stem, which the inflected word keeps, and
at times an ending that it keeps too.
-/
import CrudGraph.Text.Class

namespace CrudGraph.Inflection

/-- A pattern of characters. -/
inductive Pattern where
  /-- Any number of word characters, as many as possible. -/
  | word
  /-- The characters of a text, one after the other. -/
  | exact (text : List Char)
  /-- One of some characters. -/
  | oneOf (chars : List Char)
  /-- One character besides some. -/
  | noneOf (chars : List Char)
  /-- The place before the first character. -/
  | start
  /-- The place behind the last character. -/
  | stop
  | seq (first second : Pattern)
  | either (first second : Pattern)
  /-- The pattern, or nothing. -/
  | perhaps (pattern : Pattern)
  /-- The part of a match that is its stem. -/
  | stem (pattern : Pattern)
  /-- The part of a match that is its ending. -/
  | ending (pattern : Pattern)

namespace Pattern

instance : Append Pattern := ⟨seq⟩

instance : OrElse Pattern := ⟨fun first second => either first (second ())⟩

/-- The characters of a text. -/
def text (s : String) : Pattern :=
  exact s.toList

/-- The first of some texts that leads to a match. -/
def anyOf : List String → Pattern
  | [] => oneOf []
  | [s] => text s
  | s :: rest => either (text s) (anyOf rest)

end Pattern

-- ============================================================== matching

/-- A place in a text, and the parts of a match found so far. -/
structure Place where
  /-- How many characters lie before the place. -/
  passed : Nat
  /-- The characters behind it. -/
  rest : List Char
  stem : List Char := []
  ending : List Char := []

/-- The characters between two places of one text. -/
def Place.until (here there : Place) : List Char :=
  here.rest.take (there.passed - here.passed)

/-- Goes past as many word characters as possible and continues; goes back by one where the
continuation fails. -/
def pastWord (place : Place) (continue_ : Place → Option Place) : List Char → Nat → Option Place
  | [], passed => continue_ { place with passed := passed, rest := [] }
  | c :: rest, passed =>
    match if Text.isWordChar c then pastWord place continue_ rest (passed + 1) else none with
    | some found => some found
    | none => continue_ { place with passed := passed, rest := c :: rest }

/-- The end of the first match that begins at a place and that the continuation accepts. -/
def Pattern.matchAt (pattern : Pattern) (place : Place) (continue_ : Place → Option Place) :
    Option Place :=
  match pattern with
  | word => pastWord place continue_ place.rest place.passed
  | exact text =>
    if text.isPrefixOf place.rest then
      continue_ { place with
        passed := place.passed + text.length, rest := place.rest.drop text.length }
    else none
  | oneOf chars =>
    match place.rest with
    | c :: rest =>
      if chars.contains c then continue_ { place with passed := place.passed + 1, rest := rest }
      else none
    | [] => none
  | noneOf chars =>
    match place.rest with
    | c :: rest =>
      if chars.contains c then none
      else continue_ { place with passed := place.passed + 1, rest := rest }
    | [] => none
  | start => if place.passed = 0 then continue_ place else none
  | stop => if place.rest.isEmpty then continue_ place else none
  | seq first second => first.matchAt place fun next => second.matchAt next continue_
  | either first second =>
    match first.matchAt place continue_ with
    | some found => some found
    | none => second.matchAt place continue_
  | perhaps pattern =>
    match pattern.matchAt place continue_ with
    | some found => some found
    | none => continue_ place
  | stem pattern =>
    pattern.matchAt place fun next => continue_ { next with stem := place.until next }
  | ending pattern =>
    pattern.matchAt place fun next => continue_ { next with ending := place.until next }

/-- The end of the leftmost match in a text of which `passed` characters are left out. -/
def Pattern.searchFrom (pattern : Pattern) (passed : Nat) : List Char → Option Place
  | [] => pattern.matchAt ⟨passed, [], [], []⟩ some
  | c :: rest =>
    match pattern.matchAt ⟨passed, c :: rest, [], []⟩ some with
    | some found => some found
    | none => pattern.searchFrom (passed + 1) rest

/-- The end of the leftmost match in a text. -/
def Pattern.search (pattern : Pattern) (s : String) : Option Place :=
  pattern.searchFrom 0 s.toList

end CrudGraph.Inflection
