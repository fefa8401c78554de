/-
Batches: one operation for each of several identifiers, all in one document. An alias keeps the
answers apart, and every operation takes its value through a variable of its own. Aliases and
variables are named after the identifiers, each kind by a supply of its own.

Characters that no name may hold become underscores there, so different identifiers may lead to one
name; the later one then gets a number behind it. Of one more candidate than there are names in
use, one is free, so the search for it takes at most that many steps.
-/
import CrudGraph.Request.Envelope

namespace CrudGraph

-- ========================================================= fresh names

namespace FreshName

/-- The text with an underscore for every character that a name may not hold. -/
def escape (raw : String) : String :=
  raw.map fun c => if isNamePart c then c else '_'

/-- The candidates for a name: the text itself, then the text with 1, 2 and so on behind it. -/
def candidate (base : String) (number : Nat) : String :=
  if number = 0 then base else base ++ "_" ++ toString number

/-- The first candidate from a number on that is not in use. After `count` candidates the next one
is taken. -/
def firstFree (used : List String) (base : String) (number : Nat) : Nat → String
  | 0 => candidate base number
  | count + 1 =>
    if used.contains (candidate base number) then firstFree used base (number + 1) count
    else candidate base number

/-- A name that is not in use, from a text that begins it and one that a caller gave, and the names
that are in use then. -/
def allocate (used : List String) (lead raw : String) : Except Refusal (Name × List String) := do
  let free := firstFree used (lead ++ escape raw) 0 used.length
  return (← Name.ofText free, free :: used)

end FreshName

-- ============================================================= batches

/-- What the operations of a batch have in common. -/
structure Batch where
  operation : String
  /-- What the aliases begin with. -/
  lead : String
  /-- The argument that takes the value. -/
  argument : String
  /-- What the variables begin with. -/
  variableLead : String
  /-- The type of the variables. -/
  type : TypeExpr
  /-- The value that is sent for an identifier. -/
  valueOf : Json → Json
  /-- What is selected of an answer. -/
  selections : List Selection

namespace Batch

/-- Adds one aliased operation for each identifier. The aliases come back in the same order. -/
def addTo (batch : Batch) (draft : Draft) (aliasesUsed variablesUsed : List String) :
    List Json → Except Refusal (List Name × Draft)
  | [] => .ok ([], draft)
  | id :: rest => do
    let (responseName, aliasesUsed) ← FreshName.allocate aliasesUsed batch.lead id.token
    let (variableName, variablesUsed) ←
      FreshName.allocate variablesUsed batch.variableLead id.token
    let (name, draft) ← draft.declare variableName.text batch.type (batch.valueOf id)
    let root ← Selection.call (some responseName) batch.operation
      [(batch.argument, .reference name)] batch.selections
    let (others, draft) ← addTo batch (draft.select root) aliasesUsed variablesUsed rest
    return (responseName :: others, draft)

end Batch

end CrudGraph
