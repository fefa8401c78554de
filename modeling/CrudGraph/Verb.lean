/-
The verbs of requests on records, and the ways to write them.
-/
import CrudGraph.Refusal
import CrudGraph.Text.Case

namespace CrudGraph

/-- What a request does with records. -/
inductive Verb where
  | getOne
  | getList
  | getMany
  | getManyReference
  | create
  | update
  | updateMany
  | delete
  | deleteMany
deriving DecidableEq, Repr

namespace Verb

/-- All verbs. -/
def all : List Verb :=
  [getOne, getList, getMany, getManyReference, create, update, updateMany, delete, deleteMany]

/-- The name of a verb in messages. -/
def text : Verb → String
  | getOne => "GET_ONE"
  | getList => "GET_LIST"
  | getMany => "GET_MANY"
  | getManyReference => "GET_MANY_REFERENCE"
  | create => "CREATE"
  | update => "UPDATE"
  | updateMany => "UPDATE_MANY"
  | delete => "DELETE"
  | deleteMany => "DELETE_MANY"

/-- The ways to write a verb, apart from its name. -/
def spellings : Verb → List String
  | getOne => ["getOne", "get-one"]
  | getList => ["getList", "get-list"]
  | getMany => ["getMany", "get-many"]
  | getManyReference => ["getManyReference", "get-many-reference", "get-many-by-relation"]
  | create | update | delete => []
  | updateMany => ["updateMany", "update-many"]
  | deleteMany => ["deleteMany", "delete-many"]

/-- The verb that a token spells, in capital or small letters of ASCII. -/
def ofToken? (token : String) : Option Verb :=
  all.find? fun verb =>
    (verb.text :: verb.spellings).any fun spelling =>
      Text.toAsciiLower spelling == Text.toAsciiLower token

/-- The verb that a token spells; the empty token and any other are refused. -/
def parse (token : String) : Except Refusal Verb :=
  if token.isEmpty then .error (.invalidRequest "the verb is empty")
  else
    match ofToken? token with
    | some verb => .ok verb
    | none => .error (.unimplementedVerb token)

/-- The name of a verb is read as the verb. -/
theorem ofToken?_text (verb : Verb) : ofToken? verb.text = some verb := by
  have hall : ∀ verb ∈ all, ofToken? verb.text = some verb := by decide +kernel
  have hmem : verb ∈ all := by cases verb <;> decide
  exact hall verb hmem

/-- Verbs are told apart by their texts. -/
theorem parse_text (verb : Verb) : parse verb.text = .ok verb := by
  have hsome : verb.text.isEmpty = false := by cases verb <;> decide
  rw [parse, hsome, if_neg Bool.false_ne_true, ofToken?_text]

end Verb

end CrudGraph
