/-
YAML documents: the nodes that tokens make up. A node that is missing, such as the value behind a
colon at the end of its line, is the empty scalar. Nesting and length are bounded by the tokens,
whose number is the fuel.
-/
import CrudGraph.Yaml.Node
import CrudGraph.Yaml.Token

namespace CrudGraph.Yaml

-- ================================================================= nodes

/-- Whether a key or a value of a block map is missing in front of these tokens. -/
def lacksPart : List Token → Bool
  | .key :: _ | .value :: _ | .blockEnd :: _ => true
  | _ => false

/-- Whether an item of a block sequence is missing in front of these tokens. -/
def lacksItem : List Token → Bool
  | .item :: _ | .blockEnd :: _ => true
  | _ => false

/-- Whether a value of a flow collection is missing in front of these tokens. -/
def lacksFlowValue (closing : Token) : List Token → Bool
  | token :: _ => token = .comma || token = closing
  | [] => false

mutual

/-- A node. Block collections stand in block collections only (`inBlock`), and only in a block map
may items stand at the column of the collection around them (`mayLean`). -/
def node? (fuel : Nat) (inBlock mayLean : Bool) (tokens : List Token) :
    Option (Yaml × List Token) :=
  match fuel with
  | 0 => none
  | fuel + 1 =>
    match tokens with
    | .scalar text isPlain :: rest => some (.scalar text isPlain, rest)
    | .openBracket :: rest => do
      let (items, rest) ← flowItems? fuel true rest
      return (.sequence items, rest)
    | .openBrace :: rest => do
      let (entries, rest) ← flowEntries? fuel true rest
      return (.map entries, rest)
    | .blockSequence :: rest =>
      if inBlock then do
        let (items, rest) ← items? fuel rest
        return (.sequence items, rest)
      else none
    | .blockMap :: rest =>
      if inBlock then do
        let (entries, rest) ← entries? fuel rest
        return (.map entries, rest)
      else none
    | .item :: _ =>
      if mayLean then do
        let (items, rest) ← leaningItems? fuel tokens
        return (.sequence items, rest)
      else none
    | _ => none

/-- The items of a block sequence up to its end. -/
def items? (fuel : Nat) (tokens : List Token) : Option (List Yaml × List Token) :=
  match fuel with
  | 0 => none
  | fuel + 1 =>
    match tokens with
    | .blockEnd :: rest => some ([], rest)
    | .item :: rest => do
      let (item, rest) ← if lacksItem rest then some (.empty, rest) else node? fuel true false rest
      let (items, rest) ← items? fuel rest
      return (item :: items, rest)
    | _ => none

/-- The items of a block sequence at the column of the map around it. It has no end of its own. -/
def leaningItems? (fuel : Nat) (tokens : List Token) : Option (List Yaml × List Token) :=
  match fuel with
  | 0 => none
  | fuel + 1 =>
    match tokens with
    | .item :: rest => do
      let (item, rest) ←
        if lacksItem rest || lacksPart rest then some (.empty, rest)
        else node? fuel true false rest
      let (items, rest) ← leaningItems? fuel rest
      return (item :: items, rest)
    | _ => some ([], tokens)

/-- The entries of a block map up to its end. A key without a colon has no value, and a colon
without a key has none. -/
def entries? (fuel : Nat) (tokens : List Token) : Option (List (Yaml × Yaml) × List Token) :=
  match fuel with
  | 0 => none
  | fuel + 1 =>
    match tokens with
    | .blockEnd :: rest => some ([], rest)
    | .key :: rest => do
      let (key, rest) ← part? fuel rest
      entriesBehind? fuel key rest
    | .value :: _ => entriesBehind? fuel .empty tokens
    | _ => none

/-- The entries of a block map from the value behind a key on. -/
def entriesBehind? (fuel : Nat) (key : Yaml) (tokens : List Token) :
    Option (List (Yaml × Yaml) × List Token) :=
  match fuel with
  | 0 => none
  | fuel + 1 => do
    let (value, rest) ←
      match tokens with
      | .value :: rest => part? fuel rest
      | _ => some (.empty, tokens)
    let (entries, rest) ← entries? fuel rest
    return ((key, value) :: entries, rest)

/-- A key or a value of a block map. -/
def part? (fuel : Nat) (tokens : List Token) : Option (Yaml × List Token) :=
  match fuel with
  | 0 => none
  | fuel + 1 => if lacksPart tokens then some (.empty, tokens) else node? fuel true true tokens

/-- The items of a flow sequence up to its bracket, the first of them or one behind a comma. An
item that is marked as a key is a map of one entry. -/
def flowItems? (fuel : Nat) (isFirst : Bool) (tokens : List Token) :
    Option (List Yaml × List Token) :=
  match fuel with
  | 0 => none
  | fuel + 1 =>
    match isFirst, tokens with
    | _, .closeBracket :: rest => some ([], rest)
    | false, .comma :: .closeBracket :: rest => some ([], rest)
    | false, .comma :: rest => flowItem? fuel rest
    | false, _ => none
    | true, rest => flowItem? fuel rest

/-- An item of a flow sequence and those behind it. -/
def flowItem? (fuel : Nat) (tokens : List Token) : Option (List Yaml × List Token) :=
  match fuel with
  | 0 => none
  | fuel + 1 => do
    let (item, rest) ←
      match tokens with
      | .key :: rest => do
        let (entry, rest) ← flowPair? fuel rest
        some (Yaml.map [entry], rest)
      | _ => node? fuel false false tokens
    let (items, rest) ← flowItems? fuel false rest
    return (item :: items, rest)

/-- The single entry of a map that is an item of a flow sequence. A mark in the place of its key is
passed over. -/
def flowPair? (fuel : Nat) (tokens : List Token) : Option ((Yaml × Yaml) × List Token) :=
  match fuel with
  | 0 => none
  | fuel + 1 => do
    let (key, rest) ←
      match tokens with
      | .value :: rest | .comma :: rest | .closeBracket :: rest => some (.empty, rest)
      | _ => node? fuel false false tokens
    let (value, rest) ← flowValue? fuel .closeBracket rest
    return ((key, value), rest)

/-- The value behind a key in a flow collection. -/
def flowValue? (fuel : Nat) (closing : Token) (tokens : List Token) :
    Option (Yaml × List Token) :=
  match fuel with
  | 0 => none
  | fuel + 1 =>
    match tokens with
    | .value :: rest =>
      if lacksFlowValue closing rest then some (.empty, rest) else node? fuel false false rest
    | _ => some (.empty, tokens)

/-- The entries of a flow map up to its brace, the first of them or one behind a comma. -/
def flowEntries? (fuel : Nat) (isFirst : Bool) (tokens : List Token) :
    Option (List (Yaml × Yaml) × List Token) :=
  match fuel with
  | 0 => none
  | fuel + 1 =>
    match isFirst, tokens with
    | _, .closeBrace :: rest => some ([], rest)
    | false, .comma :: .closeBrace :: rest => some ([], rest)
    | false, .comma :: rest => flowEntry? fuel rest
    | false, _ => none
    | true, rest => flowEntry? fuel rest

/-- An entry of a flow map and those behind it. A node without a colon is a key without a value. -/
def flowEntry? (fuel : Nat) (tokens : List Token) :
    Option (List (Yaml × Yaml) × List Token) :=
  match fuel with
  | 0 => none
  | fuel + 1 => do
    let (entry, rest) ←
      match tokens with
      | .key :: rest => do
        let (key, rest) ←
          match rest with
          | .value :: _ => some (.empty, rest)
          | _ =>
            if lacksFlowValue .closeBrace rest then some (.empty, rest)
            else node? fuel false false rest
        let (value, rest) ← flowValue? fuel .closeBrace rest
        some ((key, value), rest)
      | .value :: _ => do
        let (value, rest) ← flowValue? fuel .closeBrace tokens
        some ((.empty, value), rest)
      | _ => do
        let (key, rest) ← node? fuel false false tokens
        some ((key, .empty), rest)
    let (entries, rest) ← flowEntries? fuel false rest
    return (entry :: entries, rest)

end

-- ============================================================= documents

/-- The node of a document behind its mark, and what lies behind it. -/
def content? (fuel : Nat) : List Token → Option (Yaml × List Token)
  | [] => some (.empty, [])
  | .documentStart :: rest => some (.empty, .documentStart :: rest)
  | .documentEnd :: rest => some (.empty, .documentEnd :: rest)
  | tokens => node? fuel true false tokens

/-- The documents from the end of another one on. Each begins with its mark. -/
def documentsFrom (tokens : List Token) : Nat → Option (List Yaml)
  | 0 => none
  | fuel + 1 =>
    match tokens.dropWhile (· = .documentEnd) with
    | [] => some []
    | .documentStart :: rest => do
      let (node, rest) ← content? fuel rest
      return node :: (← documentsFrom rest fuel)
    | _ => none

/-- The documents of a text. Only the first may begin without a mark. -/
def documents? (s : String) : Option (List Yaml) := do
  let tokens ← Token.ofText? s
  let fuel := 4 * tokens.length + 4
  match tokens with
  | [] => return []
  | .documentStart :: _ => documentsFrom tokens fuel
  | _ => do
    let (node, rest) ← node? fuel true false tokens
    return node :: (← documentsFrom rest fuel)

/-- The node that a text holds, when it is a single document. -/
def ofText? (s : String) : Option Yaml :=
  match documents? s with
  | some [node] => some node
  | _ => none

end CrudGraph.Yaml
