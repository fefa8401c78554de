/-
Identifiers on their way to a server, and the answers that come back. Callers give identifiers as
they find them, often as texts; an argument takes them in the form of its scalar type. A text that
denotes an integer of 64 bits becomes that integer, unless the scalar is one whose identifiers stay
as they are.

A document is sent together with the way to read its response, so that what is selected and what is
read back are decided in one place. A member that the document asked for and the response lacks is
an error; a null where a record was asked for is not.
-/
import CrudGraph.Strategy
import CrudGraph.Text.Digits

namespace CrudGraph

-- ========================================================= identifiers

namespace Identifier

-- -------------------------------------------------------------- integers

/-- The integer of 64 bits that a text denotes: an optional sign and decimal digits, nothing
else. -/
def ofDigits? (s : String) : Option Int :=
  (Text.intOfDigits? s.toList).filter (Width.fitsSigned 64)

-- -------------------------------------------------------------- encoding

/-- Whether identifiers of a scalar stay as they are. The names are compared without regard to
case. -/
def isPassthrough (identifiers : Identifiers) (scalar : String) : Bool :=
  identifiers.passthroughScalars.any fun name => Text.toLower name == Text.toLower scalar

/-- The form of an identifier that a scalar without a coercion takes. -/
def encodePlain (identifiers : Identifiers) (scalar : String) (raw : Json) : Json :=
  if isPassthrough identifiers scalar then raw
  else
    match raw with
    | .string s => ((ofDigits? s).map Json.integer).getD raw
    | _ => raw

/-- The form of an identifier that a scalar takes. A coercion of the scalar wins over all. -/
def encode (identifiers : Identifiers) (strategies : Strategies) (scalar : String)
    (raw : Json) : Json :=
  (strategies.coerce? scalar raw).getD (encodePlain identifiers scalar raw)

end Identifier

-- ============================================================= answers

/-- What a response holds: data, and a total where one was asked for. -/
structure Answer where
  data : Json
  total : Option UInt64

/-- Where a response holds its data. -/
inductive Decoder where
  /-- The record under the field. -/
  | record (field : String)
  /-- The record inside the payload under the field. -/
  | payloadRecord (field record : String)
  /-- The nodes of the connection under the field, with their total where it was asked for. -/
  | connection (field : String) (total : Bool)
  /-- The records under several keys, in order, without those that are missing. -/
  | records (keys : List String)
  /-- The identifiers that payloads under several keys give back, in order. -/
  | identifiers (batch : List (String × Json)) (echo : Option String)

namespace Decoder

/-- A member that the document asked for. -/
def member (members : Table Json) (key : String) : Except Refusal Json :=
  match Table.find? members key with
  | some value => .ok value
  | none => .error (.malformedResponse s!"`{key}` is missing")

/-- The identifier that was asked for, in its own form, from the text that came back for it. -/
def decodeIdentifier (echoed : Option String) (requested : Json) : Json :=
  match echoed with
  | none => requested
  | some echoed =>
    match requested with
    | .integer _ | .double _ => ((Identifier.ofDigits? echoed).map Json.integer).getD requested
    | _ => .string echoed

/-- The identifier that a payload gives back for the one that was asked for; null where there is no
payload. -/
def identifierOf (echo : Option String) (payload requested : Json) : Json :=
  if payload.isNull then .null
  else
    let echoed := echo >>= fun key => payload.member? key >>= Json.text?
    decodeIdentifier echoed requested

/-- The data of a response. -/
def decode (decoder : Decoder) (data : Table Json) : Except Refusal Answer := do
  match decoder with
  | .record field => return ⟨← member data field, none⟩
  | .payloadRecord field inner =>
    match ← member data field with
    | .null => return ⟨.null, none⟩
    | .object payload => return ⟨← member payload inner, none⟩
    | _ => throw (.malformedResponse s!"`{field}` is not an object")
  | .connection field total =>
    match ← member data field with
    | .null => return ⟨.array [], none⟩
    | .object members =>
      let nodes ← member members "nodes"
      if total then return ⟨nodes, (← member members "totalCount").unsigned64?⟩
      else return ⟨nodes, none⟩
    | _ => throw (.malformedResponse s!"`{field}` is not a connection")
  | .records keys =>
    let found ← keys.mapM (member data)
    return ⟨.array (found.filter fun one => !one.isNull), none⟩
  | .identifiers batch echo =>
    let given ← batch.mapM fun (key, requested) => do
      return identifierOf echo (← member data key) requested
    return ⟨.array given, none⟩

/-- The data of a whole response, which has to have data. -/
def decodeResponse (decoder : Decoder) (response : Json) : Except Refusal Answer :=
  match response.member? "data" >>= Json.members? with
  | some data => decoder.decode data
  | none => .error (.malformedResponse "`data` is missing")

end Decoder

end CrudGraph
