/-
Literals read as the values that they stand for. Arguments that a strategy computes are written into
the document itself, so what the literal says is all that a server ever sees of the value. A member
that is lost on the way, a number that changes its kind or a text that turns into a variable would
be another question than the one that was asked.

# What is shown

A value has a literal just where the names of its members are names of a document, at every depth;
where one is not, the refusal names the first, in the order of the text, in which a name comes before
what its member holds. And a literal says what its value says: read back, it gives every text, list
and member in its place and every number by its kind and its digits (`Json.transcript`), so that
values that are printed differently have different literals, and none of them refers to a variable
(`Literal.ofJson_faithful`).

# How

That names are checked in the order of the text is one statement about steps (`Vets`): it goes along
with `bind` as the lists of names are put behind one another. The conversion is then followed by the
recursion that it is defined by, with the transcript as what each step leaves.
-/
import CrudGraph.Proofs.Reference

namespace CrudGraph

-- =========================================================== transcripts

/-- A value as it is printed. Of a number there is its kind and its text. -/
inductive Transcript where
  | null
  | boolean (value : Bool)
  | integer (text : String)
  | double (text : String)
  | string (value : String)
  | list (items : List Transcript)
  | object (members : List (String × Transcript))

namespace Json

mutual

/-- A value as it is printed. -/
def transcript : Json → Transcript
  | .null => .null
  | .bool value => .boolean value
  | .integer value => .integer (toString value)
  | .double value => .double (value.text .json)
  | .string value => .string value
  | .array items => .list (transcriptOfItems items)
  | .object members => .object (transcriptOfMembers members)

/-- Items as they are printed. -/
def transcriptOfItems : List Json → List Transcript
  | [] => []
  | item :: rest => item.transcript :: transcriptOfItems rest

/-- Members as they are printed. -/
def transcriptOfMembers : List (String × Json) → List (String × Transcript)
  | [] => []
  | (key, value) :: rest => (key, value.transcript) :: transcriptOfMembers rest

end

mutual

/-- The names of members at every depth, in the order of the text. -/
def memberNames : Json → List String
  | .array items => memberNamesOfItems items
  | .object members => memberNamesOfMembers members
  | _ => []

/-- The names of members inside items. -/
def memberNamesOfItems : List Json → List String
  | [] => []
  | item :: rest => item.memberNames ++ memberNamesOfItems rest

/-- The names of members, each before those inside its value. -/
def memberNamesOfMembers : List (String × Json) → List String
  | [] => []
  | (key, value) :: rest => key :: (value.memberNames ++ memberNamesOfMembers rest)

end

end Json

namespace Literal

mutual

/-- What a literal says, if it says it without a variable or a value of an enumeration. -/
def transcript? : Literal → Option Transcript
  | .null => some .null
  | .boolean value => some (.boolean value)
  | .int text => some (.integer text)
  | .float text => some (.double text)
  | .string value => some (.string value)
  | .enumValue _ | .reference _ => none
  | .list items => (transcriptOfItems? items).map .list
  | .object fields => (transcriptOfFields? fields).map .object

/-- What items say. -/
def transcriptOfItems? : List Literal → Option (List Transcript)
  | [] => some []
  | item :: rest => do return (← item.transcript?) :: (← transcriptOfItems? rest)

/-- What fields say. -/
def transcriptOfFields? : List (Name × Literal) → Option (List (String × Transcript))
  | [] => some []
  | (name, value) :: rest => do
    return (name.text, ← value.transcript?) :: (← transcriptOfFields? rest)

end

end Literal

-- ========================================================== names in order

/-- A step is refused for the first of these texts that is no name. Where all of them are names it
ends with a value that has the property. -/
def Vets {α : Type} (texts : List String) (result : Except Refusal α) (post : α → Prop) : Prop :=
  match texts.find? fun text => !isName text.toList with
  | some text => result = .error (.invalidName text)
  | none => ∃ value, result = .ok value ∧ post value

namespace Vets

variable {α β : Type} {texts : List String} {result : Except Refusal α} {post : α → Prop}

theorem ok {value : α} (h : post value) : Vets [] (.ok value) post :=
  ⟨value, rfl, h⟩

/-- A name needs its own text to be one. -/
theorem ofText (s : String) : Vets [s] (Name.ofText s) fun name => name.text = s := by
  unfold Vets
  cases hname : isName s.toList with
  | true =>
      rw [List.find?_singleton, hname]
      exact ⟨⟨s, hname⟩, ofText_text ⟨s, hname⟩, rfl⟩
  | false =>
      rw [List.find?_singleton, hname]
      exact Name.ofText_eq_error_iff.2 ⟨hname, rfl⟩

/-- One step after the other looks at the texts of the first and then at those of the second. -/
theorem bind {others : List String} {next : α → Except Refusal β} {last : β → Prop}
    (h : Vets texts result post) (hnext : ∀ value, post value → Vets others (next value) last) :
    Vets (texts ++ others) (result >>= next) last := by
  unfold Vets at h ⊢
  rw [List.find?_append]
  cases hfind : texts.find? fun text => !isName text.toList with
  | some text =>
      rw [hfind] at h
      subst h
      rfl
  | none =>
      rw [hfind] at h
      obtain ⟨value, rfl, hpost⟩ := h
      exact hnext value hpost

/-- A last step that looks at no text and always ends with a value. -/
theorem finish {next : α → Except Refusal β} {last : β → Prop} (h : Vets texts result post)
    (hnext : ∀ value, post value → ∃ made, next value = .ok made ∧ last made) :
    Vets texts (result >>= next) last := by
  have hbind : Vets (texts ++ []) (result >>= next) last := h.bind hnext
  rwa [List.append_nil] at hbind

/-- There is a value just if all texts are names. -/
theorem exists_ok_iff (h : Vets texts result post) :
    (∃ value, result = .ok value) ↔ ∀ text ∈ texts, isName text.toList = true := by
  unfold Vets at h
  cases hfind : texts.find? fun text => !isName text.toList with
  | some text =>
      rw [hfind] at h
      have hinvalid := List.find?_some hfind
      refine iff_of_false (fun hok => ?_) fun hall => ?_
      · obtain ⟨value, hok⟩ := hok
        rw [h] at hok
        cases hok
      · rw [hall text (List.mem_of_find?_eq_some hfind)] at hinvalid
        cases hinvalid
  | none =>
      rw [hfind] at h
      obtain ⟨value, hok, -⟩ := h
      refine iff_of_true ⟨value, hok⟩ fun text htext => ?_
      simpa using List.find?_eq_none.1 hfind text htext

/-- The refusal is for the first text that is no name. -/
theorem eq_error_iff (h : Vets texts result post) {refusal : Refusal} :
    result = .error refusal ↔ ∃ text, (texts.find? fun text => !isName text.toList) = some text
      ∧ refusal = .invalidName text := by
  unfold Vets at h
  cases hfind : texts.find? fun text => !isName text.toList with
  | some text =>
      rw [hfind] at h
      rw [h]
      constructor
      · intro heq
        exact ⟨text, rfl, (Except.error.inj heq).symm⟩
      · intro hfirst
        obtain ⟨_, heq, rfl⟩ := hfirst
        cases heq
        rfl
  | none =>
      rw [hfind] at h
      obtain ⟨value, rfl, -⟩ := h
      exact iff_of_false (fun heq => (by cases heq)) fun ⟨_, heq, _⟩ => (by cases heq)

/-- What comes out has the property. -/
theorem of_eq_ok (h : Vets texts result post) {value : α} (hok : result = .ok value) :
    post value := by
  unfold Vets at h
  split at h
  · rw [h] at hok
    cases hok
  · obtain ⟨_, heq, hpost⟩ := h
    rw [heq] at hok
    cases hok
    exact hpost

end Vets

-- ============================================================ conversion

namespace Literal

mutual

/-- The literal of a value says what the value says. -/
theorem vets_ofJson :
    ∀ j : Json, Vets j.memberNames (ofJson j) fun literal =>
      literal.transcript? = some j.transcript
  | .null | .bool _ | .integer _ | .double _ | .string _ => Vets.ok rfl
  | .array items => by
      rw [ofJson, Json.memberNames, Json.transcript]
      refine (vets_ofItems items).finish fun literals hliterals => ⟨_, rfl, ?_⟩
      rw [transcript?, hliterals]
      rfl
  | .object members => by
      rw [ofJson, Json.memberNames, Json.transcript]
      refine (vets_ofMembers members).finish fun fields hfields => ⟨_, rfl, ?_⟩
      rw [transcript?, hfields]
      rfl

/-- The literals of items say what the items say, one by one. -/
theorem vets_ofItems :
    ∀ items : List Json, Vets (Json.memberNamesOfItems items) (ofItems items) fun literals =>
      transcriptOfItems? literals = some (Json.transcriptOfItems items)
  | [] => Vets.ok rfl
  | item :: rest => by
      rw [ofItems, Json.memberNamesOfItems]
      refine (vets_ofJson item).bind fun first hfirst => ?_
      refine (vets_ofItems rest).finish fun others hothers => ⟨_, rfl, ?_⟩
      rw [transcriptOfItems?, hfirst, hothers]
      rfl

/-- The literals of members say what the members say, under their names. -/
theorem vets_ofMembers :
    ∀ members : List (String × Json),
      Vets (Json.memberNamesOfMembers members) (ofMembers members) fun fields =>
        transcriptOfFields? fields = some (Json.transcriptOfMembers members)
  | [] => Vets.ok rfl
  | (key, value) :: rest => by
      rw [ofMembers, Json.memberNamesOfMembers]
      refine (Vets.ofText key).bind fun name hname => ?_
      refine (vets_ofJson value).bind fun first hfirst => ?_
      refine (vets_ofMembers rest).finish fun others hothers => ⟨_, rfl, ?_⟩
      rw [transcriptOfFields?, hfirst, hothers, hname]
      rfl

end

/-- Literals are faithful. A value has one just where all names of its members are names, and else
the first that is not is refused. The literal says what the value says, number for number by kind
and digits; so two values with one literal are printed alike. And it refers to no variable. -/
theorem ofJson_faithful (j : Json) :
    ((∃ literal, ofJson j = .ok literal) ↔ ∀ key ∈ j.memberNames, isName key.toList = true)
      ∧ (∀ refusal, ofJson j = .error refusal ↔
          ∃ key, (j.memberNames.find? fun key => !isName key.toList) = some key
            ∧ refusal = .invalidName key)
      ∧ ∀ literal, ofJson j = .ok literal →
          literal.transcript? = some j.transcript
          ∧ (∀ other, ofJson other = .ok literal → other.transcript = j.transcript)
          ∧ literal.references = [] := by
  refine ⟨(vets_ofJson j).exists_ok_iff, fun _ => (vets_ofJson j).eq_error_iff,
    fun literal hliteral => ?_⟩
  have htold := (vets_ofJson j).of_eq_ok hliteral
  refine ⟨htold, fun other hother => ?_, (settles_ofJson j).of_eq_ok hliteral⟩
  exact Option.some.inj (((vets_ofJson other).of_eq_ok hother).symm.trans htold)

/-- Amounts of both kinds and a note that looks like a variable: they are written as they are. Of
two names that are none, the one deeper inside comes first and is refused. -/
theorem ofJson_faithful_invoice :
    (∃ literal,
        ofJson (.object [("amounts", .array [.integer 1, .double ⟨0x3FF0000000000000⟩]),
          ("note", .string "$id")]) = .ok literal
        ∧ literal.transcript? = some (.object [("amounts", .list [.integer "1", .double "1.0"]),
            ("note", .string "$id")])
        ∧ literal.references = [])
      ∧ ofJson (.object [("issued", .object [("by hand", .null)]), ("2nd", .null)])
          = .error (.invalidName "by hand") := by
  constructor
  · obtain ⟨hexists, -, htold⟩ := ofJson_faithful
      (.object [("amounts", .array [.integer 1, .double ⟨0x3FF0000000000000⟩]),
        ("note", .string "$id")])
    obtain ⟨literal, hliteral⟩ := hexists.2 (by decide)
    obtain ⟨htranscript, -, hnone⟩ := htold literal hliteral
    exact ⟨literal, hliteral, htranscript, hnone⟩
  · exact ((ofJson_faithful _).2.1 _).2 ⟨"by hand", rfl, rfl⟩

end Literal

end CrudGraph
