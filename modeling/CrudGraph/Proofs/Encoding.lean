/-
Identifiers in the form that arguments take. A caller hands in an identifier as it was found, a
number often as its text, and the argument of an operation has a scalar that says which of the two
it wants. The form must be that of the same identifier: a number that is cut off at its width or
read out of a text that only looks like one is the identifier of another record.

# What is shown

`Text.Denotes` is the grammar of integers: an optional sign and one or more digits, of which each
one further to the left counts ten times as much. A text becomes the integer that it denotes just
where that has 64 bits, and no other identifier is changed (`Identifier.encode_stable`). So what has
been encoded is encoded already, and the text of an integer of 64 bits is encoded as the integer.

# How

Digits are read from the left with the number in front of them, and the grammar grows at the right
end. The two meet in `natBehind?_append`: reading one more digit at the end is one more step from
what was read so far, so that the numerals are followed from the right.
-/
import CrudGraph.Proofs.Identifier
import Mathlib.Algebra.Group.Int.Defs
import Mathlib.Data.List.Induction

namespace CrudGraph

namespace Text

-- =============================================================== grammar

/-- The number that digits denote. -/
inductive Numeral : List Char → Nat → Prop
  | digit {c : Char} (hdigit : c.isDigit = true) : Numeral [c] (c.toNat - '0'.toNat)
  | append {digits : List Char} {n : Nat} {c : Char} (hdigits : Numeral digits n)
      (hdigit : c.isDigit = true) : Numeral (digits ++ [c]) (10 * n + (c.toNat - '0'.toNat))

/-- The integer that a text denotes. -/
inductive Denotes : List Char → Int → Prop
  | unsigned {digits : List Char} {n : Nat} (hdigits : Numeral digits n) : Denotes digits n
  | plus {digits : List Char} {n : Nat} (hdigits : Numeral digits n) : Denotes ('+' :: digits) n
  | minus {digits : List Char} {n : Nat} (hdigits : Numeral digits n) : Denotes ('-' :: digits) (-n)

/-- All characters of a numeral are digits, so no sign can stand in it. -/
theorem Numeral.isDigit_of_mem {digits : List Char} {n : Nat} (h : Numeral digits n) :
    ∀ c ∈ digits, c.isDigit = true := by
  induction h with
  | digit hdigit =>
      intro c hc
      rwa [List.mem_singleton.1 hc]
  | append _ hdigit ih =>
      intro c hc
      rcases List.mem_append.1 hc with hc | hc
      · exact ih c hc
      · rwa [List.mem_singleton.1 hc]

theorem Numeral.ne_nil {digits : List Char} {n : Nat} (h : Numeral digits n) : digits ≠ [] := by
  cases h with
  | digit => exact List.cons_ne_nil _ _
  | append => exact List.append_ne_nil_of_right_ne_nil _ (List.cons_ne_nil _ _)

-- =============================================================== reading

/-- Only digits have a value in base ten; letters come too late. -/
theorem digit?_ten_eq_some_iff {c : Char} {value : Nat} :
    digit? 10 c = some value ↔ c.isDigit = true ∧ value = c.toNat - '0'.toNat := by
  constructor
  · intro h
    cases hdigit : c.isDigit with
    | true =>
        rw [digit?_of_isDigit hdigit] at h
        exact ⟨rfl, (Option.some.inj h).symm⟩
    | false =>
        simp only [digit?, hdigit, Bool.false_eq_true, if_false] at h
        split at h
        · rw [if_neg (by omega)] at h
          cases h
        · split at h
          · rw [if_neg (by omega)] at h
            cases h
          · cases h
  · intro h
    rw [digit?_of_isDigit h.1, h.2]

/-- Digits behind digits are read from the number in front of them. -/
theorem natBehind?_append (base high : Nat) (front behind : List Char) :
    natBehind? base high (front ++ behind)
      = natBehind? base high front >>= fun n => natBehind? base n behind := by
  induction front generalizing high with
  | nil => rfl
  | cons c rest ih =>
      rw [List.cons_append, natBehind?, natBehind?]
      cases digit? base c with
      | none => rfl
      | some value => exact ih _

/-- Reading digits is reading them behind a zero, if there are any. -/
theorem natOfDigits?_eq_natBehind? (base : Nat) {digits : List Char} (h : digits ≠ []) :
    natOfDigits? base digits = natBehind? base 0 digits := by
  cases digits with
  | nil => exact absurd rfl h
  | cons c rest => rfl

/-- One more digit at the end. -/
theorem natBehind?_concat_eq_some_iff {high n : Nat} {digits : List Char} {c : Char} :
    natBehind? 10 high (digits ++ [c]) = some n
      ↔ c.isDigit = true ∧ ∃ front, natBehind? 10 high digits = some front
        ∧ n = 10 * front + (c.toNat - '0'.toNat) := by
  rw [natBehind?_append, Option.bind_eq_bind, Option.bind_eq_some_iff]
  constructor
  · intro h
    obtain ⟨front, hfront, h⟩ := h
    rw [natBehind?] at h
    split at h
    · next value hvalue =>
      obtain ⟨hdigit, rfl⟩ := digit?_ten_eq_some_iff.1 hvalue
      refine ⟨hdigit, front, hfront, ?_⟩
      rw [← Option.some.inj h, Nat.mul_comm]
    · cases h
  · intro h
    obtain ⟨hdigit, front, hfront, rfl⟩ := h
    refine ⟨front, hfront, ?_⟩
    rw [natBehind?, digit?_of_isDigit hdigit, Nat.mul_comm]
    rfl

/-- Digits are read as the number that they denote, and nothing else is read as a number. -/
theorem natOfDigits?_eq_some_iff {cs : List Char} {n : Nat} :
    natOfDigits? 10 cs = some n ↔ Numeral cs n := by
  constructor
  · intro h
    induction cs using List.reverseRecOn generalizing n with
    | nil => cases h
    | append_singleton front c ih =>
        rw [natOfDigits?_eq_natBehind? 10 (by simp)] at h
        obtain ⟨hdigit, before, hbefore, rfl⟩ := natBehind?_concat_eq_some_iff.1 h
        -- the last digit is the only one, or there is a numeral in front of it
        by_cases hfront : front = []
        · subst hfront
          cases hbefore
          rw [List.nil_append, Nat.mul_zero, Nat.zero_add]
          exact .digit hdigit
        · rw [← natOfDigits?_eq_natBehind? 10 hfront] at hbefore
          exact .append (ih hbefore) hdigit
  · intro h
    induction h with
    | @digit c hdigit =>
        show natBehind? 10 0 ([] ++ [c]) = _
        exact natBehind?_concat_eq_some_iff.2 ⟨hdigit, 0, rfl, by omega⟩
    | append hdigits hdigit ih =>
        rw [natOfDigits?_eq_natBehind? 10 hdigits.ne_nil] at ih
        rw [natOfDigits?_eq_natBehind? 10 (by simp)]
        exact natBehind?_concat_eq_some_iff.2 ⟨hdigit, _, ih, rfl⟩

/-- A text is read as the integer that it denotes, and nothing else is read as an integer. -/
theorem intOfDigits?_eq_some_iff {cs : List Char} {n : Int} :
    intOfDigits? cs = some n ↔ Denotes cs n := by
  constructor
  · intro h
    unfold intOfDigits? at h
    split at h
    · obtain ⟨_, hlifted, rfl⟩ := Option.map_eq_some_iff.1 h
      obtain ⟨value, hvalue, heq⟩ := Option.bind_eq_some_iff.1 hlifted
      cases heq
      exact .minus (natOfDigits?_eq_some_iff.1 hvalue)
    · obtain ⟨value, hvalue, rfl⟩ := Option.map_eq_some_iff.1 h
      exact .plus (natOfDigits?_eq_some_iff.1 hvalue)
    · obtain ⟨value, hvalue, rfl⟩ := Option.map_eq_some_iff.1 h
      exact .unsigned (natOfDigits?_eq_some_iff.1 hvalue)
  · intro h
    cases h with
    | plus hdigits | minus hdigits =>
        rw [intOfDigits?, natOfDigits?_eq_some_iff.2 hdigits]
        rfl
    | unsigned hdigits =>
        -- a numeral begins with a digit, so with no sign
        have hread := congrArg (Option.map Int.ofNat) (natOfDigits?_eq_some_iff.2 hdigits)
        unfold intOfDigits?
        split
        · exact absurd (hdigits.isDigit_of_mem '-' List.mem_cons_self) (by decide)
        · exact absurd (hdigits.isDigit_of_mem '+' List.mem_cons_self) (by decide)
        · exact hread

end Text

namespace Identifier

-- ============================================================== encoding

/-- Whether an integer has 64 bits. -/
def IsSigned64 (n : Int) : Prop :=
  -2 ^ 63 ≤ n ∧ n ≤ 2 ^ 63 - 1

/-- The range of the test is written out once, and is the range from here on. -/
theorem fitsSigned_iff_isSigned64 {n : Int} : Width.fitsSigned 64 n = true ↔ IsSigned64 n := by
  have hvalues : (Width.values (64 - 1) : Int) = 2 ^ 63 := by decide
  rw [Width.fitsSigned_iff, hvalues, IsSigned64]
  omega

/-- A text is taken for an integer just if it denotes one that has 64 bits. -/
theorem ofDigits?_eq_some_iff {s : String} {n : Int} :
    ofDigits? s = some n ↔ Text.Denotes s.toList n ∧ IsSigned64 n := by
  rw [ofDigits?, Option.filter_eq_some_iff, Text.intOfDigits?_eq_some_iff,
    fitsSigned_iff_isSigned64]

variable (identifiers : Identifiers) (strategies : Strategies) (scalar : String)

/-- Identifiers of a scalar stay as they are: it is listed, in any case. -/
def Passes : Prop :=
  ∃ name ∈ identifiers.passthroughScalars, Text.toLower name = Text.toLower scalar

variable {identifiers strategies scalar}

/-- The test for listed scalars, as a statement about names. -/
theorem isPassthrough_iff :
    isPassthrough identifiers scalar = true ↔ Passes identifiers scalar := by
  rw [isPassthrough, List.any_eq_true]
  simp only [beq_iff_eq, Passes]

theorem encodePlain_of_passes (h : Passes identifiers scalar) (raw : Json) :
    encodePlain identifiers scalar raw = raw := by
  unfold encodePlain
  rw [if_pos (isPassthrough_iff.2 h)]

/-- Only texts are ever changed. -/
theorem encodePlain_of_ne_string {raw : Json} (h : ∀ s, raw ≠ .string s) :
    encodePlain identifiers scalar raw = raw := by
  unfold encodePlain
  split
  · rfl
  · cases raw with
    | string s => exact absurd rfl (h s)
    | null | bool | integer | double | array | object => rfl

/-- Of a scalar that is not listed a text may become an integer. -/
theorem encodePlain_string (h : ¬Passes identifiers scalar) (s : String) :
    encodePlain identifiers scalar (.string s) = ((ofDigits? s).map .integer).getD (.string s) := by
  rw [encodePlain, if_neg (mt isPassthrough_iff.1 h)]

/-- What is encoded is a text that stays as it is, or no text any more. -/
theorem encodePlain_encodePlain (raw : Json) :
    encodePlain identifiers scalar (encodePlain identifiers scalar raw)
      = encodePlain identifiers scalar raw := by
  by_cases hpasses : Passes identifiers scalar
  · rw [encodePlain_of_passes hpasses]
  · by_cases hstring : ∃ s, raw = .string s
    · obtain ⟨s, rfl⟩ := hstring
      cases hdigits : ofDigits? s with
      | none =>
          have hsame : encodePlain identifiers scalar (.string s) = .string s := by
            rw [encodePlain_string hpasses, hdigits]
            rfl
          rw [hsame, hsame]
      | some n =>
          have hinteger : encodePlain identifiers scalar (.string s) = .integer n := by
            rw [encodePlain_string hpasses, hdigits]
            rfl
          rw [hinteger, encodePlain_of_ne_string fun _ h => by cases h]
    · have hsame : encodePlain identifiers scalar raw = raw :=
        encodePlain_of_ne_string fun s h => hstring ⟨s, h⟩
      rw [hsame, hsame]

/-- A text becomes an integer just if it denotes it and the integer has 64 bits. -/
theorem encodePlain_string_eq_integer_iff (h : ¬Passes identifiers scalar) {s : String} {n : Int} :
    encodePlain identifiers scalar (.string s) = .integer n
      ↔ Text.Denotes s.toList n ∧ IsSigned64 n := by
  rw [encodePlain_string h, ← ofDigits?_eq_some_iff]
  cases ofDigits? s <;> simp

/-- A text that becomes no integer stays as it is. -/
theorem encodePlain_string_of_forall (h : ¬Passes identifiers scalar) {s : String}
    (hnone : ∀ n, Text.Denotes s.toList n → ¬IsSigned64 n) :
    encodePlain identifiers scalar (.string s) = .string s := by
  have hdigits : ofDigits? s = none := Option.eq_none_iff_forall_ne_some.2 fun n hn =>
    hnone n (ofDigits?_eq_some_iff.1 hn).1 (ofDigits?_eq_some_iff.1 hn).2
  rw [encodePlain_string h, hdigits]
  rfl

/-- Encoding keeps identifiers. For a scalar without a coercion it changes nothing that is encoded
already, nothing but texts, and nothing at all where the scalar is listed. Elsewhere a text becomes
an integer just if it denotes that integer and the integer has 64 bits, and stays as it is
otherwise; so the text of any integer of 64 bits becomes that integer. -/
theorem encode_stable (identifiers : Identifiers) (strategies : Strategies) {scalar : String}
    (hplain : ∀ raw, strategies.coerce? scalar raw = none) :
    (∀ raw, encode identifiers strategies scalar (encode identifiers strategies scalar raw)
        = encode identifiers strategies scalar raw)
      ∧ (∀ raw, (∀ s, raw ≠ .string s) → encode identifiers strategies scalar raw = raw)
      ∧ ((∃ name ∈ identifiers.passthroughScalars, Text.toLower name = Text.toLower scalar) →
          ∀ raw, encode identifiers strategies scalar raw = raw)
      ∧ ((∀ name ∈ identifiers.passthroughScalars, Text.toLower name ≠ Text.toLower scalar) →
          (∀ s n, encode identifiers strategies scalar (.string s) = .integer n
            ↔ Text.Denotes s.toList n ∧ IsSigned64 n)
          ∧ (∀ s, (∀ n, Text.Denotes s.toList n → ¬IsSigned64 n) →
            encode identifiers strategies scalar (.string s) = .string s)
          ∧ ∀ n, IsSigned64 n →
            encode identifiers strategies scalar (.string (toString n)) = .integer n) := by
  have hencode : ∀ raw, encode identifiers strategies scalar raw
      = encodePlain identifiers scalar raw := by
    intro raw
    rw [encode, hplain, Option.getD_none]
  simp only [hencode]
  refine ⟨encodePlain_encodePlain, fun raw => encodePlain_of_ne_string, encodePlain_of_passes,
    fun hlisted => ?_⟩
  have hpasses : ¬Passes identifiers scalar := fun ⟨name, hname, hsame⟩ => hlisted name hname hsame
  refine ⟨fun s n => encodePlain_string_eq_integer_iff hpasses,
    fun s => encodePlain_string_of_forall hpasses, fun n hn => ?_⟩
  rw [encodePlain_string hpasses, ofDigits?_toString, if_pos (fitsSigned_iff_isSigned64.2 hn)]
  rfl

/-- The least integer of 64 bits is read from its text and the next one below it is not. An `Uuid`
is not read at all: it is listed, in small letters. -/
theorem encode_stable_uuid :
    encode {} [] "BigInt" (.string "-9223372036854775808") = .integer (-9223372036854775808)
      ∧ encode {} [] "BigInt" (.string "-9223372036854775809")
        = .string "-9223372036854775809"
      ∧ encode {} [] "Uuid" (.string "-07") = .string "-07" := by
  obtain ⟨-, -, -, hother⟩ := @encode_stable {} [] "BigInt" fun _ => rfl
  obtain ⟨-, -, hlisted, -⟩ := @encode_stable {} [] "Uuid" fun _ => rfl
  obtain ⟨-, hstays, htext⟩ := hother (by decide)
  have hleast : IsSigned64 (-9223372036854775808) := ⟨by decide, by decide⟩
  refine ⟨htext (-9223372036854775808) hleast, hstays _ fun n hn => ?_,
    hlisted (by decide) _⟩
  have hread : Text.intOfDigits? "-9223372036854775809".toList = some (-9223372036854775809) := by
    decide
  cases hread.symm.trans (Text.intOfDigits?_eq_some_iff.2 hn)
  exact fun hsigned => absurd hsigned.1 (by decide)

end Identifier

end CrudGraph
