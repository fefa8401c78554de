/-
Identifiers as tokens. An identifier is sent as a text and may come back as that text; what matters
then is that reading the text gives the identifier again. The text of an integer of 64 bits reads
back as that integer; that of a larger one, and that of any double, reads as no integer at all, so
that what was asked for is kept instead (`decodeIdentifier_token`).

A double never looks like an integer because its text always has a point or an exponent, whatever
its digits are.
-/
import CrudGraph.Json.Writer
import CrudGraph.Request.Answer

namespace CrudGraph

namespace Text

-- ====================================================== texts of integers

/-- The value of a decimal digit is its distance from zero. -/
theorem digit?_of_isDigit {c : Char} (h : c.isDigit = true) :
    digit? 10 c = some (c.toNat - '0'.toNat) := by
  have hle : '0'.toNat ≤ c.toNat ∧ c.toNat ≤ '9'.toNat := Char.isDigit_iff_toNat.1 h
  have hlt : c.toNat - '0'.toNat < 10 := by
    change 48 ≤ c.toNat ∧ c.toNat ≤ 57 at hle
    show c.toNat - 48 < 10
    omega
  simp only [digit?, h, if_true]
  rw [if_pos hlt]

/-- The digits of a number, read behind a number. -/
theorem natBehind?_eq_ofDigitChars (high : Nat) {digits : List Char}
    (h : ∀ c ∈ digits, c.isDigit = true) :
    natBehind? 10 high digits = some (Nat.ofDigitChars 10 digits high) := by
  induction digits generalizing high with
  | nil => rw [natBehind?, Nat.ofDigitChars_nil]
  | cons c rest ih =>
      rw [natBehind?, digit?_of_isDigit (h c List.mem_cons_self), Nat.ofDigitChars_cons,
        Nat.mul_comm 10 high]
      exact ih _ fun c hc => h c (List.mem_cons_of_mem _ hc)

/-- A number is written in decimal digits. -/
theorem isDigit_of_mem_toDigits {n : Nat} {c : Char} (h : c ∈ Nat.toDigits 10 n) :
    c.isDigit = true :=
  Nat.isDigit_of_mem_toDigits (by decide) (by decide) h

/-- The digits of a number denote it. -/
theorem natOfDigits?_toDigits (n : Nat) : natOfDigits? 10 (Nat.toDigits 10 n) = some n := by
  have hbehind : natBehind? 10 0 (Nat.toDigits 10 n) = some n := by
    rw [natBehind?_eq_ofDigitChars 0 fun c => isDigit_of_mem_toDigits,
      Nat.ofDigitChars_ten_toDigits]
  unfold natOfDigits?
  split
  · next hnil => exact absurd hnil Nat.toDigits_ne_nil
  · exact hbehind

/-- The text of an integer denotes it. -/
theorem intOfDigits?_toString (n : Int) : intOfDigits? (toString n).toList = some n := by
  cases n with
  | ofNat n =>
      have hlist : (toString (Int.ofNat n)).toList = Nat.toDigits 10 n := Nat.toList_repr
      rw [hlist]
      -- the first character is a digit, so it is no sign
      unfold intOfDigits?
      split
      · next rest heq =>
        have hminus : '-' ∈ Nat.toDigits 10 n := by rw [heq]; exact List.mem_cons_self
        exact absurd (isDigit_of_mem_toDigits hminus) (by decide)
      · next rest heq =>
        have hplus : '+' ∈ Nat.toDigits 10 n := by rw [heq]; exact List.mem_cons_self
        exact absurd (isDigit_of_mem_toDigits hplus) (by decide)
      · rw [natOfDigits?_toDigits]
        rfl
  | negSucc n =>
      have hlist : (toString (Int.negSucc n)).toList = '-' :: Nat.toDigits 10 (n + 1) := by
        show ("-" ++ (n + 1).repr).toList = _
        rw [String.toList_append, Nat.toList_repr]
        rfl
      rw [hlist, intOfDigits?, natOfDigits?_toDigits]
      rfl

-- ================================================= texts of other numbers

/-- Where some character is no digit, there is no number. -/
theorem natBehind?_eq_none {base : Nat} (high : Nat) {cs : List Char} {c : Char} (hmem : c ∈ cs)
    (hc : digit? base c = none) : natBehind? base high cs = none := by
  induction cs generalizing high with
  | nil => cases hmem
  | cons first rest ih =>
      rw [natBehind?]
      rcases List.mem_cons.1 hmem with rfl | hmem
      · rw [hc]
      · split
        · exact ih _ hmem
        · rfl

/-- One character that is no digit spoils them all. -/
theorem natOfDigits?_eq_none {base : Nat} {cs : List Char} {c : Char} (hmem : c ∈ cs)
    (hc : digit? base c = none) : natOfDigits? base cs = none := by
  unfold natOfDigits?
  split
  · rfl
  · exact natBehind?_eq_none 0 hmem hc

/-- Where some character is neither a digit nor a sign, there is no integer. -/
theorem intOfDigits?_eq_none {cs : List Char} {c : Char} (hmem : c ∈ cs)
    (hc : digit? 10 c = none) (hminus : c ≠ '-') (hplus : c ≠ '+') : intOfDigits? cs = none := by
  unfold intOfDigits?
  split
  · rw [natOfDigits?_eq_none ((List.mem_cons.1 hmem).resolve_left hminus) hc]
    rfl
  · rw [natOfDigits?_eq_none ((List.mem_cons.1 hmem).resolve_left hplus) hc]
    rfl
  · rw [natOfDigits?_eq_none hmem hc]
    rfl

end Text

-- ====================================================== texts of doubles

/-- A number in positional layout has a point, also if it is whole. -/
theorem Decimal.mem_positional (digits : List Char) (exponent : Int) :
    '.' ∈ (positional digits exponent).toList := by
  unfold positional
  split
  · rw [String.toList_append]
    exact List.mem_append_right _ List.mem_cons_self
  · rw [String.toList_ofList]
    exact List.mem_append_right _ List.mem_cons_self

/-- A number in scientific layout has an exponent. -/
theorem Decimal.mem_scientific (digits : List Char) (leading : Int) :
    'e' ∈ (scientific digits leading).toList := by
  unfold scientific
  rw [String.toList_append, String.toList_append]
  refine List.mem_append_left _ (List.mem_append_right _ ?_)
  split
  · exact List.mem_cons_self
  · exact List.mem_cons_self

/-- The text of a decimal has a point or an exponent. -/
theorem Decimal.mem_text (layout : Layout) (d : Decimal) :
    '.' ∈ (d.text layout).toList ∨ 'e' ∈ (d.text layout).toList := by
  unfold text
  dsimp only
  split
  · exact .inl (mem_positional _ _)
  · exact .inr (mem_scientific _ _)

/-- So a double is never written as an integer is. -/
theorem Double.mem_text (layout : Decimal.Layout) (d : Double) :
    '.' ∈ (d.text layout).toList ∨ 'e' ∈ (d.text layout).toList := by
  rw [Double.text, String.toList_append]
  rcases Decimal.mem_text layout (d.shortest layout.tie) with hmem | hmem
  · exact .inl (List.mem_append_right _ hmem)
  · exact .inr (List.mem_append_right _ hmem)

-- ============================================================ identifiers

namespace Identifier

/-- The text of an integer reads back as the integer, if that has 64 bits. -/
theorem ofDigits?_toString (n : Int) :
    ofDigits? (toString n) = if Width.fitsSigned 64 n then some n else none := by
  rw [ofDigits?, Text.intOfDigits?_toString, Option.filter_some]

/-- The text of a double reads as no integer. -/
theorem ofDigits?_text (layout : Decimal.Layout) (d : Double) :
    ofDigits? (d.text layout) = none := by
  have hnone : Text.intOfDigits? (d.text layout).toList = none := by
    rcases d.mem_text layout with hmem | hmem
    · exact Text.intOfDigits?_eq_none hmem (by decide) (by decide) (by decide)
    · exact Text.intOfDigits?_eq_none hmem (by decide) (by decide) (by decide)
  rw [ofDigits?, hnone]
  rfl

end Identifier

/-- Whether a value is one that identifiers are: a text or a number. -/
def Json.isIdentifier : Json → Bool
  | .string _ | .integer _ | .double _ => true
  | _ => false

/-- A text or a number that is sent as a token is known again by it. -/
theorem Decoder.decodeIdentifier_token {id : Json} (h : id.isIdentifier = true) :
    decodeIdentifier (some id.token) id = id := by
  cases id with
  | string s => rfl
  | integer n =>
      show ((Identifier.ofDigits? (toString n)).map Json.integer).getD (.integer n) = .integer n
      rw [Identifier.ofDigits?_toString]
      split
      · rfl
      · rfl
  | double d =>
      show ((Identifier.ofDigits? (d.text .json)).map Json.integer).getD (.double d) = .double d
      rw [Identifier.ofDigits?_text]
      rfl
  | null | bool | array | object => cases h

end CrudGraph
