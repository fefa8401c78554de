/-
Numbers of a fixed width. Whole numbers that come from outside have to fit in so many bits, with a
sign or without one.

Double-precision numbers are their 64 bits: a sign, an exponent and a fraction. A finite double is
the exact number `mantissa · 2 ^ power`, so both directions between doubles and decimals are exact
arithmetic on natural numbers: reading rounds a ratio to the nearest double, a tie to the even one.
-/
namespace CrudGraph

-- ======================================================= whole numbers

namespace Width

/-- How many values so many bits have. -/
def values (bits : Nat) : Nat :=
  Nat.pow 2 bits

/-- Whether a number fits in so many bits without a sign. -/
def fitsUnsigned (bits : Nat) (n : Int) : Bool :=
  0 ≤ n && n < (values bits : Int)

/-- Whether a number fits in so many bits of which one is the sign. -/
def fitsSigned (bits : Nat) (n : Int) : Bool :=
  -(values (bits - 1) : Int) ≤ n && n < (values (bits - 1) : Int)

/-- The tests as ranges: with a sign there is one bit less on either side of zero. -/
theorem fitsUnsigned_iff {bits : Nat} {n : Int} :
    fitsUnsigned bits n = true ↔ 0 ≤ n ∧ n < values bits := by
  simp [fitsUnsigned]

theorem fitsSigned_iff {bits : Nat} {n : Int} :
    fitsSigned bits n = true ↔ -(values (bits - 1) : Int) ≤ n ∧ n < values (bits - 1) := by
  simp [fitsSigned]

example : values 31 = 2147483648 ∧ values 63 = 9223372036854775808 := by decide +kernel

end Width

-- ============================================================= doubles

/-- A double-precision number, given by its bits. -/
structure Double where
  bits : UInt64
deriving DecidableEq, Repr

namespace Double

-- ============================================================= the parts

/-- The bit of the sign. -/
def isNegative (d : Double) : Bool :=
  Width.values 63 ≤ d.bits.toNat

/-- The exponent as it is stored. -/
def storedExponent (d : Double) : Nat :=
  d.bits.toNat / Width.values 52 % Width.values 11

/-- The fraction as it is stored. -/
def fraction (d : Double) : Nat :=
  d.bits.toNat % Width.values 52

/-- Neither an infinity nor a number that is none. -/
def isFinite (d : Double) : Bool :=
  d.storedExponent < 2047

/-- The whole number that a power of two scales; numbers below the normal range have no leading
one. -/
def mantissa (d : Double) : Nat :=
  if d.storedExponent = 0 then d.fraction else Width.values 52 + d.fraction

/-- The power of two that scales the mantissa. -/
def power (d : Double) : Int :=
  if d.storedExponent = 0 then -1074 else (d.storedExponent : Int) - 1075

-- =============================================================== rounding

/-- The quotient rounded to the nearest whole number, a tie to the even one. -/
def roundDiv (num den : Nat) : Nat :=
  let quotient := num / den
  let rest := num % den
  if 2 * rest < den then quotient
  else if 2 * rest = den then quotient + quotient % 2
  else quotient + 1

/-- The power of two at which a positive ratio has 53 binary digits, not below the least one. -/
def scaleOf (num den : Nat) : Int :=
  let estimate := (num.log2 : Int) - (den.log2 : Int)
  let exact :=
    if (if 0 ≤ estimate then den <<< estimate.toNat ≤ num
      else den ≤ num <<< (-estimate).toNat) then estimate else estimate - 1
  max (exact - 52) (-1074)

/-- The double nearest to a ratio. The stored exponent and the mantissa are added, so a mantissa
that rounds up to a power of two moves to the next exponent by itself. -/
def ofRatio (negative : Bool) (num den : Nat) : Double :=
  let magnitude :=
    if num = 0 then 0
    else
      let power := scaleOf num den
      let mantissa :=
        if 0 ≤ power then roundDiv num (den <<< power.toNat)
        else roundDiv (num <<< (-power).toNat) den
      min ((power + 1074).toNat * Width.values 52 + mantissa) (2047 * Width.values 52)
  ⟨UInt64.ofNat (magnitude + if negative then Width.values 63 else 0)⟩

/-- The double nearest to `digits · 10 ^ exponent`. Exponents far outside the range of doubles are
cut off before the power of ten is formed. -/
def ofDecimal (negative : Bool) (digits : Nat) (exponent : Int) : Double :=
  let reach : Int := exponent + digits.log2 / 3
  if digits = 0 || reach < -400 then ofRatio negative 0 1
  else if 400 < exponent then ofRatio negative (Width.values 1024) 1
  else if 0 ≤ exponent then ofRatio negative (digits * Nat.pow 10 exponent.toNat) 1
  else ofRatio negative digits (Nat.pow 10 (-exponent).toNat)

example : ofDecimal false 15 (-1) = ⟨0x3FF8000000000000⟩ := by decide +kernel
example : ofDecimal true 0 0 = ⟨0x8000000000000000⟩ := by decide +kernel
example : ofDecimal false 5 (-324) = ⟨1⟩ := by decide +kernel

end Double

end CrudGraph
