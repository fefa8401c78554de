/-
The shortest decimal that reads back as a given double. The reals that round to a double form an
interval around it, whose ends belong to it when the mantissa is even. For one digit, then two, and
so on, only the two points of the decimal grid next to the value have to be tried: if any point of
the grid lies in the interval, one of these does. The nearer one is taken; which one on a tie is a
choice of the format.
-/
import CrudGraph.Decimal.Double

namespace CrudGraph

/-- The number `digits · 10 ^ exponent`. -/
structure Decimal where
  digits : Nat
  exponent : Int
deriving DecidableEq, Repr

/-- Which of two decimals is taken when both are equally near. -/
inductive Decimal.Tie where
  | even
  | up
deriving DecidableEq, Repr

namespace Double

/-- A positive number as a ratio, with the ends of the interval of reals that round to it over the
same denominator. -/
structure Rounding where
  lower : Nat
  value : Nat
  upper : Nat
  den : Nat
  closed : Bool

/-- The reals that round to a double other than zero. Below a power of two the neighbours are twice
as close. -/
def rounding (d : Double) : Rounding :=
  let power := d.power - 2
  let lower := if d.fraction = 0 && 1 < d.storedExponent then 1 else 2
  { lower := (4 * d.mantissa - lower) <<< power.toNat
    value := (4 * d.mantissa) <<< power.toNat
    upper := (4 * d.mantissa + 2) <<< power.toNat
    den := 1 <<< (-power).toNat
    closed := d.mantissa % 2 = 0 }

/-- The exponent of the leading decimal digit of a positive ratio. -/
def leadingExponent (num den : Nat) : Int :=
  let binary := (num.log2 : Int) - (den.log2 : Int)
  let estimate := (binary * 30103 / 100000) + 1
  let reaches (e : Int) : Bool := den * Nat.pow 10 e.toNat ≤ num * Nat.pow 10 (-e).toNat
  if reaches estimate then estimate
  else if reaches (estimate - 1) then estimate - 1
  else estimate - 2

/-- The point of the grid `10 ^ exponent` that rounds to the value and is nearest to it. -/
def Rounding.onGrid? (tie : Decimal.Tie) (r : Rounding) (exponent : Int) : Option Nat :=
  let step := Nat.pow 10 exponent.toNat * r.den
  let scale := Nat.pow 10 (-exponent).toNat
  let inside (point : Nat) : Bool :=
    if r.closed then r.lower * scale ≤ point * step && point * step ≤ r.upper * scale
    else r.lower * scale < point * step && point * step < r.upper * scale
  let below := r.value * scale / step
  let rest := r.value * scale % step
  let belowFirst := 2 * rest < step || (2 * rest = step && tie = .even && below % 2 = 0)
  match inside below, inside (below + 1) with
  | true, true => some (if belowFirst then below else below + 1)
  | true, false => some below
  | false, true => some (below + 1)
  | false, false => none

/-- The first of the next `count` finer grids with a point that rounds to the value. -/
def Rounding.firstGrid (tie : Decimal.Tie) (r : Rounding) (exponent : Int) : Nat → Decimal
  | 0 =>
    ⟨r.value * Nat.pow 10 (-exponent).toNat / (Nat.pow 10 exponent.toNat * r.den), exponent⟩
  | count + 1 =>
    match r.onGrid? tie exponent with
    | some digits => ⟨digits, exponent⟩
    | none => firstGrid tie r (exponent - 1) count

/-- The same number without trailing zeros among the digits. -/
def dropZeros (digits : Nat) (exponent : Int) : Nat → Decimal
  | 0 => ⟨digits, exponent⟩
  | fuel + 1 =>
    if digits % 10 = 0 then dropZeros (digits / 10) (exponent + 1) fuel else ⟨digits, exponent⟩

/-- The magnitude of a finite double with the fewest digits that read back. Seventeen digits always
do. -/
def shortest (tie : Decimal.Tie) (d : Double) : Decimal :=
  if d.mantissa = 0 then ⟨0, 0⟩
  else
    let r := d.rounding
    let found := r.firstGrid tie (leadingExponent r.value r.den) 17
    dropZeros found.digits found.exponent 20

example : (ofDecimal false 1 (-1)).shortest .even = ⟨1, -1⟩ := by decide +kernel
example : (⟨1⟩ : Double).shortest .even = ⟨5, -324⟩ := by decide +kernel
example : (ofDecimal false 123456789012345678901234567890 0).shortest .even
    = ⟨12345678901234568, 13⟩ := by decide +kernel
example : (⟨0x7FEFFFFFFFFFFFFF⟩ : Double).shortest .up = ⟨17976931348623157, 292⟩ := by
  decide +kernel
example : (ofDecimal false 87807018510840125 (-3)).shortest .even = ⟨8780701851084012, -2⟩ := by
  decide +kernel
example : (ofDecimal false 87807018510840125 (-3)).shortest .up = ⟨8780701851084013, -2⟩ := by
  decide +kernel

end Double

end CrudGraph
