/-
The text of a double: its shortest digits, either in positions or in scientific form. Where one
form ends and the other begins, and which digits are taken on a tie, is a choice of the format that
is written, given by a `Layout`.
-/
import CrudGraph.Decimal.Shortest

namespace CrudGraph

/-- How a format writes numbers: which of them in positions, by the exponent of their leading
digit, and which of two equally near decimals. -/
structure Decimal.Layout where
  isPositional : Int → Bool
  tie : Decimal.Tie

/-- JSON and documents write the leading digit at 10⁻⁵ up to 10¹⁵ in positions, and of two equally
near decimals the even one. -/
def Decimal.Layout.json : Decimal.Layout :=
  ⟨fun exponent => -5 ≤ exponent && exponent ≤ 15, .even⟩

/-- Every number in positions, and the greater of two equally near decimals. -/
def Decimal.Layout.unscaled : Decimal.Layout :=
  ⟨fun _ => true, .up⟩

namespace Decimal

/-- The number in positions, always with a fraction. -/
def positional (digits : List Char) (exponent : Int) : String :=
  if 0 ≤ exponent then
    String.ofList (digits ++ List.replicate exponent.toNat '0') ++ ".0"
  else
    let places := (-exponent).toNat
    let padded := List.replicate (places + 1 - digits.length) '0' ++ digits
    let whole := padded.length - places
    String.ofList (padded.take whole ++ '.' :: padded.drop whole)

/-- The number as one digit, the others behind a point, and the exponent with its sign. -/
def scientific (digits : List Char) (leading : Int) : String :=
  let mantissa :=
    match digits with
    | first :: second :: rest => first :: '.' :: second :: rest
    | short => short
  String.ofList mantissa ++ (if leading < 0 then "e-" else "e+") ++ toString leading.natAbs

/-- The text of a decimal in a layout. -/
def text (layout : Layout) (d : Decimal) : String :=
  let digits := Nat.toDigits 10 d.digits
  let leading := d.exponent + digits.length - 1
  if layout.isPositional leading then positional digits d.exponent
  else scientific digits leading

end Decimal

/-- The text of a finite double in a layout. -/
def Double.text (layout : Decimal.Layout) (d : Double) : String :=
  (if d.isNegative then "-" else "") ++ (d.shortest layout.tie).text layout

example : (Double.ofDecimal false 100 0).text .json = "100.0" := by decide +kernel
example : (Double.ofDecimal false 1 (-5)).text .json = "0.00001" := by decide +kernel
example : (Double.ofDecimal false 1 (-6)).text .json = "1e-6" := by decide +kernel
example : (Double.ofDecimal false 1 16).text .json = "1e+16" := by decide +kernel
example : (Double.ofDecimal false 1 16).text .unscaled = "10000000000000000.0" := by decide +kernel
example : (Double.ofDecimal true 0 0).text .json = "-0.0" := by decide +kernel
example : (Double.ofDecimal false 15 299).text .json = "1.5e+300" := by decide +kernel

end CrudGraph
