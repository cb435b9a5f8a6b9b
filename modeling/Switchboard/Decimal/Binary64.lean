import Switchboard.Decimal.Shortest

/-!
# Binary floating point as decimals

Numbers with a fraction or an exponent are 64-bit floating-point numbers. They are written
with the fewest digits that read back; the layout is positional from `0.0001` up to sixteen
digits before the point and scientific otherwise.
-/

namespace Switchboard.Decimal

/-- The three shapes of a 64-bit floating-point number, sign apart. -/
inductive Magnitude where
  | zero
  | finite (number : Dyadic)
  | infinite
  | notANumber

/-- Split a number into sign and magnitude. -/
def decompose (number : Float) : Bool × Magnitude :=
  let bits := number.toBits.toNat
  let negative := bits / Nat.pow 2 63 == 1
  let exponent : Nat := bits / Nat.pow 2 52 % 2048
  let fraction : Nat := bits % Nat.pow 2 52
  let magnitude :=
    if exponent = 2047 then (if fraction = 0 then .infinite else .notANumber)
    else if exponent = 0 then
      (if fraction = 0 then .zero else .finite ⟨fraction, -1074, false⟩)
    else
      .finite ⟨Nat.pow 2 52 + fraction, (exponent : Int) - 1075, fraction == 0 && 1 < exponent⟩
  (negative, magnitude)

/-- How a decimal is laid out: the exponents of the leading digit that are written
positionally, and the least width of a written exponent. -/
structure Layout where
  lowest : Int
  highest : Int
  exponentWidth : Nat

/-- Positional from `10 ^ -4` to below `10 ^ 16`; exponents have a sign and two digits. -/
def floatLayout : Layout := ⟨-4, 15, 2⟩

/-- `count` zeros. -/
def zeros (count : Nat) : Text := List.replicate count (.scalar '0')

/-- Lay out a decimal with at least one digit on each side of the point. -/
def Layout.write (layout : Layout) (decimal : Scientific) : Text :=
  let digits := ofNat decimal.coefficient
  let leading := decimal.exponent + digits.length - 1
  if leading < layout.lowest ∨ layout.highest < leading then
    let fraction := digits.drop 1
    let mantissa := digits.take 1 ++ (if fraction.isEmpty then [] else text "." ++ fraction)
    let written := ofNat leading.natAbs
    mantissa ++ text (if leading < 0 then "e-" else "e+") ++
      zeros (layout.exponentWidth - written.length) ++ written
  else if leading < 0 then
    text "0." ++ zeros (-leading - 1).toNat ++ digits
  else if 0 ≤ decimal.exponent then
    digits ++ zeros decimal.exponent.toNat ++ text ".0"
  else
    digits.take (leading + 1).toNat ++ text "." ++ digits.drop (leading + 1).toNat

/-- Texts for the numbers that have no digits. -/
structure Extremes where
  infinity : Text
  notANumber : Text

/-- The text of a floating-point number. -/
def ofFloat (extremes : Extremes) (number : Float) : Text :=
  let (negative, magnitude) := decompose number
  let sign := if negative then text "-" else []
  match magnitude with
  | .zero => sign ++ text "0.0"
  | .finite dyadic => sign ++ floatLayout.write dyadic.shortest
  | .infinite => sign ++ extremes.infinity
  | .notANumber => extremes.notANumber

/-- The floating-point number nearest to `coefficient * 10 ^ exponent`. Exponents far beyond
the range are settled without computing the power. -/
def toFloat (coefficient : Nat) (exponent : Int) : Float :=
  let leading := exponent + (Nat.toDigits 10 coefficient).length
  if coefficient = 0 ∨ leading < -400 then 0.0
  else if 400 < leading then 1.0 / 0.0
  else Float.ofScientific coefficient (exponent < 0) exponent.natAbs

end Switchboard.Decimal
